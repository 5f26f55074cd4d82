import Avenger.Proofs.Exactness

/-!
# Naturals read from doubles

A natural below two to the fifty-third is read back from its double, and two such doubles are
ordered as their naturals.  So a position of a text that is given by its own double stays where it
is, and the length of a text, as a double, stands for the end of the text even if it is rounded.
-/

namespace Avenger.Number

open Float.Model UnpackedFloat

variable {value left right : Nat} {number : Float}

/-! ### Reading numbers back -/

theorem toBits_ofMagnitude (magnitude : Nat) :
    (ofMagnitude false magnitude).toBits.toNat = min magnitude (2047 * 2 ^ 52) := by
  have bound : min magnitude (2047 * 2 ^ 52) ≤ 2047 * 2 ^ 52 := Nat.min_le_right _ _
  have whole : (min magnitude (2047 * 2 ^ 52)).toUInt64.toBitVec.toNat =
      min magnitude (2047 * 2 ^ 52) := by
    rw [Nat.toUInt64_eq, UInt64.toNat_toBitVec, UInt64.toNat_ofNat']
    exact Nat.mod_eq_of_lt (by omega)
  have bits : ofMagnitude false magnitude =
      Float.ofBits (min magnitude (2047 * 2 ^ 52)).toUInt64 := by
    have infinity : (twoTo 11 - 1) * twoTo 52 = 2047 * 2 ^ 52 := rfl
    have sign : (if false = true then twoTo 63 else 0) = 0 := rfl
    unfold ofMagnitude
    dsimp only
    rw [sign, Nat.zero_add, infinity]
  rw [bits]
  show (UnpackedFloat.pack Format.binary64 (UnpackedFloat.unpack Format.binary64 _)).toNat = _
  rw [unpack_bits whole bound]
  exact pack_unpacked bound

theorem toBits_ofNat (value : Nat) :
    (ofNat value).toBits.toNat = min (magnitude value) (2047 * 2 ^ 52) := by
  rw [ofNat_eq]
  exact toBits_ofMagnitude _

theorem decode_ofNat_zero : decode (ofNat 0) = .finite false 0 leastExponent := by decide

theorem decode_ofNat (positive : 0 < value) (small : value < 2 ^ 53) :
    decode (ofNat value) = .finite false (significand value) (value.log2 - 52) := by
  have bits := log2_lt positive.ne' small
  have bounds := significand_bounds positive.ne' small
  have bound := magnitude_le small
  have fields := magnitude_eq positive.ne' small
  have sign : magnitude value / twoTo 63 = 0 := by
    rw [twoTo_eq]
    omega
  have biased : magnitude value / twoTo 52 % twoTo 11 = value.log2 + 1023 := by
    rw [twoTo_eq, twoTo_eq]
    omega
  have fraction : twoTo 52 + magnitude value % twoTo 52 = significand value := by
    rw [twoTo_eq]
    omega
  have inRange : value.log2 + 1023 ≠ twoTo 11 - 1 := by
    rw [twoTo_eq]
    omega
  have exponent : leastExponent + (value.log2 + 1023 : Nat) - 1 = value.log2 - 52 := by
    unfold leastExponent
    omega
  unfold decode
  rw [toBits_ofNat, Nat.min_eq_left bound]
  dsimp only
  rw [sign, biased, fraction, if_neg inRange, if_neg (by omega), exponent]
  rfl

theorem significand_mod (positive : 0 < value) (small : value < 2 ^ 53) :
    significand value % twoTo (-((value.log2 : Int) - 52)).toNat = 0 := by
  have bits := log2_lt positive.ne' small
  have shift : (-((value.log2 : Int) - 52)).toNat = 52 - value.log2 := by omega
  rw [shift, twoTo_eq]
  exact Nat.mul_mod_left _ _

theorem floorMagnitude_significand (positive : 0 < value) (small : value < 2 ^ 53) :
    floorMagnitude (significand value) (value.log2 - 52) = value := by
  have bits := log2_lt positive.ne' small
  unfold floorMagnitude
  split
  · have shift : (-((value.log2 : Int) - 52)).toNat = 52 - value.log2 := by omega
    rw [shift, twoTo_eq]
    exact Nat.mul_div_cancel _ (Nat.two_pow_pos _)
  · have shift : ((value.log2 : Int) - 52).toNat = 0 := by omega
    have shift' : 52 - value.log2 = 0 := by omega
    unfold significand
    rw [shift, shift', twoTo_eq, Nat.pow_zero, Nat.mul_one, Nat.mul_one]

theorem floorMagnitude_zero (exponent : Int) : floorMagnitude 0 exponent = 0 := by
  unfold floorMagnitude
  split
  · exact Nat.zero_div _
  · exact Nat.zero_mul _

/-- A small natural is read back from its double. -/
theorem whole?_ofNat (small : value < 2 ^ 53) : whole? (ofNat value) = some value := by
  by_cases positive : 0 < value
  · unfold whole?
    rw [decode_ofNat positive small]
    dsimp only
    rw [significand_mod positive small, floorMagnitude_significand positive small]
    simp
  · obtain rfl : value = 0 := by omega
    unfold whole?
    rw [decode_ofNat_zero]
    dsimp only
    rw [floorMagnitude_zero, Nat.zero_mod]
    simp

theorem isNaN_of_integerPart? {position : Int} (whole : integerPart? number = some position) :
    number.isNaN = false := by
  rw [Float.isNaN_eq_decide_eq_nan, decide_eq_false_iff_not]
  rintro rfl
  cases whole

/-- What a number that stands for a natural is taken apart to. -/
theorem decode_of_whole? (whole : whole? number = some value) :
    ∃ negative significand exponent, decode number = .finite negative significand exponent ∧
      floorMagnitude significand exponent = value ∧ (negative = true → value = 0) := by
  unfold whole? at whole
  cases taken : decode number with
  | finite negative significand exponent =>
      rw [taken] at whole
      dsimp only at whole
      split at whole
      · next exact =>
          cases whole
          refine ⟨negative, significand, exponent, rfl, rfl, fun minus => ?_⟩
          have none : significand = 0 := by simp_all
          rw [none, floorMagnitude_zero]
      · cases whole
  | _ => rw [taken] at whole; cases whole

theorem integerPart?_of_whole? (whole : whole? number = some value) :
    integerPart? number = some (value : Int) := by
  obtain ⟨negative, significand, exponent, taken, floor, least⟩ := decode_of_whole? whole
  unfold integerPart?
  rw [taken]
  dsimp only
  rw [floor]
  split
  · next minus => rw [least minus]; rfl
  · rfl

/-- The double of a natural is not negative, and not a NaN. -/
theorem decode_ofNat_cases (value : Nat) :
    decode (ofNat value) = .infinite false ∨
      ∃ significand exponent, decode (ofNat value) = .finite false significand exponent := by
  have sign : (min (magnitude value) (2047 * 2 ^ 52) / twoTo 63 == 1) = false := by
    rw [twoTo_eq, beq_eq_false_iff_ne]
    omega
  unfold decode
  rw [toBits_ofNat]
  dsimp only
  rw [sign]
  split
  · next largest =>
      have none : min (magnitude value) (2047 * 2 ^ 52) % twoTo 52 = 0 := by
        simp only [twoTo_eq] at largest ⊢
        omega
      rw [if_pos none]
      exact .inl rfl
  · split
    · exact .inr ⟨_, _, rfl⟩
    · exact .inr ⟨_, _, rfl⟩

/-! ### Order -/

theorem le_iff_compare (left right : Float) :
    left ≤ right ↔ (left.toModel.unpack.compare right.toModel.unpack).any (·.isLE) = true := by
  show (decide (left.toModel ≤ right.toModel) : Bool) = true ↔ _
  rw [decide_eq_true_iff]
  rfl

theorem ofNat_le_self (value : Nat) : ofNat value ≤ ofNat value := by
  rw [le_iff_compare, ofNat_eq, unpack_ofMagnitude]
  unfold unpacked
  split_ifs
  · rfl
  · simp [UnpackedFloat.compare]
  · rfl
  · simp [UnpackedFloat.compare]

theorem not_ofNat_le_zero (positive : 0 < value) : ¬ ofNat value ≤ ofNat 0 := by
  have some : 0 < magnitude value := by
    unfold magnitude
    rw [if_neg positive.ne']
    dsimp only
    omega
  have zero : (ofNat 0).toModel.unpack = .zero .positive := by rfl
  rw [le_iff_compare, zero, ofNat_eq, unpack_ofMagnitude]
  unfold unpacked
  split_ifs
  · exact Bool.false_ne_true
  · exact Bool.false_ne_true
  · omega
  · exact Bool.false_ne_true

theorem not_ofNat_le (less : left < right) (small : right < 2 ^ 53) :
    ¬ ofNat right ≤ ofNat left := by
  by_cases zero : left = 0
  · rw [zero]
    exact not_ofNat_le_zero (by omega)
  have positive : 0 < left := Nat.pos_of_ne_zero zero
  have positive' : 0 < right := by omega
  have logs : left.log2 ≤ right.log2 := by
    rw [Nat.le_log2 positive'.ne']
    exact Nat.le_trans (Nat.log2_self_le zero) less.le
  have order : (compare ((right.log2 : Int) - 52) (left.log2 - 52)).then
      (compare (significand right) (significand left)) = .gt := by
    rw [Ordering.then_eq_gt, Int.compare_eq_gt, Int.compare_eq_eq, Nat.compare_eq_gt]
    rcases Nat.lt_or_eq_of_le logs with above | same
    · exact .inl (by omega)
    · refine .inr ⟨by omega, ?_⟩
      unfold significand
      rw [same]
      exact Nat.mul_lt_mul_of_pos_right less (Nat.two_pow_pos _)
  rw [le_iff_compare, unpack_ofNat small, unpack_ofNat (by omega)]
  unfold exactly
  rw [dif_pos positive, dif_pos positive']
  unfold UnpackedFloat.compare
  rw [order]
  exact Bool.false_ne_true

/-! ### Positions -/

theorem clamp_le (number : Float) (length : Nat) : clamp number length ≤ length := by
  unfold clamp
  split
  · exact Nat.zero_le _
  · split <;> omega
  · split_ifs <;> omega

theorem clamp_ofNat_self (length : Nat) : clamp (ofNat length) length = length := by
  unfold clamp
  rcases decode_ofNat_cases length with taken | ⟨significand, exponent, taken⟩
  · rw [taken]
    rfl
  · rw [taken]
    exact if_pos (ofNat_le_self length)

/-- A position that is a double stays where it is. -/
theorem clamp_ofNat {position length : Nat} (within : position ≤ length)
    (small : length < 2 ^ 53) : clamp (ofNat position) length = position := by
  rcases Nat.lt_or_eq_of_le within with less | rfl
  · have whole : whole? (ofNat position) = some position := whole?_ofNat (by omega)
    obtain ⟨negative, significand, exponent, taken, floor, least⟩ := decode_of_whole? whole
    unfold clamp
    rw [taken]
    dsimp only
    rw [floor, if_neg (not_ofNat_le less small), Nat.min_eq_left within]
    split
    · next minus => rw [least minus]
    · rfl
  · exact clamp_ofNat_self position

theorem clamp_zero (length : Nat) : clamp 0 length = 0 := by
  rw [← ofNat_zero]
  by_cases positive : 0 < length
  · unfold clamp
    rw [decode_ofNat_zero]
    dsimp only
    rw [if_neg (not_ofNat_le_zero positive), floorMagnitude_zero, Nat.zero_min]
    rfl
  · obtain rfl : length = 0 := by omega
    exact clamp_ofNat_self 0

theorem ofNat_ne_neg_one (value : Nat) : ofNat value ≠ -1 := by
  intro same
  have taken : (ofNat value).toModel.unpack = exactly .negative 1 := by
    rw [same, unpack_neg_one]
  rw [ofNat_eq, unpack_ofMagnitude] at taken
  unfold unpacked exactly at taken
  split_ifs at taken <;> exact absurd taken (by simp)

end Avenger.Number
