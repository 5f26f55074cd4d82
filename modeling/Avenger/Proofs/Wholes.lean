import Avenger.Proofs.Finite

/-!
# Whole numbers and fractions

A finite double stands for a rational.  The fraction of a double that is not negative is exact, the
double of a small natural is compared as the natural, and a cast to an integer drops the fraction.
-/

namespace Avenger.Number

open Float.Model UnpackedFloat

/-- The rational that a finite double stands for. -/
def value? (number : Float) : Option ℚ :=
  match decode number with
  | .finite negative significand exponent =>
      let magnitude : ℚ := significand * 2 ^ exponent
      some (if negative then -magnitude else magnitude)
  | _ => none

/-- A number less what is left when its fraction is dropped. -/
def fraction (number : Float) : Float := number - truncate number

variable {number : Float} {negative : Bool} {significand whole : Nat} {exponent : Int}

theorem value?_of_decode (decoded : decode number = .finite negative significand exponent) :
    value? number = some (if negative then -(significand * 2 ^ exponent : ℚ)
      else significand * 2 ^ exponent) := by
  unfold value?
  rw [decoded]

theorem unpack_of_decode (decoded : decode number = .finite negative significand exponent)
    (positive : 0 < significand) :
    number.toModel.unpack = .finite (signOf negative) significand exponent positive := by
  rw [unpack_eq_decode, decoded, Decoded.unpacked, dif_pos positive]

theorem decode_of_value?_eq_none (none : value? number = none) :
    decode number = .nan ∨ ∃ negative, decode number = .infinite negative := by
  unfold value? at none
  split at none
  · cases none
  · next other =>
      cases decoded : decode number with
      | nan => exact .inl rfl
      | infinite negative => exact .inr ⟨negative, rfl⟩
      | finite negative significand exponent => exact absurd decoded (other _ _ _)

/-! ### Floors -/

section Floors

variable (significand : Nat)

theorem magnitude_of_neg (below : exponent < 0) :
    (significand : ℚ) * 2 ^ exponent = significand / (2 ^ (-exponent).toNat : Nat) := by
  rw [zpow_of_neg 2 below, Nat.cast_pow, div_eq_mul_inv]
  rfl

theorem magnitude_of_not_neg (above : ¬ exponent < 0) :
    (significand : ℚ) * 2 ^ exponent = (significand * 2 ^ exponent.toNat : Nat) := by
  rw [zpow_of_not_neg 2 above]
  push_cast
  rfl

theorem floorMagnitude_eq (exponent : Int) :
    floorMagnitude significand exponent = ⌊(significand : ℚ) * 2 ^ exponent⌋₊ := by
  unfold floorMagnitude
  split
  · next below => rw [magnitude_of_neg significand below, Nat.floor_div_eq_div, twoTo_eq]
  · next above => rw [magnitude_of_not_neg significand above, Nat.floor_natCast, twoTo_eq]

theorem fract_of_neg (below : exponent < 0) :
    Int.fract ((significand : ℚ) * 2 ^ exponent) =
      (significand % 2 ^ (-exponent).toNat : Nat) * 2 ^ exponent := by
  rw [magnitude_of_neg significand below, magnitude_of_neg _ below,
    Int.fract_div_natCast_eq_div_natCast_mod]

theorem fract_of_not_neg (above : ¬ exponent < 0) :
    Int.fract ((significand : ℚ) * 2 ^ exponent) = 0 := by
  rw [magnitude_of_not_neg significand above, Int.fract_natCast]

theorem exact_iff (exponent : Int) :
    (decide (exponent ≥ 0) || significand % twoTo (-exponent).toNat == 0) = true ↔
      Int.fract ((significand : ℚ) * 2 ^ exponent) = 0 := by
  by_cases below : exponent < 0
  · have unit := (two_zpow_pos exponent).ne'
    simp [fract_of_neg significand below, below, twoTo_eq, unit]
  · simp [fract_of_not_neg significand below, not_lt.mp below]

end Floors

theorem magnitude_nonneg (significand : Nat) (exponent : Int) :
    (0 : ℚ) ≤ significand * 2 ^ exponent :=
  mul_nonneg (Nat.cast_nonneg _) (two_zpow_pos exponent).le

theorem magnitude_eq_zero_iff : (significand : ℚ) * 2 ^ exponent = 0 ↔ significand = 0 := by
  rw [mul_eq_zero, or_iff_left (two_zpow_pos exponent).ne', Nat.cast_eq_zero]

theorem floor_of_fract {magnitude : ℚ} (least : 0 ≤ magnitude) (whole : Int.fract magnitude = 0) :
    (⌊magnitude⌋₊ : ℚ) = magnitude := by
  rw [natCast_floor_eq_intCast_floor least]
  linarith [Int.self_sub_floor magnitude]

/-- A double counts as the natural that it stands for. -/
theorem whole?_eq_some_iff :
    whole? number = some whole ↔ value? number = some (whole : ℚ) := by
  unfold whole? value?
  cases decode number with
  | nan | infinite => simp
  | finite negative significand exponent =>
      have least := magnitude_nonneg significand exponent
      have exact := exact_iff significand exponent
      dsimp only
      rw [floorMagnitude_eq]
      constructor
      · intro found
        split at found
        · next passes =>
            cases found
            rw [Bool.and_eq_true, exact] at passes
            have floor := floor_of_fract least passes.1
            cases negative with
            | false => simpa using floor.symm
            | true =>
                have none : significand = 0 := by simpa using passes.2
                simp [none]
        · cases found
      · intro rational
        cases negative with
        | false =>
            have same : (significand : ℚ) * 2 ^ exponent = whole := by simpa using rational
            have passes := exact.mpr (by rw [same, Int.fract_natCast])
            rw [passes, same, Nat.floor_natCast]
            rfl
        | true =>
            have same : -((significand : ℚ) * 2 ^ exponent) = whole := by simpa using rational
            have above : (0 : ℚ) ≤ whole := Nat.cast_nonneg whole
            have zero : (significand : ℚ) * 2 ^ exponent = 0 := by linarith
            obtain rfl := magnitude_eq_zero_iff.mp zero
            obtain rfl : whole = 0 := by simpa using same.symm
            simp

example : Number.whole? (-0) = some 0 := by decide +kernel

/-! ### Order -/

theorem decode_of_value? {value : ℚ} (rational : value? number = some value) :
    ∃ negative significand exponent, decode number = .finite negative significand exponent ∧
      value = if negative then -(significand * 2 ^ exponent : ℚ)
        else significand * 2 ^ exponent := by
  unfold value? at rational
  cases decoded : decode number with
  | finite negative significand exponent =>
      rw [decoded] at rational
      exact ⟨negative, significand, exponent, rfl, (Option.some.inj rational).symm⟩
  | nan | infinite =>
      rw [decoded] at rational
      cases rational

theorem lt_zero_iff_value {value : ℚ} (rational : value? number = some value) :
    number < 0 ↔ value < 0 := by
  obtain ⟨negative, significand, exponent, decoded, rfl⟩ := decode_of_value? rational
  have least := magnitude_nonneg significand exponent
  rw [lt_zero_iff decoded]
  cases negative with
  | false => simpa using least
  | true =>
      have positive : 0 < (significand : ℚ) * 2 ^ exponent ↔ significand ≠ 0 := by
        rw [least.lt_iff_ne', ne_eq, magnitude_eq_zero_iff]
      simpa using positive.symm

theorem decode_of_value?_zero (rational : value? number = some 0) :
    ∃ negative exponent, decode number = .finite negative 0 exponent := by
  obtain ⟨negative, significand, exponent, decoded, zero⟩ := decode_of_value? rational
  have none : (significand : ℚ) * 2 ^ exponent = 0 := by
    cases negative with
    | false => exact zero.symm
    | true => exact neg_eq_zero.mp zero.symm
  rw [magnitude_eq_zero_iff.mp none] at decoded
  exact ⟨negative, exponent, decoded⟩

theorem decode_of_value?_pos {value : ℚ} (rational : value? number = some value)
    (above : 0 < value) :
    ∃ significand exponent, decode number = .finite false significand exponent ∧
      0 < significand ∧ value = significand * 2 ^ exponent := by
  obtain ⟨negative, significand, exponent, decoded, rfl⟩ := decode_of_value? rational
  have least := magnitude_nonneg significand exponent
  cases negative with
  | true =>
      rw [if_pos rfl] at above
      exact absurd above (by linarith)
  | false =>
      refine ⟨significand, exponent, decoded, Nat.pos_of_ne_zero ?_, rfl⟩
      rw [if_neg Bool.false_ne_true] at above
      exact mt magnitude_eq_zero_iff.mpr above.ne'

section Canonical

variable {significand' : Nat} {exponent' : Int}

theorem Canonical.lt_of_exponent_lt (left : Canonical significand exponent)
    (right : Canonical significand' exponent') (less : exponent < exponent') :
    (significand : ℚ) * 2 ^ exponent < significand' * 2 ^ exponent' := by
  have small : (significand : ℚ) < 2 ^ 53 := by exact_mod_cast left.small
  have normal : (2 : ℚ) ^ 52 ≤ significand' := by
    have above : exponent' ≠ leastExponent := by
      have := left.least
      omega
    exact_mod_cast right.normal.resolve_left above
  calc (significand : ℚ) * 2 ^ exponent < 2 ^ 53 * 2 ^ exponent :=
        mul_lt_mul_of_pos_right small (two_zpow_pos exponent)
    _ = 2 ^ 52 * 2 ^ (exponent + 1) := by
        rw [zpow_add_one₀ two_ne_zero]
        ring
    _ ≤ 2 ^ 52 * 2 ^ exponent' := by
        gcongr
        · norm_num
        · exact less
    _ ≤ significand' * 2 ^ exponent' := by gcongr

/-- Canonical parts are compared by the exponent first. -/
theorem Canonical.isLE_compare (left : Canonical significand exponent)
    (right : Canonical significand' exponent') :
    ((compare exponent exponent').then (compare significand significand')).isLE = true ↔
      (significand : ℚ) * 2 ^ exponent ≤ significand' * 2 ^ exponent' := by
  rcases lt_trichotomy exponent exponent' with less | rfl | greater
  · rw [Int.compare_eq_lt.mpr less]
    exact iff_of_true rfl (left.lt_of_exponent_lt right less).le
  · rw [mul_le_mul_iff_of_pos_right (two_zpow_pos exponent), Nat.cast_le,
      Int.compare_eq_eq.mpr rfl, Ordering.eq_then, Nat.isLE_compare]
  · rw [Int.compare_eq_gt.mpr greater]
    exact iff_of_false Bool.false_ne_true (right.lt_of_exponent_lt left greater).not_ge

end Canonical

theorem significand_value (bits : whole.log2 ≤ 52) :
    (Number.significand whole : ℚ) * 2 ^ ((whole.log2 : Int) - 52) = whole := by
  have unit : ((whole.log2 : Int) - 52) = -(52 - whole.log2 : Nat) := by omega
  unfold Number.significand
  rw [unit, zpow_neg, zpow_natCast, Nat.cast_mul, Nat.cast_pow]
  exact mul_inv_cancel_right₀ (by positivity) _

theorem canonical_ofNat (positive : 0 < whole) (small : whole < 2 ^ 53) :
    Canonical (Number.significand whole) (whole.log2 - 52) :=
  canonical_of_decode (decode_ofNat positive small) (significand_pos positive)

/-- The double of a small natural is at most a double that is not negative if the natural is at
most its value. -/
theorem ofNat_le_iff {value : ℚ} (small : whole < 2 ^ 53) (rational : value? number = some value)
    (least : 0 ≤ value) : ofNat whole ≤ number ↔ (whole : ℚ) ≤ value := by
  rw [le_iff_compare, unpack_ofNat small]
  unfold exactly
  rcases least.eq_or_lt with rfl | above
  · obtain ⟨negative, exponent, decoded⟩ := decode_of_value?_zero rational
    rw [unpack_eq_decode, decoded, Decoded.unpacked, dif_neg (Nat.lt_irrefl 0), Nat.cast_nonpos]
    by_cases positive : 0 < whole
    · rw [dif_pos positive]
      exact iff_of_false Bool.false_ne_true positive.ne'
    · rw [dif_neg positive]
      exact iff_of_true rfl (by omega)
  · obtain ⟨significand, exponent, decoded, positive', rfl⟩ := decode_of_value?_pos rational above
    rw [unpack_of_decode decoded positive']
    by_cases positive : 0 < whole
    · have bits : whole.log2 ≤ 52 := Nat.le_of_lt_succ (log2_lt positive.ne' small)
      have canonical := canonical_of_decode decoded positive'
      have order := (canonical_ofNat positive small).isLE_compare canonical
      rw [significand_value bits] at order
      rw [dif_pos positive]
      exact order
    · obtain rfl : whole = 0 := by omega
      rw [dif_neg positive, Nat.cast_zero]
      exact iff_of_true rfl least

/-! ### Fractions -/

/-- Canonical parts are what their double is taken apart to. -/
theorem decode_pack {positive : 0 < significand} (canonical : Canonical significand exponent) :
    decode (Float.ofModel (Float.Model.pack (.finite .positive significand exponent positive))) =
      .finite false significand exponent := by
  have parts := decode_ofMagnitude canonical.least canonical.greatest canonical.small
    canonical.normal
  have unpacked := unpack_of_decode parts positive
  change _ = UnpackedFloat.finite .positive significand exponent positive at unpacked
  rw [← unpacked, pack_unpack_eq]
  exact parts

theorem decode_pack_zero :
    decode (Float.ofModel (Float.Model.pack (.zero .positive))) =
      .finite false 0 leastExponent := by
  decide

/-- A natural of few bits is rounded to its own significand. -/
theorem round_significand {sign : Sign} (positive : 0 < whole) (small : whole < 2 ^ 53)
    (least : leastExponent ≤ (whole.log2 : Int) - 52 + exponent) :
    UnpackedFloat.round Format.binary64 sign whole exponent =
      .finite sign (Number.significand whole) ((whole.log2 : Int) - 52 + exponent)
        (significand_pos positive) := by
  have bits := log2_lt positive.ne' small
  have bounds := significand_bounds positive.ne' small
  have target : Format.binary64.targetExponent (totalExponent whole exponent) =
      (whole.log2 : Int) - 52 + exponent := by
    have width : Format.binary64.mantissaBits = 53 := rfl
    have lowest : Format.binary64.minExponent = -1074 := rfl
    unfold leastExponent at least
    unfold Format.targetExponent totalExponent
    rw [width, lowest]
    omega
  have amount : (exponent - ((whole.log2 : Int) - 52 + exponent)).toNat = 52 - whole.log2 := by
    omega
  have unit : exponent - (52 - whole.log2 : Nat) = (whole.log2 : Int) - 52 + exponent := by omega
  have rounded := @roundWithAccuracy_exact sign _ _ bounds.1 bounds.2 least 0
    (significand_pos positive)
  rw [Nat.pow_zero, Nat.mul_one, Int.natCast_zero, Int.sub_zero] at rounded
  unfold UnpackedFloat.round decreaseExponent
  rw [target]
  dsimp only
  rw [amount, unit, Nat.shiftLeft_eq]
  exact rounded

theorem sub_alike {significand' : Nat} {positive : 0 < significand} {positive' : 0 < significand'}
    (least : significand' ≤ significand) :
    UnpackedFloat.sub Format.binary64 (.finite .positive significand exponent positive)
        (.finite .positive significand' exponent positive') =
      UnpackedFloat.normalize Format.binary64 (significand - significand' : Nat) exponent
        .positive := by
  unfold UnpackedFloat.sub decreaseExponent
  dsimp only
  rw [min_self, Int.sub_self]
  simp [Sign.apply, least]

theorem log2_div_two_pow (value places : Nat) :
    (value / 2 ^ places).log2 = value.log2 - places := by
  rw [Nat.log2_eq_log_two, Nat.log2_eq_log_two, Nat.log_div_base_pow]

/-- What the fraction of a double is taken from has the unit of the double. -/
theorem unpack_ofNat_div {places : Nat} (normal : 2 ^ 52 ≤ significand)
    (small : significand < 2 ^ 53) (within : places ≤ 52) :
    ∃ positive : 0 < significand / 2 ^ places * 2 ^ places,
      (ofNat (significand / 2 ^ places)).toModel.unpack =
        .finite .positive (significand / 2 ^ places * 2 ^ places) (-places) positive := by
  have bits : significand.log2 = 52 := by
    rw [Nat.log2_eq_iff (by omega)]
    exact ⟨normal, small⟩
  have log2 : (significand / 2 ^ places).log2 = 52 - places := by rw [log2_div_two_pow, bits]
  have some : 0 < significand / 2 ^ places := by
    refine Nat.div_pos (le_trans ?_ normal) (Nat.two_pow_pos _)
    exact Nat.pow_le_pow_right two_pos within
  have shift : 52 - (52 - places) = places := by omega
  have unit : ((52 - places : Nat) : Int) - 52 = -places := by omega
  have small' : significand / 2 ^ places < 2 ^ 53 :=
    Nat.lt_of_le_of_lt (Nat.div_le_self _ _) small
  refine ⟨Nat.mul_pos some (Nat.two_pow_pos _), ?_⟩
  rw [unpack_ofNat small']
  unfold exactly Number.significand
  rw [dif_pos some]
  simp only [log2, shift, unit]

theorem fraction_eq (number : Float) :
    fraction number = Float.ofModel (Float.Model.pack
      (UnpackedFloat.sub Format.binary64 number.toModel.unpack (truncate number).toModel.unpack)) :=
  rfl

theorem normalize_zero :
    UnpackedFloat.normalize Format.binary64 0 exponent .positive = .zero .positive :=
  rfl

theorem decode_fraction_of_whole (decoded : decode number = .finite negative significand exponent)
    (unsigned : negative = true → significand = 0) (whole : truncate number = number) :
    decode (fraction number) = .finite false 0 leastExponent := by
  have none : UnpackedFloat.sub Format.binary64 number.toModel.unpack number.toModel.unpack =
      .zero .positive := by
    rw [unpack_eq_decode, decoded, Decoded.unpacked]
    split
    · next positive =>
        have plus : negative = false := by
          cases negative with
          | false => rfl
          | true => exact absurd (unsigned rfl) positive.ne'
        rw [plus]
        refine (sub_alike (Nat.le_refl significand)).trans ?_
        rw [Nat.sub_self]
        exact normalize_zero
    · cases negative <;> rfl
  rw [fraction_eq, whole, none]
  exact decode_pack_zero

theorem truncate_of_not_neg (decoded : decode number = .finite negative significand exponent)
    (above : ¬ exponent < 0) : truncate number = number := by
  unfold truncate
  rw [decoded]
  exact if_neg above

theorem truncate_of_neg (decoded : decode number = .finite false significand exponent)
    (below : exponent < 0) :
    truncate number = ofNat (significand / 2 ^ (-exponent).toNat) := by
  unfold truncate
  rw [decoded]
  dsimp only
  rw [if_pos below]
  unfold floorMagnitude ofDyadic ofNat
  rw [if_pos below, if_neg (Int.lt_irrefl 0), twoTo_eq, Int.toNat_zero, twoTo_eq, Nat.pow_zero,
    Nat.mul_one]

theorem truncate_zero (decoded : decode number = .finite negative 0 exponent) :
    truncate number = number := by
  obtain ⟨-, -, -, -, normal⟩ := bits_of_decode decoded
  obtain rfl := normal.resolve_right (by omega)
  have parts := eq_ofMagnitude decoded
  have least : leastExponent < 0 := by decide
  unfold truncate
  rw [decoded]
  dsimp only
  rw [if_pos least, floorMagnitude_zero]
  exact parts.symm

section Fractions

variable (decoded : decode number = .finite false significand exponent) (below : exponent < 0)

include decoded below

theorem fraction_of_lt_one (less : significand < 2 ^ (-exponent).toNat)
    (positive : 0 < significand) : fraction number = number := by
  have unpacked := unpack_of_decode decoded positive
  have zero : (ofNat 0).toModel.unpack = .zero .positive := by rfl
  rw [fraction_eq, truncate_of_neg decoded below, Nat.div_eq_of_lt less, zero]
  refine Eq.trans ?_ (pack_unpack_eq number)
  rw [unpacked]
  rfl

/-- The fraction is what remains in the unit of the double. -/
theorem fraction_of_one_le (more : 2 ^ (-exponent).toNat ≤ significand) :
    (-exponent).toNat ≤ 52 ∧
      fraction number = Float.ofModel (Float.Model.pack
        (UnpackedFloat.normalize Format.binary64 (significand % 2 ^ (-exponent).toNat : Nat)
          exponent .positive)) := by
  obtain ⟨-, -, -, small, normal⟩ := bits_of_decode decoded
  obtain ⟨places, rfl⟩ : ∃ places : Nat, exponent = -places := ⟨(-exponent).toNat, by omega⟩
  rw [Int.neg_neg, Int.toNat_natCast] at more ⊢
  have within : places ≤ 52 :=
    Nat.le_of_lt_succ ((Nat.pow_lt_pow_iff_right (by omega)).mp (lt_of_le_of_lt more small))
  have above : (-places : Int) ≠ leastExponent := by
    unfold leastExponent
    omega
  have normal := normal.resolve_left above
  obtain ⟨positive', floor⟩ := unpack_ofNat_div normal small within
  have positive : 0 < significand := by omega
  refine ⟨within, ?_⟩
  rw [fraction_eq, truncate_of_neg decoded below, Int.neg_neg, Int.toNat_natCast, floor,
    unpack_of_decode decoded positive, Nat.mod_eq_sub_div_mul]
  exact congrArg _ (congrArg _ (sub_alike (Nat.div_mul_le_self _ _)))

theorem value?_fraction_of_neg (positive : 0 < significand) :
    value? (fraction number) = some (Int.fract ((significand : ℚ) * 2 ^ exponent)) := by
  obtain ⟨-, -, -, small, -⟩ := bits_of_decode decoded
  by_cases less : significand < 2 ^ (-exponent).toNat
  · rw [fraction_of_lt_one decoded below less positive, fract_of_neg significand below,
      Nat.mod_eq_of_lt less]
    exact value?_of_decode decoded
  · obtain ⟨within, same⟩ := fraction_of_one_le decoded below (Nat.le_of_not_lt less)
    rw [same, fract_of_neg significand below]
    obtain ⟨rest, split⟩ : ∃ rest, rest = significand % 2 ^ (-exponent).toNat := ⟨_, rfl⟩
    rw [← split]
    by_cases some : 0 < rest
    · have small' : rest < 2 ^ 53 := by
        rw [split]
        exact lt_of_le_of_lt (Nat.mod_le _ _) small
      have bits := log2_lt some.ne' small'
      have bounds := significand_bounds some.ne' small'
      have least : leastExponent ≤ (rest.log2 : Int) - 52 + exponent := by
        unfold leastExponent
        omega
      have canonical : Canonical (Number.significand rest) ((rest.log2 : Int) - 52 + exponent) :=
        ⟨significand_pos some, bounds.2, least, by omega, .inr bounds.1⟩
      rw [normalize_natural some, round_significand some small' least,
        value?_of_decode (decode_pack canonical), if_neg Bool.false_ne_true,
        zpow_add₀ two_ne_zero, ← mul_assoc, significand_value (Nat.le_of_lt_succ bits)]
    · obtain rfl : rest = 0 := by omega
      rw [Int.natCast_zero, normalize_zero, value?_of_decode decode_pack_zero]
      simp

end Fractions

/-- The fraction of a double that is not negative is exact. -/
theorem value?_fraction {value : ℚ} (rational : value? number = some value) (least : 0 ≤ value) :
    value? (fraction number) = some (Int.fract value) := by
  have zero : decode (fraction number) = .finite false 0 leastExponent →
      value? (fraction number) = some 0 := by
    intro taken
    rw [value?_of_decode taken]
    simp
  rcases least.eq_or_lt with rfl | above
  · obtain ⟨negative, exponent, decoded⟩ := decode_of_value?_zero rational
    rw [Int.fract_zero]
    exact zero (decode_fraction_of_whole decoded (fun _ => rfl) (truncate_zero decoded))
  · obtain ⟨significand, exponent, decoded, positive, rfl⟩ := decode_of_value?_pos rational above
    by_cases below : exponent < 0
    · exact value?_fraction_of_neg decoded below positive
    · rw [fract_of_not_neg significand below]
      exact zero (decode_fraction_of_whole decoded Bool.noConfusion
        (truncate_of_not_neg decoded below))

theorem beq_zero_iff_value {value : ℚ} (rational : value? number = some value) :
    (number == 0) = true ↔ value = 0 := by
  obtain ⟨negative, significand, exponent, decoded, rfl⟩ := decode_of_value? rational
  rw [beq_zero_eq decoded, decide_eq_true_iff]
  cases negative with
  | false => exact magnitude_eq_zero_iff.symm
  | true => exact (neg_eq_zero.trans magnitude_eq_zero_iff).symm

/-- A double that is not finite has no fraction, not even zero. -/
theorem fraction_beq_zero_of_none (none : value? number = none) :
    (fraction number == 0) = false := by
  have truncated : truncate number = number := by
    unfold truncate
    rcases decode_of_value?_eq_none none with decoded | ⟨negative, decoded⟩ <;> rw [decoded]
  have undefined : UnpackedFloat.sub Format.binary64 number.toModel.unpack
      number.toModel.unpack = .notANumber := by
    rw [unpack_eq_decode]
    rcases decode_of_value?_eq_none none with decoded | ⟨negative, decoded⟩
    · rw [decoded]
      rfl
    · rw [decoded]
      cases negative <;> rfl
  rw [fraction_eq, truncated, undefined]
  decide

/-! ### Casts -/

theorem shiftRight_mantissa (extended : ExtendedMantissa) (shift : Nat) :
    (extended >>> shift).mantissa = extended.mantissa / 2 ^ shift := by
  induction shift with
  | zero => exact (Nat.div_one _).symm
  | succ shift induction =>
      rw [Nat.pow_succ, ← Nat.div_div_eq_div_mul, ← induction]
      rfl

theorem roundToInt_positive (significand : Nat) (exponent : Int) :
    roundToInt .positive significand exponent = floorMagnitude significand exponent := by
  unfold roundToInt decreaseExponent shiftToExponent floorMagnitude
  dsimp only [Sign.apply]
  rw [shiftRight_mantissa, Int.sub_zero, Nat.shiftLeft_eq]
  congr 1
  split
  · next below =>
      have left : exponent.toNat = 0 := by omega
      have right : (0 - (exponent - (exponent.toNat : Nat))).toNat = (-exponent).toNat := by omega
      rw [right, left, Nat.pow_zero, Nat.mul_one, twoTo_eq]
      rfl
  · next above =>
      have right : (0 - (exponent - (exponent.toNat : Nat))).toNat = 0 := by omega
      rw [right, Nat.pow_zero, Nat.div_one, twoTo_eq]
      rfl

/-- A cast to an integer drops the fraction. -/
theorem toUInt64_toNat {value : ℚ} (rational : value? number = some value) (least : 0 ≤ value)
    (fits : value < 2 ^ 64) : number.toUInt64.toNat = ⌊value⌋₊ := by
  have integer : toInt 0 (UInt64.size - 1) number.toModel.unpack = ⌊value⌋₊ := by
    rcases least.eq_or_lt with rfl | above
    · obtain ⟨negative, exponent, decoded⟩ := decode_of_value?_zero rational
      rw [unpack_eq_decode, decoded, Nat.floor_zero]
      rfl
    · obtain ⟨significand, exponent, decoded, positive, rfl⟩ := decode_of_value?_pos rational above
      rw [unpack_of_decode decoded positive, ← floorMagnitude_eq]
      exact roundToInt_positive significand exponent
  have bound : ⌊value⌋₊ < UInt64.size := (Nat.floor_lt least).mpr (by exact_mod_cast fits)
  show (UInt64.ofNatClamp (toInt 0 (UInt64.size - 1) number.toModel.unpack).toNat).toNat = _
  rw [integer]
  exact UInt64.toNat_ofNatClamp_of_lt bound

end Avenger.Number
