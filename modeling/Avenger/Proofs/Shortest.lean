import Avenger.Number.Decimal
import Avenger.Proofs.Nearest

/-!
# Decimals that name a double

The shortest decimal of a positive double is found among the decimals that round to it, at the
latest with seventeen digits.  Every decimal that rounds to a double is read as that double.
-/

namespace Avenger.Number

namespace Decimal

/-- What a decimal stands for. -/
def value (decimal : Decimal) : ℚ := decimal.coefficient * 10 ^ decimal.exponent

theorem ten_zpow_pos (exponent : Int) : (0 : ℚ) < 10 ^ exponent := zpow_pos (by norm_num) exponent

theorem tenTo_eq (exponent : Nat) : tenTo exponent = 10 ^ exponent := rfl

theorem carry_value (decimal : Decimal) : decimal.carry.value = decimal.value := by
  unfold carry
  split
  · next ten =>
      have next : (10 : ℚ) ^ (decimal.exponent + 1) = 10 ^ decimal.exponent * 10 :=
        zpow_add_one₀ (by norm_num) _
      simp [value, ten, next]
      ring
  · rfl

theorem digitCount_pos (value : Nat) : 0 < digitCount value := by
  unfold digitCount
  split <;> omega

theorem digitCount_bounds {value : Nat} (positive : 0 < value) :
    10 ^ (digitCount value - 1) ≤ value ∧ value < 10 ^ digitCount value := by
  induction value using digitCount.induct with
  | case1 value small =>
      rw [digitCount, if_pos small]
      exact ⟨positive, by simpa using small⟩
  | case2 value large induction =>
      obtain ⟨lower, upper⟩ := induction (by omega)
      have some := digitCount_pos (value / 10)
      rw [digitCount, if_neg large, Nat.add_sub_cancel, Nat.pow_succ]
      obtain ⟨count, same⟩ : ∃ count, digitCount (value / 10) = count + 1 :=
        ⟨digitCount (value / 10) - 1, by omega⟩
      rw [same] at lower upper ⊢
      rw [Nat.add_sub_cancel] at lower
      rw [Nat.pow_succ] at upper ⊢
      omega

namespace Neighbourhood

variable {significand : Nat} {exponent : Int}

/-- A natural over the denominator of a neighbourhood. -/
def fraction (around : Neighbourhood) (natural : Nat) : ℚ := natural / around.denominator

theorem ratio_inUnits (around : Neighbourhood) (natural : Nat) (exponent : Int) :
    ratio (around.inUnits natural exponent) = around.fraction natural / 10 ^ exponent := by
  unfold ratio inUnits fraction
  split
  · next negative =>
      rw [zpow_of_neg 10 negative]
      simp [tenTo_eq]
      ring
  · next positive =>
      rw [zpow_of_not_neg 10 positive]
      simp [tenTo_eq, div_div]

theorem inUnits_pos {around : Neighbourhood} (positive : 0 < around.denominator) (natural : Nat)
    (exponent : Int) : 0 < (around.inUnits natural exponent).2 := by
  unfold inUnits
  split
  · exact positive
  · exact Nat.mul_pos positive (Nat.pow_pos (by decide))

/-! ### The neighbourhood of a double -/

theorem ofDouble_denominator_pos (significand : Nat) (exponent : Int) :
    0 < (ofDouble significand exponent).denominator := by
  unfold ofDouble
  dsimp only
  split
  · exact Nat.mul_pos (by decide) (Nat.two_pow_pos _)
  · decide

theorem ofDouble_value_pos (positive : 0 < significand) (exponent : Int) :
    0 < (ofDouble significand exponent).value := by
  unfold ofDouble
  dsimp only
  split
  · omega
  · exact Nat.mul_pos (by omega) (Nat.two_pow_pos _)

/-- Quarters of the last place over the denominator. -/
theorem scaled_fraction (quarters : Nat) (exponent : Int) :
    ((if exponent < 0 then quarters else quarters * twoTo exponent.toNat : Nat) : ℚ) /
        (if exponent < 0 then 4 * twoTo (-exponent).toNat else 4 : Nat) =
      quarters / 4 * 2 ^ exponent := by
  split
  · next negative =>
      rw [zpow_of_neg 2 negative]
      simp [twoTo_eq]
      ring
  · next positive =>
      rw [zpow_of_not_neg 2 positive]
      simp [twoTo_eq]
      ring

theorem fraction_value (significand : Nat) (exponent : Int) :
    (ofDouble significand exponent).fraction (ofDouble significand exponent).value =
      significand * 2 ^ exponent := by
  refine (scaled_fraction (4 * significand) exponent).trans ?_
  push_cast
  ring

theorem fraction_lower (positive : 0 < significand) :
    (ofDouble significand exponent).fraction (ofDouble significand exponent).lower =
      (significand - roomBelow significand exponent) * 2 ^ exponent := by
  refine (scaled_fraction _ exponent).trans ?_
  unfold roomBelow
  rw [← twoTo_eq]
  split <;>
    · rw [Nat.cast_sub (by omega)]
      push_cast
      ring

theorem fraction_upper (significand : Nat) (exponent : Int) :
    (ofDouble significand exponent).fraction (ofDouble significand exponent).upper =
      (significand + 1 / 2) * 2 ^ exponent := by
  refine (scaled_fraction (4 * significand + 2) exponent).trans ?_
  push_cast
  ring

theorem holds_iff (positive : 0 < significand) (coefficient : Nat) (unit : Int) :
    (ofDouble significand exponent).holds coefficient unit = true ↔
      RoundsTo significand exponent (coefficient * 10 ^ unit) := by
  have lower := ratio_inUnits (ofDouble significand exponent)
    (ofDouble significand exponent).lower unit
  have upper := ratio_inUnits (ofDouble significand exponent)
    (ofDouble significand exponent).upper unit
  rw [fraction_lower positive, eq_div_iff (ten_zpow_pos unit).ne'] at lower
  rw [fraction_upper, eq_div_iff (ten_zpow_pos unit).ne'] at upper
  have least := inUnits_pos (ofDouble_denominator_pos significand exponent)
    (ofDouble significand exponent).lower unit
  have greatest := inUnits_pos (ofDouble_denominator_pos significand exponent)
    (ofDouble significand exponent).upper unit
  unfold holds
  dsimp only
  generalize Neighbourhood.inUnits _ (Neighbourhood.lower _) unit = low at lower least ⊢
  generalize Neighbourhood.inUnits _ (Neighbourhood.upper _) unit = high at upper greatest ⊢
  have closed : (ofDouble significand exponent).closed = (significand % 2 == 0) := rfl
  rw [closed]
  rcases Nat.mod_two_eq_zero_or_one significand with even | odd
  · rw [roundsTo_iff_of_even even, ← lower, ← upper, mul_le_mul_iff_left₀ (ten_zpow_pos unit),
      mul_le_mul_iff_left₀ (ten_zpow_pos unit), ratio_le_iff least, le_ratio_iff greatest]
    simp [even]
  · rw [roundsTo_iff_of_odd odd, ← lower, ← upper, mul_lt_mul_iff_left₀ (ten_zpow_pos unit),
      mul_lt_mul_iff_left₀ (ten_zpow_pos unit), ratio_lt_iff least, lt_ratio_iff greatest]
    simp [odd]

/-! ### The search -/

section Search

variable {around : Neighbourhood} {unit : Int} {coefficient : Nat}

theorem holds_of_decimal? (found : around.decimal? unit = some coefficient) :
    around.holds coefficient unit = true := by
  unfold decimal? at found
  dsimp only at found
  split at found
  · next down up =>
      split at found <;> cases found
      · exact down
      · exact up
  · next down _ =>
      cases found
      exact down
  · next _ up =>
      cases found
      exact up
  · cases found

/-- There is no decimal only if neither of those around the value names the double. -/
theorem not_holds_of_decimal? (none : around.decimal? unit = none) :
    let scaled := around.inUnits around.value unit
    around.holds (scaled.1 / scaled.2) unit = false ∧
      around.holds (scaled.1 / scaled.2 + 1) unit = false := by
  unfold decimal? at none
  dsimp only at none
  split at none
  · cases none
  · cases none
  · cases none
  · next down up => exact ⟨down, up⟩

/-- With units of the seventeenth digit one of the decimals around a double names it: the interval
that rounds to the double is wider than their distance. -/
theorem roundsTo_or_next (canonical : Canonical significand exponent) {quotient : Nat}
    (fine : 10 ^ unit * 10 ^ 16 ≤ (significand : ℚ) * 2 ^ exponent)
    (most : quotient * 10 ^ unit ≤ (significand : ℚ) * 2 ^ exponent)
    (next : (significand : ℚ) * 2 ^ exponent < (quotient + 1 : Nat) * 10 ^ unit) :
    RoundsTo significand exponent (quotient * 10 ^ unit) ∨
      RoundsTo significand exponent ((quotient + 1 : Nat) * 10 ^ unit) := by
  by_contra! neither
  obtain ⟨down, up⟩ := neither
  have two := two_zpow_pos exponent
  have room := roomBelow_pos significand exponent
  have low : quotient * 10 ^ unit ≤
      (significand - roomBelow significand exponent) * (2 : ℚ) ^ exponent := by
    by_contra inside
    exact down (.of_lt (lt_of_not_ge inside) (by nlinarith))
  have high :
      (significand + 1 / 2) * (2 : ℚ) ^ exponent ≤ (quotient + 1 : Nat) * 10 ^ unit := by
    by_contra inside
    exact up (.of_lt (by nlinarith) (lt_of_not_ge inside))
  have wide : (1 / 2 + roomBelow significand exponent) * (2 : ℚ) ^ exponent ≤ 10 ^ unit := by
    push_cast at high
    linarith
  by_cases power : significand = 2 ^ 52 ∧ leastExponent < exponent
  · rw [roomBelow, if_pos power] at wide
    rw [power.1, Nat.cast_pow, Nat.cast_ofNat] at fine
    linarith
  · rw [roomBelow, if_neg power] at wide
    have small : (significand : ℚ) ≤ 2 ^ 53 := by exact_mod_cast canonical.small.le
    have small' : (significand : ℚ) * 2 ^ exponent ≤ 2 ^ 53 * 2 ^ exponent := by gcongr
    linarith

theorem decimal?_isSome (canonical : Canonical significand exponent)
    (fine : 10 ^ unit * 10 ^ 16 ≤ (significand : ℚ) * 2 ^ exponent) :
    ((ofDouble significand exponent).decimal? unit).isSome = true := by
  cases found : (ofDouble significand exponent).decimal? unit with
  | some coefficient => rfl
  | none =>
      obtain ⟨down, up⟩ := not_holds_of_decimal? found
      have scaled := ratio_inUnits (ofDouble significand exponent)
        (ofDouble significand exponent).value unit
      have ten := ten_zpow_pos unit
      rw [fraction_value, eq_div_iff ten.ne'] at scaled
      have positive := inUnits_pos (ofDouble_denominator_pos significand exponent)
        (ofDouble significand exponent).value unit
      generalize Neighbourhood.inUnits _ (Neighbourhood.value _) unit = pair
        at scaled positive down up
      rw [Bool.eq_false_iff, Ne, holds_iff canonical.positive] at down up
      have most : (pair.1 / pair.2 : Nat) ≤ ratio pair :=
        (le_ratio_iff positive _).mpr (Nat.div_mul_le_self _ _)
      have next : ratio pair < (pair.1 / pair.2 + 1 : Nat) :=
        (ratio_lt_iff positive _).mpr (Nat.lt_mul_of_div_lt (Nat.lt_succ_self _) positive)
      have named := roundsTo_or_next canonical fine
        (scaled ▸ mul_le_mul_of_nonneg_right most ten.le)
        (scaled ▸ mul_lt_mul_of_pos_right next ten)
      exact absurd named (not_or.mpr ⟨down, up⟩)

/-- The search ends with a decimal that names the double if its last try does. -/
theorem search_roundsTo (positive : 0 < significand) {tries : Nat}
    (last : ((ofDouble significand exponent).decimal? (unit - tries)).isSome = true) :
    RoundsTo significand exponent
      ((ofDouble significand exponent).search (tries + 1) unit).value := by
  induction tries generalizing unit with
  | zero =>
      obtain ⟨coefficient, found⟩ := Option.isSome_iff_exists.mp last
      rw [Nat.cast_zero, Int.sub_zero] at found
      rw [search, found]
      exact (holds_iff positive coefficient unit).mp (holds_of_decimal? found)
  | succ tries induction =>
      rw [search]
      cases found : (ofDouble significand exponent).decimal? unit with
      | some coefficient => exact (holds_iff positive coefficient unit).mp (holds_of_decimal? found)
      | none =>
          apply induction
          rw [Int.sub_sub, Int.add_comm 1]
          exact last

end Search

/-- The leading digit of the value stands at its magnitude. -/
theorem magnitude_le {around : Neighbourhood} (some : 0 < around.value)
    (positive : 0 < around.denominator) :
    10 ^ (around.magnitude - 1) ≤ around.fraction around.value := by
  have positive' : (0 : ℚ) < around.denominator := by exact_mod_cast positive
  unfold magnitude fraction
  rw [le_div_iff₀ positive']
  split
  · next large =>
      obtain ⟨least, -⟩ := digitCount_bounds (Nat.div_pos large positive)
      rw [Nat.le_div_iff_mul_le positive] at least
      have power : ((digitCount (around.value / around.denominator) : Int) - 1) =
          (digitCount (around.value / around.denominator) - 1 : Nat) := by
        have some := digitCount_pos (around.value / around.denominator)
        omega
      rw [power, zpow_natCast]
      exact_mod_cast least
  · next small =>
      have leading : 0 < (around.denominator - 1) / around.value := Nat.div_pos (by omega) some
      obtain ⟨-, most⟩ := digitCount_bounds leading
      generalize digitCount ((around.denominator - 1) / around.value) = count at most ⊢
      rw [Nat.div_lt_iff_lt_mul some] at most
      have most : around.denominator ≤ 10 ^ count * around.value := by omega
      have power : (1 - (count : Int) - 1) = -count := by omega
      rw [power, zpow_neg, zpow_natCast, inv_mul_le_iff₀ (by positivity)]
      exact_mod_cast most

end Neighbourhood

/-- The shortest decimal of a double names it. -/
theorem shortest_roundsTo {significand : Nat} {exponent : Int}
    (canonical : Canonical significand exponent) :
    RoundsTo significand exponent (shortest significand exponent).value := by
  have leads := Neighbourhood.magnitude_le
    (Neighbourhood.ofDouble_value_pos canonical.positive exponent)
    (Neighbourhood.ofDouble_denominator_pos significand exponent)
  rw [Neighbourhood.fraction_value] at leads
  unfold shortest
  dsimp only
  rw [carry_value]
  generalize (Neighbourhood.ofDouble significand exponent).magnitude - 1 = unit at leads ⊢
  apply Neighbourhood.search_roundsTo canonical.positive
  apply Neighbourhood.decimal?_isSome canonical
  have units : (10 : ℚ) ^ (unit - (16 : Nat)) * 10 ^ 16 = 10 ^ unit := by
    rw [← zpow_natCast, ← zpow_add₀ (by norm_num), Int.sub_add_cancel]
  rw [units]
  exact leads

/-! ### Decimals that are read -/

/-- A decimal lies below the power of ten behind its leading digit, and not below the one before. -/
theorem value_bounds {decimal : Decimal} (some : 0 < decimal.coefficient) :
    10 ^ (decimal.exponent + digitCount decimal.coefficient - 1) ≤ decimal.value ∧
      decimal.value < 10 ^ (decimal.exponent + digitCount decimal.coefficient) := by
  obtain ⟨least, most⟩ := digitCount_bounds some
  have positive := digitCount_pos decimal.coefficient
  have unit := ten_zpow_pos decimal.exponent
  have split : decimal.exponent + digitCount decimal.coefficient - 1 =
      (digitCount decimal.coefficient - 1 : Nat) + decimal.exponent := by
    omega
  unfold value
  constructor
  · rw [split, zpow_add₀ (by norm_num), zpow_natCast]
    gcongr
    exact_mod_cast least
  · rw [Int.add_comm, zpow_add₀ (by norm_num), zpow_natCast]
    gcongr
    exact_mod_cast most

theorem two_pow_lt : 2 ^ 1075 < 10 ^ 400 := by decide +kernel

/-- No decimal that rounds to a double is so large or so small that it is not computed. -/
theorem top_bounds {significand : Nat} {exponent : Int} {decimal : Decimal}
    (canonical : Canonical significand exponent) (some : 0 < decimal.coefficient)
    (rounds : RoundsTo significand exponent decimal.value) :
    -400 ≤ decimal.exponent + digitCount decimal.coefficient ∧
      decimal.exponent + digitCount decimal.coefficient ≤ 400 := by
  obtain ⟨least, most⟩ := value_bounds some
  have large : (2 : ℚ) ^ 1075 < 10 ^ 400 := by exact_mod_cast two_pow_lt
  constructor
  · by_contra tiny
    have power : (10 : ℚ) ^ (decimal.exponent + digitCount decimal.coefficient) ≤
        10 ^ (-400 : Int) :=
      zpow_le_zpow_right₀ (by norm_num) (by omega)
    rw [zpow_neg, zpow_ofNat] at power
    have inverses : ((10 : ℚ) ^ 400)⁻¹ < (2 ^ 1075)⁻¹ := by gcongr
    exact absurd (rounds.ge canonical) (not_le_of_gt (most.trans (power.trans_lt inverses)))
  · by_contra huge
    have power : (10 : ℚ) ^ (400 : Int) ≤
        10 ^ (decimal.exponent + digitCount decimal.coefficient - 1) :=
      zpow_le_zpow_right₀ (by norm_num) (by omega)
    have units : (2 : ℚ) ^ exponent ≤ 2 ^ (971 : Int) :=
      zpow_le_zpow_right₀ one_le_two canonical.greatest
    have less : decimal.value < 2 ^ 1075 := by
      calc decimal.value < 2 ^ 53 * 2 ^ exponent := rounds.lt canonical
        _ ≤ 2 ^ 53 * 2 ^ (971 : Int) := by gcongr
        _ = 2 ^ 1024 := by rw [zpow_ofNat, ← pow_add]
        _ ≤ 2 ^ 1075 := pow_le_pow_right₀ one_le_two (by decide)
    rw [zpow_ofNat] at power
    exact absurd (large.trans_le (power.trans least)) less.le.not_gt

/-- A decimal that rounds to a double is read as that double. -/
theorem toFloat_of_roundsTo (negative : Bool) {significand : Nat} {exponent : Int}
    {decimal : Decimal} (canonical : Canonical significand exponent)
    (rounds : RoundsTo significand exponent decimal.value) :
    decimal.toFloat negative =
      ofMagnitude negative ((exponent - leastExponent).toNat * 2 ^ 52 + significand) := by
  have some : 0 < decimal.coefficient := by
    by_contra none
    have zero : decimal.value = 0 := by
      rw [value, Nat.eq_zero_of_not_pos none, Nat.cast_zero, zero_mul]
    have least := rounds.ge canonical
    rw [zero, inv_nonpos] at least
    exact absurd least (not_le_of_gt (pow_pos two_pos 1075))
  obtain ⟨least, most⟩ := top_bounds canonical some rounds
  have inRange : (decimal.coefficient = 0 ||
      decimal.exponent + digitCount decimal.coefficient < -400) = false := by
    simp [some.ne', least]
  unfold toFloat
  dsimp only
  rw [inRange, if_neg Bool.false_ne_true, if_neg (by omega)]
  unfold value at rounds
  split
  · next negative =>
      apply nearest_of_roundsTo _ canonical some (Nat.pow_pos (by decide))
      rw [zpow_of_neg 10 negative] at rounds
      rw [Nat.cast_pow, Nat.cast_ofNat, div_eq_mul_inv]
      exact rounds
  · next positive =>
      apply nearest_of_roundsTo _ canonical (Nat.mul_pos some (Nat.pow_pos (by decide))) one_pos
      rw [zpow_of_not_neg 10 positive] at rounds
      rw [Nat.cast_one, div_one, Nat.cast_mul, Nat.cast_pow, Nat.cast_ofNat]
      exact rounds

end Decimal

end Avenger.Number
