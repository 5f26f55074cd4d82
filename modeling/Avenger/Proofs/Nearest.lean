import Avenger.Proofs.Rounding

/-!
# The reals that round to a double

The ratios that are rounded to a positive double form an interval around it.  Its ends are half a
unit away, but a quarter below a power of two, where the doubles lie twice as close, and they belong
to it if the significand is even.
-/

namespace Avenger.Number

/-- The significand and the exponent of a positive double: the significand has fifty-three bits
unless the exponent is the least one. -/
structure Canonical (significand : Nat) (exponent : Int) : Prop where
  positive : 0 < significand
  small : significand < 2 ^ 53
  least : leastExponent ≤ exponent
  greatest : exponent ≤ 971
  normal : exponent = leastExponent ∨ 2 ^ 52 ≤ significand

/-- How far the reals that round to a double go down from it, in units of its last place. -/
def roomBelow (significand : Nat) (exponent : Int) : ℚ :=
  if significand = 2 ^ 52 ∧ leastExponent < exponent then 1 / 4 else 1 / 2

/-- That a real rounds to the double `significand * 2 ^ exponent`. -/
structure RoundsTo (significand : Nat) (exponent : Int) (value : ℚ) : Prop where
  lower : (significand - roomBelow significand exponent) * 2 ^ exponent ≤ value
  upper : value ≤ (significand + 1 / 2) * 2 ^ exponent
  above : significand % 2 = 1 →
    (significand - roomBelow significand exponent) * 2 ^ exponent < value
  below : significand % 2 = 1 → value < (significand + 1 / 2) * 2 ^ exponent

theorem roomBelow_pos (significand : Nat) (exponent : Int) :
    0 < roomBelow significand exponent := by
  unfold roomBelow
  split <;> norm_num

theorem roomBelow_le (significand : Nat) (exponent : Int) :
    roomBelow significand exponent ≤ 1 / 2 := by
  unfold roomBelow
  split <;> norm_num

section RoundsTo

variable {significand : Nat} {exponent : Int} {value : ℚ}

theorem roundsTo_iff_of_even (even : significand % 2 = 0) :
    RoundsTo significand exponent value ↔
      (significand - roomBelow significand exponent) * 2 ^ exponent ≤ value ∧
        value ≤ (significand + 1 / 2) * 2 ^ exponent := by
  constructor
  · intro rounds
    exact ⟨rounds.lower, rounds.upper⟩
  · rintro ⟨lower, upper⟩
    exact ⟨lower, upper, fun odd => by omega, fun odd => by omega⟩

theorem roundsTo_iff_of_odd (odd : significand % 2 = 1) :
    RoundsTo significand exponent value ↔
      (significand - roomBelow significand exponent) * 2 ^ exponent < value ∧
        value < (significand + 1 / 2) * 2 ^ exponent := by
  constructor
  · intro rounds
    exact ⟨rounds.above odd, rounds.below odd⟩
  · rintro ⟨above, below⟩
    exact ⟨above.le, below.le, fun _ => above, fun _ => below⟩

/-- What lies between the ends rounds to the double, whether or not they do. -/
theorem RoundsTo.of_lt
    (above : (significand - roomBelow significand exponent) * 2 ^ exponent < value)
    (below : value < (significand + 1 / 2) * 2 ^ exponent) :
    RoundsTo significand exponent value :=
  ⟨above.le, below.le, fun _ => above, fun _ => below⟩

end RoundsTo

/-! ### Pairs as ratios -/

/-- The ratio of a numerator and a denominator. -/
def ratio (pair : Nat × Nat) : ℚ := pair.1 / pair.2

theorem zpow_of_neg (base : ℚ) {exponent : Int} (negative : exponent < 0) :
    base ^ exponent = (base ^ (-exponent).toNat)⁻¹ := by
  obtain ⟨places, rfl⟩ : ∃ places : Nat, exponent = -places := ⟨(-exponent).toNat, by omega⟩
  simp

theorem zpow_of_not_neg (base : ℚ) {exponent : Int} (positive : ¬ exponent < 0) :
    base ^ exponent = base ^ exponent.toNat := by
  obtain ⟨places, rfl⟩ : ∃ places : Nat, exponent = places := ⟨exponent.toNat, by omega⟩
  simp

theorem two_zpow_pos (exponent : Int) : (0 : ℚ) < 2 ^ exponent := zpow_pos (by norm_num) exponent

section Scaling

variable {numerator denominator : Nat}

theorem ratio_scaleRatio (numerator denominator : Nat) (exponent : Int) :
    ratio (scaleRatio numerator denominator exponent) =
      numerator / denominator / 2 ^ exponent := by
  unfold ratio scaleRatio
  split
  · next negative =>
      rw [zpow_of_neg 2 negative]
      simp [twoTo_eq]
      ring
  · next positive =>
      rw [zpow_of_not_neg 2 positive]
      simp [twoTo_eq, div_div]

theorem scaleRatio_pos (positive : 0 < denominator) (exponent : Int) :
    0 < (scaleRatio numerator denominator exponent).2 := by
  unfold scaleRatio
  split
  · exact positive
  · exact Nat.mul_pos positive (Nat.two_pow_pos _)

section Comparisons

variable {pair : Nat × Nat} (positive : 0 < pair.2) (bound : Nat)

include positive

theorem ratio_le_iff : ratio pair ≤ bound ↔ pair.1 ≤ bound * pair.2 := by
  have positive : (0 : ℚ) < pair.2 := by exact_mod_cast positive
  rw [ratio, div_le_iff₀ positive]
  exact_mod_cast Iff.rfl

theorem le_ratio_iff : bound ≤ ratio pair ↔ bound * pair.2 ≤ pair.1 := by
  have positive : (0 : ℚ) < pair.2 := by exact_mod_cast positive
  rw [ratio, le_div_iff₀ positive]
  exact_mod_cast Iff.rfl

theorem ratio_lt_iff : ratio pair < bound ↔ pair.1 < bound * pair.2 := by
  have positive : (0 : ℚ) < pair.2 := by exact_mod_cast positive
  rw [ratio, div_lt_iff₀ positive]
  exact_mod_cast Iff.rfl

theorem lt_ratio_iff : bound < ratio pair ↔ bound * pair.2 < pair.1 := by
  have positive : (0 : ℚ) < pair.2 := by exact_mod_cast positive
  rw [ratio, lt_div_iff₀ positive]
  exact_mod_cast Iff.rfl

end Comparisons

theorem roundHalfEven_eq_of_nat {rounded : Nat} (positive : 0 < denominator)
    (lower : 2 * (rounded * denominator) ≤ 2 * numerator + denominator)
    (upper : 2 * numerator ≤ 2 * (rounded * denominator) + denominator)
    (above : rounded % 2 = 1 → 2 * (rounded * denominator) < 2 * numerator + denominator)
    (below : rounded % 2 = 1 → 2 * numerator < 2 * (rounded * denominator) + denominator) :
    roundHalfEven numerator denominator = rounded := by
  have divided := Nat.div_add_mod numerator denominator
  have rest := Nat.mod_lt numerator positive
  unfold roundHalfEven
  generalize numerator / denominator = quotient at divided ⊢
  generalize numerator % denominator = left at divided rest ⊢
  rw [Nat.mul_comm] at divided
  have least : quotient ≤ rounded := by
    by_contra less
    have product := Nat.mul_le_mul_right denominator (Nat.lt_of_not_le less)
    rw [Nat.succ_mul] at product
    omega
  have most : rounded ≤ quotient + 1 := by
    by_contra greater
    have product := Nat.mul_le_mul_right denominator (Nat.lt_of_not_le greater)
    rw [Nat.succ_mul, Nat.succ_mul] at product
    omega
  rcases Nat.lt_or_eq_of_le most with same | same
  · obtain rfl : rounded = quotient := by omega
    dsimp only
    split_ifs <;> omega
  · have product : rounded * denominator = quotient * denominator + denominator := by
      rw [same, Nat.succ_mul]
    dsimp only
    split_ifs <;> omega

/-- A natural is what a ratio is rounded to if it is at most a half away, or less if it is odd. -/
theorem roundHalfEven_eq {rounded : Nat} (positive : 0 < denominator)
    (lower : (rounded : ℚ) - 1 / 2 ≤ numerator / denominator)
    (upper : (numerator : ℚ) / denominator ≤ rounded + 1 / 2)
    (above : rounded % 2 = 1 → (rounded : ℚ) - 1 / 2 < numerator / denominator)
    (below : rounded % 2 = 1 → (numerator : ℚ) / denominator < rounded + 1 / 2) :
    roundHalfEven numerator denominator = rounded := by
  have positive' : (0 : ℚ) < denominator := by exact_mod_cast positive
  rw [le_div_iff₀ positive'] at lower
  rw [div_le_iff₀ positive'] at upper
  rw [lt_div_iff₀ positive'] at above
  rw [div_lt_iff₀ positive'] at below
  apply roundHalfEven_eq_of_nat positive
  · qify
    linarith
  · qify
    linarith
  · intro odd
    qify
    linarith [above odd]
  · intro odd
    qify
    linarith [below odd]

/-- The bits of the numerator and of the denominator leave a choice of two units. -/
theorem guess_bounds (positive : 0 < numerator) (positive' : 0 < denominator) :
    let guess : Int := (numerator.log2 : Int) - denominator.log2 - 53
    2 ^ 52 * 2 ^ guess ≤ (numerator : ℚ) / denominator ∧
      (numerator : ℚ) / denominator < 2 ^ 53 * 2 ^ (guess + 1) := by
  intro guess
  have least : ((2 : ℚ) ^ numerator.log2) ≤ numerator := by
    exact_mod_cast Nat.log2_self_le positive.ne'
  have most : (numerator : ℚ) < 2 ^ (numerator.log2 + 1) := by
    exact_mod_cast Nat.lt_log2_self
  have least' : ((2 : ℚ) ^ denominator.log2) ≤ denominator := by
    exact_mod_cast Nat.log2_self_le positive'.ne'
  have most' : (denominator : ℚ) < 2 ^ (denominator.log2 + 1) := by
    exact_mod_cast Nat.lt_log2_self
  have above : (0 : ℚ) < denominator := by exact_mod_cast positive'
  have unit : (2 : ℚ) ^ guess = 2 ^ numerator.log2 / 2 ^ denominator.log2 / 2 ^ 53 := by
    rw [zpow_sub₀ two_ne_zero, zpow_sub₀ two_ne_zero]
    norm_cast
  constructor
  · calc (2 : ℚ) ^ 52 * 2 ^ guess = 2 ^ numerator.log2 / 2 ^ (denominator.log2 + 1) := by
          rw [unit, pow_succ]
          ring
      _ ≤ numerator / denominator := by gcongr
  · calc (numerator : ℚ) / denominator < 2 ^ (numerator.log2 + 1) / 2 ^ denominator.log2 := by
          gcongr
      _ = 2 ^ 53 * 2 ^ (guess + 1) := by
          rw [zpow_add_one₀ two_ne_zero, unit, pow_succ]
          ring

/-- In its unit a ratio has at most fifty-three bits before the point, and as many unless the unit
is the least one. -/
theorem unitExponent_bounds (positive : 0 < numerator) (positive' : 0 < denominator) :
    let exponent := unitExponent numerator denominator
    leastExponent ≤ exponent ∧ (numerator : ℚ) / denominator < 2 ^ 53 * 2 ^ exponent ∧
      (exponent = leastExponent ∨ 2 ^ 52 * 2 ^ exponent ≤ (numerator : ℚ) / denominator) := by
  obtain ⟨lower, upper⟩ := guess_bounds positive positive'
  unfold unitExponent
  dsimp only
  generalize (numerator.log2 : Int) - denominator.log2 - 53 = guess at lower upper ⊢
  have unit : 0 < (scaleRatio numerator denominator guess).2 := scaleRatio_pos positive' guess
  have few := ratio_lt_iff unit (2 ^ 53)
  rw [ratio_scaleRatio, div_lt_iff₀ (two_zpow_pos guess), Nat.cast_pow, Nat.cast_ofNat,
    ← Nat.div_lt_iff_lt_mul unit] at few
  rw [twoTo_eq]
  obtain ⟨exponent, chosen⟩ : ∃ exponent : Int, exponent =
      if (scaleRatio numerator denominator guess).1 / (scaleRatio numerator denominator guess).2 <
        2 ^ 53 then guess else guess + 1 := ⟨_, rfl⟩
  rw [← chosen]
  have bounds : (numerator : ℚ) / denominator < 2 ^ 53 * 2 ^ exponent ∧
      2 ^ 52 * 2 ^ exponent ≤ (numerator : ℚ) / denominator := by
    rw [chosen]
    split
    · next fits => exact ⟨few.mpr fits, lower⟩
    · next many =>
        refine ⟨upper, ?_⟩
        rw [← few] at many
        rw [zpow_add_one₀ two_ne_zero]
        linarith
  rcases le_total leastExponent exponent with above | below
  · rw [max_eq_left above]
    exact ⟨above, bounds.1, .inr bounds.2⟩
  · rw [max_eq_right below]
    refine ⟨le_refl _, ?_, .inl rfl⟩
    have units : (2 : ℚ) ^ exponent ≤ 2 ^ leastExponent :=
      zpow_le_zpow_right₀ one_le_two below
    linarith [bounds.1]

/-! ### Rounding to a double -/

variable {significand : Nat} {exponent : Int}

theorem RoundsTo.lt (canonical : Canonical significand exponent) {value : ℚ}
    (rounds : RoundsTo significand exponent value) : value < 2 ^ 53 * 2 ^ exponent := by
  have small : (significand : ℚ) + 1 ≤ 2 ^ 53 := by exact_mod_cast canonical.small
  have unit := two_zpow_pos exponent
  calc value ≤ (significand + 1 / 2) * 2 ^ exponent := rounds.upper
    _ < 2 ^ 53 * 2 ^ exponent := by
      gcongr
      linarith

theorem RoundsTo.ge (canonical : Canonical significand exponent) {value : ℚ}
    (rounds : RoundsTo significand exponent value) : (2 ^ 1075)⁻¹ ≤ value := by
  have some : (1 : ℚ) ≤ significand := by exact_mod_cast canonical.positive
  have short := roomBelow_le significand exponent
  have units : (2 : ℚ) ^ leastExponent ≤ 2 ^ exponent :=
    zpow_le_zpow_right₀ one_le_two canonical.least
  calc ((2 : ℚ) ^ 1075)⁻¹ = (1 - 1 / 2) * 2 ^ leastExponent := by
        rw [leastExponent, zpow_neg, zpow_ofNat, pow_succ]
        generalize (2 : ℚ) ^ 1074 = power
        ring
    _ ≤ (significand - roomBelow significand exponent) * 2 ^ exponent := by
        gcongr
        linarith
    _ ≤ value := rounds.lower

/-- Only what rounds to a power of two may lie below the doubles with its exponent. -/
theorem RoundsTo.eq_power (normal : 2 ^ 52 ≤ significand) {value : ℚ}
    (rounds : RoundsTo significand exponent value) (less : value < 2 ^ 52 * 2 ^ exponent) :
    significand = 2 ^ 52 := by
  by_contra other
  have more : (2 : ℚ) ^ 52 + 1 ≤ significand := by
    exact_mod_cast Nat.lt_of_le_of_ne normal (Ne.symm other)
  have short := roomBelow_le significand exponent
  have unit := two_zpow_pos exponent
  have room : (2 : ℚ) ^ 52 * 2 ^ exponent ≤ value := by
    refine le_trans ?_ rounds.lower
    gcongr
    linarith
  exact absurd less (not_lt_of_ge room)

/-- What rounds to a power of two lies above its half. -/
theorem RoundsTo.half_lt {value : ℚ} (rounds : RoundsTo (2 ^ 52) exponent value) :
    2 ^ 51 * 2 ^ exponent < value := by
  have short := roomBelow_le (2 ^ 52) exponent
  have unit := two_zpow_pos exponent
  refine lt_of_lt_of_le ?_ rounds.lower
  gcongr
  push_cast
  linarith

/-- What rounds to a double is written in its unit, unless it is below a power of two. -/
theorem unitExponent_of_roundsTo (canonical : Canonical significand exponent)
    (positive : 0 < numerator) (positive' : 0 < denominator)
    (rounds : RoundsTo significand exponent (numerator / denominator)) :
    unitExponent numerator denominator = exponent ∨
      significand = 2 ^ 52 ∧ leastExponent < exponent ∧
        unitExponent numerator denominator = exponent - 1 := by
  obtain ⟨least, upper, lower⟩ := unitExponent_bounds positive positive'
  generalize unitExponent numerator denominator = unit at least upper lower ⊢
  generalize (numerator : ℚ) / denominator = value at upper lower rounds
  rcases lt_trichotomy unit exponent with before | same | behind
  · right
    have half : (2 : ℚ) ^ (exponent - 1) = 2 ^ exponent / 2 :=
      zpow_sub_one₀ two_ne_zero exponent
    have units : (2 : ℚ) ^ unit ≤ 2 ^ (exponent - 1) :=
      zpow_le_zpow_right₀ one_le_two (by omega)
    have normal := canonical.normal.resolve_left (by omega)
    obtain rfl := rounds.eq_power normal (by linarith)
    refine ⟨rfl, by omega, ?_⟩
    by_contra other
    have units : (2 : ℚ) ^ unit ≤ 2 ^ (exponent - 1 - 1) :=
      zpow_le_zpow_right₀ one_le_two (by omega)
    have quarter : (2 : ℚ) ^ (exponent - 1 - 1) = 2 ^ (exponent - 1) / 2 :=
      zpow_sub_one₀ two_ne_zero _
    linarith [rounds.half_lt]
  · exact .inl same
  · have finer : unit ≠ leastExponent := by
      have := canonical.least
      omega
    have lower := lower.resolve_left finer
    have units : (2 : ℚ) ^ (exponent + 1) ≤ 2 ^ unit :=
      zpow_le_zpow_right₀ one_le_two (by omega)
    rw [zpow_add_one₀ two_ne_zero] at units
    linarith [rounds.lt canonical]

/-- In the unit of the double its significand is the nearest natural. -/
theorem roundHalfEven_of_roundsTo (positive : 0 < denominator)
    (rounds : RoundsTo significand exponent (numerator / denominator)) :
    roundHalfEven (scaleRatio numerator denominator exponent).1
      (scaleRatio numerator denominator exponent).2 = significand := by
  have unit := two_zpow_pos exponent
  have short := roomBelow_le significand exponent
  have scaled := ratio_scaleRatio numerator denominator exponent
  unfold ratio at scaled
  apply roundHalfEven_eq (scaleRatio_pos positive exponent)
  · rw [scaled, le_div_iff₀ unit]
    refine le_trans ?_ rounds.lower
    gcongr
  · rw [scaled, div_le_iff₀ unit]
    exact rounds.upper
  · intro odd
    rw [scaled, lt_div_iff₀ unit]
    refine lt_of_le_of_lt ?_ (rounds.above odd)
    gcongr
  · intro odd
    rw [scaled, div_lt_iff₀ unit]
    exact rounds.below odd

/-- Below a power of two the unit is half as large, and the nearest natural is that power. -/
theorem roundHalfEven_of_power (positive : 0 < denominator) (normal : leastExponent < exponent)
    (rounds : RoundsTo (2 ^ 52) exponent (numerator / denominator))
    (less : (numerator : ℚ) / denominator < 2 ^ 53 * 2 ^ (exponent - 1)) :
    roundHalfEven (scaleRatio numerator denominator (exponent - 1)).1
      (scaleRatio numerator denominator (exponent - 1)).2 = 2 ^ 53 := by
  have unit := two_zpow_pos (exponent - 1)
  have scaled := ratio_scaleRatio numerator denominator (exponent - 1)
  unfold ratio at scaled
  have half : (2 : ℚ) ^ (exponent - 1) = 2 ^ exponent / 2 := zpow_sub_one₀ two_ne_zero exponent
  have room := rounds.lower
  rw [roomBelow, if_pos ⟨rfl, normal⟩, Nat.cast_pow, Nat.cast_ofNat] at room
  apply roundHalfEven_eq (scaleRatio_pos positive (exponent - 1))
  · rw [scaled, le_div_iff₀ unit, half, Nat.cast_pow, Nat.cast_ofNat]
    linarith
  · rw [scaled, div_le_iff₀ unit, Nat.cast_pow, Nat.cast_ofNat]
    linarith
  · exact fun odd => absurd odd (by norm_num)
  · exact fun odd => absurd odd (by norm_num)

/-- A ratio is rounded to the double that it rounds to. -/
theorem nearest_of_roundsTo (negative : Bool) (canonical : Canonical significand exponent)
    (positive : 0 < numerator) (positive' : 0 < denominator)
    (rounds : RoundsTo significand exponent (numerator / denominator)) :
    nearest negative numerator denominator =
      ofMagnitude negative ((exponent - leastExponent).toNat * 2 ^ 52 + significand) := by
  unfold nearest
  rw [if_neg positive.ne']
  dsimp only
  rcases unitExponent_of_roundsTo canonical positive positive' rounds with
    same | ⟨rfl, normal, same⟩
  · rw [same, roundHalfEven_of_roundsTo positive' rounds]
    rfl
  · have less := (unitExponent_bounds positive positive').2.1
    rw [same] at less
    have bits : (exponent - 1 - leastExponent).toNat * twoTo 52 + 2 ^ 53 =
        (exponent - leastExponent).toNat * 2 ^ 52 + 2 ^ 52 := by
      rw [twoTo_eq]
      omega
    rw [same, roundHalfEven_of_power positive' normal rounds less, bits]

end Scaling

end Avenger.Number
