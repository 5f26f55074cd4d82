import Avenger.Number.Whole
import Mathlib

/-!
# Rounding keeps the order of naturals

A greater natural is not rounded to a smaller double.  The bits of a double that is not
negative order it among such doubles, so it is enough to compare bits.
-/

namespace Avenger.Number

section Halves

variable {numerator numerator' denominator : Nat}

theorem div_le_roundHalfEven : numerator / denominator ≤ roundHalfEven numerator denominator := by
  unfold roundHalfEven
  dsimp only
  split
  · exact Nat.le_refl _
  · split <;> omega

theorem roundHalfEven_le_succ :
    roundHalfEven numerator denominator ≤ numerator / denominator + 1 := by
  unfold roundHalfEven
  dsimp only
  split
  · omega
  · split <;> omega

theorem roundHalfEven_mono (le : numerator ≤ numerator') :
    roundHalfEven numerator denominator ≤ roundHalfEven numerator' denominator := by
  have quotients : numerator / denominator ≤ numerator' / denominator :=
    Nat.div_le_div_right le
  rcases Nat.lt_or_eq_of_le quotients with less | same
  · have upper := @roundHalfEven_le_succ numerator denominator
    have lower := @div_le_roundHalfEven numerator' denominator
    omega
  · have divided := Nat.div_add_mod numerator denominator
    have divided' := Nat.div_add_mod numerator' denominator
    rw [← same] at divided'
    have rests : numerator % denominator ≤ numerator' % denominator := by omega
    unfold roundHalfEven
    dsimp only
    rw [← same]
    split_ifs <;> omega

end Halves

section Naturals

variable {value value' : Nat}

theorem twoTo_eq (exponent : Nat) : twoTo exponent = 2 ^ exponent := rfl

theorem scaleRatio_quotient (exponent : Int) :
    (scaleRatio value 1 exponent).1 / (scaleRatio value 1 exponent).2 =
      if exponent < 0 then value * twoTo (-exponent).toNat
      else value / twoTo exponent.toNat := by
  unfold scaleRatio
  split <;> simp

/-- The quotient of a natural and a power of two below its own lies between two powers. -/
theorem scaled_bounds (positive : value ≠ 0) (bits : Nat) :
    let scaled := scaleRatio value 1 ((value.log2 : Int) - bits)
    2 ^ bits ≤ scaled.1 / scaled.2 ∧ scaled.1 / scaled.2 < 2 ^ (bits + 1) := by
  have lower : 2 ^ value.log2 ≤ value := Nat.log2_self_le positive
  have upper : value < 2 ^ (value.log2 + 1) := Nat.lt_log2_self
  dsimp only
  rw [scaleRatio_quotient]
  split
  · next small =>
      have exponent : (-((value.log2 : Int) - bits)).toNat = bits - value.log2 := by omega
      rw [exponent, twoTo_eq]
      have split : bits = value.log2 + (bits - value.log2) := by omega
      have split' : bits + 1 = value.log2 + 1 + (bits - value.log2) := by omega
      constructor
      · calc 2 ^ bits = 2 ^ value.log2 * 2 ^ (bits - value.log2) := by
              rw [← Nat.pow_add, ← split]
          _ ≤ value * 2 ^ (bits - value.log2) := Nat.mul_le_mul_right _ lower
      · calc value * 2 ^ (bits - value.log2)
            < 2 ^ (value.log2 + 1) * 2 ^ (bits - value.log2) :=
              Nat.mul_lt_mul_of_pos_right upper (Nat.two_pow_pos _)
          _ = 2 ^ (bits + 1) := by rw [← Nat.pow_add, ← split']
  · next large =>
      have exponent : ((value.log2 : Int) - bits).toNat = value.log2 - bits := by omega
      rw [exponent, twoTo_eq]
      have split : value.log2 = bits + (value.log2 - bits) := by omega
      have split' : value.log2 + 1 = bits + 1 + (value.log2 - bits) := by omega
      constructor
      · rw [Nat.le_div_iff_mul_le (Nat.two_pow_pos _)]
        show 2 ^ bits * 2 ^ (value.log2 - bits) ≤ value
        rwa [← Nat.pow_add, ← split]
      · rw [Nat.div_lt_iff_lt_mul (Nat.two_pow_pos _)]
        show value < 2 ^ (bits + 1) * 2 ^ (value.log2 - bits)
        rwa [← Nat.pow_add, ← split']

theorem unitExponent_nat (positive : value ≠ 0) :
    unitExponent value 1 = (value.log2 : Int) - 52 := by
  have large : twoTo 53 ≤ (scaleRatio value 1 ((value.log2 : Int) - 53)).1 /
      (scaleRatio value 1 ((value.log2 : Int) - 53)).2 :=
    (scaled_bounds positive 53).1
  have one : (Nat.log2 1 : Int) = 0 := by decide
  unfold unitExponent
  simp only [one, Int.sub_zero]
  rw [if_neg (Nat.not_lt_of_le large)]
  unfold leastExponent
  omega

/-- The bits of the double nearest to a natural, below the sign. -/
def magnitude (value : Nat) : Nat :=
  if value = 0 then 0
  else
    let scaled := scaleRatio value 1 ((value.log2 : Int) - 52)
    (value.log2 + 1022) * 2 ^ 52 + roundHalfEven scaled.1 scaled.2

theorem ofNat_eq (value : Nat) : ofNat value = ofMagnitude false (magnitude value) := by
  unfold ofNat nearest magnitude
  split
  · rfl
  · next positive =>
      have exponent : ((value.log2 : Int) - 52 - leastExponent).toNat =
          value.log2 + 1022 := by
        unfold leastExponent
        omega
      dsimp only
      rw [unitExponent_nat positive, exponent]
      rfl

theorem magnitude_mono (le : value ≤ value') : magnitude value ≤ magnitude value' := by
  by_cases zero : value = 0
  · simp [magnitude, zero]
  have positive' : value' ≠ 0 := by omega
  have logs : value.log2 ≤ value'.log2 := by
    rw [Nat.le_log2 positive']
    exact Nat.le_trans (Nat.log2_self_le zero) le
  unfold magnitude
  rw [if_neg zero, if_neg positive']
  dsimp only
  rcases Nat.lt_or_eq_of_le logs with less | same
  · have upper : (scaleRatio value 1 ((value.log2 : Int) - 52)).1 /
        (scaleRatio value 1 ((value.log2 : Int) - 52)).2 < 2 ^ (52 + 1) :=
      (scaled_bounds zero 52).2
    have lower : 2 ^ 52 ≤ (scaleRatio value' 1 ((value'.log2 : Int) - 52)).1 /
        (scaleRatio value' 1 ((value'.log2 : Int) - 52)).2 :=
      (scaled_bounds positive' 52).1
    have above := @roundHalfEven_le_succ (scaleRatio value 1 ((value.log2 : Int) - 52)).1
      (scaleRatio value 1 ((value.log2 : Int) - 52)).2
    have below := @div_le_roundHalfEven (scaleRatio value' 1 ((value'.log2 : Int) - 52)).1
      (scaleRatio value' 1 ((value'.log2 : Int) - 52)).2
    omega
  · rw [← same]
    apply Nat.add_le_add_left
    unfold scaleRatio
    split
    · exact roundHalfEven_mono (Nat.mul_le_mul_right _ le)
    · exact roundHalfEven_mono le

end Naturals

section Order

open Float.Model UnpackedFloat

/-- A double that is not negative, taken apart by its bits. -/
def unpacked (magnitude : Nat) : UnpackedFloat :=
  if magnitude / 2 ^ 52 = 2047 then .infinity .positive
  else if magnitude / 2 ^ 52 = 0 then
    if positive : 0 < magnitude then .finite .positive magnitude (-1074) positive
    else .zero .positive
  else
    .finite .positive (2 ^ 52 + magnitude % 2 ^ 52) ((magnitude / 2 ^ 52 : Nat) - 1075)
      (by omega)

section Fields

variable {bits : BitVec Format.binary64.numBits} {magnitude : Nat}
  (whole : bits.toNat = magnitude) (bound : magnitude ≤ 2047 * 2 ^ 52)

include whole

theorem unpackMantissa_toNat : (unpackMantissa bits).toNat = magnitude % 2 ^ 52 := by
  simp [unpackMantissa, whole]

include bound

theorem unpackExponent_toNat : (unpackExponent bits).toNat = magnitude / 2 ^ 52 := by
  simp [unpackExponent, whole, Nat.shiftRight_eq_div_pow]
  omega

theorem unpackSign_eq : unpackSign bits = 0#1 := by
  apply BitVec.eq_of_toNat_eq
  simp [unpackSign, whole, Nat.shiftRight_eq_div_pow]
  omega

theorem unpack_bits : UnpackedFloat.unpack Format.binary64 bits = unpacked magnitude := by
  have exponent := unpackExponent_toNat whole bound
  have mantissa := unpackMantissa_toNat whole
  have sign := unpackSign_eq whole bound
  have bias : Format.binary64.exponentBias = 1023 := rfl
  -- With the power written out, the cases below are about the terms that `simp` leaves.
  have power : 2 ^ 52 = 4503599627370496 := rfl
  unfold UnpackedFloat.unpack unpacked
  simp only [sign, ← BitVec.toNat_inj, exponent, mantissa, power]
  by_cases largest : magnitude / 4503599627370496 = 2047
  · have none : magnitude % 4503599627370496 = 0 := by omega
    simp [largest, none, Sign.ofBitVec]
  · by_cases least : magnitude / 4503599627370496 = 0
    · by_cases positive : 0 < magnitude
      · have some : magnitude % 4503599627370496 = magnitude := by omega
        simp [least, positive, Nat.pos_iff_ne_zero.mp positive, some, bias, Sign.ofBitVec]
      · have zero : magnitude = 0 := by omega
        simp [zero, Sign.ofBitVec]
    · have joined : (1#1 ++ unpackMantissa bits).toNat =
          4503599627370496 + magnitude % 4503599627370496 := by
        rw [BitVec.toNat_append, mantissa,
          ← Nat.shiftLeft_add_eq_or_of_lt (Nat.mod_lt _ (Nat.two_pow_pos 52))]
        rfl
      simp [largest, least, joined, bias, Sign.ofBitVec]

end Fields

theorem packComponents_toNat (exponent : BitVec 11) (mantissa : BitVec 52) :
    (packComponents Format.binary64 .positive exponent mantissa).toNat =
      exponent.toNat * 2 ^ 52 + mantissa.toNat := by
  unfold packComponents Sign.toBitVec
  rw [BitVec.toNat_append, BitVec.toNat_append,
    ← Nat.shiftLeft_add_eq_or_of_lt mantissa.isLt]
  simp [Nat.shiftLeft_eq]

theorem pack_unpacked {magnitude : Nat} (bound : magnitude ≤ 2047 * 2 ^ 52) :
    (UnpackedFloat.pack Format.binary64 (unpacked magnitude)).toNat = magnitude := by
  have bias : Format.binary64.exponentBias = 1023 := rfl
  have width : Format.binary64.mantissaBits = 53 := rfl
  unfold unpacked
  by_cases largest : magnitude / 2 ^ 52 = 2047
  · have full : (-1#11).toNat = 2047 := rfl
    simp only [largest, if_true, UnpackedFloat.pack, packedInfinity, packComponents_toNat]
    rw [full]
    simp
    omega
  · rw [if_neg largest]
    by_cases least : magnitude / 2 ^ 52 = 0
    · rw [if_pos least]
      by_cases positive : 0 < magnitude
      · have log : magnitude.log2 < 52 := by
          rw [Nat.log2_lt (Nat.pos_iff_ne_zero.mp positive)]
          omega
        have subnormal : magnitude.log2 ≠ 52 := by omega
        simp [positive, UnpackedFloat.pack, bias, width, subnormal, packComponents_toNat]
        omega
      · simp [positive, UnpackedFloat.pack, packedZero, packComponents_toNat]
        omega
    · have log : (2 ^ 52 + magnitude % 2 ^ 52).log2 = 52 := by
        rw [Nat.log2_eq_iff (by omega)]
        omega
      have exponent : (((magnitude / 2 ^ 52 : Nat) : Int) - 1075 + (1023 : Nat) +
          (52 : Nat)).toNat = magnitude / 2 ^ 52 := by
        omega
      have small : ¬ 2 ^ 11 ≤ magnitude / 2 ^ 52 + 1 := by omega
      simp only [least, if_true, if_false, UnpackedFloat.pack, bias, width, log, exponent,
        small, packComponents_toNat]
      simp
      omega

/-- Doubles that are not negative are taken apart by their bits. -/
theorem unpack_ofMagnitude {magnitude : Nat} :
    (ofMagnitude false magnitude).toModel.unpack =
      unpacked (min magnitude (2047 * 2 ^ 52)) := by
  have bound : min magnitude (2047 * 2 ^ 52) ≤ 2047 * 2 ^ 52 := Nat.min_le_right _ _
  have whole : (min magnitude (2047 * 2 ^ 52)).toUInt64.toBitVec.toNat =
      min magnitude (2047 * 2 ^ 52) := by
    rw [Nat.toUInt64_eq, UInt64.toNat_toBitVec, UInt64.toNat_ofNat']
    exact Nat.mod_eq_of_lt (by omega)
  show UnpackedFloat.unpack Format.binary64 (UnpackedFloat.pack Format.binary64
    (UnpackedFloat.unpack Format.binary64 _)) = _
  have sign : (if false = true then twoTo 63 else 0) = 0 := rfl
  have infinity : (twoTo 11 - 1) * twoTo 52 = 2047 * 2 ^ 52 := rfl
  rw [sign, Nat.zero_add, infinity, unpack_bits whole bound]
  exact unpack_bits (pack_unpacked bound) bound

theorem lexicographic_lt {exponent exponent' : Int} {mantissa mantissa' : Nat} :
    (compare exponent exponent').then (compare mantissa mantissa') = .lt ↔
      exponent < exponent' ∨ exponent = exponent' ∧ mantissa < mantissa' := by
  rw [Ordering.then_eq_lt, Int.compare_eq_lt, Int.compare_eq_eq, Nat.compare_eq_lt]

/-- What is above a double that is not negative is above every smaller one. -/
theorem unpacked_lt {small large : Nat} (le : small ≤ large) (bound : large ≤ 2047 * 2 ^ 52)
    {other : UnpackedFloat} (less : (unpacked large).compare other = some .lt) :
    (unpacked small).compare other = some .lt := by
  have exponents : small / 2 ^ 52 ≤ large / 2 ^ 52 := Nat.div_le_div_right le
  unfold unpacked at less ⊢
  cases other with
  | notANumber => split_ifs at less <;> cases less
  | zero sign => split_ifs at less <;> cases less
  | infinity sign =>
      cases sign with
      | negative => split_ifs at less <;> cases less
      | positive =>
          split_ifs at less ⊢ <;> first | omega | rfl
  | finite sign mantissa exponent positive =>
      cases sign with
      | negative => split_ifs at less <;> cases less
      | positive =>
          split_ifs at less ⊢ <;>
            first
            | omega
            | rfl
            | (simp only [UnpackedFloat.compare, Option.some.injEq, lexicographic_lt] at less ⊢
               omega)
            | cases less

theorem ofNat_lt_of_le {small large : Nat} (le : small ≤ large) {number : Float}
    (less : ofNat large < number) : ofNat small < number := by
  rw [ofNat_eq] at less ⊢
  have monotone := magnitude_mono le
  have smaller : min (magnitude small) (2047 * 2 ^ 52) ≤
      min (magnitude large) (2047 * 2 ^ 52) := by omega
  have bound : min (magnitude large) (2047 * 2 ^ 52) ≤ 2047 * 2 ^ 52 := Nat.min_le_right _ _
  have order : ∀ left right : Float, left < right ↔
      left.toModel.unpack.compare right.toModel.unpack = some .lt := by
    intro left right
    show (decide (left.toModel < right.toModel) : Bool) = true ↔ _
    rw [decide_eq_true_iff]
    exact beq_iff_eq
  rw [order, unpack_ofMagnitude] at less ⊢
  exact unpacked_lt smaller bound less

end Order

end Avenger.Number
