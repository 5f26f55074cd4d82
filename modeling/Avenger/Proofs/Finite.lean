import Avenger.Proofs.Naturals
import Avenger.Proofs.Nearest

/-!
# Finite doubles

A double is taken apart into its sign, significand and exponent in the same way as by the
comparisons, so these tell its sign.  A finite double is put together again from its parts.
-/

namespace Avenger.Number

open Float.Model UnpackedFloat

/-- The sign of a double. -/
def signOf (negative : Bool) : Sign := if negative then .negative else .positive

/-- The parts of a double as comparisons see them. -/
def Decoded.unpacked : Decoded → UnpackedFloat
  | .nan => .notANumber
  | .infinite negative => .infinity (signOf negative)
  | .finite negative significand exponent =>
      if positive : 0 < significand then .finite (signOf negative) significand exponent positive
      else .zero (signOf negative)

section Fields

variable (bits : BitVec Format.binary64.numBits)

theorem unpackMantissa_eq : (unpackMantissa bits).toNat = bits.toNat % 2 ^ 52 :=
  unpackMantissa_toNat rfl

theorem unpackExponent_eq : (unpackExponent bits).toNat = bits.toNat / 2 ^ 52 % 2 ^ 11 := by
  simp [unpackExponent, Nat.shiftRight_eq_div_pow]

theorem unpackExponent_full : unpackExponent bits = -1#_ ↔ bits.toNat / 2 ^ 52 % 2 ^ 11 = 2047 := by
  have full : (-1#11).toNat = 2047 := rfl
  rw [← BitVec.toNat_inj, unpackExponent_eq]
  exact Iff.of_eq (congrArg _ full)

theorem unpackExponent_none : unpackExponent bits = 0#_ ↔ bits.toNat / 2 ^ 52 % 2 ^ 11 = 0 := by
  rw [← BitVec.toNat_inj, unpackExponent_eq]
  rfl

theorem unpackMantissa_none : unpackMantissa bits = 0#_ ↔ bits.toNat % 2 ^ 52 = 0 := by
  rw [← BitVec.toNat_inj, unpackMantissa_eq]
  rfl

theorem ofBitVec_unpackSign :
    Sign.ofBitVec (unpackSign bits) = signOf (bits.toNat / 2 ^ 63 == 1) := by
  have bound : bits.toNat < 2 ^ 64 := bits.isLt
  have field : (unpackSign bits).toNat = bits.toNat / 2 ^ 63 := by
    simp [unpackSign, Nat.shiftRight_eq_div_pow]
    omega
  obtain zero | one : bits.toNat / 2 ^ 63 = 0 ∨ bits.toNat / 2 ^ 63 = 1 := by omega
  · have sign : unpackSign bits = 0#1 := BitVec.eq_of_toNat_eq (field.trans zero)
    rw [sign, zero]
    rfl
  · have sign : unpackSign bits = 1#1 := BitVec.eq_of_toNat_eq (field.trans one)
    rw [sign, one]
    rfl

theorem unpackMantissa_joined :
    (1#1 ++ unpackMantissa bits).toNat = 2 ^ 52 + bits.toNat % 2 ^ 52 := by
  rw [BitVec.toNat_append, unpackMantissa_eq,
    ← Nat.shiftLeft_add_eq_or_of_lt (Nat.mod_lt _ (Nat.two_pow_pos 52))]
  rfl

end Fields

theorem decode_eq (number : Float) :
    let bits := number.toBits.toNat
    decode number =
      if bits / 2 ^ 52 % 2 ^ 11 = 2047 then
        if bits % 2 ^ 52 = 0 then .infinite (bits / 2 ^ 63 == 1) else .nan
      else if bits / 2 ^ 52 % 2 ^ 11 = 0 then
        .finite (bits / 2 ^ 63 == 1) (bits % 2 ^ 52) leastExponent
      else
        .finite (bits / 2 ^ 63 == 1) (2 ^ 52 + bits % 2 ^ 52)
          (leastExponent + (bits / 2 ^ 52 % 2 ^ 11 : Nat) - 1) :=
  rfl

/-- Taking a double apart by its bits is unpacking it. -/
theorem unpack_eq_decode (number : Float) : number.toModel.unpack = (decode number).unpacked := by
  have exponent := unpackExponent_eq number.toModel.toBits.toBitVec
  have full := unpackExponent_full number.toModel.toBits.toBitVec
  have least := unpackExponent_none number.toModel.toBits.toBitVec
  have none := unpackMantissa_none number.toModel.toBits.toBitVec
  have sign := ofBitVec_unpackSign number.toModel.toBits.toBitVec
  have whole : number.toModel.toBits.toBitVec.toNat = number.toBits.toNat := rfl
  rw [whole] at exponent full least none sign
  rw [decode_eq]
  unfold Float.Model.unpack UnpackedFloat.unpack
  dsimp only
  rw [sign]
  by_cases largest : number.toBits.toNat / 2 ^ 52 % 2 ^ 11 = 2047
  · rw [if_pos (full.mpr largest), if_pos largest]
    by_cases empty : number.toBits.toNat % 2 ^ 52 = 0
    · rw [if_pos (none.mpr empty), if_pos empty]
      rfl
    · rw [if_neg (mt none.mp empty), if_neg empty]
      rfl
  · rw [if_neg (mt full.mp largest), if_neg largest]
    by_cases smallest : number.toBits.toNat / 2 ^ 52 % 2 ^ 11 = 0
    · rw [if_pos (least.mpr smallest), if_pos smallest]
      by_cases empty : number.toBits.toNat % 2 ^ 52 = 0
      · rw [dif_pos (none.mpr empty), Decoded.unpacked, dif_neg (by omega)]
      · rw [dif_neg (mt none.mp empty), Decoded.unpacked, dif_pos (by omega)]
        congr 1
        rw [exponent, smallest]
        rfl
    · rw [if_neg (mt least.mp smallest), if_neg smallest, Decoded.unpacked, dif_pos (by omega)]
      congr 1
      · exact unpackMantissa_joined number.toModel.toBits.toBitVec
      · have bias : (Format.binary64.exponentBias : Int) +
            Format.binary64.mantissaBitsWithoutImplicit = 1075 := rfl
        rw [exponent, bias]
        unfold leastExponent
        omega

/-! ### Finite doubles -/

variable {number : Float} {negative : Bool} {significand : Nat} {exponent : Int}

/-- The parts of a finite double among its bits. -/
theorem bits_of_decode (decoded : decode number = .finite negative significand exponent) :
    number.toBits.toNat =
        (if negative then 2 ^ 63 else 0) +
          ((exponent - leastExponent).toNat * 2 ^ 52 + significand) ∧
      leastExponent ≤ exponent ∧ exponent ≤ 971 ∧ significand < 2 ^ 53 ∧
      (exponent = leastExponent ∨ 2 ^ 52 ≤ significand) := by
  have bound : number.toBits.toNat < 2 ^ 64 := number.toBits.toNat_lt
  rw [decode_eq] at decoded
  unfold leastExponent at decoded ⊢
  have sign : number.toBits.toNat = (if number.toBits.toNat / 2 ^ 63 == 1 then 2 ^ 63 else 0) +
      number.toBits.toNat % 2 ^ 63 := by
    split <;> simp_all <;> omega
  split at decoded
  · split at decoded <;> cases decoded
  · next other =>
      split at decoded
      · next least =>
          cases decoded
          omega
      · next some =>
          cases decoded
          omega

theorem canonical_of_decode (decoded : decode number = .finite negative significand exponent)
    (positive : 0 < significand) : Canonical significand exponent := by
  obtain ⟨-, least, greatest, small, normal⟩ := bits_of_decode decoded
  exact ⟨positive, small, least, greatest, normal⟩

/-- A finite double is put together from its parts. -/
theorem eq_ofMagnitude (decoded : decode number = .finite negative significand exponent) :
    number =
      ofMagnitude negative ((exponent - leastExponent).toNat * 2 ^ 52 + significand) := by
  obtain ⟨bits, least, greatest, small, normal⟩ := bits_of_decode decoded
  obtain ⟨magnitude, same⟩ : ∃ magnitude, magnitude =
      (exponent - leastExponent).toNat * 2 ^ 52 + significand := ⟨_, rfl⟩
  have bound : magnitude ≤ 2047 * 2 ^ 52 := by
    unfold leastExponent at *
    omega
  have infinity : (twoTo 11 - 1) * twoTo 52 = 2047 * 2 ^ 52 := rfl
  rw [← same] at bits ⊢
  calc number = Float.ofBits number.toBits := (Float.ofBits_toBits number).symm
    _ = ofMagnitude negative magnitude := by
      unfold ofMagnitude
      dsimp only
      rw [infinity, Nat.min_eq_left bound]
      congr 1
      apply UInt64.toNat_inj.mp
      rw [bits, Nat.toUInt64_eq, UInt64.toNat_ofNat', twoTo_eq]
      refine (Nat.mod_eq_of_lt ?_).symm
      split <;> omega

/-- A finite double is not a NaN and not infinite. -/
theorem decode_of_isFinite (finite : number.isFinite = true) :
    ∃ negative significand exponent, decode number = .finite negative significand exponent := by
  have unpacked : number.toModel.unpack.isFinite = true := finite
  rw [unpack_eq_decode] at unpacked
  cases decoded : decode number with
  | finite negative significand exponent => exact ⟨_, _, _, rfl⟩
  | nan | infinite =>
      rw [decoded] at unpacked
      cases unpacked

theorem unpack_zero : (0 : Float).toModel.unpack = .zero .positive := by rfl

theorem zero_le_iff (decoded : decode number = .finite negative significand exponent) :
    0 ≤ number ↔ significand = 0 ∨ negative = false := by
  rw [le_iff_compare, unpack_zero, unpack_eq_decode, decoded, Decoded.unpacked]
  split
  · next positive => cases negative <;> simp [UnpackedFloat.compare, signOf, positive.ne']
  · next none => simp [UnpackedFloat.compare, Nat.eq_zero_of_not_pos none]

/-- Comparing a finite double to zero tells its sign. -/
theorem compare_zero (decoded : decode number = .finite negative significand exponent) :
    number.toModel.unpack.compare (0 : Float).toModel.unpack =
      some (if significand = 0 then .eq else if negative then .lt else .gt) := by
  rw [unpack_zero, unpack_eq_decode, decoded, Decoded.unpacked]
  split
  · next positive => cases negative <;> simp [UnpackedFloat.compare, signOf, positive.ne']
  · next none => simp [UnpackedFloat.compare, Nat.eq_zero_of_not_pos none]

theorem lt_zero_iff (decoded : decode number = .finite negative significand exponent) :
    number < 0 ↔ significand ≠ 0 ∧ negative = true := by
  have order : number < 0 ↔
      number.toModel.unpack.compare (0 : Float).toModel.unpack = some .lt := by
    show (decide (number.toModel < (0 : Float).toModel) : Bool) = true ↔ _
    rw [decide_eq_true_iff]
    exact beq_iff_eq
  rw [order, compare_zero decoded]
  by_cases zero : significand = 0 <;> cases negative <;> simp [zero]

theorem beq_zero_eq (decoded : decode number = .finite negative significand exponent) :
    (number == 0) = decide (significand = 0) := by
  have same : (number == 0) =
      (number.toModel.unpack.compare (0 : Float).toModel.unpack == some .eq) := rfl
  rw [same, compare_zero decoded]
  by_cases zero : significand = 0 <;> cases negative <;> simp [zero]

/-- Parts that are those of a finite double are taken apart again. -/
theorem decode_ofMagnitude (least : leastExponent ≤ exponent) (greatest : exponent ≤ 971)
    (small : significand < 2 ^ 53) (normal : exponent = leastExponent ∨ 2 ^ 52 ≤ significand) :
    decode (ofMagnitude false ((exponent - leastExponent).toNat * 2 ^ 52 + significand)) =
      .finite false significand exponent := by
  obtain ⟨magnitude, same⟩ : ∃ magnitude, magnitude =
      (exponent - leastExponent).toNat * 2 ^ 52 + significand := ⟨_, rfl⟩
  rw [← same]
  unfold leastExponent at least normal same
  have bound : magnitude ≤ 2047 * 2 ^ 52 := by omega
  have sign : magnitude / 2 ^ 63 = 0 := by omega
  rw [decode_eq, toBits_ofMagnitude, Nat.min_eq_left bound, if_neg (by omega), sign]
  by_cases short : significand < 2 ^ 52
  · obtain rfl := normal.resolve_right (Nat.not_le_of_lt short)
    have fraction : magnitude % 2 ^ 52 = significand := by omega
    rw [if_pos (by omega), fraction]
    rfl
  · have fraction : 2 ^ 52 + magnitude % 2 ^ 52 = significand := by omega
    have unit : leastExponent + (magnitude / 2 ^ 52 % 2 ^ 11 : Nat) - 1 = exponent := by
      unfold leastExponent
      omega
    rw [if_neg (by omega), fraction, unit]
    rfl

/-- Only the sign is taken away from a finite double. -/
theorem decode_abs (decoded : decode number = .finite negative significand exponent) :
    decode number.abs = .finite false significand exponent := by
  obtain ⟨-, least, greatest, small, normal⟩ := bits_of_decode decoded
  let magnitude := (exponent - leastExponent).toNat * 2 ^ 52 + significand
  have parts : decode (ofMagnitude false magnitude) = .finite false significand exponent :=
    decode_ofMagnitude least greatest small normal
  have unsigned : number.toModel.unpack.abs = (ofMagnitude false magnitude).toModel.unpack := by
    rw [unpack_eq_decode, unpack_eq_decode, parts, decoded, Decoded.unpacked, Decoded.unpacked]
    split <;> rfl
  have taken : number.abs = ofMagnitude false magnitude := by
    show Float.ofModel (Float.Model.pack number.toModel.unpack.abs) = _
    rw [unsigned]
    exact pack_unpack_eq _
  rw [taken, parts]

end Avenger.Number
