import Avenger.Proofs.Rounding

/-!
# Naturals among the doubles

Every natural below two to the fifty-third is a double, and a sum or product of such naturals that
stays below is computed exactly.  Above, results are rounded, but those of numbers that are not
negative are not negative either: they can become infinite, but never a NaN.
-/

namespace Avenger.Number

open Float.Model UnpackedFloat

variable {value left right : Nat} {number : Float}

/-! ### Taking doubles apart -/

/-- A double is what it is taken apart to. -/
theorem pack_unpack_eq (number : Float) :
    Float.ofModel (Float.Model.pack number.toModel.unpack) = number :=
  Float.ofBits_toBits number

/-- The significand of a natural that has fifty-three bits at most: its first bit is the
fifty-third. -/
def significand (value : Nat) : Nat := value * 2 ^ (52 - value.log2)

theorem log2_lt (positive : value ≠ 0) (small : value < 2 ^ 53) : value.log2 < 53 :=
  (Nat.log2_lt positive).mpr small

theorem significand_bounds (positive : value ≠ 0) (small : value < 2 ^ 53) :
    2 ^ 52 ≤ significand value ∧ significand value < 2 ^ 53 := by
  have bits := log2_lt positive small
  have low : 2 ^ 52 = 2 ^ value.log2 * 2 ^ (52 - value.log2) := by
    rw [← Nat.pow_add]
    congr 1
    omega
  have high : 2 ^ 53 = 2 ^ (value.log2 + 1) * 2 ^ (52 - value.log2) := by
    rw [← Nat.pow_add]
    congr 1
    omega
  constructor
  · rw [low]
    exact Nat.mul_le_mul_right _ (Nat.log2_self_le positive)
  · rw [high]
    exact Nat.mul_lt_mul_of_pos_right Nat.lt_log2_self (Nat.two_pow_pos _)

theorem significand_pos (positive : 0 < value) : 0 < significand value :=
  Nat.mul_pos positive (Nat.two_pow_pos _)

theorem roundHalfEven_one (numerator : Nat) : roundHalfEven numerator 1 = numerator := by
  simp [roundHalfEven, Nat.mod_one]

theorem magnitude_eq (positive : value ≠ 0) (small : value < 2 ^ 53) :
    magnitude value = (value.log2 + 1022) * 2 ^ 52 + significand value := by
  have bits := log2_lt positive small
  have ratio : scaleRatio value 1 ((value.log2 : Int) - 52) = (significand value, 1) := by
    unfold scaleRatio significand
    split
    · next negative =>
        have exponent : (-((value.log2 : Int) - 52)).toNat = 52 - value.log2 := by omega
        rw [exponent, twoTo_eq]
    · next whole =>
        have exponent : ((value.log2 : Int) - 52).toNat = 0 := by omega
        have none : 52 - value.log2 = 0 := by omega
        rw [exponent, none, twoTo_eq, Nat.pow_zero, Nat.mul_one, Nat.mul_one]
  unfold magnitude
  rw [if_neg positive, ratio]
  dsimp only
  rw [roundHalfEven_one]

theorem magnitude_zero : magnitude 0 = 0 := rfl

theorem magnitude_le (small : value < 2 ^ 53) : magnitude value ≤ 2047 * 2 ^ 52 := by
  by_cases zero : value = 0
  · simp [zero, magnitude_zero]
  have bits := log2_lt zero small
  have bounds := significand_bounds zero small
  rw [magnitude_eq zero small]
  omega

/-- A natural below two to the fifty-third with a sign, as a double that has been taken apart. -/
def exactly (sign : Sign) (value : Nat) : UnpackedFloat :=
  if positive : 0 < value then
    .finite sign (significand value) (value.log2 - 52) (significand_pos positive)
  else .zero sign

theorem unpack_ofNat (small : value < 2 ^ 53) :
    (ofNat value).toModel.unpack = exactly .positive value := by
  rw [ofNat_eq, unpack_ofMagnitude, Nat.min_eq_left (magnitude_le small)]
  unfold exactly
  split
  · next positive =>
      have positive' := Nat.pos_iff_ne_zero.mp positive
      have bits := log2_lt positive' small
      have bounds := significand_bounds positive' small
      have quotient : magnitude value / 2 ^ 52 = value.log2 + 1023 := by
        rw [magnitude_eq positive' small]
        omega
      have rest : 2 ^ 52 + magnitude value % 2 ^ 52 = significand value := by
        rw [magnitude_eq positive' small]
        omega
      have exponent : ((magnitude value / 2 ^ 52 : Nat) : Int) - 1075 = value.log2 - 52 := by
        omega
      unfold unpacked
      rw [if_neg (by omega), if_neg (by omega)]
      simp only [rest, exponent]
  · next none =>
      obtain rfl : value = 0 := by omega
      rfl

theorem ofModel_pack_exactly (small : value < 2 ^ 53) :
    Float.ofModel (Float.Model.pack (exactly .positive value)) = ofNat value := by
  rw [← unpack_ofNat small, pack_unpack_eq]

theorem neg_ofNat (small : value < 2 ^ 53) :
    -ofNat value = Float.ofModel (Float.Model.pack (exactly .negative value)) := by
  show Float.ofModel (Float.Model.pack (ofNat value).toModel.unpack.neg) = _
  rw [unpack_ofNat small]
  unfold exactly
  split <;> rfl

/-! ### Exact rounding -/

theorem shiftRight_exact (mantissa shift : Nat) :
    (ExtendedMantissa.mk (mantissa * 2 ^ shift) false false >>> shift) =
      ExtendedMantissa.mk mantissa false false := by
  induction shift generalizing mantissa with
  | zero => rw [Nat.pow_zero, Nat.mul_one]; rfl
  | succ shift induction =>
      have doubled : mantissa * 2 ^ (shift + 1) = mantissa * 2 * 2 ^ shift := by
        rw [Nat.pow_succ, Nat.mul_assoc, Nat.mul_comm 2]
      have step : (ExtendedMantissa.mk (mantissa * 2 * 2 ^ shift) false false >>> (shift + 1)) =
          ExtendedMantissa.shiftRightOne
            (ExtendedMantissa.mk (mantissa * 2 * 2 ^ shift) false false >>> shift) := rfl
      rw [doubled, step, induction]
      simp [ExtendedMantissa.shiftRightOne]

theorem log2_mul_pow {mantissa : Nat} (low : 2 ^ 52 ≤ mantissa) (high : mantissa < 2 ^ 53)
    (shift : Nat) : (mantissa * 2 ^ shift).log2 = 52 + shift := by
  have positive : mantissa * 2 ^ shift ≠ 0 :=
    Nat.mul_ne_zero (by omega) (Nat.two_pow_pos shift).ne'
  rw [Nat.log2_eq_iff positive]
  constructor
  · rw [Nat.pow_add]
    exact Nat.mul_le_mul_right _ low
  · rw [Nat.add_right_comm, Nat.pow_add]
    exact Nat.mul_lt_mul_of_pos_right high (Nat.two_pow_pos _)

section Rounding

variable {sign : Sign} {mantissa : Nat} {exponent : Int} (low : 2 ^ 52 ≤ mantissa)
  (high : mantissa < 2 ^ 53) (least : -1074 ≤ exponent)

include low high least

theorem targetExponent_exact (shift : Nat) :
    Format.binary64.targetExponent
      (totalExponent (mantissa * 2 ^ shift) (exponent - shift)) = exponent := by
  unfold Format.targetExponent totalExponent
  rw [log2_mul_pow low high]
  have width : Format.binary64.mantissaBits = 53 := rfl
  have lowest : Format.binary64.minExponent = -1074 := rfl
  omega

theorem shiftToTargetExponent_exact (shift : Nat) :
    shiftToTargetExponent Format.binary64 (mantissa * 2 ^ shift) (exponent - shift) .exact =
      (⟨mantissa, false, false⟩, exponent) := by
  have amount : (exponent - (exponent - shift)).toNat = shift := by omega
  unfold shiftToTargetExponent shiftToExponent
  rw [targetExponent_exact low high least]
  dsimp only
  rw [amount]
  refine Prod.ext ?_ ?_
  · exact shiftRight_exact mantissa shift
  · dsimp only
    omega

/-- A significand with zeros behind it is rounded to itself. -/
theorem roundWithAccuracy_exact (shift : Nat) (positive : 0 < mantissa) :
    roundWithAccuracy Format.binary64 sign (mantissa * 2 ^ shift) (exponent - shift) .exact =
      .finite sign mantissa exponent positive := by
  have first := shiftToTargetExponent_exact low high least shift
  have second := shiftToTargetExponent_exact low high least 0
  rw [Nat.pow_zero, Nat.mul_one, Int.natCast_zero, Int.sub_zero] at second
  have rounded : (ExtendedMantissa.mk mantissa false false).roundedMantissa = mantissa := rfl
  unfold roundWithAccuracy
  rw [first]
  dsimp only
  rw [rounded, second]
  exact dif_neg positive.ne'

theorem round_exact (shift : Nat) (positive : 0 < mantissa) :
    UnpackedFloat.round Format.binary64 sign (mantissa * 2 ^ shift) (exponent - shift) =
      .finite sign mantissa exponent positive := by
  have amount : (exponent - shift - exponent).toNat = 0 := by omega
  unfold UnpackedFloat.round decreaseExponent
  rw [targetExponent_exact low high least]
  dsimp only
  rw [amount, Nat.shiftLeft_zero, Int.natCast_zero, Int.sub_zero]
  exact roundWithAccuracy_exact low high least shift positive

end Rounding

/-! ### Products and sums

The parts of a product or sum come out as a natural times a power of two, in units so small that
they show every bit of a significand.
-/

section Units

variable {sign : Sign} {places : Nat} (units : 52 ≤ value.log2 + places)

include units

theorem significand_mul (bits : value.log2 < 53) :
    value * 2 ^ places = significand value * 2 ^ (value.log2 + places - 52) := by
  unfold significand
  rw [Nat.mul_assoc, ← Nat.pow_add]
  congr 2
  omega

theorem units_eq :
    (-places : Int) = (value.log2 : Int) - 52 - (value.log2 + places - 52 : Nat) := by
  omega

theorem roundWithAccuracy_natural (positive : 0 < value) (small : value < 2 ^ 53) :
    roundWithAccuracy Format.binary64 sign (value * 2 ^ places) (-places) .exact =
      .finite sign (significand value) (value.log2 - 52) (significand_pos positive) := by
  have bits := log2_lt positive.ne' small
  have bounds := significand_bounds positive.ne' small
  rw [significand_mul units bits, units_eq units]
  exact roundWithAccuracy_exact bounds.1 bounds.2 (by omega) _ _

theorem round_natural (positive : 0 < value) (small : value < 2 ^ 53) :
    UnpackedFloat.round Format.binary64 sign (value * 2 ^ places) (-places) =
      .finite sign (significand value) (value.log2 - 52) (significand_pos positive) := by
  have bits := log2_lt positive.ne' small
  have bounds := significand_bounds positive.ne' small
  rw [significand_mul units bits, units_eq units]
  exact round_exact bounds.1 bounds.2 (by omega) _ _

theorem decreaseExponent_significand (small : value.log2 < 53) :
    decreaseExponent (significand value) (value.log2 - 52) (-places) =
      (value * 2 ^ places, (-places : Int)) := by
  have amount : ((value.log2 : Int) - 52 - -places).toNat = value.log2 + places - 52 := by omega
  unfold decreaseExponent
  rw [amount]
  dsimp only
  rw [Nat.shiftLeft_eq, ← significand_mul units small, units_eq units]

end Units

theorem normalize_natural {mantissa : Nat} {exponent : Int} (positive : 0 < mantissa) :
    UnpackedFloat.normalize Format.binary64 mantissa exponent .positive =
      UnpackedFloat.round Format.binary64 .positive mantissa exponent := by
  have above : compare (mantissa : Int) 0 = .gt := by
    rw [Int.compare_eq_gt]
    exact Int.natCast_pos.mpr positive
  unfold UnpackedFloat.normalize
  rw [above]
  rfl

theorem log2_mul_ge (positive : left ≠ 0) (positive' : right ≠ 0) :
    left.log2 + right.log2 ≤ (left * right).log2 := by
  rw [Nat.le_log2 (Nat.mul_ne_zero positive positive'), Nat.pow_add]
  exact Nat.mul_le_mul (Nat.log2_self_le positive) (Nat.log2_self_le positive')

theorem log2_add_ge (positive : left ≠ 0) : left.log2 ≤ (left + right).log2 := by
  rw [Nat.le_log2 (by omega)]
  exact Nat.le_trans (Nat.log2_self_le positive) (Nat.le_add_right _ _)

theorem mul_exactly (sign sign' : Sign) (small : left * right < 2 ^ 53) :
    UnpackedFloat.mul Format.binary64 (exactly sign left) (exactly sign' right) =
      exactly (sign * sign') (left * right) := by
  by_cases positive : 0 < left
  · by_cases positive' : 0 < right
    · have product : 0 < left * right := Nat.mul_pos positive positive'
      have atLeast := log2_mul_ge positive.ne' positive'.ne'
      have atMost := log2_lt product.ne' small
      have mantissas : significand left * significand right =
          left * right * 2 ^ (104 - left.log2 - right.log2) := by
        have split : 104 - left.log2 - right.log2 = 52 - left.log2 + (52 - right.log2) := by omega
        unfold significand
        rw [split, Nat.pow_add]
        ring
      have exponents : (left.log2 - 52 : Int) + (right.log2 - 52) =
          -(104 - left.log2 - right.log2 : Nat) := by
        omega
      unfold exactly
      rw [dif_pos positive, dif_pos positive', dif_pos product]
      unfold UnpackedFloat.mul
      dsimp only
      rw [mantissas, exponents]
      exact roundWithAccuracy_natural (by omega) product small
    · obtain rfl : right = 0 := by omega
      unfold exactly
      rw [dif_pos positive]
      rfl
  · obtain rfl : left = 0 := by omega
    have none : ¬ 0 < 0 * right := by omega
    unfold exactly
    rw [dif_neg positive, dif_neg none]
    split <;> rfl

theorem add_exactly (small : left + right < 2 ^ 53) :
    UnpackedFloat.add Format.binary64 (exactly .positive left) (exactly .positive right) =
      exactly .positive (left + right) := by
  by_cases positive : 0 < left
  · by_cases positive' : 0 < right
    · have sum : 0 < left + right := by omega
      have bits := log2_lt positive.ne' (by omega)
      have bits' := log2_lt positive'.ne' (by omega)
      have atLeast := @log2_add_ge left right positive.ne'
      -- The unit of the sum is that of the smaller part.
      obtain ⟨places, least⟩ : ∃ places, places = 52 - min left.log2 right.log2 := ⟨_, rfl⟩
      have unit : min ((left.log2 : Int) - 52) (right.log2 - 52) = -places := by omega
      have mantissas : Sign.positive.apply (left * 2 ^ places : Nat) +
          Sign.positive.apply (right * 2 ^ places : Nat) =
            (((left + right) * 2 ^ places : Nat) : Int) := by
        rw [Nat.add_mul, Int.natCast_add]
        rfl
      unfold exactly
      rw [dif_pos positive, dif_pos positive', dif_pos sum]
      unfold UnpackedFloat.add
      dsimp only
      rw [unit, decreaseExponent_significand (by omega) bits,
        decreaseExponent_significand (by omega) bits']
      dsimp only
      rw [mantissas, normalize_natural (Nat.mul_pos sum (Nat.two_pow_pos _))]
      exact round_natural (by omega) sum small
    · obtain rfl : right = 0 := by omega
      rw [Nat.add_zero]
      unfold exactly
      rw [dif_pos positive]
      rfl
  · obtain rfl : left = 0 := by omega
    rw [Nat.zero_add]
    unfold exactly
    rw [dif_neg positive]
    split <;> rfl

theorem mul_eq (left right : Float) :
    left * right = Float.ofModel (Float.Model.pack
      (UnpackedFloat.mul Format.binary64 left.toModel.unpack right.toModel.unpack)) := rfl

theorem add_eq (left right : Float) :
    left + right = Float.ofModel (Float.Model.pack
      (UnpackedFloat.add Format.binary64 left.toModel.unpack right.toModel.unpack)) := rfl

theorem ofNat_mul (small : left < 2 ^ 53) (small' : right < 2 ^ 53)
    (product : left * right < 2 ^ 53) :
    ofNat left * ofNat right = ofNat (left * right) := by
  rw [mul_eq, unpack_ofNat small, unpack_ofNat small', mul_exactly _ _ product]
  exact ofModel_pack_exactly product

theorem ofNat_add (sum : left + right < 2 ^ 53) :
    ofNat left + ofNat right = ofNat (left + right) := by
  rw [add_eq, unpack_ofNat (by omega), unpack_ofNat (by omega), add_exactly sum]
  exact ofModel_pack_exactly sum

theorem ofNat_zero : ofNat 0 = 0 := by rfl

theorem ofNat_one : ofNat 1 = 1 := by rfl

theorem one_mul_ofNat (small : value < 2 ^ 53) : 1 * ofNat value = ofNat value := by
  rw [← ofNat_one, ofNat_mul (by omega) small (by omega), Nat.one_mul]

theorem unpack_one : (1 : Float).toModel.unpack = exactly .positive 1 := by rfl

theorem unpack_neg_one : (-1 : Float).toModel.unpack = exactly .negative 1 := by rfl

theorem neg_one_mul_ofNat (small : value < 2 ^ 53) : -1 * ofNat value = -ofNat value := by
  rw [neg_ofNat small, mul_eq, unpack_neg_one, unpack_ofNat small, mul_exactly _ _ (by omega),
    Nat.one_mul]
  rfl

/-! ### Numbers that are not a NaN -/

theorem isNaN_eq (number : Float) : number.isNaN = number.toModel.unpack.isNaN := rfl

theorem isNaN_unpack {format : Format} (sign : Sign) (exponent : BitVec format.exponentBits)
    (mantissa : BitVec format.mantissaBitsWithoutImplicit) :
    (UnpackedFloat.unpack format (packComponents format sign exponent mantissa)).isNaN =
      decide (exponent = -1#_ ∧ mantissa ≠ 0#_) := by
  unfold UnpackedFloat.unpack
  dsimp only
  simp only [unpackMantissa_packComponents, unpackExponent_packComponents]
  by_cases largest : exponent = -1#_
  · by_cases none : mantissa = 0#_
    · rw [if_pos largest, if_pos none, decide_eq_false (fun both => both.2 none)]
      rfl
    · rw [if_pos largest, if_neg none, decide_eq_true ⟨largest, none⟩]
      rfl
  · rw [if_neg largest, decide_eq_false (fun both => largest both.1)]
    by_cases least : exponent = 0#_
    · rw [if_pos least]
      by_cases none : mantissa = 0#_
      · rw [dif_pos none]
        rfl
      · rw [dif_neg none]
        rfl
    · rw [if_neg least]
      rfl

theorem isNaN_unpack_pack (unpacked : UnpackedFloat) :
    (UnpackedFloat.unpack Format.binary64
      (UnpackedFloat.pack Format.binary64 unpacked)).isNaN = unpacked.isNaN := by
  cases unpacked with
  | notANumber => exact congrArg UnpackedFloat.isNaN unpack_packedNaN
  | infinity sign => exact isNaN_unpack sign _ _
  | zero sign => exact isNaN_unpack sign _ _
  | finite sign mantissa exponent positive =>
      unfold UnpackedFloat.pack
      dsimp only
      split
      · exact isNaN_unpack sign _ _
      · next inRange =>
          split
          · refine (isNaN_unpack sign _ _).trans (decide_eq_false fun largest => ?_)
            have largest := congrArg BitVec.toNat largest.1
            have full : BitVec.toNat (-1#_ : BitVec Format.binary64.exponentBits) = 2047 := rfl
            have power : 2 ^ Format.binary64.exponentBits = 2048 := rfl
            rw [full, BitVec.toNat_ofNat] at largest
            omega
          · exact isNaN_unpack sign _ _

theorem isNaN_ofModel_pack (unpacked : UnpackedFloat) :
    (Float.ofModel (Float.Model.pack unpacked)).isNaN = unpacked.isNaN :=
  isNaN_unpack_pack unpacked

theorem isNaN_roundWithAccuracy (sign : Sign) (mantissa : Nat) (exponent : Int)
    (accuracy : Accuracy) :
    (roundWithAccuracy Format.binary64 sign mantissa exponent accuracy).isNaN = false := by
  unfold roundWithAccuracy
  dsimp only
  split <;> rfl

theorem isNaN_normalize (mantissa exponent : Int) (sign : Sign) :
    (UnpackedFloat.normalize Format.binary64 mantissa exponent sign).isNaN = false := by
  unfold UnpackedFloat.normalize
  split
  · exact isNaN_roundWithAccuracy ..
  · rfl
  · exact isNaN_roundWithAccuracy ..

theorem sign_mul_comm (sign sign' : Sign) : sign * sign' = sign' * sign := by
  cases sign <;> cases sign' <;> rfl

protected theorem mul_comm (left right : Float) : left * right = right * left := by
  rw [mul_eq, mul_eq]
  congr 2
  cases left.toModel.unpack <;> cases right.toModel.unpack <;>
    simp [UnpackedFloat.mul, sign_mul_comm, Nat.mul_comm, Int.add_comm]

theorem isNaN_exactly_mul {factor : Float} {sign : Sign} (positive : 0 < value)
    (taken : factor.toModel.unpack = exactly sign value) :
    (factor * number).isNaN = number.isNaN := by
  rw [mul_eq, isNaN_ofModel_pack, taken, isNaN_eq]
  unfold exactly
  rw [dif_pos positive]
  cases number.toModel.unpack with
  | finite => exact isNaN_roundWithAccuracy ..
  | _ => rfl

theorem isNaN_mul_ofNat (positive : 0 < value) (small : value < 2 ^ 53) :
    (number * ofNat value).isNaN = number.isNaN := by
  rw [Number.mul_comm]
  exact isNaN_exactly_mul positive (unpack_ofNat small)

theorem isNaN_add_ofNat (small : value < 2 ^ 53) :
    (number + ofNat value).isNaN = number.isNaN := by
  rw [add_eq, isNaN_ofModel_pack, unpack_ofNat small, isNaN_eq]
  unfold exactly
  cases number.toModel.unpack with
  | finite =>
      split
      · exact isNaN_normalize ..
      · rfl
  | zero sign =>
      split
      · rfl
      · cases sign <;> rfl
  | _ => split <;> rfl

end Avenger.Number
