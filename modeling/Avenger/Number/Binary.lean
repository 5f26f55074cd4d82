/-!
# Doubles as integers

A finite double is a signed integer times a power of two.  `Number.decode` takes a
double apart in that form and `Number.nearest` goes back from any positive ratio of
naturals to the double nearest to it.  All arithmetic between the two is exact, on
naturals and integers of any size.
-/

namespace Avenger.Number

/-- The power of two with the given exponent. -/
def twoTo (exponent : Nat) : Nat := Nat.pow 2 exponent

/-- The power of ten with the given exponent. -/
def tenTo (exponent : Nat) : Nat := Nat.pow 10 exponent

/-- What a double stands for.  A finite one is `significand * 2 ^ exponent`, negated when
`negative` holds; a zero keeps its sign. -/
inductive Decoded where
  | nan
  | infinite (negative : Bool)
  | finite (negative : Bool) (significand : Nat) (exponent : Int)
  deriving DecidableEq

/-- The exponent of the smallest positive double. -/
def leastExponent : Int := -1074

/-- Reads the sign, the eleven exponent bits and the fifty-two fraction bits. -/
def decode (number : Float) : Decoded :=
  let bits := number.toBits.toNat
  let negative := bits / twoTo 63 == 1
  let biased : Nat := bits / twoTo 52 % twoTo 11
  let fraction : Nat := bits % twoTo 52
  if biased = twoTo 11 - 1 then
    if fraction = 0 then .infinite negative else .nan
  else if biased = 0 then
    .finite negative fraction leastExponent
  else .finite negative (twoTo 52 + fraction) (leastExponent + biased - 1)

/-- The double with the given sign and the given bits below the sign; too large a
magnitude is infinite. -/
def ofMagnitude (negative : Bool) (magnitude : Nat) : Float :=
  let infinity := (twoTo 11 - 1) * twoTo 52
  let sign := if negative then twoTo 63 else 0
  Float.ofBits (sign + min magnitude infinity).toUInt64

/-- `numerator / denominator` rounded to the nearest natural, a half to the even one. -/
def roundHalfEven (numerator denominator : Nat) : Nat :=
  let quotient := numerator / denominator
  let rest := numerator % denominator
  if 2 * rest < denominator then quotient
  else if denominator < 2 * rest then quotient + 1
  else quotient + quotient % 2

/-- The ratio `numerator / (denominator * 2 ^ exponent)` as a numerator and a denominator. -/
def scaleRatio (numerator denominator : Nat) (exponent : Int) : Nat × Nat :=
  if exponent < 0 then (numerator * twoTo (-exponent).toNat, denominator)
  else (numerator, denominator * twoTo exponent.toNat)

/-- The exponent at which the ratio, written in units of `2 ^ exponent`, has fifty-three
bits before the point, or the least exponent if that is larger. -/
def unitExponent (numerator denominator : Nat) : Int :=
  let guess : Int := (numerator.log2 : Int) - denominator.log2 - 53
  let scaled := scaleRatio numerator denominator guess
  let exponent := if scaled.1 / scaled.2 < twoTo 53 then guess else guess + 1
  max exponent leastExponent

/-- The double nearest to `numerator / denominator`, of two equally near ones that with
the even significand. -/
def nearest (negative : Bool) (numerator denominator : Nat) : Float :=
  if numerator = 0 then ofMagnitude negative 0
  else
    let exponent := unitExponent numerator denominator
    let scaled := scaleRatio numerator denominator exponent
    let significand := roundHalfEven scaled.1 scaled.2
    ofMagnitude negative ((exponent - leastExponent).toNat * twoTo 52 + significand)

/-- The double nearest to `significand * 2 ^ exponent`. -/
def ofDyadic (negative : Bool) (significand : Nat) (exponent : Int) : Float :=
  if exponent < 0 then nearest negative significand (twoTo (-exponent).toNat)
  else nearest negative (significand * twoTo exponent.toNat) 1

/-- The double nearest to a natural. -/
def ofNat (value : Nat) : Float := nearest false value 1

end Avenger.Number
