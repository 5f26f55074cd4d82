import Avenger.Number.Binary

/-!
# Whole numbers among the doubles

Positions, sizes and counts of a script are doubles.  This module says which of them are
naturals, what is left of the others when the fraction is dropped, and what remains after
an exact division.
-/

namespace Avenger.Number

/-- The largest natural not above `significand * 2 ^ exponent`. -/
def floorMagnitude (significand : Nat) (exponent : Int) : Nat :=
  if exponent < 0 then significand / twoTo (-exponent).toNat
  else significand * twoTo exponent.toNat

/-- The integer left when the fraction is dropped; infinities and NaN leave none. -/
def integerPart? (number : Float) : Option Int :=
  match decode number with
  | .finite negative significand exponent =>
      let magnitude := floorMagnitude significand exponent
      some (if negative then -magnitude else magnitude)
  | _ => none

/-- The natural that a double equals, if it equals one.  Both zeros equal zero. -/
def whole? (number : Float) : Option Nat :=
  match decode number with
  | .finite negative significand exponent =>
      let magnitude := floorMagnitude significand exponent
      let exact := exponent ≥ 0 || significand % twoTo (-exponent).toNat == 0
      if exact && (!negative || significand == 0) then some magnitude else none
  | _ => none

/-- The number without its fraction.  The sign is kept, also of a zero. -/
def truncate (number : Float) : Float :=
  match decode number with
  | .finite negative significand exponent =>
      if exponent < 0 then ofDyadic negative (floorMagnitude significand exponent) 0
      else number
  | _ => number

/-- Moves a number into the positions from zero to `length`: fractions are dropped, and a
NaN counts as zero.  The length is compared as a double. -/
def clamp (number : Float) (length : Nat) : Nat :=
  match decode number with
  | .nan => 0
  | .infinite negative => if negative then 0 else length
  | .finite negative significand exponent =>
      if negative then 0
      else if ofNat length ≤ number then length
      else min (floorMagnitude significand exponent) length

/-- What remains of `dividend` after taking away whole multiples of `divisor`, exactly.
The result has the sign of the dividend; without a finite dividend and a divisor other
than zero there is none. -/
def remainder (dividend divisor : Float) : Float :=
  match decode dividend, decode divisor with
  | .finite negative significand exponent, .finite _ significand' exponent' =>
      if significand' = 0 then 0 / 0
      else
        let unit := min exponent exponent'
        let left := significand * twoTo (exponent - unit).toNat
        let right := significand' * twoTo (exponent' - unit).toNat
        ofDyadic negative (left % right) unit
  | .finite .., .infinite _ => dividend
  | _, _ => 0 / 0

end Avenger.Number
