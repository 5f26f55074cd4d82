import Avenger.Number.Binary

/-!
# Shortest decimals

`Decimal.shortest` writes a positive double with as few decimal digits as still name that
double.  The reals that round to a double form an interval around it, whose ends belong to
it exactly if its significand is even.  For one digit, two digits and so on the two
neighbours of the double among the decimals of that many digits are tried, in exact
arithmetic on naturals; the first count of digits with a neighbour in the interval wins,
of two such neighbours the nearer one, and the larger of two equally near.  Seventeen
digits always suffice.
-/

namespace Avenger.Number

/-- The number `coefficient * 10 ^ exponent`. -/
structure Decimal where
  coefficient : Nat
  exponent : Int
  deriving DecidableEq

namespace Decimal

/-- How many decimal digits a natural has; zero has one. -/
def digitCount (value : Nat) : Nat :=
  if value < 10 then 1 else digitCount (value / 10) + 1

/-- A positive double with the reals that round to it, as naturals over one denominator. -/
structure Neighbourhood where
  value : Nat
  lower : Nat
  upper : Nat
  denominator : Nat
  /-- Whether the two ends round to the double as well. -/
  closed : Bool

/-- The neighbourhood of `significand * 2 ^ exponent`.  Below a power of two the doubles
lie twice as close as above it. -/
def Neighbourhood.ofDouble (significand : Nat) (exponent : Int) : Neighbourhood :=
  let scaled (quarters : Nat) : Nat :=
    if exponent < 0 then quarters else quarters * twoTo exponent.toNat
  let below := if significand = twoTo 52 ∧ leastExponent < exponent then 1 else 2
  { value := scaled (4 * significand)
    lower := scaled (4 * significand - below)
    upper := scaled (4 * significand + 2)
    denominator := if exponent < 0 then 4 * twoTo (-exponent).toNat else 4
    closed := significand % 2 == 0 }

namespace Neighbourhood

/-- The integer `k` with `10 ^ (k - 1) ≤ value < 10 ^ k`. -/
def magnitude (around : Neighbourhood) : Int :=
  if around.denominator ≤ around.value then
    digitCount (around.value / around.denominator)
  else
    1 - (digitCount ((around.denominator - 1) / around.value) : Int)

/-- The ratio `value / 10 ^ exponent` as a numerator and a denominator. -/
def inUnits (around : Neighbourhood) (value : Nat) (exponent : Int) : Nat × Nat :=
  if exponent < 0 then (value * tenTo (-exponent).toNat, around.denominator)
  else (value, around.denominator * tenTo exponent.toNat)

/-- Whether `coefficient * 10 ^ exponent` rounds to the double. -/
def holds (around : Neighbourhood) (coefficient : Nat) (exponent : Int) : Bool :=
  let lower := around.inUnits around.lower exponent
  let upper := around.inUnits around.upper exponent
  if around.closed then
    lower.1 ≤ coefficient * lower.2 && coefficient * upper.2 ≤ upper.1
  else
    lower.1 < coefficient * lower.2 && coefficient * upper.2 < upper.1

/-- The decimal in units of `10 ^ exponent` that names the double, if there is one: the
nearer of the two around the value, and the larger of two equally near. -/
def decimal? (around : Neighbourhood) (exponent : Int) : Option Nat :=
  let scaled := around.inUnits around.value exponent
  let down := scaled.1 / scaled.2
  let up := down + 1
  match around.holds down exponent, around.holds up exponent with
  | true, true => some (if 2 * (scaled.1 % scaled.2) < scaled.2 then down else up)
  | true, false => some down
  | false, true => some up
  | false, false => none

/-- Tries the given number of digit counts, starting with the units `10 ^ exponent`. -/
def search (around : Neighbourhood) : Nat → Int → Decimal
  | 0, exponent =>
      let scaled := around.inUnits around.value exponent
      ⟨scaled.1 / scaled.2, exponent⟩
  | tries + 1, exponent =>
      match around.decimal? exponent with
      | some coefficient => ⟨coefficient, exponent⟩
      | none => around.search tries (exponent - 1)

end Neighbourhood

/-- The same number with ten units written as one unit of the next larger size. -/
def carry (decimal : Decimal) : Decimal :=
  if decimal.coefficient = 10 then ⟨1, decimal.exponent + 1⟩ else decimal

/-- The decimal with the fewest digits that rounds to `significand * 2 ^ exponent`, and of
those the nearest. -/
def shortest (significand : Nat) (exponent : Int) : Decimal :=
  let around := Neighbourhood.ofDouble significand exponent
  (around.search 17 (around.magnitude - 1)).carry

/-- The double nearest to a decimal.  A power of ten too large or too small to matter is
not computed. -/
def toFloat (negative : Bool) (decimal : Decimal) : Float :=
  let top := decimal.exponent + digitCount decimal.coefficient
  if decimal.coefficient = 0 || top < -400 then ofMagnitude negative 0
  else if 400 < top then ofMagnitude negative (twoTo 63)
  else if decimal.exponent < 0 then
    nearest negative decimal.coefficient (tenTo (-decimal.exponent).toNat)
  else nearest negative (decimal.coefficient * tenTo decimal.exponent.toNat) 1

end Decimal

end Avenger.Number
