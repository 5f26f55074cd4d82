import Avenger.Number.Decimal

/-!
# The text of a number

A number is written with the shortest decimal that names it.  `Layout` collects the choices
that are left: the words for what is not finite, the sign of a zero, and the range of
magnitudes written without an exponent.  Scripts print by `Layout.script`; the few messages
that show a bare double print by `Layout.plain`.
-/

namespace Avenger.Number

/-- How numbers are written. -/
structure Layout where
  nan : String
  infinity : String
  /-- Whether a negative zero shows its sign. -/
  signedZero : Bool
  /-- The least and the greatest power of ten of a leading digit that is written by
  position; without a range every number is. -/
  positional : Option (Int × Int)

namespace Layout

/-- Scripts see `Infinity`, one zero, and exponents from `1e+21` on and below `0.000001`. -/
def script : Layout :=
  { nan := "NaN", infinity := "Infinity", signedZero := false, positional := some (-6, 20) }

/-- The plain text never has an exponent and shows the sign of a zero. -/
def plain : Layout :=
  { nan := "NaN", infinity := "inf", signedZero := true, positional := none }

/-- The decimal digits of a natural, the leading one first. -/
def digits (value : Nat) : List Char := Nat.toDigits 10 value

/-- The decimal by position: `120`, `1.5`, `0.002`. -/
def positionalText (decimal : Decimal) : List Char :=
  let written := digits decimal.coefficient
  if 0 ≤ decimal.exponent then written ++ List.replicate decimal.exponent.toNat '0'
  else
    let places := (-decimal.exponent).toNat
    if places < written.length then
      written.take (written.length - places) ++ '.' :: written.drop (written.length - places)
    else '0' :: '.' :: (List.replicate (places - written.length) '0' ++ written)

/-- The power of ten of the leading digit. -/
def leadingExponent (decimal : Decimal) : Int :=
  decimal.exponent + (digits decimal.coefficient).length - 1

/-- The decimal with one digit before the point and a signed exponent: `1.5e-7`, `1e+21`. -/
def exponentText (decimal : Decimal) : List Char :=
  let exponent := leadingExponent decimal
  let fraction :=
    match (digits decimal.coefficient).drop 1 with
    | [] => []
    | rest => '.' :: rest
  (digits decimal.coefficient).take 1 ++ fraction ++
    'e' :: (if 0 ≤ exponent then '+' else '-') :: digits exponent.natAbs

/-- The decimal in the form that the layout has for its magnitude. -/
def decimalText (layout : Layout) (decimal : Decimal) : List Char :=
  match layout.positional with
  | none => positionalText decimal
  | some (least, greatest) =>
      let exponent := leadingExponent decimal
      if least ≤ exponent ∧ exponent ≤ greatest then positionalText decimal
      else exponentText decimal

/-- The text of a double, as characters. -/
def characters (layout : Layout) (number : Float) : List Char :=
  match decode number with
  | .nan => layout.nan.toList
  | .infinite negative => if negative then '-' :: layout.infinity.toList else layout.infinity.toList
  | .finite negative 0 _ => if negative && layout.signedZero then ['-', '0'] else ['0']
  | .finite negative significand exponent =>
      let text := layout.decimalText (Decimal.shortest significand exponent)
      if negative then '-' :: text else text

/-- The text of a double. -/
def text (layout : Layout) (number : Float) : String :=
  String.ofList (layout.characters number)

end Layout

/-- The text of a number as scripts print it. -/
def scriptText (number : Float) : String := Layout.script.text number

/-- The text of a number without an exponent. -/
def plainText (number : Float) : String := Layout.plain.text number

end Avenger.Number
