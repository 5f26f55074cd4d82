import Avenger.Number.Decimal

/-!
# Reading numbers

A numeral is an optional sign before decimal digits with an optional point and an optional
exponent, or one of the words `inf`, `infinity` and `nan` in any case.  At least one digit
stands beside the point and at least one in an exponent.  A numeral names the double nearest
to it.
-/

namespace Avenger.Number

/-- The natural that decimal digits denote. -/
def ofDigits (digits : List Char) : Nat :=
  digits.foldl (fun value digit => 10 * value + (digit.toNat - '0'.toNat)) 0

namespace Numeral

/-- Splits a leading sign off; the first component holds for a minus. -/
def sign : List Char → Bool × List Char
  | '-' :: rest => (true, rest)
  | '+' :: rest => (false, rest)
  | characters => (false, characters)

/-- The exponent after the digits: empty, or `e` or `E` with an optional sign and digits. -/
def exponent? : List Char → Option Int
  | [] => some 0
  | mark :: rest =>
      let (negative, digits) := sign rest
      if (mark == 'e' || mark == 'E') && !digits.isEmpty && digits.all Char.isDigit then
        some (if negative then -(ofDigits digits : Int) else ofDigits digits)
      else none

/-- The fraction's digits, if a point follows, and what stands after them. -/
def fraction : List Char → List Char × List Char
  | '.' :: rest => rest.span Char.isDigit
  | characters => ([], characters)

/-- An unsigned decimal numeral. -/
def decimal? (characters : List Char) : Option Decimal :=
  let (whole, afterWhole) := characters.span Char.isDigit
  let (fractional, afterFraction) := fraction afterWhole
  if whole.isEmpty && fractional.isEmpty then none
  else
    (exponent? afterFraction).map fun exponent =>
      ⟨ofDigits (whole ++ fractional), exponent - fractional.length⟩

/-- The double that a numeral names. -/
def read? (characters : List Char) : Option Float :=
  let (negative, rest) := sign characters
  let word := String.ofList (rest.map Char.toLower)
  if word == "inf" || word == "infinity" then some (if negative then -1 / 0 else 1 / 0)
  else if word == "nan" then some (0 / 0)
  else (decimal? rest).map (Decimal.toFloat negative)

end Numeral

/-- Reads a text as a number. -/
def ofText? (text : String) : Option Float := Numeral.read? text.toList

end Avenger.Number
