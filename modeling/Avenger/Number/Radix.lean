import Avenger.Number.Whole
import Avenger.Text.Blank

/-!
# Whole numbers in any base

A text is read as a whole number in a base from 2 to 36: blanks, a sign, and then as many
digits of the base as there are.  In base 16, or when no base is given, a leading `0x` may
stand before the digits and makes the base 16.
-/

namespace Avenger.Number

/-- The value of a character as a digit, if it is one in the given base.  Letters of either
case go on after nine. -/
def digitIn? (base : Nat) (character : Char) : Option Nat :=
  let value :=
    if character.isDigit then some (character.toNat - '0'.toNat)
    else if character.isLower then some (character.toNat - 'a'.toNat + 10)
    else if character.isUpper then some (character.toNat - 'A'.toNat + 10)
    else none
  value.filter (· < base)

/-- The values of the longest run of digits at the front. -/
def leadingDigits (base : Nat) (characters : List Char) : List Nat :=
  (characters.takeWhile fun character => (digitIn? base character).isSome).filterMap
    (digitIn? base)

/-- The number that digits denote, computed in doubles. -/
def ofDigitValues (base : Nat) (digits : List Nat) : Float :=
  digits.foldl (fun value digit => value * ofNat base + ofNat digit) 0

/-- Takes a `0x` off the front, in either case. -/
def hexMark? : List Char → Option (List Char)
  | '0' :: 'x' :: rest => some rest
  | '0' :: 'X' :: rest => some rest
  | _ => none

/-- The base that a number stands for, if it is one of 2 to 36, and the characters that are
digits in it.  A NaN counts as zero, which leaves the base open. -/
def baseOf? (base : Float) (characters : List Char) : Option (Nat × List Char) :=
  match if base.isNaN then some 0 else integerPart? base with
  | none => none
  | some base =>
      if base = 0 ∨ base = 16 then
        match hexMark? characters with
        | some rest => some (16, rest)
        | none => some (if base = 0 then 10 else 16, characters)
      else if 2 ≤ base ∧ base ≤ 36 then some (base.toNat, characters)
      else none

/-- The whole number at the front of a text, or NaN if there is none. -/
def leadingInteger (text : List Char) (base : Float) : Float :=
  let (sign, unsigned) : Float × List Char :=
    match Text.trimStart text with
    | '-' :: rest => (-1, rest)
    | '+' :: rest => (1, rest)
    | characters => (1, characters)
  match baseOf? base unsigned with
  | none => 0 / 0
  | some (base, characters) =>
      match leadingDigits base characters with
      | [] => 0 / 0
      | digits => sign * ofDigitValues base digits

end Avenger.Number
