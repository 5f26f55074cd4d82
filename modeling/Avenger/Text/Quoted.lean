import Avenger.Text.Escaped

/-!
# Quoted text

A text between double quotes in which every character can be told apart: quotes and
backslashes follow a backslash, some controls have a letter, and characters without a
shape of their own are shown by their code point in hexadecimal digits.
-/

namespace Avenger.Text

/-- The lower-case hexadecimal digits of a natural. -/
def hexDigits (value : Nat) : List Char := Nat.toDigits 16 value

/-- The form of one character between the quotes. -/
def quoteCharacter (character : Char) : List Char :=
  if character == '\x00' then ['\\', '0']
  else if character == '\t' then ['\\', 't']
  else if character == '\r' then ['\\', 'r']
  else if character == '\n' then ['\\', 'n']
  else if character == '"' then ['\\', '"']
  else if character == '\\' then ['\\', '\\']
  else if isShapeless character then
    ['\\', 'u', '\x7b'] ++ hexDigits character.toNat ++ ['\x7d']
  else [character]

/-- A text between double quotes. -/
def quoted (text : String) : String :=
  String.ofList ('"' :: (text.toList.flatMap quoteCharacter ++ ['"']))

end Avenger.Text
