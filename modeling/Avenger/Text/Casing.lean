import Avenger.Text.CaseTable
import Avenger.Text.Cased

/-!
# Lower and upper case

Full case mapping: an upper case may be longer than the character it comes from, and a
capital sigma at the end of a word has a lower case of its own.
-/

namespace Avenger.Text

/-- The code point that the first run with the given one moves it to, or itself. -/
def moveCase (runs : List CaseRun) (code : Nat) : Nat :=
  match runs.find? (·.contains code) with
  | some run => (code + run.distance).toNat
  | none => code

/-- The lower case of a character outside of any context. -/
def lowerOf (character : Char) : List Char :=
  if character == 'İ' then ['i', '\u0307']
  else [Char.ofNat (moveCase lowerRuns character.toNat)]

/-- The upper case of a character. -/
def upperOf (character : Char) : List Char :=
  match upperExpansions.find? (·.1 == character.toNat) with
  | some expansion => expansion.2.map Char.ofNat
  | none => [Char.ofNat (moveCase upperRuns character.toNat)]

/-- Whether the first character that is not case-ignorable is cased. -/
def meetsCased (characters : List Char) : Bool :=
  match characters.dropWhile isCaseIgnorable with
  | [] => false
  | character :: _ => isCased character

/-- The lower case of the last argument after the text in `done`, which is held in reverse.
The first argument holds the characters that come before, the nearest one first.  A capital
sigma ends a word if a cased character precedes it and none follows. -/
def lowerFrom (before done : List Char) : List Char → List Char
  | [] => done.reverse
  | character :: rest =>
      let lower :=
        if character == 'Σ' then
          if meetsCased before && !meetsCased rest then ['ς'] else ['σ']
        else lowerOf character
      lowerFrom (character :: before) (lower.reverse ++ done) rest

/-- A text in lower case. -/
def toLower (text : String) : String := String.ofList (lowerFrom [] [] text.toList)

/-- A text in upper case. -/
def toUpper (text : String) : String := String.ofList (text.toList.flatMap upperOf)

end Avenger.Text
