/-!
# Positions in a text

A text is a list of characters, and a position counts characters from zero, however many
bytes a character takes.
-/

namespace Avenger.Text

/-- The characters from position `start` up to, but not with, position `stop`. -/
def slice (characters : List Char) (start stop : Nat) : List Char :=
  (characters.drop start).take (stop - start)

/-- The first position at which `part` starts, where the characters given last start at
`position`. -/
def findFrom (part : List Char) (position : Nat) (characters : List Char) : Option Nat :=
  if part.isPrefixOf characters then some position
  else
    match characters with
    | [] => none
    | _ :: rest => findFrom part (position + 1) rest

/-- The first position from `start` on at which `part` starts. -/
def find? (characters part : List Char) (start : Nat) : Option Nat :=
  findFrom part start (characters.drop start)

/-- The text with the character at `position` replaced by other characters. -/
def splice (characters : List Char) (position : Nat) (replacement : List Char) : List Char :=
  characters.take position ++ (replacement ++ characters.drop (position + 1))

/-- The text written the given number of times. -/
def repeated (text : String) (copies : Nat) : String :=
  if text.isEmpty then "" else String.join (List.replicate copies text)

end Avenger.Text
