import Avenger.Heap
import Avenger.Text.Quoted

/-!
# The text of a value

How a script shows a value.  A team shows its elements between brackets; a team met again
inside itself is marked instead of shown, so the text of every team is finite.
-/

namespace Avenger

namespace Heap

/-- What stands for a team inside itself. -/
def cycleMark : String := "[...]"

/-- The text of a value that is no team. -/
def plainValueText (heap : Heap) : Value → String
  | .null => "null"
  | .number value => Number.scriptText value
  | .boolean value => if value then "true" else "false"
  | .text value => value
  | .team _ => cycleMark
  | .routine id => "<function " ++ ((heap.routine? id).map (·.name)).getD "" ++ ">"
  | .native .. => "<native function>"
  | .stopped => "<break>"

/-- The text of a team inside the given ones, to the given depth. -/
def teamTextWithin (heap : Heap) : Nat → List TeamId → TeamId → String
  | 0, _, _ => cycleMark
  | depth + 1, outer, id =>
      if outer.contains id then cycleMark
      else
        let elements := ((heap.team? id).map (·.elements.toList)).getD []
        let texts := elements.map fun
          | .team inner => heap.teamTextWithin depth (id :: outer) inner
          | element => heap.plainValueText element
        "[" ++ ", ".intercalate texts ++ "]"

/-- The text of a team.  A path that repeats no team is no longer than there are teams, so
the depth suffices. -/
def teamText (heap : Heap) (id : TeamId) : String :=
  heap.teamTextWithin (heap.teams.size + 1) [] id

/-- The text of a value. -/
def valueText (heap : Heap) : Value → String
  | .team id => heap.teamText id
  | value => heap.plainValueText value

/-- The text of a value that shows what kind of value it is: strings are quoted, and numbers
have no exponent. -/
def inspectedText (heap : Heap) : Value → String
  | .text value => "String(" ++ Text.quoted value ++ ")"
  | .number value => "Number(" ++ Number.plainText value ++ ")"
  | .boolean value => "Boolean(" ++ (if value then "true" else "false") ++ ")"
  | value => heap.valueText value

end Heap

end Avenger
