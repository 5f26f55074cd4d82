import Avenger.World
import Avenger.Number.Whole
import Avenger.Text.Slice
import Avenger.Value.Text

/-!
# Elements of teams and characters of texts

Reading and writing by index, and making teams.
-/

namespace Avenger

namespace Value

/-- The position that an index stands for in a container of the given length: the index
must be a whole number from zero to below the length. -/
def position (container : Container) (length : Nat) : Value → Except Fault Nat
  | number index =>
      match Number.whole? index with
      | some position =>
          if position < length then .ok position else .error (.outOfRange index length)
      | none => .error (.outOfRange index length)
  | value => .error (.indexKind container value.kind)

/-- What a text slot is replaced by when a value is written to it. -/
def replacement (heap : Heap) : Value → Except Fault (List Char)
  | text value => .ok value.toList
  | number value => .ok (Number.scriptText value).toList
  | boolean value => .ok (heap.valueText (.boolean value)).toList
  | value => .error (.misuse (.writtenIntoText value.kind))

end Value

namespace Heap

/-- The elements of a team. -/
def elements (heap : Heap) (id : TeamId) : Array Value :=
  ((heap.team? id).map (·.elements)).getD #[]

/-- The member of a value at an index. -/
def member (heap : Heap) (object index : Value) : Except Fault Value :=
  match object with
  | .team id => do
      let elements := heap.elements id
      let position ← index.position .team elements.size
      return elements[position]?.getD .null
  | .text value => do
      let characters := value.toList
      let position ← index.position .text characters.length
      return .text ((characters[position]?.map Char.toString).getD "")
  | value => .error (.misuse (.indexed value.kind))

/-- A text with one character replaced by the text of a value. -/
def splicedText (heap : Heap) (text : String) (index value : Value) :
    Except Fault String := do
  let characters := text.toList
  let position ← index.position .text characters.length
  let replacement ← value.replacement heap
  return String.ofList (Text.splice characters position replacement)

end Heap

/-- The greatest size of a team. -/
def Team.greatestSize : Float := 10000000

/-- The size that a value stands for in the declaration of a team with `provided` values. -/
def Team.size (name : String) (provided : Nat) : Value → Except Fault Nat
  | .number size =>
      if Team.greatestSize < size then .error (.sizeTooLarge name size)
      else
        match Number.whole? size with
        | none | some 0 => .error (.sizeInvalid name size)
        | some slots =>
            if slots < provided then .error (.tooManyValues name slots provided)
            else .ok slots
  | value => .error (.sizeKind name value.kind)

/-- A team with the given values in its first slots and zero in all others. -/
def Team.make (name : String) (size : Nat) (values : List Value) : Team :=
  { name, elements := values.toArray ++ Array.replicate (size - values.length) (.number 0) }

namespace Eval

/-- Writes a value to an element of a team and gives it. -/
def writeElement (id : TeamId) (index value : Value) : Eval Value := do
  let position ← ofExcept
    (index.position .team (← readHeap fun heap => (heap.elements id).size))
  changeHeap (·.setElement id position value)
  return value

/-- Writes the text of a value to a character of a text that a variable held, assigns the
result to the variable and gives the value. -/
def writeCharacter (scope : ScopeId) (name text : String) (index value : Value) :
    Eval Value := do
  let spliced ← ofExcept (← readHeap (·.splicedText text index value))
  let _ ← assign scope name (.text spliced)
  return value

end Eval

end Avenger
