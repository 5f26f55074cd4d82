import Avenger.World
import Avenger.Value.Text
import Avenger.Number.Radix
import Avenger.Text.Casing
import Avenger.Text.Slice

/-!
# Calls of native functions

A native function first checks how many arguments it has, then what they are from left to
right, and then does its work.
-/

namespace Avenger.Native

/-- Fails unless a function can have the given number of arguments.  The number that was
expected is the bound that is not kept. -/
def checkArity (function : Native) (count : Nat) : Except Fault Unit :=
  let (least, greatest) := function.arity
  if count < least then .error (.arity function.name least count)
  else
    match greatest with
    | some greatest =>
        if greatest < count then .error (.arity function.name greatest count) else .ok ()
    | none => .ok ()

/-- The argument at a position. -/
def argument (arguments : List Value) (position : Nat) : Value :=
  arguments[position]?.getD .null

/-- The argument at a position, which must be a number. -/
def numberAt (function : Native) (arguments : List Value) (position : Nat) :
    Except Fault Float :=
  match argument arguments position with
  | .number value => .ok value
  | value => .error (.misuse (.argument function .number position value.kind))

/-- The argument at a position, which must be a text. -/
def textAt (function : Native) (arguments : List Value) (position : Nat) :
    Except Fault String :=
  match argument arguments position with
  | .text value => .ok value
  | value => .error (.misuse (.argument function .text position value.kind))

/-- The lesser of two numbers; a NaN is passed over, and of two equal ones the first is
taken. -/
def lesser (left right : Float) : Float :=
  if left.isNaN then right else if right < left then right else left

/-- The greater of two numbers; a NaN is passed over, and of two equal ones the first is
taken. -/
def greater (left right : Float) : Float :=
  if left.isNaN then right else if left < right then right else left

/-- The functions from a number to a number. -/
def unary? : Native → Option (Float → Float)
  | abs => some Float.abs
  | floor => some Float.floor
  | ceil => some Float.ceil
  | round => some fun number => Float.floor (number + 0.5)
  | sqrt => some Float.sqrt
  | sin => some Float.sin
  | cos => some Float.cos
  | tan => some Float.tan
  | iSin => some Float.asin
  | iCos => some Float.acos
  | iTan => some Float.atan
  | _ => none

/-- The functions from two numbers to a number. -/
def binary? : Native → Option (Float → Float → Float)
  | min => some lesser
  | max => some greater
  | pow => some Float.pow
  | _ => none

/-- Prints values, each on a line of its own, up to the first team. -/
def printAll : List Value → Eval Unit
  | [] => pure ()
  | .team _ :: _ => Eval.fail (.native .teamPrinted)
  | value :: values => do
      Eval.print (← Eval.readHeap (·.valueText value))
      printAll values

/-- Prints values, or an empty line if there are none. -/
def printValues (arguments : List Value) : Eval Value := do
  if arguments.isEmpty then Eval.print "" else printAll arguments
  return .null

/-- Fails unless two values of a kind that can be tested are the same. -/
def test (actual expected : Value) : Eval Value := do
  if actual.kind ≠ expected.kind then
    Eval.fail (.native (.testedKindsDiffer actual.kind expected.kind))
  else if actual.kind ∉ [Value.Kind.number, .text, .boolean] then
    Eval.fail (.native (.testedKind actual.kind))
  else if !actual.same expected then
    let heap ← Eval.readHeap id
    Eval.fail (.testFailed (heap.valueText expected) (heap.valueText actual))
  else
    Eval.print "✅Test passed!"
    return .boolean true

/-- The kind of a value as scripts see it, where native functions are functions. -/
def kindText : Value → String
  | .native .. => Value.Kind.routine.label
  | value => value.kind.label

/-- The length of a text in characters, or of a team in elements. -/
def length (heap : Heap) : Value → Except Fault Value
  | .text value => .ok (.number (Number.ofNat value.length))
  | .team id =>
      .ok (.number (Number.ofNat (((heap.team? id).map (·.elements.size)).getD 0)))
  | value => .error (.misuse (.argument len .textOrTeam 0 value.kind))

/-- The character at a position as a text, or the empty text if there is none.  A NaN
counts as zero. -/
def characterAt (text : String) (index : Float) : String :=
  let character? :=
    match if index.isNaN then some 0 else Number.integerPart? index with
    | some (.ofNat position) => text.toList[position]?
    | _ => none
  (character?.map Char.toString).getD ""

/-- The position at which `part` first starts from a position on, or minus one. -/
def indexIn (text part : String) (start : Float) : Float :=
  let characters := text.toList
  match Text.find? characters part.toList (Number.clamp start characters.length) with
  | some position => Number.ofNat position
  | none => -1

/-- The characters between two positions, which may come in either order. -/
def between (text : String) (first second : Float) : String :=
  let characters := text.toList
  let first := Number.clamp first characters.length
  let second := Number.clamp second characters.length
  String.ofList (Text.slice characters (Nat.min first second) (Nat.max first second))

/-- The result of a function that neither prints nor takes a reading. -/
def pureResult (function : Native) (heap : Heap) (arguments : List Value) :
    Except Fault Value := do
  let number := numberAt function arguments
  let text := textAt function arguments
  match function with
  | typeOf => return .text (kindText (argument arguments 0))
  | len => length heap (argument arguments 0)
  | charAt =>
      let whole ← text 0
      return .text (characterAt whole (← number 1))
  | concat =>
      let first ← text 0
      let second ← text 1
      let delimiter ← if 2 < arguments.length then text 2 else pure " "
      return .text (first ++ delimiter ++ second)
  | toLowerCase => return .text (Text.toLower (← text 0))
  | toUpperCase => return .text (Text.toUpper (← text 0))
  | trim => return .text (Text.trim (← text 0))
  | indexOf =>
      let whole ← text 0
      let part ← text 1
      let start ← if 2 < arguments.length then number 2 else pure 0
      return .number (indexIn whole part start)
  | subStr =>
      let whole ← text 0
      let first ← number 1
      return .text (between whole first (← number 2))
  | parseInt =>
      let digits ← text 0
      let base ← if 1 < arguments.length then number 1 else pure 0
      return .number (Number.leadingInteger digits.toList base)
  | _ =>
      match unary? function, binary? function with
      | some operation, _ => return .number (operation (← number 0))
      | none, some operation =>
          let first ← number 0
          return .number (operation first (← number 1))
      | none, none => return .null

/-- Calls a native function. -/
def apply (function : Native) (arguments : List Value) : Eval Value := do
  Eval.ofExcept (function.checkArity arguments.length)
  match function with
  | vision => printValues arguments
  | assertEqual => test (argument arguments 0) (argument arguments 1)
  | time => return .number (← Eval.readClock)
  | rand => return .number (← Eval.readChance)
  | _ => Eval.ofExcept (← Eval.readHeap (function.pureResult · arguments))

end Avenger.Native
