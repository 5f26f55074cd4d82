import Avenger.Eval.Element
import Avenger.Native.Apply
import Avenger.Value.Operator

/-!
# Plain values

Operators and native functions only ever give null, numbers, truth values and texts: values that
name no place of the heap.
-/

namespace Avenger

/-- A check that gives something good if it succeeds. -/
def Gives {α : Type} (good : α → Prop) (result : Except Fault α) : Prop :=
  ∀ value, result = .ok value → good value

namespace Gives

variable {α β : Type} {good other : α → Prop}

theorem ok {value : α} (is : good value) : Gives good (.ok value) := by
  rintro _ ⟨⟩
  exact is

theorem error (fault : Fault) : Gives good (.error fault) := nofun

theorem after {first : Except Fault β} {next : β → Except Fault α}
    (later : ∀ result, Gives good (next result)) : Gives good (first >>= next) := by
  cases first with
  | ok result => exact later result
  | error fault => exact error fault

theorem mono {result : Except Fault α} (gives : Gives good result)
    (implies : ∀ value, good value → other value) : Gives other result :=
  fun value is => implies value (gives value is)

end Gives

namespace Value

/-- Null, numbers, truth values and texts. -/
def Plain : Value → Prop
  | .null | .number _ | .boolean _ | .text _ => True
  | .team _ | .routine _ | .native _ _ | .stopped => False

@[simp] theorem plain_null : Value.null.Plain := trivial

@[simp] theorem plain_number (value : Float) : (Value.number value).Plain := trivial

@[simp] theorem plain_boolean (value : Bool) : (Value.boolean value).Plain := trivial

@[simp] theorem plain_text (value : String) : (Value.text value).Plain := trivial

theorem arithmetic_plain (operator : Arithmetic) (limit : Nat) (left right : Value) :
    Gives Plain (Value.arithmetic operator limit left right) := by
  have repeated (text : String) (count : Float) : Gives Plain (repetition text count limit) := by
    unfold repetition
    dsimp only
    split
    · exact .error _
    · exact .ok (plain_text _)
  unfold Value.arithmetic
  split
  · exact .ok (plain_number _)
  · split
    · exact .ok (plain_text _)
    · exact repeated _ _
    · exact .ok (plain_text _)
  · split
    · exact .ok (plain_text _)
    · exact repeated _ _
    · exact .ok (plain_text _)
  · exact .ok (plain_text _)
  · exact .ok plain_null

theorem compare_plain (operator : Comparison) (left right : Value) :
    (Value.compare operator left right).Plain := by
  unfold Value.compare
  split <;> simp

theorem connect_plain (operator : Connective) (left right : Value) :
    (Value.connect operator left right).Plain := by
  unfold Value.connect
  split <;> simp

theorem not_plain (value : Value) : value.not.Plain := by
  unfold Value.not
  split <;> simp

theorem minus_plain (value : Value) : Gives Plain value.minus := by
  unfold Value.minus
  split
  · exact .ok (plain_number _)
  · exact .error _

end Value

namespace Native

theorem length_plain (heap : Heap) (value : Value) : Gives Value.Plain (length heap value) := by
  unfold length
  split
  · exact .ok (Value.plain_number _)
  · exact .ok (Value.plain_number _)
  · exact .error _

theorem pureResult_plain (function : Native) (heap : Heap) (arguments : List Value) :
    Gives Value.Plain (function.pureResult heap arguments) := by
  have text (value : String) : Gives Value.Plain (.ok (.text value)) := .ok (Value.plain_text value)
  have number (value : Float) : Gives Value.Plain (.ok (.number value)) :=
    .ok (Value.plain_number value)
  unfold pureResult
  dsimp only
  split
  · exact text _
  · exact length_plain _ _
  · exact .after fun _ => .after fun _ => text _
  · refine .after fun _ => .after fun _ => ?_
    split
    · exact .after fun _ => text _
    · exact text _
  · exact .after fun _ => text _
  · exact .after fun _ => text _
  · exact .after fun _ => text _
  · refine .after fun _ => .after fun _ => ?_
    split
    · exact .after fun _ => number _
    · exact number _
  · exact .after fun _ => .after fun _ => .after fun _ => text _
  · refine .after fun _ => ?_
    split
    · exact .after fun _ => number _
    · exact number _
  · split
    · exact .after fun _ => number _
    · exact .after fun _ => .after fun _ => number _
    · exact .ok Value.plain_null

end Native

end Avenger
