import Avenger.Fault
import Avenger.Number.Whole
import Avenger.Text.Slice

/-!
# Operators on values

Arithmetic on numbers is that of doubles.  Between a number and a text, addition writes the
number into the text and multiplication repeats the text; all other arithmetic on texts has
no meaning.  Comparisons are between two numbers or two texts and connectives between two
truth values; with other operands they are null.
-/

namespace Avenger

/-- The operation on doubles. -/
def Arithmetic.onNumbers : Arithmetic → Float → Float → Float
  | add, left, right => left + right
  | subtract, left, right => left - right
  | multiply, left, right => left * right
  | divide, left, right => left / right
  | modulo, left, right => Number.remainder left right
  | power, left, right => Float.pow left right

/-- The comparison of doubles; every one but `unequal` fails for a NaN. -/
def Comparison.onNumbers : Comparison → Float → Float → Bool
  | equal, left, right => left == right
  | unequal, left, right => left != right
  | less, left, right => left < right
  | lessOrEqual, left, right => left ≤ right
  | greater, left, right => right < left
  | greaterOrEqual, left, right => right ≤ left

/-- The comparison of texts, by the code points of the first characters that differ. -/
def Comparison.onTexts : Comparison → String → String → Bool
  | equal, left, right => left == right
  | unequal, left, right => left != right
  | less, left, right => left < right
  | lessOrEqual, left, right => !(right < left)
  | greater, left, right => right < left
  | greaterOrEqual, left, right => !(left < right)

/-- The connective of truth values. -/
def Connective.onTruths : Connective → Bool → Bool → Bool
  | and, left, right => left && right
  | or, left, right => left || right

namespace Value

/-- What arithmetic on texts gives that has no meaning. -/
def meaningless : Value := .text "NaN"

/-- How many copies of a text a repetition `count` times makes: one less than the count,
and none for a NaN or a count below one. -/
def copies (count : Float) : Float :=
  if count.isNaN || count < 1 then 0 else Number.truncate count - 1

/-- A text repeated, unless that makes more copies than the limit. -/
def repetition (text : String) (count : Float) (limit : Nat) : Except Fault Value :=
  let number := copies count
  if Number.ofNat limit < number then .error (.tooManyTurns limit)
  else .ok (.text (Text.repeated text ((Number.whole? number).getD 0)))

/-- Arithmetic on values, where texts are repeated at most `limit` times. -/
def arithmetic (operator : Arithmetic) (limit : Nat) : Value → Value → Except Fault Value
  | number left, number right => .ok (.number (operator.onNumbers left right))
  | number count, text content =>
      match operator with
      | .add => .ok (.text (Number.scriptText count ++ content))
      | .multiply => repetition content count limit
      | _ => .ok meaningless
  | text content, number count =>
      match operator with
      | .add => .ok (.text (content ++ Number.scriptText count))
      | .multiply => repetition content count limit
      | _ => .ok meaningless
  | text _, text _ => .ok meaningless
  | _, _ => .ok .null

/-- Comparison of values. -/
def compare (operator : Comparison) : Value → Value → Value
  | number left, number right => .boolean (operator.onNumbers left right)
  | text left, text right => .boolean (operator.onTexts left right)
  | _, _ => .null

/-- Both operands have been evaluated. -/
def connect (operator : Connective) : Value → Value → Value
  | boolean left, boolean right => .boolean (operator.onTruths left right)
  | _, _ => .null

/-- The negation of a truth value; of another value it is null. -/
def not : Value → Value
  | boolean value => .boolean (!value)
  | _ => .null

/-- The opposite of a number. -/
def minus : Value → Except Fault Value
  | number value => .ok (.number (-value))
  | value => .error (.misuse (.minus value.kind))

end Value

end Avenger
