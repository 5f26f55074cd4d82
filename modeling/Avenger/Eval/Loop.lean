import Avenger.World

/-!
# Loops

How loops go on and end, whatever their conditions and bodies do.  A loop is given the
number of turns that it may still make; it fails when another turn is due and none is left.
-/

namespace Avenger

/-- How a statement ends: it goes on to the next one with a value, it leaves the function
with one, or it leaves the loop. -/
inductive Flow where
  | normal (value : Value)
  | snap (value : Value)
  | endGame

/-- The numbers that a range loop counts through. -/
structure Range where
  start : Float
  stop : Float
  step : Float

namespace Range

/-- Whether the loop counts upward. -/
def ascending (range : Range) : Bool := range.start ≤ range.stop

/-- Whether a count is still within the range. -/
def contains (range : Range) (count : Float) : Bool :=
  (range.ascending && count ≤ range.stop) || (!range.ascending && range.stop ≤ count)

/-- The count after a given one. -/
def next (range : Range) (count : Float) : Float :=
  if range.ascending then count + range.step else count - range.step

end Range

namespace Loop

/-- Makes turns as long as a test holds.  The limit is the one that is reported. -/
def conditional (limit : Nat) (test : Eval Bool) (turn : Eval Flow) : Nat → Eval Flow
  | 0 => do
      if ← test then Eval.fail (.tooManyTurns limit) else return .normal .null
  | turns + 1 => do
      if ← test then
        match ← turn with
        | .normal _ => conditional limit test turn turns
        | .endGame => return .normal .null
        | .snap value => return .snap value
      else return .normal .null

/-- Makes a turn for each count of a range, from the given one on.  The limit is the one that
is reported. -/
def counted (limit : Nat) (range : Range) (turn : Float → Eval Flow) :
    Nat → Float → Eval Flow
  | 0, count =>
      if range.contains count then Eval.fail (.tooManyTurns limit) else return .normal .null
  | turns + 1, count => do
      if range.contains count then
        match ← turn count with
        | .normal _ => counted limit range turn turns (range.next count)
        | .endGame => return .normal .null
        | .snap value => return .snap value
      else return .normal .null

end Loop

end Avenger
