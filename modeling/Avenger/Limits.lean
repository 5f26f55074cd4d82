import Avenger.Text.Blank
import Avenger.Number.Numeral

/-!
# Limits

Two numbers keep every run finite: how often the body of a loop may run, and how many calls
may be active.  Both have a default that an environment variable replaces.
-/

namespace Avenger

/-- The limits that scopes carry. -/
structure Limits where
  /-- How often one loop may run its body, and how often a text may be repeated. -/
  iterations : Nat
  /-- How many function calls may be active at a time. -/
  callDepth : Nat
  deriving DecidableEq

namespace Limits

/-- The limits without any settings. -/
def standard : Limits := { iterations := 100000, callDepth := 2000 }

/-- The environment variables that replace a limit. -/
inductive Setting where
  | iterations
  | callDepth
  deriving DecidableEq

def Setting.name : Setting → String
  | iterations => "AVENGER_ITERATION_LIMIT"
  | callDepth => "AVENGER_MAX_CALL_DEPTH"

/-- A variable whose text is not a limit. -/
structure Invalid where
  setting : Setting
  text : String
  deriving DecidableEq

def Invalid.message (invalid : Invalid) : String :=
  invalid.setting.name ++ " must be a positive integer, got '" ++ invalid.text ++ "'"

/-- The greatest limit. -/
def greatest : Nat := 18446744073709551615

/-- The number that a text denotes as a limit: decimal digits, perhaps after a plus sign,
for a number from one to the greatest limit.  Blanks around it do not count. -/
def ofText? (text : String) : Option Nat :=
  let digits :=
    match Text.trimmed text.toList with
    | '+' :: rest => rest
    | characters => characters
  if digits.isEmpty || !digits.all Char.isDigit then none
  else
    let value := Number.ofDigits digits
    if 1 ≤ value ∧ value ≤ greatest then some value else none

/-- One limit: its default without a text, and otherwise what the text denotes. -/
def read (setting : Setting) (default : Nat) (text : Option String) :
    Except Invalid Nat :=
  match text with
  | none => .ok default
  | some text =>
      match ofText? text with
      | some value => .ok value
      | none => .error ⟨setting, text⟩

/-- The limits that the texts of the two variables set.  Of two invalid texts that of the
iterations counts. -/
def ofEnvironment (iterations callDepth : Option String) : Except Invalid Limits := do
  let iterations ← read .iterations standard.iterations iterations
  let callDepth ← read .callDepth standard.callDepth callDepth
  return { iterations, callDepth }

end Limits

end Avenger
