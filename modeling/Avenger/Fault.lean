import Avenger.Value
import Avenger.Program
import Avenger.Number.Layout

/-!
# Run-time errors

Why running a program can fail, and on which line of it that shows.
-/

namespace Avenger

/-- The loops and branches that have a condition. -/
inductive Construct where
  | ifWorthy
  | fightUntil
  | wakandaFor
  deriving DecidableEq

def Construct.label : Construct → String
  | ifWorthy => "ifWorthy"
  | fightUntil => "fightUntil"
  | wakandaFor => "wakandaFor"

/-- The numbers in the header of a range loop. -/
inductive RangePart where
  | start
  | stop
  | step
  deriving DecidableEq

def RangePart.label : RangePart → String
  | start => "start"
  | stop => "end"
  | step => "step"

/-- What can be indexed. -/
inductive Container where
  | team
  | text
  deriving DecidableEq

def Container.label : Container → String
  | team => "array"
  | text => "string"

/-- What a native function can require of an argument. -/
inductive Requirement where
  | number
  | text
  | textOrTeam
  deriving DecidableEq

def Requirement.label : Requirement → String
  | number => "number"
  | text => "string"
  | textOrTeam => "string or team"

/-- Uses of a value of a kind that cannot be used so. -/
inductive Misuse where
  | minus (found : Value.Kind)
  | rangePart (part : RangePart) (found : Value.Kind)
  | indexed (found : Value.Kind)
  | writtenIntoText (found : Value.Kind)
  /-- The argument at a position, counted from zero, is not what the function requires. -/
  | argument (function : Native) (required : Requirement) (position : Nat)
      (found : Value.Kind)
  deriving DecidableEq

def Misuse.message : Misuse → String
  | minus found => "unary minus expects a number, found " ++ found.label
  | rangePart part found =>
      "'wakandaForEach' " ++ part.label ++ " must be a number, found " ++ found.label
  | indexed found => "cannot index into a value of type " ++ found.label
  | writtenIntoText found => "cannot write a " ++ found.label ++ " into a string"
  | argument function required position found =>
      function.name ++ " expects a " ++ required.label ++ " as argument " ++
        toString (position + 1) ++ ", found " ++ found.label

/-- Complaints of native functions of their own. -/
inductive Complaint where
  | teamPrinted
  | testedKindsDiffer (actual expected : Value.Kind)
  | testedKind (found : Value.Kind)
  deriving DecidableEq

def Complaint.message : Complaint → String
  | teamPrinted =>
      "vision: invalid team print operation, print its elements one by one instead"
  | testedKindsDiffer actual expected =>
      "assertEqual: test failed, type mismatch between " ++ actual.label ++ " and " ++
        expected.label
  | testedKind found => "assertEqual: cannot compare values of type " ++ found.label

/-- Why running a program fails. -/
inductive Fault where
  | unresolved (name : String)
  | duplicate (name : String)
  | constantReassigned (name : String)
  | misuse (found : Misuse)
  | conditionKind (construct : Construct) (found : Value.Kind)
  | indexKind (container : Container) (found : Value.Kind)
  /-- The discriminant of a multiverse is neither a number nor a text. -/
  | discriminantKind (found : Value.Kind)
  /-- A case of a multiverse is of another kind than its discriminant. -/
  | caseKind (expected found : Value.Kind)
  | updateKinds (operator : Arithmetic) (current value : Value.Kind)
  | arity (name : String) (expected found : Nat)
  | sizeKind (team : String) (found : Value.Kind)
  | sizeInvalid (team : String) (size : Float)
  | sizeTooLarge (team : String) (size : Float)
  | tooManyValues (team : String) (size provided : Nat)
  | outOfRange (index : Float) (length : Nat)
  | stepInvalid (step : Float)
  | tooManyTurns (limit : Nat)
  | notCallable (found : Value.Kind)
  | notAssignable
  | tooDeep (limit : Nat)
  | testFailed (expected actual : String)
  | native (complaint : Complaint)

/-- The text that describes a fault. -/
def Fault.message : Fault → String
  | unresolved name => "cannot resolve '" ++ name ++ "' in the scope"
  | duplicate name =>
      "cannot declare '" ++ name ++ "', it is already defined in this scope"
  | constantReassigned name => "cannot reassign to constant '" ++ name ++ "'"
  | misuse found => "type error: " ++ found.message
  | conditionKind construct found =>
      "condition in '" ++ construct.label ++ "' must be a number or boolean, found " ++
        found.label
  | indexKind container found =>
      container.label ++ " index must be a number, found " ++ found.label
  | discriminantKind found =>
      "'multiverse' expected a number or string in 'madness', found " ++ found.label
  | caseKind expected found =>
      "'multiverse' expected a " ++ expected.label ++ " in 'madness', found " ++ found.label
  | updateKinds operator current value =>
      "type mismatch: cannot apply '" ++ operator.symbol ++ "=' to " ++ current.label ++
        " and " ++ value.label
  | arity name expected found =>
      "function '" ++ name ++ "' expects " ++ toString expected ++ " arguments, but " ++
        toString found ++ " were provided"
  | sizeKind team found => "invalid array size " ++ found.label ++ " at '" ++ team ++ "'"
  | sizeInvalid team size =>
      "invalid array size " ++ Number.scriptText size ++ " at '" ++ team ++ "'"
  | sizeTooLarge team size =>
      "segmentation fault: array size " ++ Number.plainText size ++ " at '" ++ team ++
        "' exceeds 1e7"
  | tooManyValues team size provided =>
      "excess elements in array initializer at '" ++ team ++ "': size is " ++
        toString size ++ " but " ++ toString provided ++ " values were provided"
  | outOfRange index length =>
      "index " ++ Number.plainText index ++ " is out of range for length " ++
        toString length
  | stepInvalid step =>
      "the step of 'wakandaForEach' must be a positive non-zero number, found " ++
        Number.plainText step
  | tooManyTurns limit => "loop exceeded " ++ toString limit ++ " iterations"
  | notCallable found => "cannot call a value of type " ++ found.label
  | notAssignable => "invalid left-hand side in assignment"
  | tooDeep limit => "maximum call depth of " ++ toString limit ++ " exceeded"
  | testFailed expected actual =>
      "test failed: expected " ++ expected ++ ", got " ++ actual
  | native complaint => complaint.message

/-- A fault with the line of the innermost statement that met it. -/
structure RuntimeError where
  fault : Fault
  line : Option Nat

namespace RuntimeError

/-- Labels an error with a line unless it has one already. -/
def atLine (error : RuntimeError) (line : Nat) : RuntimeError :=
  { error with line := some (error.line.getD line) }

/-- The full text of a run-time error. -/
def message (error : RuntimeError) : String :=
  match error.line with
  | some line => "RunTimeError:line:" ++ toString line ++ ": " ++ error.fault.message
  | none => "RunTimeError: " ++ error.fault.message

end RuntimeError

end Avenger
