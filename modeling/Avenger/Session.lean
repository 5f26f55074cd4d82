import Avenger.Eval
import Avenger.Reader.Program

/-!
# Sessions

A session runs sources one after the other in one global scope, which starts with the
constants and the native functions.  Each source is read as a whole before any of it runs.
One that fails does not end the session, and what it did before it failed stays done.
-/

namespace Avenger

namespace Eval

/-- Declares constants in turn, up to the first name that is taken. -/
def declareConstants (scope : ScopeId) : List (String × Value) → Eval Unit
  | [] => pure ()
  | (name, value) :: rest => do
      let _ ← declare scope name value true
      declareConstants scope rest

/-- The constants of a global scope: the truth values, null and new native functions. -/
def globals (installation : Nat) : List (String × Value) :=
  [("SHIELD", .boolean true), ("HYDRA", .boolean false), ("null", .null)] ++
    Native.all.map fun function => (function.name, .native function installation)

/-- The number of the next installation of the native functions. -/
def nextInstallation : Eval Nat := fun world =>
  .ok world.installations { world with installations := world.installations + 1 }

/-- Declares the constants of a global scope in a scope. -/
def install (scope : ScopeId) : Eval Unit := do
  declareConstants scope (globals (← nextInstallation))

/-- A new global scope. -/
def newGlobalScope (limits : Limits) : Eval ScopeId := do
  let scope ← newScope fun _ => Heap.root limits
  install scope
  return scope

end Eval

/-- Why a source gives no value.  The budget of calls is never used up, so the last case
does not arise. -/
inductive Failure where
  | reading (error : SyntaxError)
  | running (error : RuntimeError)
  | outOfBudget

/-- The full text of a failure. -/
def Failure.message : Failure → String
  | reading error => error.message
  | running error => error.message
  | outOfBudget => ""

/-- Lines as they are printed, each with its end. -/
def printedText (lines : Array String) : String :=
  lines.foldl (fun text line => text ++ line ++ "\n") ""

/-- What comes of one step of a session: its result, the lines that it printed and the world
after it. -/
structure Step (α : Type) where
  result : Except Failure α
  printed : Array String
  world : World

/-- Runs as one step. -/
def Eval.step {α : Type} (run : Eval α) (world : World) : Step α :=
  match run { world with output := #[] } with
  | .ok result world => ⟨.ok result, world.output, world⟩
  | .error (.error error) world => ⟨.error (.running error), world.output, world⟩
  | .error .outOfBudget world => ⟨.error .outOfBudget, world.output, world⟩

/-- Reads a source and, if it is a program, runs it as one step. -/
def stepSource {α : Type} (run : Program → Eval α) (source : String) (world : World) :
    Step α :=
  match Program.ofSource source with
  | .ok program => (run program).step world
  | .error error => ⟨.error (.reading error), #[], world⟩

/-- A world with a global scope in which sources are run. -/
structure Session where
  world : World
  scope : ScopeId

namespace Session

/-- A session in which nothing has been run yet. -/
def start (limits : Limits) (readings : Readings) : Session :=
  let world := World.initial readings .release
  match Eval.newGlobalScope limits world with
  | .ok scope world => { world, scope }
  | .error _ world => { world, scope := ⟨0⟩ }

/-- The session with other readings to come. -/
def withReadings (session : Session) (readings : Readings) : Session :=
  { session with world := { session.world with readings := readings } }

/-- Runs a source as a program. -/
def run (session : Session) (source : String) : Step Value :=
  stepSource (·.eval session.scope) source session.world

/-- Runs a source as a block. -/
def runBlock (session : Session) (source : String) : Step Flow :=
  stepSource (·.exec session.scope) source session.world

end Session

end Avenger
