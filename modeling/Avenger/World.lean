import Avenger.Heap
import Avenger.Readings

/-!
# The world of a run

A run reads and changes a world: the heap, the lines printed so far, and the readings of the
clock and of chance that are still to come.  `Eval` is the type of such runs.  A run that
fails keeps what it has changed.
-/

namespace Avenger

/-- What becomes of the bindings of a scope that has ended. -/
inductive Retention where
  /-- They stay. -/
  | keep
  /-- They are forgotten if no function was made while the scope was open. -/
  | release
  deriving DecidableEq

/-- Everything that a run can read or change. -/
structure World where
  heap : Heap
  /-- The lines printed so far. -/
  output : Array String
  /-- How often the native functions have been installed. -/
  installations : Nat
  /-- How often the clock has been read. -/
  clockReadings : Nat
  /-- How often chance has been asked. -/
  chanceReadings : Nat
  readings : Readings
  retention : Retention

/-- The world before anything has happened. -/
def World.initial (readings : Readings) (retention : Retention) : World :=
  { heap := .empty, output := #[], installations := 0, clockReadings := 0,
    chanceReadings := 0, readings, retention }

/-- Why a run stops without a result.  Running out of budget says nothing about the
program. -/
inductive Eval.Stop where
  | error (error : RuntimeError)
  | outOfBudget

/-- A run that gives an `α`. -/
abbrev Eval (α : Type) : Type := EStateM Eval.Stop World α

namespace Eval

/-- The run that fails. -/
def fail {α : Type} (fault : Fault) : Eval α := throw (.error ⟨fault, none⟩)

/-- The run that has used up its budget. -/
def outOfBudget {α : Type} : Eval α := throw .outOfBudget

/-- The run that gives a result or fails, and changes nothing. -/
@[inline] def ofExcept {α : Type} : Except Fault α → Eval α
  | .ok result => pure result
  | .error fault => fail fault

/-- Labels the failure of a run with a line unless it has one. -/
@[inline] def atLine {α : Type} (line : Nat) (run : Eval α) : Eval α := fun world =>
  match run world with
  | .ok result world => .ok result world
  | .error (.error error) world => .error (.error (error.atLine line)) world
  | .error .outOfBudget world => .error .outOfBudget world

/-- Reads something off the heap. -/
@[inline] def readHeap {α : Type} (read : Heap → α) : Eval α := fun world =>
  .ok (read world.heap) world

/-- Changes the heap. -/
@[inline] def changeHeap (change : Heap → Heap) : Eval Unit := fun world =>
  .ok () { world with heap := change world.heap }

/-- Prints a line. -/
def print (line : String) : Eval Unit := fun world =>
  .ok () { world with output := world.output.push line }

/-- The next reading of the clock. -/
def readClock : Eval Float := fun world =>
  .ok (world.readings.clock world.clockReadings)
    { world with clockReadings := world.clockReadings + 1 }

/-- The next reading of chance. -/
def readChance : Eval Float := fun world =>
  .ok (world.readings.chance world.chanceReadings)
    { world with chanceReadings := world.chanceReadings + 1 }

/-- What a name reads as in a scope. -/
def lookup (scope : ScopeId) (name : String) : Eval Value := do
  ofExcept (← readHeap (·.lookup scope name))

/-- Fails if a scope itself binds a name. -/
def reserve (scope : ScopeId) (name : String) : Eval Unit := do
  if ← readHeap (·.binds scope name) then fail (.duplicate name)

/-- Declares a name in a scope and gives its value. -/
def declare (scope : ScopeId) (name : String) (value : Value) (constant : Bool) :
    Eval Value := do
  reserve scope name
  changeHeap (·.bind scope ⟨name, value, constant⟩)
  return value

/-- Assigns to a name in its owner and gives the value. -/
def assign (scope : ScopeId) (name : String) (value : Value) : Eval Value := do
  let owner ← ofExcept (← readHeap (·.assignable scope name))
  changeHeap (·.write owner name value)
  return value

/-- A new scope on the heap. -/
def newScope (make : Heap → Scope) : Eval ScopeId := fun world =>
  .ok world.heap.nextScope { world with heap := world.heap.addScope (make world.heap) }

/-- A new team on the heap. -/
def newTeam (team : Team) : Eval Value := fun world =>
  .ok (.team world.heap.nextTeam) { world with heap := world.heap.addTeam team }

/-- A new function on the heap. -/
def newRoutine (routine : Routine) : Eval Value := fun world =>
  .ok (.routine world.heap.nextRoutine) { world with heap := world.heap.addRoutine routine }

end Eval

/-- Ends a scope that was opened when there were `routines` functions. -/
def World.endScope (world : World) (scope : ScopeId) (routines : Nat) : World :=
  if world.retention = .release ∧ world.heap.routines.size = routines then
    { world with heap := world.heap.clear scope }
  else world

namespace Eval

/-- Runs in a new scope, which ends with the run, however that ends. -/
@[inline] def inScope {α : Type} (make : Heap → Scope) (run : ScopeId → Eval α) : Eval α :=
  fun world =>
    let scope := world.heap.nextScope
    let routines := world.heap.routines.size
    match run scope { world with heap := world.heap.addScope (make world.heap) } with
    | .ok result world => .ok result (world.endScope scope routines)
    | .error stop world => .error stop (world.endScope scope routines)

/-- Runs in a new scope inside another one. -/
@[inline] def inChild {α : Type} (parent : ScopeId) (run : ScopeId → Eval α) : Eval α :=
  inScope (·.childOf parent) run

end Eval

end Avenger
