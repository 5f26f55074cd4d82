import Avenger.Proofs.Change
import Mathlib.Data.List.Forall2

/-!
# Two runs in step

Many properties of the evaluator speak of two runs of the same code: under two budgets,
under two limits, in two heaps that agree on what the code can reach.  A `Coupling` says how
the worlds of the two runs are related while the code runs, and its laws say that each
primitive operation keeps them related.  That whole runs are then related is proved once,
for every coupling.

The left run may be stopped by a fault that the right run is spared.  Then nothing is
required of the right run but that it has printed everything that the left one has.
-/

namespace Avenger

/-- Values that are the same up to the places that they name. -/
inductive Value.Alike (teams : TeamId → TeamId → Prop)
    (routines : RoutineId → RoutineId → Prop) (stoppable : Prop) : Value → Value → Prop where
  | null : Alike teams routines stoppable .null .null
  | number (value : Float) : Alike teams routines stoppable (.number value) (.number value)
  | boolean (value : Bool) : Alike teams routines stoppable (.boolean value) (.boolean value)
  | text (value : String) : Alike teams routines stoppable (.text value) (.text value)
  | team {left right : TeamId} (related : teams left right) :
      Alike teams routines stoppable (.team left) (.team right)
  | routine {left right : RoutineId} (related : routines left right) :
      Alike teams routines stoppable (.routine left) (.routine right)
  | native (function : Native) (installation : Nat) :
      Alike teams routines stoppable (.native function installation)
        (.native function installation)
  | stopped (allowed : stoppable) : Alike teams routines stoppable .stopped .stopped

/-- Flows that end alike with related values. -/
inductive Flow.Alike (values : Value → Value → Prop) : Flow → Flow → Prop where
  | normal {left right : Value} (related : values left right) :
      Alike values (.normal left) (.normal right)
  | snap {left right : Value} (related : values left right) :
      Alike values (.snap left) (.snap right)
  | endGame : Alike values .endGame .endGame

/-- Functions with the same code. -/
structure Routine.SameCode (left right : Routine) : Prop where
  name : left.name = right.name
  parameters : left.parameters = right.parameters
  body : left.body = right.body

/-- How two runs of the same code are related. -/
structure Coupling where
  /-- What is known at one point of the code, above all the two scopes it runs in. -/
  Stage : Type
  left : Stage → ScopeId
  right : Stage → ScopeId
  /-- How many calls are active. -/
  depth : Stage → Nat
  /-- Whether names may be declared, scopes opened and functions defined in the scopes of a
  stage. -/
  declaring : Stage → Prop
  worlds : Stage → World → World → Prop
  teams : TeamId → TeamId → Prop
  routines : RoutineId → RoutineId → Prop
  /-- Whether values may be what a stopped program evaluates to. -/
  stoppable : Prop
  /-- The faults of the left run that the right run may be spared. -/
  yields : Fault → Prop
  /-- Whether the budget of calls may be used up. -/
  exhaustible : Prop

namespace Coupling

/-- Values that are the same up to the places that they name. -/
abbrev Values (coupling : Coupling) : Value → Value → Prop :=
  Value.Alike coupling.teams coupling.routines coupling.stoppable

/-- Flows with related values. -/
abbrev Flows (coupling : Coupling) : Flow → Flow → Prop := Flow.Alike coupling.Values

/-- Results of checks that are related: both succeed, or both fail with the same fault, or
the left one fails with a fault that the right one may be spared. -/
inductive Agree (coupling : Coupling) {α β : Type} (results : α → β → Prop) :
    Except Fault α → Except Fault β → Prop where
  | ok {left : α} {right : β} (related : results left right) :
      Agree coupling results (.ok left) (.ok right)
  | error (fault : Fault) : Agree coupling results (.error fault) (.error fault)
  | spared {fault : Fault} (yields : coupling.yields fault) (right : Except Fault β) :
      Agree coupling results (.error fault) right

/-- Limits that let the right run make at least as many turns as the left one. -/
def Turns (coupling : Coupling) (left right : Limits) : Prop :=
  left.iterations = right.iterations ∨
    left.iterations < right.iterations ∧
      coupling.yields (.tooManyTurns left.iterations)

/-- The step into two new scopes and back out of them. -/
structure Opening (coupling : Coupling) (outer inner : coupling.Stage)
    (world world' : World) (scope scope' : Scope) : Prop where
  left : coupling.left inner = world.heap.nextScope
  right : coupling.right inner = world'.heap.nextScope
  declaring : coupling.declaring inner
  opened : coupling.worlds inner (world.mapHeap (·.addScope scope))
    (world'.mapHeap (·.addScope scope'))
  closed : ∀ {later later' : World}, coupling.worlds inner later later' →
    coupling.worlds outer
      (later.endScope world.heap.nextScope world.heap.routines.size)
      (later'.endScope world'.heap.nextScope world'.heap.routines.size)

/-- What the primitive operations have to keep. -/
structure Lawful (coupling : Coupling) : Prop where
  output : ∀ {stage world world'}, coupling.worlds stage world world' →
    world.output = world'.output
  lookup : ∀ {stage world world'}, coupling.worlds stage world world' → ∀ name,
    coupling.Agree coupling.Values
      (world.heap.lookup (coupling.left stage) name)
      (world'.heap.lookup (coupling.right stage) name)
  limits : ∀ {stage world world'}, coupling.worlds stage world world' →
    coupling.Turns (world.heap.limits (coupling.left stage))
      (world'.heap.limits (coupling.right stage))
  assign : ∀ {stage world world' value value'}, coupling.worlds stage world world' →
    coupling.Values value value' → ∀ name,
    coupling.Agree
      (fun owner owner' => coupling.worlds stage
        (world.mapHeap (·.write owner name value))
        (world'.mapHeap (·.write owner' name value')))
      (world.heap.assignable (coupling.left stage) name)
      (world'.heap.assignable (coupling.right stage) name)
  elements : ∀ {stage world world' id id'}, coupling.worlds stage world world' →
    coupling.teams id id' →
    List.Forall₂ coupling.Values (world.heap.elements id).toList
      (world'.heap.elements id').toList
  setElement : ∀ {stage world world' id id' value value'},
    coupling.worlds stage world world' → coupling.teams id id' →
    coupling.Values value value' → ∀ position,
    coupling.worlds stage (world.mapHeap (·.setElement id position value))
      (world'.mapHeap (·.setElement id' position value'))
  print : ∀ {stage world world'}, coupling.worlds stage world world' → ∀ line,
    coupling.worlds stage { world with output := world.output.push line }
      { world' with output := world'.output.push line }
  clock : ∀ {stage world world'}, coupling.worlds stage world world' →
    world.readings.clock world.clockReadings =
        world'.readings.clock world'.clockReadings ∧
      coupling.worlds stage { world with clockReadings := world.clockReadings + 1 }
        { world' with clockReadings := world'.clockReadings + 1 }
  chance : ∀ {stage world world'}, coupling.worlds stage world world' →
    world.readings.chance world.chanceReadings =
        world'.readings.chance world'.chanceReadings ∧
      coupling.worlds stage { world with chanceReadings := world.chanceReadings + 1 }
        { world' with chanceReadings := world'.chanceReadings + 1 }
  routine : ∀ {stage world world' id id'}, coupling.worlds stage world world' →
    coupling.routines id id' →
    Option.Rel Routine.SameCode (world.heap.routine? id) (world'.heap.routine? id')
  child : ∀ {stage world world' bindings}, coupling.declaring stage →
    coupling.worlds stage world world' →
    (∀ binding ∈ bindings, coupling.Values binding.value binding.value) →
    ∃ inner, coupling.depth inner = coupling.depth stage ∧
      coupling.Opening stage inner world world'
        { world.heap.childOf (coupling.left stage) with bindings }
        { world'.heap.childOf (coupling.right stage) with bindings }
  call : ∀ {stage world world' id id' routine routine' arguments arguments'},
    coupling.worlds stage world world' → coupling.routines id id' →
    world.heap.routine? id = some routine → world'.heap.routine? id' = some routine' →
    List.Forall₂ coupling.Values arguments arguments' →
    coupling.Agree
      (fun scope scope' => ∃ inner,
        coupling.depth inner = coupling.depth stage + 1 ∧
          coupling.Opening stage inner world world' scope scope')
      (world.heap.callScope routine arguments (coupling.left stage))
      (world'.heap.callScope routine' arguments' (coupling.right stage))
  binds : ∀ {stage world world'}, coupling.declaring stage →
    coupling.worlds stage world world' → ∀ name,
    world.heap.binds (coupling.left stage) name =
      world'.heap.binds (coupling.right stage) name
  bind : ∀ {stage world world' name value value'}, coupling.declaring stage →
    coupling.worlds stage world world' →
    world.heap.binds (coupling.left stage) name = false →
    coupling.Values value value' → ∀ constant,
    coupling.worlds stage
      (world.mapHeap (·.bind (coupling.left stage) ⟨name, value, constant⟩))
      (world'.mapHeap (·.bind (coupling.right stage) ⟨name, value', constant⟩))
  newTeam : ∀ {stage world world' elements elements'},
    coupling.worlds stage world world' →
    List.Forall₂ coupling.Values elements.toList elements'.toList → ∀ name,
    coupling.teams world.heap.nextTeam world'.heap.nextTeam ∧
      coupling.worlds stage (world.mapHeap (·.addTeam ⟨name, elements⟩))
        (world'.mapHeap (·.addTeam ⟨name, elements'⟩))
  newRoutine : ∀ {stage world world'}, coupling.declaring stage →
    coupling.worlds stage world world' → ∀ name parameters body,
    coupling.routines world.heap.nextRoutine world'.heap.nextRoutine ∧
      coupling.worlds stage
        (world.mapHeap (·.addRoutine ⟨name, parameters, body, coupling.left stage⟩))
        (world'.mapHeap (·.addRoutine ⟨name, parameters, body, coupling.right stage⟩))

end Coupling

end Avenger
