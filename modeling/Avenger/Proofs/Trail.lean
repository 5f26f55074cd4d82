import Avenger.Proofs.Heap
import Mathlib.Data.List.Chain

/-!
# The moments that a run passes

The trail of a run is the list of all moments that it passes on its way, one after each
primitive run and one at each opening and ending of a scope.  A moment records, beside the
world, which scopes are open and what has been declared so far.  Every run of a program has
a trail, whether it succeeds or fails.
-/

namespace Avenger

/-- A moment of a run: the world, the scope that the run is in, the open scopes around the
run, and every declaration that has been made so far. -/
structure Moment where
  world : World
  scope : ScopeId
  outer : List ScopeId
  declared : List (ScopeId × Binding)

namespace Eval

/-- The runs in a scope that make at most one change to the world, and the binding that such
a run declares unless it fails. -/
inductive Primitive (scope : ScopeId) : {α : Type} → Eval α → Option Binding → Prop where
  | pure {α : Type} (result : α) : Primitive scope (Pure.pure result) none
  | stop {α : Type} (stop : Stop) : Primitive scope (throw stop : Eval α) none
  | readHeap {α : Type} (read : Heap → α) : Primitive scope (readHeap read) none
  | print (line : String) : Primitive scope (print line) none
  | readClock : Primitive scope readClock none
  | readChance : Primitive scope readChance none
  | declare (name : String) (value : Value) (constant : Bool) :
      Primitive scope (declare scope name value constant) (some ⟨name, value, constant⟩)
  | assign (name : String) (value : Value) : Primitive scope (assign scope name value) none
  | writeElement (id : TeamId) (index value : Value) :
      Primitive scope (writeElement id index value) none
  | newTeam (team : Team) : Primitive scope (newTeam team) none
  | newRoutine (routine : Routine) (inside : routine.closure = scope) :
      Primitive scope (newRoutine routine) none

/-- A primitive run changes the world step by step. -/
theorem Primitive.gradual {α : Type} {scope : ScopeId} {run : Eval α} {declares : Option Binding}
    (primitive : Primitive scope run declares) : run.Gradual := by
  cases primitive with
  | pure result => exact .pure result
  | stop => exact fun _ => .refl
  | readHeap read => exact .readHeap read
  | print line => exact .print line
  | readClock => exact .readClock
  | readChance => exact .readChance
  | declare name value constant => exact .declare _ name value constant
  | assign name value => exact .assign _ name value
  | writeElement id index value => exact .writeElement id index value
  | newTeam team => exact .newTeam team
  | newRoutine routine _ => exact .newRoutine routine

/-- A primitive run makes at most one change. -/
theorem Primitive.step {α : Type} {scope : ScopeId} {run : Eval α} {declares : Option Binding}
    (primitive : Primitive scope run declares) (world : World) :
    Relation.ReflGen World.Change world (last (run world)) := by
  cases primitive with
  | pure | stop | readHeap => exact .refl
  | print line => exact .single (.print world line)
  | readClock => exact .single (.clock world)
  | readChance => exact .single (.chance world)
  | declare name value constant =>
      rw [declare_apply]
      split
      · exact .refl
      · exact .single (.bind world scope ⟨name, value, constant⟩)
  | assign name value =>
      rw [assign_apply]
      split
      · exact .single (.write world _ name value)
      · exact .refl
  | writeElement id index value =>
      rw [writeElement_apply]
      split
      · exact .single (.element world id _ value)
      · exact .refl
  | newTeam team => exact .single (.team world team)
  | newRoutine routine _ => exact .single (.routine world routine)

end Eval

/-- The ending of a scope makes at most one change. -/
theorem World.endScope_step (world : World) (scope : ScopeId) (routines : Nat) :
    Relation.ReflGen World.Change world (world.endScope scope routines) := by
  unfold World.endScope
  split
  · exact .single (.clear world scope)
  · exact .refl

namespace Moment

variable {α : Type} (now : Moment)

/-- The scopes that are open, from the inside out. -/
def opened : List ScopeId := now.scope :: now.outer

/-- The moment after a primitive run. -/
def after (run : Eval α) (declares : Option Binding) : Moment :=
  match run now.world with
  | .ok _ later =>
      { now with
        world := later
        declared := declares.toList.map (now.scope, ·) ++ now.declared }
  | .error _ later => { now with world := later }

/-- The moment after the opening of a scope. -/
def enter (scope : Scope) : Moment :=
  { world := now.world.mapHeap (·.addScope scope)
    scope := now.world.heap.nextScope
    outer := now.opened
    declared := now.declared }

/-- The moment after the ending of the scope that was opened last, when a run in it has come
to the moment `inner`. -/
def leave (inner : Moment) : Moment :=
  { now with
    world := inner.world.endScope now.world.heap.nextScope now.world.heap.routines.size
    declared := inner.declared }

@[simp] theorem after_world (run : Eval α) (declares : Option Binding) :
    (now.after run declares).world = Eval.last (run now.world) := by
  unfold after
  cases run now.world <;> rfl

@[simp] theorem after_scope (run : Eval α) (declares : Option Binding) :
    (now.after run declares).scope = now.scope := by
  unfold after
  cases run now.world <;> rfl

@[simp] theorem after_outer (run : Eval α) (declares : Option Binding) :
    (now.after run declares).outer = now.outer := by
  unfold after
  cases run now.world <;> rfl

/-- The moments that lead from one to another, each by at most one change of the world. -/
structure Path (first : Moment) (passed : List Moment) (last : Moment) : Prop where
  chain : (first :: passed).IsChain fun before next =>
    Relation.ReflGen World.Change before.world next.world
  ends : (first :: passed).getLast? = some last

namespace Path

variable {first middle last : Moment} {passed passed' : List Moment}

theorem refl (now : Moment) : Path now [] now := ⟨List.isChain_singleton now, rfl⟩

theorem single (step : Relation.ReflGen World.Change first.world last.world) :
    Path first [last] last :=
  ⟨List.isChain_pair.mpr step, rfl⟩

theorem trans (path : Path first passed middle) (path' : Path middle passed' last) :
    Path first (passed ++ passed') last := by
  obtain ⟨chain, ends⟩ := path
  obtain ⟨chain', ends'⟩ := path'
  rw [List.isChain_cons] at chain'
  constructor
  · rw [← List.cons_append]
    apply chain.append chain'.2
    intro before isLast next isHead
    rw [ends] at isLast
    cases isLast
    exact chain'.1 next isHead
  · rw [← List.cons_append, List.getLast?_append]
    cases passed' with
    | nil => exact ends.trans ends'
    | cons next rest =>
        rw [List.getLast?_cons_cons] at ends'
        rw [ends', Option.some_or]

end Path

end Moment

namespace Eval

/-- The moments that a run passes from a moment on, and the moment that it comes to. -/
inductive Trail : {α : Type} → Eval α → Moment → List Moment → Moment → Prop where
  | primitive {α : Type} {run : Eval α} {now : Moment} {declares : Option Binding}
      (primitive : Primitive now.scope run declares) :
      Trail run now [now.after run declares] (now.after run declares)
  | bind {α β : Type} {run : Eval α} {next : α → Eval β} {now middle later : Moment}
      {passed passed' : List Moment} {result : α} (first : Trail run now passed middle)
      (ended : run now.world = .ok result middle.world)
      (second : Trail (next result) middle passed' later) :
      Trail (run >>= next) now (passed ++ passed') later
  | failed {α β : Type} {run : Eval α} {next : α → Eval β} {now later : Moment}
      {passed : List Moment} {stop : Stop} (first : Trail run now passed later)
      (ended : run now.world = .error stop later.world) : Trail (run >>= next) now passed later
  | atLine {α : Type} {run : Eval α} {now later : Moment} {passed : List Moment} (line : Nat)
      (inside : Trail run now passed later) : Trail (Eval.atLine line run) now passed later
  | block {α : Type} {run : ScopeId → Eval α} {now inner : Moment} {passed : List Moment}
      (bindings : List Binding) (plain : ∀ binding ∈ bindings, binding.constant = false)
      (inside : Trail (run now.world.heap.nextScope)
        (now.enter (now.world.heap.blockOf now.scope bindings)) passed inner) :
      Trail (inScope (·.blockOf now.scope bindings) run) now
        (now.enter (now.world.heap.blockOf now.scope bindings) :: passed ++ [now.leave inner])
        (now.leave inner)
  | call {run : Routine → ScopeId → Eval Flow} {now inner : Moment} {passed : List Moment}
      {id : RoutineId} {arguments : List Value} {routine : Routine} {scope : Scope}
      (found : now.world.heap.routine? id = some routine)
      (made : now.world.heap.callScope routine arguments now.scope = .ok scope)
      (inside : Trail (run routine now.world.heap.nextScope) (now.enter scope) passed inner) :
      Trail (callRoutine run id arguments now.scope) now
        (now.enter scope :: passed ++ [now.leave inner]) (now.leave inner)
  | refused {run : Routine → ScopeId → Eval Flow} {now : Moment} {id : RoutineId}
      {arguments : List Value}
      (refused : ∀ routine scope, now.world.heap.routine? id = some routine →
        now.world.heap.callScope routine arguments now.scope ≠ .ok scope) :
      Trail (callRoutine run id arguments now.scope) now [] now

/-- A run in a scope that has a trail from every moment in that scope. -/
def HasTrail {α : Type} (scope : ScopeId) (run : Eval α) : Prop :=
  ∀ now : Moment, now.scope = scope → ∃ passed later, Trail run now passed later

namespace Trail

variable {α : Type} {run : Eval α} {now later : Moment} {passed : List Moment}

/-- A trail ends in the world that the run leaves behind. -/
theorem world_eq (trail : Trail run now passed later) : later.world = last (run now.world) := by
  induction trail with
  | primitive primitive => exact Moment.after_world _ _ _
  | bind _ ended _ _ second =>
      rw [bind_of_ok ended]
      exact second
  | failed _ ended _ =>
      rw [bind_of_error ended]
      rfl
  | atLine line _ inside =>
      rw [last_atLine]
      exact inside
  | block bindings _ _ inside =>
      rw [last_inScope, Moment.leave]
      dsimp only
      rw [inside]
      rfl
  | call found made _ inside =>
      rw [last_callRoutine_of_ok found made, last_inScope, Moment.leave]
      dsimp only
      rw [inside]
      rfl
  | refused refused => exact (last_callRoutine_of_refused refused).symm

/-- A run ends with the same scopes open as it started. -/
theorem opened_eq (trail : Trail run now passed later) :
    later.scope = now.scope ∧ later.outer = now.outer := by
  induction trail with
  | primitive primitive => exact ⟨Moment.after_scope _ _ _, Moment.after_outer _ _ _⟩
  | bind _ _ _ first second => exact ⟨second.1.trans first.1, second.2.trans first.2⟩
  | failed _ _ first => exact first
  | atLine _ _ inside => exact inside
  | block | call | refused => exact ⟨rfl, rfl⟩

/-- What has been declared stays on record. -/
theorem declared_subset (trail : Trail run now passed later) : now.declared ⊆ later.declared := by
  induction trail with
  | @primitive _ run now declares primitive =>
      unfold Moment.after
      split
      · exact List.subset_append_right _ _
      · exact fun _ member => member
  | bind _ _ _ first second => exact List.Subset.trans first second
  | failed _ _ first => exact first
  | atLine _ _ inside => exact inside
  | block _ _ _ inside | call _ _ _ inside => exact inside
  | refused => exact fun _ member => member

/-- The changes that a run makes stand between the first and the last moment of its trail. -/
theorem leads (trail : Trail run now passed later) : World.Leads now.world later.world := by
  induction trail with
  | @primitive _ run now declares primitive =>
      rw [Moment.after_world]
      exact primitive.gradual now.world
  | bind _ _ _ first second => exact first.trans second
  | failed _ _ first => exact first
  | atLine _ _ inside => exact inside
  | block _ _ _ inside | call _ _ _ inside =>
      exact (inside.head (.scope _ _)).trans (Gradual.endScope _ _ _)
  | refused => exact .refl

/-- From each moment of a trail to the next at most one change is made. -/
theorem path (trail : Trail run now passed later) : Moment.Path now passed later := by
  have around {now inner : Moment} {scope : Scope} {passed : List Moment}
      (inside : Moment.Path (now.enter scope) passed inner) :
      Moment.Path now (now.enter scope :: passed ++ [now.leave inner]) (now.leave inner) := by
    have opening : Moment.Path now [now.enter scope] (now.enter scope) :=
      .single (.single (.scope now.world scope))
    exact opening.trans (inside.trans (.single (inner.world.endScope_step _ _)))
  induction trail with
  | @primitive _ run now declares primitive =>
      apply Moment.Path.single
      rw [Moment.after_world]
      exact primitive.step now.world
  | bind _ _ _ first second => exact first.trans second
  | failed _ _ first => exact first
  | atLine _ _ inside => exact inside
  | block _ _ _ inside | call _ _ _ inside => exact around inside
  | refused => exact .refl _

end Trail

namespace HasTrail

variable {α β : Type} {scope : ScopeId}

theorem primitive {run : Eval α} {declares : Option Binding}
    (primitive : Primitive scope run declares) : HasTrail scope run := by
  rintro now rfl
  exact ⟨_, _, .primitive primitive⟩

theorem bind {run : Eval α} {next : α → Eval β} (first : HasTrail scope run)
    (second : ∀ result, HasTrail scope (next result)) : HasTrail scope (run >>= next) := by
  rintro now rfl
  obtain ⟨passed, middle, trail⟩ := first now rfl
  have world := trail.world_eq
  cases ended : run now.world with
  | error stop later =>
      obtain rfl : middle.world = later := by rw [world, ended]; rfl
      exact ⟨_, _, trail.failed ended⟩
  | ok result later =>
      obtain rfl : middle.world = later := by rw [world, ended]; rfl
      obtain ⟨passed', later, rest⟩ := second result middle trail.opened_eq.1
      exact ⟨_, _, trail.bind ended rest⟩

theorem atLine {run : Eval α} (line : Nat) (inside : HasTrail scope run) :
    HasTrail scope (Eval.atLine line run) := by
  intro now same
  obtain ⟨passed, later, trail⟩ := inside now same
  exact ⟨_, _, trail.atLine line⟩

theorem inBlock {run : ScopeId → Eval α} (bindings : List Binding)
    (plain : ∀ binding ∈ bindings, binding.constant = false)
    (inside : ∀ inner, HasTrail inner (run inner)) :
    HasTrail scope (inScope (·.blockOf scope bindings) run) := by
  rintro now rfl
  obtain ⟨passed, inner, trail⟩ := inside now.world.heap.nextScope
    (now.enter (now.world.heap.blockOf now.scope bindings)) rfl
  exact ⟨_, _, .block bindings plain trail⟩

theorem call {run : Routine → ScopeId → Eval Flow} (id : RoutineId) (arguments : List Value)
    (inside : ∀ routine inner, HasTrail inner (run routine inner)) :
    HasTrail scope (callRoutine run id arguments scope) := by
  rintro now rfl
  rcases call_cases now.world.heap id arguments now.scope with ⟨routine, made, found, opens⟩ | no
  · obtain ⟨passed, inner, trail⟩ := inside routine now.world.heap.nextScope (now.enter made) rfl
    exact ⟨_, _, .call found opens trail⟩
  · exact ⟨_, _, .refused no⟩

/-- Every run of a program has a trail. -/
theorem compositional : Compositional (fun _ => True) HasTrail where
  pure result := primitive (.pure result)
  stop stop _ := primitive (.stop stop)
  bind := bind
  atLine := atLine
  readHeap _ := primitive (.readHeap _)
  print line := primitive (.print line)
  readClock := primitive .readClock
  readChance := primitive .readChance
  declare name value constant _ := primitive (.declare name value constant)
  assign name value := primitive (.assign name value)
  writeElement id index value := primitive (.writeElement id index value)
  newTeam team := primitive (.newTeam team)
  newRoutine routine inside := primitive (.newRoutine routine inside)
  inBlock bindings plain inside := inBlock bindings plain fun inner => inside inner trivial
  call id arguments inside := call id arguments fun routine inner => inside routine inner trivial

end HasTrail

end Eval

end Avenger
