import Avenger.Proofs.Constants
import Avenger.Proofs.Origin

/-!
# Active calls are counted

The course of a run is the list of all stages that it passes.  A stage records, beside the
world and the scope that the run is in, which calls of functions are active.  At every stage of
a session each scope has the limits of the session, the scope that the run is in knows how many
calls are active, and a call is refused exactly when these are as many as the limits allow.
-/

namespace Avenger

/-- A stage of a run: the world, the scope that the run is in, and the functions of which calls
are active, from the inside out. -/
structure Stage where
  world : World
  scope : ScopeId
  active : List RoutineId

namespace Stage

variable {α : Type} (now : Stage)

/-- The stage after a primitive run. -/
def after (run : Eval α) : Stage := { now with world := Eval.last (run now.world) }

/-- The stage after the opening of a scope, in which the given calls are active. -/
def enter (scope : Scope) (active : List RoutineId) : Stage :=
  { world := now.world.mapHeap (·.addScope scope)
    scope := now.world.heap.nextScope
    active }

/-- The stage after the ending of the scope that was opened last, when a run in it has come to
the stage `inner`. -/
def leave (inner : Stage) : Stage :=
  { now with
    world := inner.world.endScope now.world.heap.nextScope now.world.heap.routines.size }

end Stage

/-- The stage of a run at a moment, when the given calls are active. -/
def Moment.stage (now : Moment) (active : List RoutineId) : Stage :=
  { world := now.world, scope := now.scope, active }

namespace Eval

/-- The stages that a run passes from a stage on, and the stage that it comes to.  Only a call
of a function makes a call active. -/
inductive Course : {α : Type} → Eval α → Stage → List Stage → Stage → Prop where
  | primitive {α : Type} {run : Eval α} {now : Stage} {declares : Option Binding}
      (primitive : Primitive now.scope run declares) :
      Course run now [now.after run] (now.after run)
  | bind {α β : Type} {run : Eval α} {next : α → Eval β} {now middle later : Stage}
      {passed passed' : List Stage} {result : α} (first : Course run now passed middle)
      (ended : run now.world = .ok result middle.world)
      (second : Course (next result) middle passed' later) :
      Course (run >>= next) now (passed ++ passed') later
  | failed {α β : Type} {run : Eval α} {next : α → Eval β} {now later : Stage}
      {passed : List Stage} {stop : Stop} (first : Course run now passed later)
      (ended : run now.world = .error stop later.world) : Course (run >>= next) now passed later
  | atLine {α : Type} {run : Eval α} {now later : Stage} {passed : List Stage} (line : Nat)
      (inside : Course run now passed later) : Course (Eval.atLine line run) now passed later
  | block {α : Type} {run : ScopeId → Eval α} {now inner : Stage} {passed : List Stage}
      (bindings : List Binding)
      (inside : Course (run now.world.heap.nextScope)
        (now.enter (now.world.heap.blockOf now.scope bindings) now.active) passed inner) :
      Course (inScope (·.blockOf now.scope bindings) run) now
        (now.enter (now.world.heap.blockOf now.scope bindings) now.active ::
          passed ++ [now.leave inner])
        (now.leave inner)
  | call {run : Routine → ScopeId → Eval Flow} {now inner : Stage} {passed : List Stage}
      {id : RoutineId} {arguments : List Value} {routine : Routine} {scope : Scope}
      (found : now.world.heap.routine? id = some routine)
      (made : now.world.heap.callScope routine arguments now.scope = .ok scope)
      (inside : Course (run routine now.world.heap.nextScope)
        (now.enter scope (id :: now.active)) passed inner) :
      Course (callRoutine run id arguments now.scope) now
        (now.enter scope (id :: now.active) :: passed ++ [now.leave inner]) (now.leave inner)
  | refused {run : Routine → ScopeId → Eval Flow} {now : Stage} {id : RoutineId}
      {arguments : List Value}
      (refused : ∀ routine scope, now.world.heap.routine? id = some routine →
        now.world.heap.callScope routine arguments now.scope ≠ .ok scope) :
      Course (callRoutine run id arguments now.scope) now [] now

namespace Course

variable {α : Type} {run : Eval α} {now later : Stage} {passed : List Stage}

/-- Every scope keeps its limits and its number of active calls. -/
theorem steady (course : Course run now passed later) :
    now.world.heap.Steady later.world.heap := by
  induction course with
  | @primitive _ run now _ primitive => exact (primitive.gradual now.world).steady
  | bind _ _ _ first second => exact first.trans second
  | failed _ _ first => exact first
  | atLine _ _ inside => exact inside
  | block _ _ inside | call _ _ _ inside =>
      exact ((Heap.Steady.addScope _ _).trans inside).trans (Gradual.endScope _ _ _).steady
  | refused => exact .refl _

end Course

/-- The trail of a run is a course, whatever calls are active when it starts. -/
theorem Trail.course {α : Type} {run : Eval α} {now later : Moment} {passed : List Moment}
    (trail : Trail run now passed later) (active : List RoutineId) :
    ∃ stages, Course run (now.stage active) stages (later.stage active) := by
  induction trail generalizing active with
  | @primitive _ run now declares primitive =>
      have after : (now.stage active).after run = (now.after run declares).stage active := by
        simp [Moment.stage, Stage.after]
      exact after ▸ ⟨_, .primitive primitive⟩
  | bind _ ended _ first second =>
      obtain ⟨stages, course⟩ := first active
      obtain ⟨stages', rest⟩ := second active
      exact ⟨_, course.bind ended rest⟩
  | failed _ ended first =>
      obtain ⟨stages, course⟩ := first active
      exact ⟨_, course.failed ended⟩
  | atLine line _ inside =>
      obtain ⟨stages, course⟩ := inside active
      exact ⟨_, course.atLine line⟩
  | @block _ run now inner _ bindings _ _ inside =>
      obtain ⟨stages, course⟩ := inside active
      exact ⟨_, @Course.block _ run (now.stage active) (inner.stage active) stages bindings course⟩
  | @call run now inner _ id _ _ _ found made _ inside =>
      obtain ⟨stages, course⟩ := inside (id :: active)
      exact ⟨_, @Course.call run (now.stage active) (inner.stage (id :: active)) stages id _ _ _
        found made course⟩
  | @refused run now _ _ refused => exact ⟨[], @Course.refused run (now.stage active) _ _ refused⟩

/-- A run with a trail from every moment has a course from every stage. -/
theorem HasTrail.course {α : Type} {scope : ScopeId} {run : Eval α}
    (trails : HasTrail scope run) (now : Stage) (inside : now.scope = scope) :
    ∃ passed, Course run now passed (now.after run) := by
  obtain ⟨passed, later, trail⟩ := trails ⟨now.world, now.scope, [], []⟩ inside
  obtain ⟨stages, course⟩ := trail.course now.active
  have ended : later.stage now.active = now.after run := by
    rw [Moment.stage, Stage.after, trail.world_eq, trail.opened_eq.1]
  exact ⟨stages, ended ▸ course⟩

/-- A primitive run makes no scope, and functions only in the scope that it works in. -/
theorem Primitive.keeps {α : Type} {scope : ScopeId} {run : Eval α} {declares : Option Binding}
    (primitive : Primitive scope run declares) (world : World) :
    (last (run world)).heap.scopes.size = world.heap.scopes.size ∧
      ∀ {id routine}, (last (run world)).heap.routine? id = some routine →
        world.heap.routine? id = some routine ∨ routine.closure = scope := by
  cases primitive with
  | pure | stop | readHeap | print | readClock | readChance | newTeam =>
      exact ⟨rfl, fun found => .inl found⟩
  | declare name value constant =>
      rw [declare_apply]
      split
      · exact ⟨rfl, fun found => .inl found⟩
      · exact ⟨Heap.modifyScope_size _ _ _, fun found => .inl found⟩
  | assign name value =>
      rw [assign_apply]
      split
      · exact ⟨Heap.modifyScope_size _ _ _, fun found => .inl found⟩
      · exact ⟨rfl, fun found => .inl found⟩
  | writeElement id index value =>
      rw [writeElement_apply]
      split <;> exact ⟨rfl, fun found => .inl found⟩
  | newRoutine routine inside =>
      refine ⟨rfl, fun {id other} found => ?_⟩
      have added : (world.heap.addRoutine routine).routine? id = some other := found
      rw [Heap.routine?_addRoutine] at added
      split at added
      · cases added
        exact .inr inside
      · exact .inl added

end Eval

/-! ### What every stage keeps -/

/-- Every scope has the limits and no more active calls than they allow, and every function was
made in one of the scopes. -/
structure Heap.Limited (limits : Limits) (heap : Heap) : Prop where
  carried : ∀ id : ScopeId, id.index < heap.scopes.size → heap.limits id = limits
  depth : ∀ id : ScopeId, id.index < heap.scopes.size → heap.depth id ≤ limits.callDepth
  closures : ∀ {id : RoutineId} {routine : Routine}, heap.routine? id = some routine →
    routine.closure.index < heap.scopes.size

namespace Heap.Limited

variable {limits : Limits} {heap later : Heap}

/-- A later heap with the same scopes, whose new functions were made in them. -/
theorem keep (limited : heap.Limited limits) (steady : heap.Steady later)
    (size : later.scopes.size = heap.scopes.size)
    (closures : ∀ {id routine}, later.routine? id = some routine →
      heap.routine? id = some routine ∨ routine.closure.index < heap.scopes.size) :
    later.Limited limits where
  carried id bound := by
    rw [size] at bound
    exact (steady id bound).2.1.trans (limited.carried id bound)
  depth id bound := by
    rw [size] at bound
    exact (steady id bound).2.2 ▸ limited.depth id bound
  closures found := by
    rw [size]
    exact (closures found).elim limited.closures id

theorem addScope (limited : heap.Limited limits) {scope : Scope} (same : scope.limits = limits)
    (bounded : scope.depth ≤ limits.callDepth) : (heap.addScope scope).Limited limits where
  carried id bound := by
    by_cases here : id = heap.nextScope
    · simp [Heap.limits, scope?_addScope, here, same]
    · have inside := lt_of_addScope bound here
      exact (Steady.addScope heap scope id inside).2.1.trans (limited.carried id inside)
  depth id bound := by
    by_cases here : id = heap.nextScope
    · simpa [Heap.depth, scope?_addScope, here] using bounded
    · have inside := lt_of_addScope bound here
      exact (Steady.addScope heap scope id inside).2.2 ▸ limited.depth id inside
  closures found := by
    have inside := limited.closures found
    rw [addScope_size]
    omega

end Heap.Limited

namespace Stage

/-- Scopes and functions are as they should be, and the scope that the run is in knows how many
calls are active. -/
structure Invariant (limits : Limits) (stage : Stage) : Prop where
  limited : stage.world.heap.Limited limits
  present : stage.scope.index < stage.world.heap.scopes.size
  active : stage.world.heap.depth stage.scope = stage.active.length

namespace Invariant

variable {limits : Limits} {now inner : Stage}

theorem after {α : Type} {run : Eval α} {declares : Option Binding}
    (invariant : now.Invariant limits) (primitive : Eval.Primitive now.scope run declares) :
    (now.after run).Invariant limits := by
  have steady := (primitive.gradual now.world).steady
  obtain ⟨size, routines⟩ := primitive.keeps now.world
  obtain ⟨present, -, depth⟩ := steady _ invariant.present
  refine ⟨invariant.limited.keep steady size fun found => ?_, present,
    depth.trans invariant.active⟩
  rcases routines found with before | inside
  · exact .inl before
  · exact .inr (inside ▸ invariant.present)

theorem enter (invariant : now.Invariant limits) {scope : Scope} {active : List RoutineId}
    (same : scope.limits = limits) (bounded : scope.depth ≤ limits.callDepth)
    (counted : scope.depth = active.length) : (now.enter scope active).Invariant limits where
  limited := invariant.limited.addScope same bounded
  present := by
    rw [Stage.enter, World.mapHeap_heap, Heap.addScope_size]
    exact Nat.lt_succ_self _
  active := by
    have found := Heap.scope?_addScope now.world.heap scope now.world.heap.nextScope
    rw [if_pos rfl] at found
    exact (Heap.depth_eq found).trans counted

/-- A block has the limits and the active calls of the scope around it. -/
theorem block (invariant : now.Invariant limits) (bindings : List Binding) :
    (now.enter (now.world.heap.blockOf now.scope bindings) now.active).Invariant limits :=
  invariant.enter (invariant.limited.carried _ invariant.present)
    (invariant.limited.depth _ invariant.present) invariant.active

/-- A call has the limits of the scope that its function was made in, and one more active call
than the scope that it is made from. -/
theorem call (invariant : now.Invariant limits) {id : RoutineId} {routine : Routine}
    {arguments : List Value} {scope : Scope}
    (found : now.world.heap.routine? id = some routine)
    (made : now.world.heap.callScope routine arguments now.scope = .ok scope) :
    (now.enter scope (id :: now.active)).Invariant limits := by
  obtain ⟨below, bound⟩ := Heap.callScope_ok made
  obtain ⟨-, same, depth⟩ := Scope.bindAll_ok bound
  rw [invariant.limited.carried _ invariant.present] at below
  have closure : scope.limits = limits :=
    same.trans (invariant.limited.carried _ (invariant.limited.closures found))
  have next : scope.depth = now.world.heap.depth now.scope + 1 := depth
  refine invariant.enter closure (by omega) ?_
  rw [next, invariant.active, List.length_cons]

theorem leave (invariant : now.Invariant limits) (ended : inner.Invariant limits)
    (steady : now.world.heap.Steady inner.world.heap) : (now.leave inner).Invariant limits := by
  have closing := (Eval.Gradual.endScope inner.world now.world.heap.nextScope
    now.world.heap.routines.size).steady
  obtain ⟨present, -, depth⟩ := steady.trans closing _ invariant.present
  refine ⟨?_, present, depth.trans invariant.active⟩
  refine ended.limited.keep closing ?_ fun found => .inl ?_
  · unfold Stage.leave World.endScope
    split
    · exact Heap.modifyScope_size _ _ _
    · rfl
  · revert found
    unfold Stage.leave World.endScope
    split <;> exact fun found => found

/-- All stages of a run in a new scope, from its opening to its ending. -/
theorem around (invariant : now.Invariant limits) {scope : Scope} {active : List RoutineId}
    {passed : List Stage} (entered : (now.enter scope active).Invariant limits)
    (steady : (now.enter scope active).world.heap.Steady inner.world.heap)
    (inside : (∀ stage ∈ passed, stage.Invariant limits) ∧ inner.Invariant limits) :
    (∀ stage ∈ now.enter scope active :: passed ++ [now.leave inner], stage.Invariant limits) ∧
      (now.leave inner).Invariant limits := by
  have left := invariant.leave inside.2 ((Heap.Steady.addScope _ scope).trans steady)
  refine ⟨?_, left⟩
  rw [List.cons_append, List.forall_mem_cons, List.forall_mem_append]
  exact ⟨entered, inside.1, List.forall_mem_singleton.mpr left⟩

end Invariant

end Stage

/-- The invariant holds at every stage of a run that starts with it. -/
theorem Eval.Course.invariant {α : Type} {limits : Limits} {run : Eval α} {now later : Stage}
    {passed : List Stage} (course : Course run now passed later)
    (start : now.Invariant limits) :
    (∀ stage ∈ passed, stage.Invariant limits) ∧ later.Invariant limits := by
  induction course with
  | primitive primitive =>
      have after := start.after primitive
      exact ⟨List.forall_mem_singleton.mpr after, after⟩
  | bind _ _ _ first second =>
      obtain ⟨during, middle⟩ := first start
      obtain ⟨during', later⟩ := second middle
      exact ⟨List.forall_mem_append.mpr ⟨during, during'⟩, later⟩
  | failed _ _ first => exact first start
  | atLine _ _ inside => exact inside start
  | block bindings course inside =>
      have entered := start.block bindings
      exact start.around entered course.steady (inside entered)
  | call found made course inside =>
      have entered := start.call found made
      exact start.around entered course.steady (inside entered)
  | refused => exact ⟨List.forall_mem_nil _, start⟩

/-! ### Calls at a stage -/

/-- Parameters can only fail to be bound because two of them have the same name. -/
theorem Scope.bindAll_error {scope : Scope} {names : List String} {values : List Value}
    {fault : Fault} (failed : scope.bindAll names values = .error fault) :
    ∃ name, fault = .duplicate name := by
  induction names generalizing scope values with
  | nil => cases failed
  | cons name names induction =>
      cases values with
      | nil => cases failed
      | cons value values =>
          unfold Scope.bindAll at failed
          split at failed
          · cases failed
            exact ⟨name, rfl⟩
          · exact induction failed

/-- A failure of a call without a line is that the call gets no scope: a failure in the body of
the function has the line of a statement. -/
theorem callScope_of_unlabelled {world later : World} {budget : Nat} {id : RoutineId}
    {routine : Routine} {arguments : List Value} {caller : ScopeId} {fault : Fault}
    (found : world.heap.routine? id = some routine)
    (failed : invokeWithin (budget + 1) id arguments caller world =
      .error (.error ⟨fault, none⟩) later) :
    world.heap.callScope routine arguments caller = .error fault := by
  rw [invokeWithin_succ, Eval.callRoutine_apply, found] at failed
  dsimp only at failed
  cases made : world.heap.callScope routine arguments caller with
  | error refusal =>
      rw [made] at failed
      cases failed
      rfl
  | ok scope =>
      rw [made] at failed
      have located : (⟨fault, none⟩ : RuntimeError).line.isSome := by
        refine Eval.Labelled.bind (.inScope fun inner => .statements _ _ inner .null)
          (fun flow => ?_) _ _ _ failed
        cases flow <;> exact .of_ok fun _ => ⟨_, _, rfl⟩
      cases located

namespace Stage

/-- Every scope that has been made so far has the limits and no more active calls than they
allow, and the scope that the run is in knows how many calls are active. -/
structure Counted (limits : Limits) (stage : Stage) : Prop where
  carried : ∀ {id scope}, stage.world.heap.scope? id = some scope → scope.limits = limits
  bounded : ∀ {id scope}, stage.world.heap.scope? id = some scope →
    scope.depth ≤ limits.callDepth
  active : ∃ scope, stage.world.heap.scope? stage.scope = some scope ∧
    scope.depth = stage.active.length

/-- Of the calls with the right number of arguments that can be made at a stage, exactly those
are refused for their depth that are made when as many calls are active as the limits allow, and
these change nothing.  What fails in the body of a function has a line. -/
structure Guarded (limits : Limits) (stage : Stage) : Prop where
  refused : ∀ {id : RoutineId} {routine : Routine} {arguments : List Value},
    stage.world.heap.routine? id = some routine →
    arguments.length = routine.parameters.length → stage.active.length = limits.callDepth →
    ∀ budget, invokeWithin (budget + 1) id arguments stage.scope stage.world =
      .error (.error ⟨.tooDeep limits.callDepth, none⟩) stage.world
  deepest : ∀ {id : RoutineId} {routine : Routine} {arguments : List Value},
    stage.world.heap.routine? id = some routine →
    arguments.length = routine.parameters.length →
    ∀ budget later, invokeWithin (budget + 1) id arguments stage.scope stage.world =
      .error (.error ⟨.tooDeep limits.callDepth, none⟩) later →
    stage.active.length = limits.callDepth

namespace Invariant

variable {limits : Limits} {stage : Stage}

theorem counted (invariant : stage.Invariant limits) : stage.Counted limits where
  carried found :=
    (Heap.limits_eq found).symm.trans (invariant.limited.carried _ (Heap.lt_of_scope? found))
  bounded found :=
    Heap.depth_eq found ▸ invariant.limited.depth _ (Heap.lt_of_scope? found)
  active := by
    obtain ⟨scope, found⟩ := Option.isSome_iff_exists.mp
      (Heap.scope?_isSome.mpr invariant.present)
    exact ⟨scope, found, (Heap.depth_eq found).symm.trans invariant.active⟩

/-- A call with the right number of arguments is refused at the limit, and otherwise its
parameters are bound in a scope with one more active call. -/
theorem callScope_eq (invariant : stage.Invariant limits) {routine : Routine}
    {arguments : List Value} (arity : arguments.length = routine.parameters.length) :
    stage.world.heap.callScope routine arguments stage.scope =
      if stage.active.length = limits.callDepth then .error (.tooDeep limits.callDepth)
      else (stage.world.heap.callOf routine.closure stage.active.length).bindAll
        routine.parameters arguments := by
  have most : stage.active.length ≤ limits.callDepth :=
    invariant.active ▸ invariant.limited.depth _ invariant.present
  unfold Heap.callScope
  rw [invariant.limited.carried _ invariant.present, invariant.active]
  dsimp only
  rw [if_neg (not_not_intro arity)]
  by_cases deepest : stage.active.length = limits.callDepth
  · rw [if_pos (Nat.le_of_eq deepest.symm), if_pos deepest]
  · rw [if_neg (by omega), if_neg deepest]

theorem guarded (invariant : stage.Invariant limits) : stage.Guarded limits where
  refused found arity deepest budget := by
    rw [invokeWithin_succ, Eval.callRoutine_apply, found]
    dsimp only
    rw [invariant.callScope_eq arity, if_pos deepest]
  deepest found arity budget later failed := by
    have refusal := callScope_of_unlabelled found failed
    rw [invariant.callScope_eq arity] at refusal
    by_contra below
    rw [if_neg below] at refusal
    obtain ⟨name, different⟩ := Scope.bindAll_error refusal
    cases different

end Invariant

end Stage

/-! ### Sessions -/

/-- Declaring constants has a trail like a program. -/
theorem Eval.HasTrail.declareConstants {scope : ScopeId} (constants : List (String × Value)) :
    HasTrail scope (Eval.declareConstants scope constants) := by
  induction constants with
  | nil => exact primitive (.pure ())
  | cons constant rest induction =>
      obtain ⟨name, value⟩ := constant
      exact bind (primitive (.declare name value true)) fun _ => induction

namespace Session

variable {limits : Limits} {session : Session}

/-- The stage of a session between two sources. -/
def stage (session : Session) : Stage :=
  { world := session.world, scope := session.scope, active := [] }

/-- The stage of a session before a source runs. -/
def ready (session : Session) : Stage :=
  { session.stage with world := { session.world with output := #[] } }

theorem ready_invariant (invariant : session.stage.Invariant limits) :
    session.ready.Invariant limits :=
  ⟨invariant.limited, invariant.present, invariant.active⟩

theorem opened_invariant (limits : Limits) (readings : Readings) :
    Stage.Invariant limits ⟨opened limits readings, ⟨0⟩, []⟩ := by
  have empty : Heap.empty.Limited limits := by
    refine ⟨fun id bound => absurd bound (Nat.not_lt_zero _),
      fun id bound => absurd bound (Nat.not_lt_zero _), fun found => ?_⟩
    cases found
  exact ⟨empty.addScope rfl (Nat.zero_le _), Nat.zero_lt_one, rfl⟩

theorem stage_start (limits : Limits) (readings : Readings) :
    (start limits readings).stage.Invariant limits := by
  rw [start_eq]
  generalize Eval.globals 0 = constants
  obtain ⟨passed, course⟩ :=
    (Eval.HasTrail.declareConstants constants).course ⟨opened limits readings, ⟨0⟩, []⟩ rfl
  exact (course.invariant (opened_invariant limits readings)).2

/-- The course of a program that a session runs. -/
theorem exists_course (session : Session) (program : Program) :
    ∃ passed, Eval.Course (program.eval session.scope) session.ready passed
      (session.ready.after (program.eval session.scope)) :=
  (Eval.HasTrail.compositional.program program trivial).course session.ready rfl

theorem stage_after (invariant : session.stage.Invariant limits) (source : String) :
    (session.after source).stage.Invariant limits := by
  cases read : Program.ofSource source with
  | error error =>
      rw [after_of_unread read]
      exact invariant
  | ok program =>
      obtain ⟨passed, course⟩ := session.exists_course program
      rw [stage, after_of_read read]
      exact (course.invariant (ready_invariant invariant)).2

theorem stage_afterAll (invariant : session.stage.Invariant limits) (sources : List String) :
    (session.afterAll sources).stage.Invariant limits := by
  induction sources generalizing session with
  | nil => exact invariant
  | cons source sources induction => exact induction (stage_after invariant source)

/-- Calls are counted exactly.  Whatever sources a session has run, and at every stage that the
run of a further program passes: all scopes have the limits of the session and no more active
calls than they allow, the scope that the run is in knows how many calls are active, and a call
is refused for its depth exactly if these are as many as the limits allow. -/
theorem calls_counted_exactly (limits : Limits) (readings : Readings) (sources : List String) :
    let session := (start limits readings).afterAll sources
    session.stage.Counted limits ∧ ∀ program : Program,
      (∃ passed later,
        Eval.Course (program.eval session.scope) session.ready passed later) ∧
      ∀ passed later, Eval.Course (program.eval session.scope) session.ready passed later →
        ∀ stage ∈ session.ready :: passed, stage.Counted limits ∧ stage.Guarded limits := by
  intro session
  have invariant : session.stage.Invariant limits :=
    stage_afterAll (stage_start limits readings) sources
  refine ⟨invariant.counted, fun program => ⟨?_, fun passed later course stage member => ?_⟩⟩
  · obtain ⟨passed, course⟩ := session.exists_course program
    exact ⟨passed, _, course⟩
  · have start := ready_invariant invariant
    have each : ∀ stage ∈ session.ready :: passed, stage.Invariant limits :=
      List.forall_mem_cons.mpr ⟨start, (course.invariant start).1⟩
    exact ⟨(each stage member).counted, (each stage member).guarded⟩

/-- A function that calls itself, declared by one source and called by the next, in a session in
which 50 calls may be active. -/
theorem calls_counted_exactly_recursion :
    let limits : Limits := { iterations := 1, callDepth := 50 }
    let session := (start limits (Readings.seeded 0 0)).afterAll
      ["assemble f(n) \x7b snap f(n + 1); \x7d"]
    let program : Program := [.mk 1 (.expression (.call (.name "f") [.number 0]))]
    ∃ passed later, Eval.Course (program.eval session.scope) session.ready passed later ∧
      ∀ stage ∈ session.ready :: passed, stage.Counted limits ∧ stage.Guarded limits := by
  intro limits session program
  obtain ⟨-, programs⟩ := calls_counted_exactly limits (Readings.seeded 0 0)
    ["assemble f(n) \x7b snap f(n + 1); \x7d"]
  obtain ⟨⟨passed, later, course⟩, counted⟩ := programs program
  exact ⟨passed, later, course, counted passed later course⟩

end Session

end Avenger
