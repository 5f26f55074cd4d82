import Avenger.Proofs.Locality.Joined
import Avenger.Proofs.Termination

/-!
# Evaluation touches only what it can reach

A run in one scope and a run of the same code in a paired scope stay in lockstep.  When a
heap is paired with itself at the places that a scope reaches, this says that a run in the
scope reads and changes no others.
-/

namespace Avenger

/-- Flows that are the same up to a pairing. -/
abbrev Pairing.Flows (pairing : Pairing) : Flow → Flow → Prop := Flow.Alike pairing.Values

/-- Runs that end alike: with results that are the same up to what was made on the way, or
with the same error, and with worlds that look alike. -/
inductive Pairing.Ends (pairing : Pairing) {α : Type} (results : Pairing → α → α → Prop) :
    EStateM.Result Eval.Stop World α → EStateM.Result Eval.Stop World α → Prop where
  | ok {later : Pairing} {result result' : α} {world world' : World}
      (more : later.Extends pairing) (related : results later result result')
      (view : later.SameView world world') :
      Ends pairing results (.ok result world) (.ok result' world')
  | error {later : Pairing} {world world' : World} (stop : Eval.Stop)
      (more : later.Extends pairing) (view : later.SameView world world') :
      Ends pairing results (.error stop world) (.error stop world')

/-- A run in a scope reads and changes only what is found from the scope: everything else
stays what it was, worlds that are the same at the places found lead to the same end, and so
do worlds that look alike from paired scopes. -/
structure Eval.Local {α : Type} (results : Pairing → α → α → Prop)
    (run : ScopeId → Eval α) : Prop where
  keeps : ∀ {world : World} {scope : ScopeId}, world.heap.Sound →
    world.heap.Has (.scope scope) →
    world.heap.Keeps (world.heap.Finds [.scope scope]) (Eval.last (run scope world)).heap
  same : ∀ {world world' : World} {scope : ScopeId}, world.heap.Sound →
    world'.heap.Sound → world.heap.Has (.scope scope) → world.SameOutside world' →
    world.heap.SameAt (world.heap.Finds [.scope scope]) world'.heap →
    (Pairing.self (world.heap.Finds [.scope scope])).Ends results (run scope world)
      (run scope world')
  alike : ∀ {pairing : Pairing} {world world' : World} {scope scope' : ScopeId},
    world.heap.Sound → world'.heap.Sound → world.heap.Has (.scope scope) →
    pairing.scopes scope scope' → pairing.SameView world world' →
    pairing.Ends results (run scope world) (run scope' world')

/-- The places that a call starts from. -/
def Invoke.roots (id : RoutineId) (arguments : List Value) : List Place :=
  .routine id :: arguments.filterMap Value.place?

/-- Scopes that allow the same number of calls and have as many of them active. -/
structure Heap.SameCaller (heap heap' : Heap) (caller caller' : ScopeId) : Prop where
  depth : heap.depth caller = heap'.depth caller'
  limit : (heap.limits caller).callDepth = (heap'.limits caller').callDepth

/-- A call reads and changes only what is found from the function and the arguments, except
for the limit and the number of calls of the calling scope. -/
structure Invoke.Local (invoke : Invoke) : Prop where
  keeps : ∀ {world : World} {id : RoutineId} {arguments : List Value} {caller : ScopeId},
    world.heap.Sound → (∀ root ∈ Invoke.roots id arguments, world.heap.Has root) →
    world.heap.Has (.scope caller) →
    world.heap.Keeps (world.heap.Finds (Invoke.roots id arguments))
      (Eval.last (invoke id arguments caller world)).heap
  same : ∀ {world world' : World} {id : RoutineId} {arguments : List Value}
      {caller caller' : ScopeId}, world.heap.Sound → world'.heap.Sound →
    (∀ root ∈ Invoke.roots id arguments, world.heap.Has root) →
    world.heap.Has (.scope caller) → world'.heap.Has (.scope caller') →
    world.heap.SameCaller world'.heap caller caller' → world.SameOutside world' →
    world.heap.SameAt (world.heap.Finds (Invoke.roots id arguments)) world'.heap →
    (Pairing.self (world.heap.Finds (Invoke.roots id arguments))).Ends Pairing.Values
      (invoke id arguments caller world) (invoke id arguments caller' world')
  alike : ∀ {pairing : Pairing} {world world' : World} {id id' : RoutineId}
      {arguments arguments' : List Value} {caller caller' : ScopeId}, world.heap.Sound →
    world'.heap.Sound → world.heap.Has (.scope caller) → world'.heap.Has (.scope caller') →
    world.heap.SameCaller world'.heap caller caller' → pairing.routines id id' →
    List.Forall₂ pairing.Values arguments arguments' → pairing.SameView world world' →
    pairing.Ends Pairing.Values (invoke id arguments caller world)
      (invoke id' arguments' caller' world')

namespace Pairing

variable {pairing : Pairing} {start : Heap} {vantage : Vantage} {world world' : World}

/-- Everything that is still to be made is in a grown pairing. -/
theorem grown_lockstep {heap heap' : Heap} (agrees : pairing.Agrees heap heap')
    (ordered : heap.Ordered) (ordered' : heap'.Ordered) :
    (pairing.grown heap heap').Lockstep heap heap' where
  agrees := agrees.grown
  complete :=
    ⟨fun distance => .inr ⟨distance, rfl, rfl⟩, fun distance => .inr ⟨distance, rfl, rfl⟩,
      fun distance => .inr ⟨distance, rfl, rfl⟩⟩
  ordered := ordered
  ordered' := ordered'

/-- Worlds that look alike are joined at the start of two runs. -/
theorem SameView.joined (view : pairing.SameView world world') (sound : world.heap.Sound)
    (sound' : world'.heap.Sound) {scope scope' : ScopeId}
    (paired : pairing.scopes scope scope') (has : world.heap.Has (.scope scope)) :
    (pairing.grown world.heap world'.heap).Joined world.heap ⟨scope, scope', 0⟩ world
      world' where
  lockstep := grown_lockstep view.heaps sound.ordered sound'.ordered
  outside := view.outside
  kept := .refl _
  paired := .inl paired
  bound := has

theorem Joined.view (joined : pairing.Joined start vantage world world') :
    pairing.SameView world world' :=
  ⟨joined.lockstep.agrees, joined.outside⟩

section Ending

variable {α : Type} {later : Pairing} {left right : EStateM.Result Eval.Stop World α}

/-- Coupled runs end alike. -/
theorem Ends.of_outcome {results : Pairing → α → α → Prop} (more : later.Extends pairing)
    (outcome : (later.coupling start).Outcome vantage (results later) left right) :
    pairing.Ends results left right := by
  cases outcome with
  | ok related joined => exact .ok more related joined.view
  | error possible joined => exact .error _ more joined.view
  | spared impossible => exact impossible.elim

/-- Coupled runs change only paired places. -/
theorem kept_of_outcome {results : α → α → Prop}
    (outcome : (later.coupling start).Outcome vantage results left right) :
    start.Keeps later.Left (Eval.last left).heap := by
  cases outcome with
  | ok related joined => exact joined.kept
  | error possible joined => exact joined.kept
  | spared impossible => exact impossible.elim

end Ending

/-- What was in a heap and has been paired in the growth of a pairing of places with
themselves was among these places. -/
theorem keeps_of_grown {places : Place → Prop} {heap last : Heap}
    (kept : heap.Keeps ((self places).grown heap heap).Left last) :
    heap.Keeps places last := by
  constructor
  case scopes =>
      intro id scope found apart
      apply kept.scopes found
      rintro ⟨_, ⟨_, within⟩ | ⟨distance, rfl, _⟩⟩
      · exact apart within
      · have bound := Heap.lt_of_scope? found
        dsimp only at bound
        omega
  case teams =>
      intro id team found apart
      apply kept.teams found
      rintro ⟨_, ⟨_, within⟩ | ⟨distance, rfl, _⟩⟩
      · exact apart within
      · have bound := Heap.lt_of_team? found
        dsimp only at bound
        omega

end Pairing

/-- Heaps that have the same at the places that are found from others look alike from
these. -/
theorem Pairing.finds_agrees {heap heap' : Heap} {roots : List Place} (sound : heap.Sound)
    (has : ∀ root ∈ roots, heap.Has root) (same : heap.SameAt (heap.Finds roots) heap') :
    (Pairing.self (heap.Finds roots)).Agrees heap heap' :=
  Pairing.self_agrees Heap.Finds.next (sound.finds has) same

/-- Code is local if it does the same with all calls that are deep enough and if runs of it
in paired scopes are coupled. -/
theorem Eval.Local.of_coupled {α : Type} {results : Pairing → α → α → Prop}
    (run : Invoke → ScopeId → Eval α)
    (deep : ∀ {world : World} {scope : ScopeId} {calls : Nat}, world.heap.Sound →
      world.heap.Has (.scope scope) → world.heap.callBudget ≤ calls →
      Eval.withCalls (run · scope) world = run (invokeWithin calls) scope world)
    (coupled : ∀ (pairing : Pairing) (start : Heap) (vantage : Vantage) (calls : Nat),
      (pairing.coupling start).Coupled vantage (results pairing)
        (run (invokeWithin calls) vantage.left) (run (invokeWithin calls) vantage.right)) :
    Eval.Local results fun scope => Eval.withCalls (run · scope) := by
  have outcome : ∀ {pairing : Pairing} {world world' : World} {scope scope' : ScopeId},
      world.heap.Sound → world'.heap.Sound → world.heap.Has (.scope scope) →
      pairing.scopes scope scope' → pairing.SameView world world' →
      ((pairing.grown world.heap world'.heap).coupling world.heap).Outcome
        ⟨scope, scope', 0⟩ (results (pairing.grown world.heap world'.heap))
        (Eval.withCalls (run · scope) world) (Eval.withCalls (run · scope') world') := by
    intro pairing world world' scope scope' sound sound' has paired view
    have joined := view.joined sound sound' paired has
    have within := Nat.le_max_left world.heap.callBudget world'.heap.callBudget
    have within' := Nat.le_max_right world.heap.callBudget world'.heap.callBudget
    rw [deep sound has within, deep sound' joined.bound' within']
    exact coupled _ _ ⟨scope, scope', 0⟩ _ world world' joined
  constructor
  case keeps =>
      intro world scope sound has
      have present : ∀ root ∈ [Place.scope scope], world.heap.Has root := by
        simpa using has
      have agrees := Pairing.finds_agrees sound present (.refl _ _)
      have paired : (Pairing.self (world.heap.Finds [.scope scope])).scopes scope scope :=
        ⟨rfl, _, .head _, .refl⟩
      have ended := outcome sound sound has paired ⟨agrees, .refl world⟩
      exact Pairing.keeps_of_grown (Pairing.kept_of_outcome ended)
  case same =>
      intro world world' scope sound sound' has outside same
      have present : ∀ root ∈ [Place.scope scope], world.heap.Has root := by
        simpa using has
      have agrees := Pairing.finds_agrees sound present same
      have paired : (Pairing.self (world.heap.Finds [.scope scope])).scopes scope scope :=
        ⟨rfl, _, .head _, .refl⟩
      have ended := outcome sound sound' has paired ⟨agrees, outside⟩
      exact .of_outcome (Pairing.grown_extends _ _ _) ended
  case alike =>
      intro pairing world world' scope scope' sound sound' has paired view
      have ended := outcome sound sound' has paired view
      exact .of_outcome (Pairing.grown_extends _ _ _) ended

/-- Calls of paired functions end alike and change only paired places. -/
theorem Pairing.call_ends {pairing later : Pairing} (more : later.Extends pairing)
    {world world' : World} (lockstep : later.Lockstep world.heap world'.heap)
    (outside : world.SameOutside world') {id id' : RoutineId} (paired : later.routines id id')
    {arguments arguments' : List Value}
    (related : List.Forall₂ later.Values arguments arguments') {caller caller' : ScopeId}
    (callers : world.heap.SameCaller world'.heap caller caller') (budget : Nat) :
    pairing.Ends Pairing.Values
        (invokeWithin (budget + 1) id arguments caller world)
        (invokeWithin (budget + 1) id' arguments' caller' world') ∧
      world.heap.Keeps later.Left
        (Eval.last (invokeWithin (budget + 1) id arguments caller world)).heap := by
  have routines := lockstep.routine? paired
  have view : later.SameView world world' := ⟨lockstep.agrees, outside⟩
  rw [invokeWithin_succ, Eval.callRoutine_apply, Eval.callRoutine_apply]
  generalize found : world.heap.routine? id = routine at routines ⊢
  generalize found' : world'.heap.routine? id' = routine' at routines ⊢
  cases routines with
  | none => exact ⟨.error _ more view, .refl _⟩
  | @some routine routine' code =>
      have opened : (later.coupling world.heap).Agree _
          (world.heap.callScope routine arguments caller)
          (world'.heap.callScope routine' arguments' caller') :=
        lockstep.callScope code related callers.depth callers.limit
      dsimp only
      generalize world.heap.callScope routine arguments caller = made at opened ⊢
      generalize world'.heap.callScope routine' arguments' caller' = made' at opened ⊢
      rw [← code.code.body]
      cases opened with
      | error fault => exact ⟨.error _ more view, .refl _⟩
      | spared impossible => exact impossible.elim
      | ok opened =>
          obtain ⟨scopes, parent, parent'⟩ := opened
          have joined : later.Joined world.heap ⟨routine.closure, routine'.closure, 0⟩ world
              world' :=
            ⟨lockstep, outside, .refl _, code.closure, lockstep.ordered.closures found⟩
          have opening := Pairing.opening joined 0 scopes
            (by
              intro closure inside
              cases parent.symm.trans inside
              exact joined.bound)
            (by
              intro closure inside
              cases parent'.symm.trans inside
              exact joined.bound')
          have ended := Coupling.body Pairing.lawful
            (.same Pairing.lawful trivial 0 budget) routine.body rfl opening
          exact ⟨.of_outcome more ended, Pairing.kept_of_outcome ended⟩

/-- Calls are local. -/
theorem Invoke.Local.callFrom : Invoke.Local fun id arguments caller =>
    Value.callFrom (.routine id) arguments caller := by
  have ends : ∀ {pairing : Pairing} {world world' : World} {id id' : RoutineId}
      {arguments arguments' : List Value} {caller caller' : ScopeId}, world.heap.Sound →
      world'.heap.Sound → world.heap.Has (.scope caller) →
      world'.heap.Has (.scope caller') → world.heap.SameCaller world'.heap caller caller' →
      pairing.routines id id' → List.Forall₂ pairing.Values arguments arguments' →
      pairing.SameView world world' →
      pairing.Ends Pairing.Values (Value.callFrom (.routine id) arguments caller world)
          (Value.callFrom (.routine id') arguments' caller' world') ∧
        world.heap.Keeps (pairing.grown world.heap world'.heap).Left
          (Eval.last (Value.callFrom (.routine id) arguments caller world)).heap := by
    intro pairing world world' id id' arguments arguments' caller caller' sound sound' has
      has' callers paired related view
    have within : world.heap.callBudget ≤
        max world.heap.greatestCallDepth world'.heap.greatestCallDepth + 1 :=
      Nat.succ_le_succ (Nat.le_max_left _ _)
    have within' : world'.heap.callBudget ≤
        max world.heap.greatestCallDepth world'.heap.greatestCallDepth + 1 :=
      Nat.succ_le_succ (Nat.le_max_right _ _)
    rw [Value.callFrom_eq_deep sound.ordered.closures has _ _ within,
      Value.callFrom_eq_deep sound'.ordered.closures has' _ _ within']
    have more := pairing.grown_extends world.heap world'.heap
    exact Pairing.call_ends more
      (Pairing.grown_lockstep view.heaps sound.ordered sound'.ordered) view.outside
      (more.routines paired) (related.imp fun _ _ => more.valuesAlike) callers _
  have starts : ∀ (heap : Heap) (id : RoutineId) (arguments : List Value),
      (Pairing.self (heap.Finds (Invoke.roots id arguments))).routines id id ∧
        List.Forall₂ (Pairing.self (heap.Finds (Invoke.roots id arguments))).Values
          arguments arguments := by
    intro heap id arguments
    refine ⟨⟨rfl, _, .head _, .refl⟩, List.forall₂_same.mpr ?_⟩
    intro value member
    apply Pairing.self_values
    intro place names
    exact ⟨place, .tail _ (List.mem_filterMap.mpr ⟨value, member, names⟩), .refl⟩
  constructor
  case keeps =>
      intro world id arguments caller sound has present
      obtain ⟨paired, related⟩ := starts world.heap id arguments
      have agrees := Pairing.finds_agrees sound has (.refl _ _)
      have ended := ends sound sound present present ⟨rfl, rfl⟩ paired related
        ⟨agrees, .refl world⟩
      exact Pairing.keeps_of_grown ended.2
  case same =>
      intro world world' id arguments caller caller' sound sound' has present present'
        callers outside same
      obtain ⟨paired, related⟩ := starts world.heap id arguments
      have agrees := Pairing.finds_agrees sound has same
      exact (ends sound sound' present present' callers paired related
        ⟨agrees, outside⟩).1
  case alike =>
      intro pairing world world' id id' arguments arguments' caller caller' sound sound'
        present present' callers paired related view
      exact (ends sound sound' present present' callers paired related view).1

/-- Evaluation touches only what it can reach: expressions, statements and programs what is
found from the scope that they run in, and calls what is found from the function and the
arguments. -/
theorem evaluation_is_local :
    (∀ expression : Expr, Eval.Local Pairing.Values fun scope =>
        Eval.withCalls (expression.eval · scope)) ∧
      (∀ statement : Stmt, Eval.Local Pairing.Flows fun scope =>
        Eval.withCalls (statement.exec · scope)) ∧
      (∀ program : Program, Eval.Local Pairing.Flows program.exec) ∧
      Invoke.Local fun id arguments caller =>
        Value.callFrom (.routine id) arguments caller := by
  refine ⟨?_, ?_, ?_, .callFrom⟩
  · intro expression
    apply Eval.Local.of_coupled (expression.eval · ·)
    · intro world scope calls sound has enough
      exact Expr.eval_eq_deep sound.ordered.closures has expression enough
    · intro pairing start vantage calls
      exact Coupling.expression Pairing.lawful (.same Pairing.lawful trivial _ calls) rfl
        expression
  · intro statement
    apply Eval.Local.of_coupled (statement.exec · ·)
    · intro world scope calls sound has enough
      exact Stmt.exec_eq_deep sound.ordered.closures has statement enough
    · intro pairing start vantage calls
      exact Coupling.statement Pairing.lawful (.same Pairing.lawful trivial _ calls)
        statement rfl trivial
  · intro program
    apply Eval.Local.of_coupled (fun invoke scope => Stmt.execList invoke program scope .null)
    · intro world scope calls sound has enough
      exact Program.exec_eq_deep sound.ordered.closures has program enough
    · intro pairing start vantage calls
      exact Coupling.statements Pairing.lawful (.same Pairing.lawful trivial _ calls)
        program rfl trivial .null

/-- A world with two functions that count their calls, each in a scope of its own. -/
def World.counters : World :=
  let counter : Scope :=
    { bindings := [⟨"count", .number 0, false⟩], parent := some ⟨0⟩, limits := .standard,
      depth := 1 }
  let next (closure : ScopeId) : Routine :=
    { name := "next"
      parameters := []
      body := [.mk 1 (.expression (.update .add (.name "count") (.number 1))),
        .mk 2 (.snap (some (.name "count")))]
      closure }
  { World.initial { clock := fun _ => 0, chance := fun _ => 0 } .release with
    heap :=
      { scopes := #[Heap.root .standard, counter, counter]
        teams := #[]
        routines := #[next ⟨1⟩, next ⟨2⟩] } }

theorem World.counters_scope {id : ScopeId} {scope : Scope}
    (found : World.counters.heap.scope? id = some scope) :
    (∀ parent, scope.parent = some parent → parent = ⟨0⟩ ∧ 0 < id.index) ∧
      ∀ binding ∈ scope.bindings, binding.value.place? = none := by
  obtain ⟨index⟩ := id
  have bound : index < 3 := Heap.lt_of_scope? found
  obtain rfl | rfl | rfl : index = 0 ∨ index = 1 ∨ index = 2 := by omega
  all_goals
    simp only [Heap.scope?, counters] at found
    obtain rfl := Option.some.inj found
    simp [Heap.root, Value.place?, eq_comm]

theorem World.counters_closure {id : RoutineId} {routine : Routine}
    (found : World.counters.heap.routine? id = some routine) :
    id.index < 2 ∧ routine.closure = ⟨id.index + 1⟩ := by
  obtain ⟨index⟩ := id
  have bound : index < 2 := Heap.lt_of_routine? found
  obtain rfl | rfl : index = 0 ∨ index = 1 := by omega
  all_goals
    simp only [Heap.routine?, counters] at found
    obtain rfl := Option.some.inj found
    simp

/-- Links lead from scopes to the global one, and from functions to the scopes of their
counts. -/
theorem World.counters_link {place other : Place}
    (link : World.counters.heap.Link place other) :
    (∃ index, place = .scope ⟨index + 1⟩ ∧ other = .scope ⟨0⟩) ∨
      ∃ index, index < 2 ∧ place = .routine ⟨index⟩ ∧ other = .scope ⟨index + 1⟩ := by
  cases link with
  | @parent id parent scope found inside =>
      obtain ⟨rfl, positive⟩ := (counters_scope found).1 _ inside
      exact .inl ⟨id.index - 1, by rw [Nat.sub_add_cancel positive], rfl⟩
  | bound found member names =>
      rw [(counters_scope found).2 _ member] at names
      cases names
  | element found member names =>
      have bound := Heap.lt_of_team? found
      exact absurd bound (Nat.not_lt_zero _)
  | @closure id routine found =>
      obtain ⟨bound, same⟩ := counters_closure found
      exact .inr ⟨id.index, bound, rfl, by rw [same]⟩

theorem World.counters_sound : World.counters.heap.Sound := by
  constructor
  case present =>
      intro place other link
      rcases counters_link link with ⟨index, -, rfl⟩ | ⟨index, bound, -, rfl⟩
      · exact Nat.zero_lt_succ 2
      · exact Nat.succ_lt_succ bound
  case parents =>
      intro id parent scope found inside
      obtain ⟨rfl, positive⟩ := (counters_scope found).1 _ inside
      exact positive

/-- A call of one of the counting functions leaves the count of the other one alone. -/
theorem counters_stay_apart :
    (Eval.last (Value.callFrom (.routine ⟨0⟩) [] ⟨0⟩ World.counters)).heap.scope? ⟨2⟩ =
      World.counters.heap.scope? ⟨2⟩ := by
  have roots : ∀ root ∈ Invoke.roots ⟨0⟩ [], root = .routine ⟨0⟩ := by
    simp [Invoke.roots]
  have present : ∀ root ∈ Invoke.roots ⟨0⟩ [], World.counters.heap.Has root := by
    intro root member
    rw [roots root member]
    exact Nat.zero_lt_two
  have kept := evaluation_is_local.2.2.2.keeps World.counters_sound present
    (Nat.zero_lt_succ 2 : World.counters.heap.Has (.scope ⟨0⟩))
  apply kept.scopes rfl
  intro found
  have near : Place.scope ⟨2⟩ ∈ [Place.routine ⟨0⟩, .scope ⟨1⟩, .scope ⟨0⟩] := by
    apply found.within
    · intro root member
      rw [roots root member]
      exact .head _
    · intro place other member link
      rcases World.counters_link link with ⟨index, rfl, rfl⟩ | ⟨index, bound, rfl, rfl⟩
      · simp
      · obtain rfl : index = 0 := by simpa using member
        simp
  simp at near

end Avenger
