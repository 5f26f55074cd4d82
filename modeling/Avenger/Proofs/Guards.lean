import Avenger.Proofs.Coupling.Evaluation
import Avenger.Proofs.Guards.Unlimited
import Avenger.Proofs.Termination

/-!
# Limits are only guards

A session with larger limits does what a session with smaller limits does, step by step, up
to the first step that a limit stops; and in that step it prints at least as much.
-/

namespace Avenger

/-- The faults of a run that a limit has stopped. -/
def Fault.IsLimit (fault : Fault) : Prop :=
  ∃ limit, fault = .tooManyTurns limit ∨ fault = .tooDeep limit

/-- Limits that allow no more than others do. -/
structure Limits.Within (limits larger : Limits) : Prop where
  iterations : limits.iterations ≤ larger.iterations
  callDepth : limits.callDepth ≤ larger.callDepth

theorem Limits.Within.refl (limits : Limits) : limits.Within limits :=
  ⟨Nat.le_refl _, Nat.le_refl _⟩

/-- Worlds that are the same but for the limits, which are larger in the second one, when
code runs in a scope. -/
structure World.Guarded (scope : ScopeId) (world world' : World) : Prop where
  same : world.unlimited = world'.unlimited
  limits : ∀ id, (world.heap.limits id).Within (world'.heap.limits id)
  closed : ∀ {id routine}, world.heap.routine? id = some routine →
    routine.closure.index < world.heap.scopes.size
  bound : scope.index < world.heap.scopes.size

namespace World.Guarded

variable {scope : ScopeId} {world world' : World}

theorem heap (guarded : World.Guarded scope world world') :
    world.heap.unlimited = world'.heap.unlimited :=
  congrArg World.heap guarded.same

theorem size (guarded : World.Guarded scope world world') :
    world.heap.scopes.size = world'.heap.scopes.size := by
  have sizes := congrArg (·.scopes.size) guarded.heap
  simpa using sizes

theorem teams (guarded : World.Guarded scope world world') :
    world.heap.teams = world'.heap.teams := by
  have teams := congrArg (·.teams) guarded.heap
  exact teams

theorem routines (guarded : World.Guarded scope world world') :
    world.heap.routines = world'.heap.routines := by
  have routines := congrArg (·.routines) guarded.heap
  exact routines

theorem depth (guarded : World.Guarded scope world world') (id : ScopeId) :
    world.heap.depth id = world'.heap.depth id := by
  rw [← Heap.depth_unlimited, guarded.heap, Heap.depth_unlimited]

/-- Worlds stay guarded when both heaps are changed alike and scopes keep their limits. -/
theorem changed (guarded : World.Guarded scope world world') {change change' : Heap → Heap}
    (same : (change world.heap).unlimited = (change' world'.heap).unlimited)
    (limits : ∀ id, ((change world.heap).limits id).Within ((change' world'.heap).limits id))
    (closed : ∀ {id routine}, (change world.heap).routine? id = some routine →
      routine.closure.index < (change world.heap).scopes.size)
    (larger : world.heap.scopes.size ≤ (change world.heap).scopes.size) :
    World.Guarded scope (world.mapHeap change) (world'.mapHeap change') := by
  refine ⟨?_, limits, closed, Nat.lt_of_lt_of_le guarded.bound larger⟩
  have others := guarded.same
  simp only [World.unlimited, World.mapHeap, World.mk.injEq] at others ⊢
  exact ⟨same, others.2⟩

theorem modifyScope (guarded : World.Guarded scope world world') (id : ScopeId)
    (change : Scope → Scope)
    (commutes : ∀ scope, (change scope).unlimited = change scope.unlimited)
    (limits : ∀ scope, (change scope).limits = scope.limits) :
    World.Guarded scope (world.mapHeap (·.modifyScope id change))
      (world'.mapHeap (·.modifyScope id change)) := by
  have kept : ∀ (heap : Heap) (other : ScopeId),
      (heap.modifyScope id change).limits other = heap.limits other := by
    intro heap other
    unfold Heap.limits
    rw [Heap.scope?_modifyScope]
    split
    · cases heap.scope? other <;> simp [limits]
    · rfl
  apply guarded.changed
  · rw [Heap.unlimited_modifyScope _ _ commutes, Heap.unlimited_modifyScope _ _ commutes,
      guarded.heap]
  · intro other
    rw [kept, kept]
    exact guarded.limits other
  · intro other routine found
    simpa using guarded.closed found
  · simp

theorem addScope (guarded : World.Guarded scope world world') {added added' : Scope}
    (same : added.unlimited = added'.unlimited) (limits : added.limits.Within added'.limits) :
    World.Guarded world.heap.nextScope (world.mapHeap (·.addScope added))
      (world'.mapHeap (·.addScope added')) := by
  have next : world.heap.nextScope = world'.heap.nextScope := by
    unfold Heap.nextScope
    rw [guarded.size]
  have grown : World.Guarded scope (world.mapHeap (·.addScope added))
      (world'.mapHeap (·.addScope added')) := by
    apply guarded.changed
    · rw [Heap.unlimited_addScope, Heap.unlimited_addScope, guarded.heap, same]
    · intro id
      unfold Heap.limits
      rw [Heap.scope?_addScope, Heap.scope?_addScope, next]
      split
      · exact limits
      · exact guarded.limits id
    · intro id routine found
      have bound := guarded.closed found
      simp
      omega
    · simp
  exact { grown with bound := by simp [Heap.nextScope] }

/-- Everything but the heaps is the same in guarded worlds. -/
theorem withHeap (guarded : World.Guarded scope world world') (heap : Heap) :
    { world with heap } = { world' with heap } := by
  have others := guarded.same
  simp only [World.unlimited, World.mapHeap, World.mk.injEq] at others ⊢
  exact ⟨trivial, others.2⟩

/-- Worlds stay guarded when something else than the heap is changed alike. -/
theorem withoutHeap (guarded : World.Guarded scope world world') (change : World → World)
    (keeps : ∀ world, (change world).heap = world.heap)
    (apart : ∀ (world : World) heap, { change world with heap } = change { world with heap }) :
    World.Guarded scope (change world) (change world') := by
  refine ⟨?_, ?_, ?_, ?_⟩
  · show { change world with heap := (change world).heap.unlimited } =
      { change world' with heap := (change world').heap.unlimited }
    rw [apart, apart, keeps, keeps, guarded.heap, guarded.withHeap]
  · simpa only [keeps] using guarded.limits
  · intro id routine
    simpa only [keeps] using guarded.closed
  · simpa only [keeps] using guarded.bound

theorem endScope (guarded : World.Guarded scope world world') (id : ScopeId)
    (routines : Nat) :
    World.Guarded scope (world.endScope id routines) (world'.endScope id routines) := by
  have retention : world.retention = world'.retention := by
    have retentions := congrArg (·.retention) guarded.same
    exact retentions
  unfold World.endScope
  by_cases released : world.retention = .release ∧ world.heap.routines.size = routines
  · have released' : world'.retention = .release ∧ world'.heap.routines.size = routines := by
      rwa [← retention, ← guarded.routines]
    rw [if_pos released, if_pos released']
    exact guarded.modifyScope id Scope.clear (fun _ => rfl) fun _ => rfl
  · have kept : ¬ (world'.retention = .release ∧ world'.heap.routines.size = routines) := by
      rwa [← retention, ← guarded.routines]
    rw [if_neg released, if_neg kept]
    exact guarded

/-- Worlds that are guarded for the code in one scope are so for that in every other. -/
theorem elsewhere (guarded : World.Guarded scope world world') {other : ScopeId}
    (bound : other.index < world.heap.scopes.size) : World.Guarded other world world' :=
  { guarded with bound }

end World.Guarded

/-- Where a guarded run is: in a scope, and how many calls into the run. -/
structure Guard where
  scope : ScopeId
  depth : Nat

namespace Guard

/-- Runs under smaller and under larger limits. -/
def coupling : Coupling where
  Stage := Guard
  left := Guard.scope
  right := Guard.scope
  depth := Guard.depth
  declaring _ := True
  worlds guard := World.Guarded guard.scope
  teams := Eq
  routines := Eq
  stoppable := True
  yields := Fault.IsLimit
  exhaustible := True

theorem values_eq {value value' : Value} (related : coupling.Values value value') :
    value = value' := by
  cases related with
  | team same => rw [show _ = _ from same]
  | routine same => rw [show _ = _ from same]
  | _ => rfl

theorem values_refl (value : Value) : coupling.Values value value := by
  cases value with
  | null => exact .null
  | number value => exact .number value
  | boolean value => exact .boolean value
  | text value => exact .text value
  | team id => exact .team rfl
  | routine id => exact .routine rfl
  | native function installation => exact .native function installation
  | stopped => exact .stopped trivial

theorem list_values_eq {values values' : List Value}
    (related : List.Forall₂ coupling.Values values values') : values = values' := by
  induction related with
  | nil => rfl
  | cons head _ induction => rw [values_eq head, induction]

theorem list_values_refl (values : List Value) :
    List.Forall₂ coupling.Values values values :=
  List.forall₂_same.mpr fun value _ => values_refl value

theorem turns {limits limits' : Limits} (within : limits.Within limits') :
    coupling.Turns limits limits' := by
  rcases Nat.lt_or_eq_of_le within.iterations with less | same
  · exact .inr ⟨less, limits.iterations, .inl rfl⟩
  · exact .inl same

/-- The step into two scopes that are the same but for their limits, and out of them. -/
theorem opening {guard : Guard} {world world' : World}
    (guarded : World.Guarded guard.scope world world') {scope scope' : Scope} (depth : Nat)
    (same : scope.unlimited = scope'.unlimited) (limits : scope.limits.Within scope'.limits) :
    coupling.Opening guard ⟨world.heap.nextScope, depth⟩ world world' scope scope' where
  left := rfl
  right := by
    show world.heap.nextScope = world'.heap.nextScope
    unfold Heap.nextScope
    rw [guarded.size]
  declaring := trivial
  opened := guarded.addScope same limits
  closed := by
    intro later later' inner
    have next : world.heap.nextScope = world'.heap.nextScope := by
      unfold Heap.nextScope
      rw [guarded.size]
    rw [← next, ← guarded.routines]
    have bound : guard.scope.index < later.heap.scopes.size :=
      Nat.lt_trans guarded.bound inner.bound
    exact (inner.elsewhere bound).endScope _ _

/-- The scope of a call is made alike in guarded worlds. -/
theorem bindAll {scope : ScopeId} {world world' : World}
    (guarded : World.Guarded scope world world') (routine : Routine)
    (arguments : List Value) (depth : Nat) :
    coupling.Agree
      (fun made made' => made.unlimited = made'.unlimited ∧ made.limits.Within made'.limits)
      ((world.heap.callOf routine.closure depth).bindAll routine.parameters arguments)
      ((world'.heap.callOf routine.closure depth).bindAll routine.parameters arguments) := by
  have within := guarded.limits routine.closure
  have made := (world.heap.callOf routine.closure depth).bindAll_unlimited
    routine.parameters arguments
  have made' := (world'.heap.callOf routine.closure depth).bindAll_unlimited
    routine.parameters arguments
  have same : (world.heap.callOf routine.closure depth).unlimited =
      (world'.heap.callOf routine.closure depth).unlimited := rfl
  rw [same, made'] at made
  cases ended : (world.heap.callOf routine.closure depth).bindAll routine.parameters
    arguments with
  | error fault =>
      cases ended' : (world'.heap.callOf routine.closure depth).bindAll routine.parameters
        arguments with
      | error fault' =>
          rw [ended, ended'] at made
          cases made
          exact .error fault
      | ok scope' =>
          rw [ended, ended'] at made
          cases made
  | ok scope =>
      cases ended' : (world'.heap.callOf routine.closure depth).bindAll routine.parameters
        arguments with
      | error fault' =>
          rw [ended, ended'] at made
          cases made
      | ok scope' =>
          rw [ended, ended'] at made
          obtain ⟨-, limits, -⟩ := Scope.bindAll_ok ended
          obtain ⟨-, limits', -⟩ := Scope.bindAll_ok ended'
          refine .ok ⟨(Except.ok.inj made).symm, ?_⟩
          rw [limits, limits']
          exact within

/-- The scope of a call is made alike in guarded worlds, unless the first limit refuses the call
and the second one does not. -/
theorem callScope {caller : ScopeId} {world world' : World}
    (guarded : World.Guarded caller world world') (routine : Routine)
    (arguments : List Value) :
    coupling.Agree
      (fun made made' => made.unlimited = made'.unlimited ∧ made.limits.Within made'.limits)
      (world.heap.callScope routine arguments caller)
      (world'.heap.callScope routine arguments caller) := by
  have within := (guarded.limits caller).callDepth
  unfold Heap.callScope
  dsimp only
  rw [guarded.depth caller]
  split
  · exact .error _
  · split
    · next refused =>
        rcases Nat.lt_or_eq_of_le within with _ | same
        · have limit : Fault.IsLimit (.tooDeep (world.heap.limits caller).callDepth) :=
            ⟨_, .inr rfl⟩
          exact .spared limit _
        · rw [← same, if_pos refused]
          exact .error _
    · next allowed =>
        rw [if_neg (by omega)]
        exact bindAll guarded routine arguments _

theorem lawful : coupling.Lawful where
  output := by
    intro guard world world' guarded
    have same := congrArg World.output guarded.same
    exact same
  lookup := by
    intro guard world world' guarded name
    show coupling.Agree coupling.Values (world.heap.lookup guard.scope name)
      (world'.heap.lookup guard.scope name)
    rw [← Heap.lookup_unlimited, guarded.heap, Heap.lookup_unlimited]
    exact (Coupling.Agree.refl _).mono fun same => same ▸ values_refl _
  limits := fun guarded => turns (guarded.limits _)
  assign := by
    intro guard world world' value value' guarded related name
    obtain rfl := values_eq related
    show coupling.Agree _ (world.heap.assignable guard.scope name)
      (world'.heap.assignable guard.scope name)
    rw [← Heap.assignable_unlimited, guarded.heap, Heap.assignable_unlimited]
    apply (Coupling.Agree.refl _).mono
    rintro owner _ rfl
    exact guarded.modifyScope owner _ (fun _ => rfl) fun _ => rfl
  elements := by
    rintro guard world world' id _ guarded rfl
    have same : world.heap.elements id = world'.heap.elements id := by
      unfold Heap.elements Heap.team?
      rw [guarded.teams]
    rw [same]
    exact list_values_refl _
  setElement := by
    rintro guard world world' id _ value value' guarded rfl related position
    obtain rfl := values_eq related
    have same : (world.heap.setElement id position value).unlimited =
        (world'.heap.setElement id position value).unlimited := by
      have both := congrArg (·.setElement id position value) guarded.heap
      exact both
    exact guarded.changed same guarded.limits guarded.closed (Nat.le_refl _)
  print := fun guarded line =>
    guarded.withoutHeap (fun world => { world with output := world.output.push line })
      (fun _ => rfl) fun _ _ => rfl
  clock := by
    intro guard world world' guarded
    constructor
    · have same := congrArg (fun world => world.readings.clock world.clockReadings)
        guarded.same
      exact same
    · exact guarded.withoutHeap
        (fun world => { world with clockReadings := world.clockReadings + 1 })
        (fun _ => rfl) fun _ _ => rfl
  chance := by
    intro guard world world' guarded
    constructor
    · have same := congrArg (fun world => world.readings.chance world.chanceReadings)
        guarded.same
      exact same
    · exact guarded.withoutHeap
        (fun world => { world with chanceReadings := world.chanceReadings + 1 })
        (fun _ => rfl) fun _ _ => rfl
  routine := by
    rintro guard world world' id _ guarded rfl
    unfold Heap.routine?
    rw [guarded.routines]
    cases world'.heap.routines[id.index]? with
    | none => exact .none
    | some routine => exact .some ⟨rfl, rfl, rfl⟩
  child := by
    intro guard world world' bindings _ guarded _
    refine ⟨⟨world.heap.nextScope, guard.depth⟩, rfl, ?_⟩
    apply opening guarded
    · have depth : world.heap.depth (coupling.left guard) =
          world'.heap.depth (coupling.right guard) := guarded.depth _
      simp only [Heap.childOf, Scope.unlimited, depth]
      rfl
    · exact guarded.limits _
  call := by
    rintro guard world world' id _ routine routine' arguments arguments' guarded rfl found
      found' related
    obtain rfl := list_values_eq related
    obtain rfl : routine = routine' := by
      unfold Heap.routine? at found found'
      rw [guarded.routines, found'] at found
      exact (Option.some.inj found).symm
    apply (callScope guarded routine arguments).mono
    rintro scope scope' ⟨same, limits⟩
    exact ⟨_, rfl, opening guarded (guard.depth + 1) same limits⟩
  binds := by
    intro guard world world' _ guarded name
    show world.heap.binds guard.scope name = world'.heap.binds guard.scope name
    rw [← Heap.binds_unlimited, guarded.heap, Heap.binds_unlimited]
  bind := by
    intro guard world world' name value value' _ guarded _ related constant
    obtain rfl := values_eq related
    exact guarded.modifyScope guard.scope _ (fun _ => rfl) fun _ => rfl
  newTeam := by
    intro guard world world' elements elements' guarded related name
    obtain rfl : elements = elements' := Array.toList_inj.mp (list_values_eq related)
    constructor
    · show world.heap.nextTeam = world'.heap.nextTeam
      unfold Heap.nextTeam
      rw [guarded.teams]
    · have same : (world.heap.addTeam ⟨name, elements⟩).unlimited =
          (world'.heap.addTeam ⟨name, elements⟩).unlimited := by
        have both := congrArg (·.addTeam ⟨name, elements⟩) guarded.heap
        exact both
      exact guarded.changed same guarded.limits guarded.closed (Nat.le_refl _)
  newRoutine := by
    intro guard world world' _ guarded name parameters body
    constructor
    · show world.heap.nextRoutine = world'.heap.nextRoutine
      unfold Heap.nextRoutine
      rw [guarded.routines]
    · have same : (world.heap.addRoutine ⟨name, parameters, body, guard.scope⟩).unlimited =
          (world'.heap.addRoutine ⟨name, parameters, body, guard.scope⟩).unlimited := by
        have both := congrArg (·.addRoutine ⟨name, parameters, body, guard.scope⟩)
          guarded.heap
        exact both
      refine guarded.changed same guarded.limits ?_ (Nat.le_refl _)
      intro id routine found
      rw [Heap.routine?_addRoutine] at found
      split at found
      · cases found
        exact guarded.bound
      · exact guarded.closed found

/-- Programs with calls of one depth do the same in guarded worlds, unless a limit stops the
first of them. -/
theorem program_coupled (program : Program) (guard : Guard) (calls : Nat) :
    coupling.Coupled guard coupling.Flows
      (Stmt.execList (invokeWithin calls) program guard.scope .null)
      (Stmt.execList (invokeWithin calls) program guard.scope .null) :=
  Coupling.statements lawful (.same lawful trivial guard.depth calls) program rfl trivial
    .null

/-- A program does the same in guarded worlds, unless a limit stops it in the first. -/
theorem eval_outcome (program : Program) {scope : ScopeId} {world world' : World}
    (guarded : World.Guarded scope world world') :
    coupling.Outcome ⟨scope, 0⟩ coupling.Values (program.eval scope world)
      (program.eval scope world') := by
  have closed' : ∀ {id routine}, world'.heap.routine? id = some routine →
      routine.closure.index < world'.heap.scopes.size := by
    intro id routine found
    rw [← guarded.size]
    apply guarded.closed
    rw [Heap.routine?, guarded.routines]
    exact found
  have bound' : scope.index < world'.heap.scopes.size := by
    rw [← guarded.size]
    exact guarded.bound
  let calls := max world.heap.callBudget world'.heap.callBudget
  have deep : program.exec scope world =
      Stmt.execList (invokeWithin calls) program scope .null world :=
    Program.exec_eq_deep guarded.closed guarded.bound program (Nat.le_max_left _ _)
  have deep' : program.exec scope world' =
      Stmt.execList (invokeWithin calls) program scope .null world' :=
    Program.exec_eq_deep closed' bound' program (Nat.le_max_right _ _)
  have ended : coupling.Outcome ⟨scope, 0⟩ coupling.Flows (program.exec scope world)
      (program.exec scope world') := by
    rw [deep, deep']
    exact program_coupled program ⟨scope, 0⟩ calls world world' guarded
  apply ended.bind
  · intro flow
    cases flow <;> simp
  · intro flow flow' flows
    cases flows with
    | normal related | snap related => exact .pure related
    | endGame => exact .pure (.stopped trivial)

end Guard

/-- A step that a limit has stopped. -/
def Step.Stopped {α : Type} (step : Step α) : Prop :=
  ∃ error, step.result = .error (.running error) ∧ error.fault.IsLimit

/-- Steps that give the same result, print the same and leave the same world behind, but for
the limits. -/
structure Step.Same {α : Type} (step step' : Step α) : Prop where
  result : step.result = step'.result
  printed : step.printed = step'.printed
  world : step.world.unlimited = step'.world.unlimited

namespace Session

/-- The session after a source. -/
def after (session : Session) (source : String) : Session :=
  { session with world := (session.run source).world }

/-- The steps of a session that runs sources in turn. -/
def steps : Session → List String → List (Step Value)
  | _, [] => []
  | session, source :: rest => session.run source :: (session.after source).steps rest

/-- Sessions that are the same but for the limits, which are larger in the second one. -/
structure Guarded (session session' : Session) : Prop where
  scope : session.scope = session'.scope
  worlds : World.Guarded session.scope session.world session'.world

/-- A source either does the same in guarded sessions, or a limit stops it in the first. -/
theorem Guarded.run {session session' : Session} (guarded : session.Guarded session')
    (source : String) :
    (session.run source).Same (session'.run source) ∧
        (session.after source).Guarded (session'.after source) ∨
      (session.run source).Stopped ∧
        (session.run source).printed.toList <+: (session'.run source).printed.toList := by
  unfold after Session.run stepSource
  rw [← guarded.scope]
  cases Program.ofSource source with
  | error error => exact .inl ⟨⟨rfl, rfl, guarded.worlds.same⟩, rfl, guarded.worlds⟩
  | ok program =>
      have silent := guarded.worlds.withoutHeap (fun world => { world with output := #[] })
        (fun _ => rfl) fun _ _ => rfl
      have ended := Guard.eval_outcome program silent
      dsimp only
      unfold Eval.step
      generalize program.eval session.scope _ = leftEnd at ended ⊢
      generalize program.eval session.scope _ = rightEnd at ended ⊢
      cases ended with
      | ok related worlds =>
          left
          have output := Guard.lawful.output worlds
          refine ⟨⟨?_, output, worlds.same⟩, rfl, worlds⟩
          rw [Guard.values_eq related]
      | @error stop world world' possible worlds =>
          left
          have output := Guard.lawful.output worlds
          cases stop <;> exact ⟨⟨rfl, output, worlds.same⟩, rfl, worlds⟩
      | @spared fault line world rightEnd yields printed =>
          right
          refine ⟨⟨⟨fault, line⟩, rfl, yields⟩, ?_⟩
          cases rightEnd with
          | ok value later => exact printed
          | error stop later => cases stop <;> exact printed

theorem Guarded.steps {session session' : Session} (guarded : session.Guarded session')
    (sources : List String) (unstopped : ∀ step ∈ session.steps sources, ¬ step.Stopped) :
    List.Forall₂ Step.Same (session.steps sources) (session'.steps sources) := by
  induction sources generalizing session session' with
  | nil => exact .nil
  | cons source rest induction =>
      have first := unstopped (session.run source) (.head _)
      rcases guarded.run source with ⟨same, later⟩ | ⟨stopped, _⟩
      · apply List.Forall₂.cons same
        apply induction later
        intro step member
        exact unstopped step (.tail _ member)
      · exact absurd stopped first

theorem Guarded.stopped {session session' : Session} (guarded : session.Guarded session')
    {sources : List String} {before after : List (Step Value)} {step : Step Value}
    (steps : session.steps sources = before ++ step :: after)
    (unstopped : ∀ earlier ∈ before, ¬ earlier.Stopped) :
    ∃ before' step' after', session'.steps sources = before' ++ step' :: after' ∧
      List.Forall₂ Step.Same before before' ∧
      step.printed.toList <+: step'.printed.toList := by
  induction sources generalizing session session' before with
  | nil => simp [Session.steps] at steps
  | cons source rest induction =>
      cases before with
      | nil =>
          obtain ⟨rfl, -⟩ := List.cons.inj steps
          refine ⟨[], session'.run source, (session'.after source).steps rest, rfl, .nil, ?_⟩
          rcases guarded.run source with ⟨same, _⟩ | ⟨_, printed⟩
          · refine ⟨[], ?_⟩
            rw [List.append_nil, same.printed]
          · exact printed
      | cons first before =>
          obtain ⟨rfl, later_steps⟩ := List.cons.inj steps
          have running := unstopped (session.run source) (.head _)
          rcases guarded.run source with ⟨same, later⟩ | ⟨stopped, _⟩
          · have unstopped : ∀ earlier ∈ before, ¬ earlier.Stopped := by
              intro earlier member
              exact unstopped earlier (.tail _ member)
            obtain ⟨before', step', after', steps', sames, printed⟩ :=
              induction later later_steps unstopped
            refine ⟨session'.run source :: before', step', after', ?_, .cons same sames,
              printed⟩
            rw [Session.steps, steps']
            rfl
          · exact absurd stopped running

/-- Runs that end alike, whether they succeed or fail, and leave guarded worlds behind. -/
inductive Together (scope : ScopeId) {α : Type} :
    EStateM.Result Eval.Stop World α → EStateM.Result Eval.Stop World α → Prop where
  | ok (result : α) {world world' : World} (guarded : World.Guarded scope world world') :
      Together scope (.ok result world) (.ok result world')
  | error (stop : Eval.Stop) {world world' : World}
      (guarded : World.Guarded scope world world') :
      Together scope (.error stop world) (.error stop world')

theorem Together.declareConstants {scope : ScopeId} {world world' : World}
    (guarded : World.Guarded scope world world') (constants : List (String × Value)) :
    Together scope (Eval.declareConstants scope constants world)
      (Eval.declareConstants scope constants world') := by
  induction constants generalizing world world' with
  | nil => exact .ok () guarded
  | cons constant rest induction =>
      obtain ⟨name, value⟩ := constant
      have binds : world.heap.binds scope name = world'.heap.binds scope name := by
        rw [← Heap.binds_unlimited, guarded.heap, Heap.binds_unlimited]
      have declared := Eval.declare_apply scope name value true world
      have declared' := Eval.declare_apply scope name value true world'
      rw [← binds] at declared'
      unfold Eval.declareConstants
      by_cases taken : world.heap.binds scope name = true
      · rw [if_pos taken] at declared declared'
        rw [Eval.bind_of_error declared, Eval.bind_of_error declared']
        exact .error _ guarded
      · rw [if_neg taken] at declared declared'
        rw [Eval.bind_of_ok declared, Eval.bind_of_ok declared']
        exact induction (guarded.modifyScope scope _ (fun _ => rfl) fun _ => rfl)

/-- The world of a session before the constants are declared. -/
def opened (limits : Limits) (readings : Readings) : World :=
  { (World.initial readings .release).mapHeap (·.addScope (Heap.root limits)) with
    installations := 1 }

/-- A session starts with the declaration of the constants, however that ends. -/
theorem start_eq (limits : Limits) (readings : Readings) :
    start limits readings =
      { world := Eval.last (Eval.declareConstants ⟨0⟩ (Eval.globals 0)
          (opened limits readings))
        scope := ⟨0⟩ } := by
  have rooted : Eval.newScope (fun _ => Heap.root limits) (World.initial readings .release) =
      .ok ⟨0⟩ ((World.initial readings .release).mapHeap (·.addScope (Heap.root limits))) :=
    rfl
  have counted : Eval.nextInstallation
      ((World.initial readings .release).mapHeap (·.addScope (Heap.root limits))) =
      .ok 0 (opened limits readings) := rfl
  have installed : Eval.install ⟨0⟩
      ((World.initial readings .release).mapHeap (·.addScope (Heap.root limits))) =
      Eval.declareConstants ⟨0⟩ (Eval.globals 0) (opened limits readings) :=
    Eval.bind_of_ok counted
  unfold start Eval.newGlobalScope
  dsimp only
  rw [Eval.bind_of_ok rooted]
  cases ended : Eval.declareConstants ⟨0⟩ (Eval.globals 0) (opened limits readings) with
  | ok result world =>
      rw [Eval.bind_of_ok (installed.trans ended)]
      rfl
  | error stop world =>
      rw [Eval.bind_of_error (installed.trans ended)]
      rfl

/-- Sessions that start with smaller and with larger limits. -/
theorem start_guarded {limits larger : Limits} (within : limits.Within larger)
    (readings : Readings) : (start limits readings).Guarded (start larger readings) := by
  have rooted : World.Guarded ⟨0⟩ (opened limits readings) (opened larger readings) := by
    refine ⟨?_, ?_, ?_, Nat.zero_lt_one⟩
    · have same : (Heap.empty.addScope (Heap.root limits)).unlimited =
          (Heap.empty.addScope (Heap.root larger)).unlimited := by
        rw [Heap.unlimited_addScope, Heap.unlimited_addScope]
        rfl
      simp only [World.unlimited, World.mapHeap, opened, World.initial, same]
    · intro id
      unfold Heap.limits
      simp only [opened, World.mapHeap_heap, Heap.scope?_addScope]
      split
      · exact within
      · exact .refl _
    · intro id routine found
      cases found
  have together := Together.declareConstants rooted (Eval.globals 0)
  rw [start_eq, start_eq]
  generalize Eval.declareConstants _ _ (opened limits readings) = ended at together ⊢
  generalize Eval.declareConstants _ _ (opened larger readings) = ended' at together ⊢
  cases together with
  | ok _ guarded => exact ⟨rfl, guarded⟩
  | error _ guarded => exact ⟨rfl, guarded⟩

/-- Larger limits change nothing as long as no limit stops a step, and a step that a limit
stops first prints at least as much under larger limits. -/
theorem limits_only_guard {limits larger : Limits}
    (iterations : limits.iterations ≤ larger.iterations)
    (callDepth : limits.callDepth ≤ larger.callDepth) (readings : Readings)
    (sources : List String) :
    ((∀ step ∈ (start limits readings).steps sources, ¬ step.Stopped) →
        List.Forall₂ Step.Same ((start limits readings).steps sources)
          ((start larger readings).steps sources)) ∧
      ∀ before step after,
        (start limits readings).steps sources = before ++ step :: after →
        (∀ earlier ∈ before, ¬ earlier.Stopped) → step.Stopped →
        ∃ before' step' after',
          (start larger readings).steps sources = before' ++ step' :: after' ∧
            List.Forall₂ Step.Same before before' ∧
            step.printed.toList <+: step'.printed.toList := by
  have guarded := start_guarded ⟨iterations, callDepth⟩ readings
  constructor
  · exact guarded.steps sources
  · intro before step after steps unstopped _
    exact guarded.stopped steps unstopped

/-- A loop that never stops by itself, under a limit of one turn and under the standard
limits. -/
theorem limits_only_guard_loop :
    let session := start { iterations := 1, callDepth := 1 } (Readings.seeded 0 0)
    let session' := start .standard (Readings.seeded 0 0)
    let sources := ["vision(1);", "fightUntil (SHIELD) \x7b vision(2); \x7d"]
    ((∀ step ∈ session.steps sources, ¬ step.Stopped) →
        List.Forall₂ Step.Same (session.steps sources) (session'.steps sources)) ∧
      ∀ before step after, session.steps sources = before ++ step :: after →
        (∀ earlier ∈ before, ¬ earlier.Stopped) → step.Stopped →
        ∃ before' step' after', session'.steps sources = before' ++ step' :: after' ∧
          List.Forall₂ Step.Same before before' ∧
          step.printed.toList <+: step'.printed.toList :=
  limits_only_guard (by decide) (by decide) _ _

end Session

end Avenger
