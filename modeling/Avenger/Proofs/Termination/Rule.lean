import Avenger.Proofs.Heap
import Avenger.Proofs.Termination.Weight

/-!
# Runs that finish alike

A run of the evaluator and a counted run finish alike if they give the same result and the
same world, and neither is stopped by its budget.  The rules of this module carry that
through every way to combine runs, along with what bounds the cost of all later runs.
-/

namespace Avenger

/-- The bounds hold in a heap. -/
structure Bounds.Hold (bounds : Bounds) (heap : Heap) : Prop where
  turns : ∀ {id scope}, heap.scope? id = some scope →
    scope.limits.iterations ≤ bounds.turns
  calls : ∀ {id scope}, heap.scope? id = some scope →
    scope.limits.callDepth ≤ bounds.calls
  closures : ∀ {id routine}, heap.routine? id = some routine →
    routine.closure.index < heap.scopes.size
  weights : ∀ {id routine}, heap.routine? id = some routine →
    Stmt.listWeight bounds.turns routine.body ≤ bounds.weight

namespace Bounds.Hold

variable {bounds : Bounds} {heap : Heap}

theorem turns_le (hold : bounds.Hold heap) {id : ScopeId}
    (bound : id.index < heap.scopes.size) : (heap.limits id).iterations ≤ bounds.turns := by
  obtain ⟨scope, found⟩ := Option.isSome_iff_exists.mp (Heap.scope?_isSome.mpr bound)
  rw [Heap.limits_eq found]
  exact hold.turns found

theorem calls_le (hold : bounds.Hold heap) {id : ScopeId}
    (bound : id.index < heap.scopes.size) : (heap.limits id).callDepth ≤ bounds.calls := by
  obtain ⟨scope, found⟩ := Option.isSome_iff_exists.mp (Heap.scope?_isSome.mpr bound)
  rw [Heap.limits_eq found]
  exact hold.calls found

theorem modifyScope (hold : bounds.Hold heap) (id : ScopeId) {change : Scope → Scope}
    (limits : ∀ scope, (change scope).limits = scope.limits) :
    bounds.Hold (heap.modifyScope id change) := by
  have kept : ∀ {other scope}, (heap.modifyScope id change).scope? other = some scope →
      ∃ before, heap.scope? other = some before ∧ scope.limits = before.limits := by
    intro other scope found
    rw [Heap.scope?_modifyScope] at found
    split at found
    · obtain ⟨before, stood, rfl⟩ := Option.map_eq_some_iff.mp found
      exact ⟨before, stood, limits before⟩
    · exact ⟨scope, found, rfl⟩
  constructor
  case turns =>
      intro other scope found
      obtain ⟨before, found, same⟩ := kept found
      rw [same]
      exact hold.turns found
  case calls =>
      intro other scope found
      obtain ⟨before, found, same⟩ := kept found
      rw [same]
      exact hold.calls found
  case closures =>
      intro other routine found
      simpa using hold.closures found
  case weights =>
      intro other routine found
      exact hold.weights found

theorem bind (hold : bounds.Hold heap) (id : ScopeId) (binding : Binding) :
    bounds.Hold (heap.bind id binding) :=
  hold.modifyScope id fun _ => rfl

theorem write (hold : bounds.Hold heap) (id : ScopeId) (name : String) (value : Value) :
    bounds.Hold (heap.write id name value) :=
  hold.modifyScope id fun _ => rfl

theorem clear (hold : bounds.Hold heap) (id : ScopeId) : bounds.Hold (heap.clear id) :=
  hold.modifyScope id fun _ => rfl

/-- The bounds do not speak of teams. -/
theorem withTeams (hold : bounds.Hold heap) (teams : Array Team) :
    bounds.Hold { heap with teams } :=
  ⟨hold.turns, hold.calls, hold.closures, hold.weights⟩

theorem addScope (hold : bounds.Hold heap) {scope : Scope} {like : ScopeId}
    (bound : like.index < heap.scopes.size) (limits : scope.limits = heap.limits like) :
    bounds.Hold (heap.addScope scope) := by
  constructor
  case turns =>
      intro other found added
      rw [Heap.scope?_addScope] at added
      split at added
      · cases added
        rw [limits]
        exact hold.turns_le bound
      · exact hold.turns added
  case calls =>
      intro other found added
      rw [Heap.scope?_addScope] at added
      split at added
      · cases added
        rw [limits]
        exact hold.calls_le bound
      · exact hold.calls added
  case closures =>
      intro other routine found
      have bound := hold.closures found
      simp
      omega
  case weights =>
      intro other routine found
      exact hold.weights found

theorem addRoutine (hold : bounds.Hold heap) {routine : Routine}
    (bound : routine.closure.index < heap.scopes.size)
    (weight : Stmt.listWeight bounds.turns routine.body ≤ bounds.weight) :
    bounds.Hold (heap.addRoutine routine) := by
  constructor
  case turns =>
      intro other scope found
      exact hold.turns found
  case calls =>
      intro other scope found
      exact hold.calls found
  case closures =>
      intro other found added
      rw [Heap.routine?_addRoutine] at added
      split at added
      · cases added
        exact bound
      · exact hold.closures added
  case weights =>
      intro other found added
      rw [Heap.routine?_addRoutine] at added
      split at added
      · cases added
        exact weight
      · exact hold.weights added

end Bounds.Hold

/-- The bounds hold in a heap, and at most `left` more calls may be active at a time under
a scope of it. -/
structure Bounds.Ready (bounds : Bounds) (left : Nat) (heap : Heap) (scope : ScopeId) :
    Prop where
  hold : bounds.Hold heap
  bound : scope.index < heap.scopes.size
  calls : bounds.calls ≤ heap.depth scope + left

theorem Bounds.Ready.later {bounds : Bounds} {left : Nat} {heap later : Heap}
    {scope : ScopeId} (ready : bounds.Ready left heap scope) (steady : heap.Steady later)
    (hold : bounds.Hold later) : bounds.Ready left later scope := by
  obtain ⟨bound, -, depth⟩ := steady scope ready.bound
  refine ⟨hold, bound, ?_⟩
  rw [depth]
  exact ready.calls

variable {bounds : Bounds} {left : Nat} {world : World} {α β : Type}

/-- How a run may have ended: it has not used up its budget, and if others follow, the bounds
hold for them. -/
inductive Ended (bounds : Bounds) (world : World) {α : Type} :
    EStateM.Result Eval.Stop World α → Prop where
  | ok (result : α) {later : World} (steady : world.heap.Steady later.heap)
      (hold : bounds.Hold later.heap) : Ended bounds world (.ok result later)
  | error (error : RuntimeError) (later : World) :
      Ended bounds world (.error (.error error) later)

theorem Ended.after {later : World} {result : EStateM.Result Eval.Stop World α}
    (ended : Ended bounds later result) (steady : world.heap.Steady later.heap) :
    Ended bounds world result := by
  cases ended with
  | ok result steady' hold => exact .ok result (steady.trans steady') hold
  | error error last => exact .error error last

/-- A run and a counted run give the same result and world, and do not use up a budget. -/
structure Finishes (bounds : Bounds) (world : World) (run counted : Eval α) : Prop where
  same : run world = counted world
  ended : Ended bounds world (run world)

namespace Finishes

theorem of_eq {run run' counted counted' : Eval α} (same : run world = run' world)
    (same' : counted world = counted' world) (finishes : Finishes bounds world run' counted') :
    Finishes bounds world run counted := by
  refine ⟨same.trans (finishes.same.trans same'.symm), ?_⟩
  rw [same]
  exact finishes.ended

theorem pure (hold : bounds.Hold world.heap) (result : α) :
    Finishes bounds world (Pure.pure result) (Pure.pure result) :=
  ⟨rfl, .ok result (.refl _) hold⟩

theorem fail (fault : Fault) :
    Finishes bounds world (Eval.fail fault : Eval α) (Eval.fail fault) :=
  ⟨rfl, .error _ _⟩

theorem ofExcept (hold : bounds.Hold world.heap) (result : Except Fault α) :
    Finishes bounds world (Eval.ofExcept result) (Eval.ofExcept result) := by
  cases result with
  | ok result => exact pure hold result
  | error fault => exact fail fault

theorem readHeap (hold : bounds.Hold world.heap) (read : Heap → α) :
    Finishes bounds world (Eval.readHeap read) (Eval.readHeap read) :=
  ⟨rfl, .ok _ (.refl _) hold⟩

theorem changeHeap {change : Heap → Heap} (steady : world.heap.Steady (change world.heap))
    (hold : bounds.Hold (change world.heap)) :
    Finishes bounds world (Eval.changeHeap change) (Eval.changeHeap change) :=
  ⟨rfl, .ok () steady hold⟩

theorem bind {run counted : Eval α} {next next' : α → Eval β}
    (first : Finishes bounds world run counted)
    (second : ∀ result (later : World), world.heap.Steady later.heap →
      bounds.Hold later.heap → Finishes bounds later (next result) (next' result)) :
    Finishes bounds world (run >>= next) (counted >>= next') := by
  obtain ⟨same, ended⟩ := first
  cases outcome : run world with
  | ok result later =>
      rw [outcome] at same ended
      cases ended with
      | ok _ steady hold =>
          obtain ⟨same', ended'⟩ := second result later steady hold
          refine ⟨?_, ?_⟩
          · rw [Eval.bind_of_ok outcome, Eval.bind_of_ok same.symm, same']
          · rw [Eval.bind_of_ok outcome]
            exact ended'.after steady
  | error stop later =>
      rw [outcome] at same ended
      cases ended with
      | error error _ =>
          refine ⟨?_, ?_⟩
          · rw [Eval.bind_of_error outcome, Eval.bind_of_error same.symm]
          · rw [Eval.bind_of_error outcome]
            exact .error error later

/-- Going on in the same scope. -/
theorem onward {scope : ScopeId} (ready : bounds.Ready left world.heap scope)
    {run counted : Eval α} {next next' : α → Eval β}
    (first : Finishes bounds world run counted)
    (second : ∀ result (later : World), bounds.Ready left later.heap scope →
      Finishes bounds later (next result) (next' result)) :
    Finishes bounds world (run >>= next) (counted >>= next') := by
  apply first.bind
  intro result later steady hold
  exact second result later (ready.later steady hold)

/-- The counted run may do without a value that is read off the heap. -/
theorem reading {read : Heap → α} {next : α → Eval β} {counted : Eval β}
    (finishes : Finishes bounds world (next (read world.heap)) counted) :
    Finishes bounds world (Eval.readHeap read >>= next) counted :=
  ⟨finishes.same, finishes.ended⟩

/-- A guard lets a turn within the limit begin. -/
theorem guarded {scope : ScopeId} {turn : Nat} {run counted : Eval α}
    (within : turn ≤ (world.heap.limits scope).iterations)
    (finishes : Finishes bounds world run counted) :
    Finishes bounds world run (Eval.guardTurn scope turn >>= fun _ => counted) := by
  have passed : Eval.guardTurn scope turn world = .ok () world := by
    show Eval.ofExcept (world.heap.guardTurn scope turn) world = _
    rw [Heap.guardTurn, if_neg (Nat.not_lt_of_le within)]
    rfl
  refine ⟨?_, finishes.ended⟩
  rw [Eval.bind_of_ok passed]
  exact finishes.same

/-- A guard stops a turn beyond the limit. -/
theorem refused {scope : ScopeId} {turn : Nat} {counted : Eval α}
    (beyond : (world.heap.limits scope).iterations < turn) :
    Finishes bounds world (Eval.fail (.tooManyTurns (world.heap.limits scope).iterations))
      (Eval.guardTurn scope turn >>= fun _ => counted) := by
  have stopped : Eval.guardTurn scope turn world =
      .error (.error ⟨.tooManyTurns (world.heap.limits scope).iterations, none⟩) world := by
    show Eval.ofExcept (world.heap.guardTurn scope turn) world = _
    rw [Heap.guardTurn, if_pos beyond]
    rfl
  refine ⟨?_, .error _ _⟩
  rw [Eval.bind_of_error stopped]
  rfl

theorem atLine {run counted : Eval α} (line : Nat)
    (finishes : Finishes bounds world run counted) :
    Finishes bounds world (Eval.atLine line run) (Eval.atLine line counted) := by
  obtain ⟨same, ended⟩ := finishes
  refine ⟨by simp only [Eval.atLine, same], ?_⟩
  unfold Eval.atLine
  cases outcome : run world with
  | ok result later => rwa [outcome] at ended
  | error stop later =>
      rw [outcome] at ended
      cases ended with
      | error error _ => exact .error _ later

theorem endScope (hold : bounds.Hold world.heap) (scope : ScopeId) (routines : Nat) :
    world.heap.Steady (world.endScope scope routines).heap ∧
      bounds.Hold (world.endScope scope routines).heap := by
  unfold World.endScope
  split
  · exact ⟨.clear _ scope, hold.clear scope⟩
  · exact ⟨.refl _, hold⟩

theorem inScope {make : Heap → Scope} {run counted : ScopeId → Eval α}
    (finishes : Finishes bounds (world.mapHeap (·.addScope (make world.heap)))
      (run world.heap.nextScope) (counted world.heap.nextScope)) :
    Finishes bounds world (Eval.inScope make run) (Eval.inScope make counted) := by
  obtain ⟨same, ended⟩ := finishes
  cases outcome : run world.heap.nextScope _ with
  | ok result later =>
      rw [outcome] at same ended
      cases ended with
      | ok _ steady hold =>
          obtain ⟨steady', hold'⟩ :=
            endScope hold world.heap.nextScope world.heap.routines.size
          refine ⟨?_, ?_⟩
          · rw [Eval.inScope_of_ok outcome, Eval.inScope_of_ok same.symm]
          · rw [Eval.inScope_of_ok outcome]
            exact .ok result ((Heap.Steady.addScope world.heap _).trans
              (steady.trans steady')) hold'
  | error stop later =>
      rw [outcome] at same ended
      cases ended with
      | error error _ =>
          refine ⟨?_, ?_⟩
          · rw [Eval.inScope_of_error outcome, Eval.inScope_of_error same.symm]
          · rw [Eval.inScope_of_error outcome]
            exact .error error _

section Scopes

variable {scope : ScopeId}

/-- A run in a scope inside another one, with some bindings. -/
theorem inBound (ready : bounds.Ready left world.heap scope) {make : Heap → Scope}
    (limits : (make world.heap).limits = world.heap.limits scope)
    (depth : (make world.heap).depth = world.heap.depth scope)
    {run counted : ScopeId → Eval α}
    (finishes : ∀ inner (later : World), bounds.Ready left later.heap inner →
      Finishes bounds later (run inner) (counted inner)) :
    Finishes bounds world (Eval.inScope make run) (Eval.inScope make counted) := by
  apply inScope
  apply finishes
  have added : (world.heap.addScope (make world.heap)).scope? world.heap.nextScope =
      some (make world.heap) := by
    simp [Heap.scope?_addScope]
  refine ⟨ready.hold.addScope ready.bound limits, Heap.lt_of_scope? added, ?_⟩
  rw [World.mapHeap_heap, Heap.depth_eq added, depth]
  exact ready.calls

theorem inChild (ready : bounds.Ready left world.heap scope)
    {run counted : ScopeId → Eval α}
    (finishes : ∀ inner (later : World), bounds.Ready left later.heap inner →
      Finishes bounds later (run inner) (counted inner)) :
    Finishes bounds world (Eval.inChild scope run) (Eval.inChild scope counted) :=
  inBound ready rfl rfl finishes

end Scopes

section Primitives

variable {scope : ScopeId}

theorem lookup (hold : bounds.Hold world.heap) (scope : ScopeId) (name : String) :
    Finishes bounds world (Eval.lookup scope name) (Eval.lookup scope name) := by
  apply (readHeap hold _).bind
  intro found later _ hold
  exact ofExcept hold found

theorem reserve (hold : bounds.Hold world.heap) (scope : ScopeId) (name : String) :
    Finishes bounds world (Eval.reserve scope name) (Eval.reserve scope name) := by
  apply (readHeap hold _).bind
  intro bound later _ hold
  cases bound with
  | false => exact pure hold ()
  | true => exact fail _

theorem declare (hold : bounds.Hold world.heap) (scope : ScopeId) (name : String)
    (value : Value) (constant : Bool) :
    Finishes bounds world (Eval.declare scope name value constant)
      (Eval.declare scope name value constant) := by
  apply (reserve hold scope name).bind
  intro _ later _ hold
  apply (changeHeap (.bind _ scope _) (hold.bind scope _)).bind
  intro _ later _ hold
  exact pure hold value

theorem assign (hold : bounds.Hold world.heap) (scope : ScopeId) (name : String)
    (value : Value) :
    Finishes bounds world (Eval.assign scope name value) (Eval.assign scope name value) := by
  apply (readHeap hold _).bind
  intro assignable later _ hold
  apply (ofExcept hold assignable).bind
  intro owner later _ hold
  apply (changeHeap (.write _ owner name value) (hold.write owner name value)).bind
  intro _ later _ hold
  exact pure hold value

theorem writeElement (hold : bounds.Hold world.heap) (id : TeamId) (index value : Value) :
    Finishes bounds world (Eval.writeElement id index value)
      (Eval.writeElement id index value) := by
  apply (readHeap hold _).bind
  intro size later _ hold
  apply (ofExcept hold _).bind
  intro position later _ hold
  apply Finishes.bind (changeHeap (.refl _) (hold.withTeams _))
  intro _ later _ hold
  exact pure hold value

theorem writeCharacter (hold : bounds.Hold world.heap) (scope : ScopeId)
    (name text : String) (index value : Value) :
    Finishes bounds world (Eval.writeCharacter scope name text index value)
      (Eval.writeCharacter scope name text index value) := by
  apply (readHeap hold _).bind
  intro spliced later _ hold
  apply (ofExcept hold spliced).bind
  intro spliced later _ hold
  apply (assign hold scope name _).bind
  intro _ later _ hold
  exact pure hold value

theorem newTeam (hold : bounds.Hold world.heap) (team : Team) :
    Finishes bounds world (Eval.newTeam team) (Eval.newTeam team) :=
  ⟨rfl, .ok _ (.refl _) (hold.withTeams _)⟩

theorem newRoutine (hold : bounds.Hold world.heap) {routine : Routine}
    (bound : routine.closure.index < world.heap.scopes.size)
    (weight : Stmt.listWeight bounds.turns routine.body ≤ bounds.weight) :
    Finishes bounds world (Eval.newRoutine routine) (Eval.newRoutine routine) :=
  ⟨rfl, .ok _ (.refl _) (hold.addRoutine bound weight)⟩

theorem print (hold : bounds.Hold world.heap) (line : String) :
    Finishes bounds world (Eval.print line) (Eval.print line) :=
  ⟨rfl, .ok _ (.refl _) hold⟩

theorem printValue (hold : bounds.Hold world.heap) (value : Value) {rest : Eval α}
    (finishes : ∀ later : World, bounds.Hold later.heap → Finishes bounds later rest rest) :
    Finishes bounds world
      (do
        Eval.print (← Eval.readHeap (·.valueText value))
        rest)
      (do
        Eval.print (← Eval.readHeap (·.valueText value))
        rest) := by
  apply (readHeap hold _).bind
  intro text later _ hold
  apply (print hold text).bind
  intro _ later _ hold
  exact finishes later hold

theorem printAll (hold : bounds.Hold world.heap) (values : List Value) :
    Finishes bounds world (Native.printAll values) (Native.printAll values) := by
  induction values generalizing world with
  | nil => exact pure hold ()
  | cons value values induction =>
      cases value with
      | team id => exact fail _
      | _ => exact printValue hold _ fun later hold => induction hold

theorem test (hold : bounds.Hold world.heap) (actual expected : Value) :
    Finishes bounds world (Native.test actual expected) (Native.test actual expected) := by
  unfold Native.test
  split
  · exact fail _
  · split
    · exact fail _
    · split
      · apply (readHeap hold _).bind
        intro heap later _ _
        exact fail _
      · apply (print hold _).bind
        intro _ later _ hold
        exact pure hold _

/-- Native functions call nothing. -/
theorem native (hold : bounds.Hold world.heap) (function : Native) (arguments : List Value) :
    Finishes bounds world (function.apply arguments) (function.apply arguments) := by
  apply (ofExcept hold _).bind
  intro _ later _ hold
  split
  · unfold Native.printValues
    split
    · apply (print hold "").bind
      intro _ later _ hold
      exact pure hold _
    · apply (printAll hold arguments).bind
      intro _ later _ hold
      exact pure hold _
  · exact test hold _ _
  · exact Finishes.bind ⟨rfl, .ok _ (.refl _) hold⟩ fun _ later _ hold => pure hold _
  · exact Finishes.bind ⟨rfl, .ok _ (.refl _) hold⟩ fun _ later _ hold => pure hold _
  · apply (readHeap hold _).bind
    intro result later _ hold
    exact ofExcept hold result

end Primitives

end Finishes

end Avenger
