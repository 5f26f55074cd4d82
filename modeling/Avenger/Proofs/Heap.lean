import Avenger.Proofs.Change

/-!
# What stands at the places of a heap

Adding to a heap fills one new place, changing a scope or a team changes one place, and
every other place keeps what it has.  The limits of a scope and its number of active calls
stay what they were when it was made.
-/

namespace Avenger

namespace Heap

variable {heap : Heap}

section Sizes

variable (heap) (id : ScopeId) (team : TeamId)

@[simp] theorem modifyScope_size (change : Scope → Scope) :
    (heap.modifyScope id change).scopes.size = heap.scopes.size := by
  simp [modifyScope]

@[simp] theorem modifyTeam_size (change : Team → Team) :
    (heap.modifyTeam team change).teams.size = heap.teams.size := by
  simp [modifyTeam]

@[simp] theorem addScope_size (scope : Scope) :
    (heap.addScope scope).scopes.size = heap.scopes.size + 1 := by
  simp [addScope]

@[simp] theorem addTeam_size (team : Team) :
    (heap.addTeam team).teams.size = heap.teams.size + 1 := by
  simp [addTeam]

@[simp] theorem addRoutine_size (routine : Routine) :
    (heap.addRoutine routine).routines.size = heap.routines.size + 1 := by
  simp [addRoutine]

end Sizes

theorem scope?_modifyScope (heap : Heap) (id other : ScopeId) (change : Scope → Scope) :
    (heap.modifyScope id change).scope? other =
      if id = other then (heap.scope? other).map change else heap.scope? other := by
  cases id
  cases other
  simp [scope?, modifyScope, Array.getElem?_modify]

theorem team?_modifyTeam (heap : Heap) (id other : TeamId) (change : Team → Team) :
    (heap.modifyTeam id change).team? other =
      if id = other then (heap.team? other).map change else heap.team? other := by
  cases id
  cases other
  simp [team?, modifyTeam, Array.getElem?_modify]

theorem scope?_addScope (heap : Heap) (scope : Scope) (id : ScopeId) :
    (heap.addScope scope).scope? id =
      if id = heap.nextScope then some scope else heap.scope? id := by
  cases id
  simp [scope?, addScope, nextScope, Array.getElem?_push]

theorem team?_addTeam (heap : Heap) (team : Team) (id : TeamId) :
    (heap.addTeam team).team? id = if id = heap.nextTeam then some team else heap.team? id := by
  cases id
  simp [team?, addTeam, nextTeam, Array.getElem?_push]

theorem routine?_addRoutine (heap : Heap) (routine : Routine) (id : RoutineId) :
    (heap.addRoutine routine).routine? id =
      if id = heap.nextRoutine then some routine else heap.routine? id := by
  cases id
  simp [routine?, addRoutine, nextRoutine, Array.getElem?_push]

theorem scope?_isSome {id : ScopeId} :
    (heap.scope? id).isSome ↔ id.index < heap.scopes.size := by
  simp [scope?]

theorem lt_of_scope? {id : ScopeId} {scope : Scope} (found : heap.scope? id = some scope) :
    id.index < heap.scopes.size := by
  rw [← scope?_isSome, found]
  rfl

theorem lt_of_team? {id : TeamId} {team : Team} (found : heap.team? id = some team) :
    id.index < heap.teams.size := by
  obtain ⟨bound, -⟩ := Array.getElem?_eq_some_iff.mp found
  exact bound

theorem lt_of_routine? {id : RoutineId} {routine : Routine}
    (found : heap.routine? id = some routine) : id.index < heap.routines.size := by
  obtain ⟨bound, -⟩ := Array.getElem?_eq_some_iff.mp found
  exact bound

/-- A scope that stood in the heap before another one was added stands elsewhere. -/
theorem ne_nextScope {id : ScopeId} (bound : id.index < heap.scopes.size) :
    id ≠ heap.nextScope := by
  rintro rfl
  exact Nat.lt_irrefl _ bound

/-- A scope that stands in a heap after another one was added, but not there, stood in it
before. -/
theorem lt_of_addScope {id : ScopeId} {scope : Scope}
    (bound : id.index < (heap.addScope scope).scopes.size) (elsewhere : id ≠ heap.nextScope) :
    id.index < heap.scopes.size := by
  rw [addScope_size] at bound
  have different : id.index ≠ heap.scopes.size := by
    rintro same
    apply elsewhere
    cases id
    rw [nextScope, ← same]
  omega

/-- What a name reads as in an old scope does not depend on a new one. -/
theorem resolve?_addScope (scope : Scope) {id : ScopeId} (present : id.index < heap.scopes.size)
    (name : String) : (heap.addScope scope).resolve? name id = heap.resolve? name id := by
  have same {id : ScopeId} (present : id.index < heap.scopes.size) :
      (heap.addScope scope).scope? id = heap.scope? id := by
    rw [scope?_addScope, if_neg (ne_nextScope present)]
  fun_induction heap.resolve? name id with
  | case1 id absent => rw [resolve?, same present, absent]
  | case2 id data found binding bound => simp only [resolve?, same present, found, bound]
  | case3 id data found free outermost => simp only [resolve?, same present, found, free, outermost]
  | case4 id data found free parent inside earlier induction =>
      rw [← induction (Nat.lt_trans earlier present), resolve?]
      simp only [same present, found, free, inside, earlier, if_true]
  | case5 id data found free parent inside later =>
      rw [resolve?]
      simp only [same present, found, free, inside, later, if_false]

/-- An assignment to a name that is allowed goes to its owner, where it is no constant. -/
theorem assignable_eq_ok {scope owner : ScopeId} {name : String}
    (allowed : heap.assignable scope name = .ok owner) :
    ∃ binding, heap.resolve? name scope = some (owner, binding) ∧ binding.constant = false := by
  unfold assignable at allowed
  split at allowed
  · cases allowed
  · next resolved =>
      split at allowed
      · cases allowed
      · next plain =>
          cases allowed
          exact ⟨_, resolved, by simpa using plain⟩

theorem limits_eq {id : ScopeId} {scope : Scope} (found : heap.scope? id = some scope) :
    heap.limits id = scope.limits := by
  simp [limits, found]

theorem depth_eq {id : ScopeId} {scope : Scope} (found : heap.scope? id = some scope) :
    heap.depth id = scope.depth := by
  simp [depth, found]

/-- A later heap in which every scope still stands, with its limits and its number of active
calls. -/
def Steady (heap later : Heap) : Prop :=
  ∀ id : ScopeId, id.index < heap.scopes.size →
    id.index < later.scopes.size ∧ later.limits id = heap.limits id ∧
      later.depth id = heap.depth id

namespace Steady

variable {later last : Heap}

theorem refl (heap : Heap) : heap.Steady heap := fun _ bound => ⟨bound, rfl, rfl⟩

theorem trans (first : heap.Steady later) (second : later.Steady last) :
    heap.Steady last := by
  intro id bound
  obtain ⟨bound, limits, depth⟩ := first id bound
  obtain ⟨bound, limits', depth'⟩ := second id bound
  exact ⟨bound, limits'.trans limits, depth'.trans depth⟩

theorem modifyScope (heap : Heap) (id : ScopeId) {change : Scope → Scope}
    (limits : ∀ scope, (change scope).limits = scope.limits)
    (depth : ∀ scope, (change scope).depth = scope.depth) :
    heap.Steady (heap.modifyScope id change) := by
  intro other bound
  obtain ⟨scope, found⟩ := Option.isSome_iff_exists.mp (scope?_isSome.mpr bound)
  refine ⟨by simpa using bound, ?_⟩
  by_cases same : id = other
  · simp [Heap.limits, Heap.depth, scope?_modifyScope, same, found, limits, depth]
  · simp [Heap.limits, Heap.depth, scope?_modifyScope, same]

theorem addScope (heap : Heap) (scope : Scope) : heap.Steady (heap.addScope scope) := by
  intro id bound
  have elsewhere := ne_nextScope bound
  refine ⟨by simp; omega, ?_⟩
  simp [Heap.limits, Heap.depth, scope?_addScope, elsewhere]

theorem bind (heap : Heap) (id : ScopeId) (binding : Binding) :
    heap.Steady (heap.bind id binding) :=
  modifyScope heap id (fun _ => rfl) fun _ => rfl

theorem write (heap : Heap) (id : ScopeId) (name : String) (value : Value) :
    heap.Steady (heap.write id name value) :=
  modifyScope heap id (fun _ => rfl) fun _ => rfl

theorem clear (heap : Heap) (id : ScopeId) : heap.Steady (heap.clear id) :=
  modifyScope heap id (fun _ => rfl) fun _ => rfl

end Steady

/-- What the made scope of a call is like, and why the call is not refused. -/
theorem callScope_ok {routine : Routine} {arguments : List Value} {caller : ScopeId}
    {scope : Scope} (made : heap.callScope routine arguments caller = .ok scope) :
    heap.depth caller < (heap.limits caller).callDepth ∧
      (heap.callOf routine.closure (heap.depth caller)).bindAll routine.parameters arguments =
        .ok scope := by
  unfold callScope at made
  simp only at made
  split at made
  · cases made
  · split at made
    · cases made
    · next within => exact ⟨Nat.lt_of_not_le within, made⟩

end Heap

/-- Changes keep every function that has been made. -/
theorem World.Leads.keeps_routine {world later : World} (leads : World.Leads world later)
    {id : RoutineId} {routine : Routine} (found : world.heap.routine? id = some routine) :
    later.heap.routine? id = some routine := by
  induction leads with
  | refl => exact found
  | tail _ change induction =>
      cases change with
      | routine added =>
          rw [World.mapHeap_heap, Heap.routine?_addRoutine, if_neg ?_]
          · exact induction
          · rintro rfl
            exact Nat.lt_irrefl _ (Heap.lt_of_routine? induction)
      | _ => exact induction

/-- Changes keep the limits of every scope and its number of active calls. -/
theorem World.Leads.steady {world later : World} (leads : World.Leads world later) :
    world.heap.Steady later.heap := by
  induction leads with
  | refl => exact .refl _
  | @tail between _ _ change induction =>
      refine induction.trans ?_
      cases change with
      | print | clock | chance | element | team | routine => exact .refl between.heap
      | bind scope binding => exact .bind _ scope binding
      | write owner name value => exact .write _ owner name value
      | clear scope => exact .clear _ scope
      | scope scope => exact .addScope _ scope

/-- Binding parameters changes nothing of a scope but its bindings. -/
theorem Scope.bindAll_ok {scope made : Scope} {names : List String} {values : List Value}
    (bound : scope.bindAll names values = .ok made) :
    made.parent = scope.parent ∧ made.limits = scope.limits ∧ made.depth = scope.depth := by
  induction names generalizing scope values with
  | nil =>
      cases bound
      exact ⟨rfl, rfl, rfl⟩
  | cons name names induction =>
      cases values with
      | nil =>
          cases bound
          exact ⟨rfl, rfl, rfl⟩
      | cons value values =>
          unfold Scope.bindAll at bound
          split at bound
          · cases bound
          · have rest := induction bound
            exact rest

end Avenger
