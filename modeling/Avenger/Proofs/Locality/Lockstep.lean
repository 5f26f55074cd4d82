import Avenger.Proofs.Locality.Pairing

/-!
# Heaps in lockstep

Two heaps are in lockstep if they look alike from paired places and everything that is still
to be made is paired too.  Whatever is read from paired places is then alike, and what is
written to them alike or made alike in both heaps keeps them in lockstep.
-/

namespace Avenger

namespace Scope

theorem find?_bind (scope : Scope) (binding : Binding) (name : String) :
    (scope.bind binding).find? name =
      if binding.name = name then some binding else scope.find? name := by
  unfold find? bind
  rw [List.find?_cons]
  by_cases same : binding.name = name
  · simp [same]
  · simp [same, beq_false_of_ne same]

theorem find?_write (scope : Scope) (name : String) (value : Value) (other : String) :
    (scope.write name value).find? other =
      if name = other then (scope.find? other).map ({ · with value })
      else scope.find? other := by
  unfold find? write
  dsimp only
  rw [List.find?_map]
  have named : ∀ binding : Binding, (if binding.name == name then { binding with value }
      else binding).name = binding.name := by
    intro binding
    split <;> rfl
  simp only [Function.comp_def, named]
  cases found : scope.bindings.find? (·.name == other) with
  | none => simp
  | some binding =>
      obtain rfl : binding.name = other := by simpa using List.find?_some found
      rw [Option.map_some]
      by_cases written : name = binding.name
      · simp [written]
      · simp [written, Ne.symm written]

end Scope

namespace Heap

variable {heap later last : Heap}

/-- A heap in which parents were made before their children, and the scopes of functions
before the functions. -/
structure Ordered (heap : Heap) : Prop where
  parents : ∀ {id parent : ScopeId} {scope : Scope}, heap.scope? id = some scope →
    scope.parent = some parent → parent.index < id.index
  closures : ∀ {id : RoutineId} {routine : Routine}, heap.routine? id = some routine →
    routine.closure.index < heap.scopes.size

theorem Sound.ordered (sound : heap.Sound) : heap.Ordered where
  parents := sound.parents
  closures := fun found => sound.present (.closure found)

namespace Ordered

theorem empty : Heap.empty.Ordered where
  parents found := absurd (lt_of_scope? found) (Nat.not_lt_zero _)
  closures found := absurd (lt_of_routine? found) (Nat.not_lt_zero _)

theorem modifyScope (ordered : heap.Ordered) (id : ScopeId) {change : Scope → Scope}
    (keeps : ∀ scope, (change scope).parent = scope.parent) :
    (heap.modifyScope id change).Ordered := by
  constructor
  case parents =>
      intro other parent scope found inside
      rw [scope?_modifyScope] at found
      split at found
      · obtain ⟨old, oldFound, rfl⟩ := Option.map_eq_some_iff.mp found
        rw [keeps] at inside
        exact ordered.parents oldFound inside
      · exact ordered.parents found inside
  case closures =>
      intro other routine found
      rw [modifyScope_size]
      exact ordered.closures found

theorem modifyTeam (ordered : heap.Ordered) (id : TeamId) (change : Team → Team) :
    (heap.modifyTeam id change).Ordered :=
  ⟨ordered.parents, ordered.closures⟩

theorem addScope (ordered : heap.Ordered) {scope : Scope}
    (earlier : ∀ parent, scope.parent = some parent → parent.index < heap.scopes.size) :
    (heap.addScope scope).Ordered := by
  constructor
  case parents =>
      intro id parent other found inside
      rw [scope?_addScope] at found
      split at found
      · next same =>
          cases found
          rw [same]
          exact earlier parent inside
      · exact ordered.parents found inside
  case closures =>
      intro id routine found
      have bound := ordered.closures found
      rw [addScope_size]
      omega

theorem addTeam (ordered : heap.Ordered) (team : Team) : (heap.addTeam team).Ordered :=
  ⟨ordered.parents, ordered.closures⟩

theorem addRoutine (ordered : heap.Ordered) {routine : Routine}
    (bound : routine.closure.index < heap.scopes.size) :
    (heap.addRoutine routine).Ordered := by
  refine ⟨ordered.parents, ?_⟩
  intro id other found
  rw [routine?_addRoutine] at found
  split at found
  · cases found
    exact bound
  · exact ordered.closures found

end Ordered

namespace Keeps

variable {touched : Place → Prop}

theorem refl (heap : Heap) : heap.Keeps touched heap :=
  ⟨fun found _ => found, fun found _ => found⟩

theorem trans (first : heap.Keeps touched later) (second : later.Keeps touched last) :
    heap.Keeps touched last where
  scopes := fun found apart => second.scopes (first.scopes found apart) apart
  teams := fun found apart => second.teams (first.teams found apart) apart

theorem modifyScope {id : ScopeId} (within : touched (.scope id)) (change : Scope → Scope) :
    heap.Keeps touched (heap.modifyScope id change) := by
  refine ⟨?_, fun found _ => found⟩
  intro other scope found apart
  rw [scope?_modifyScope, if_neg, found]
  rintro rfl
  exact apart within

theorem modifyTeam {id : TeamId} (within : touched (.team id)) (change : Team → Team) :
    heap.Keeps touched (heap.modifyTeam id change) := by
  refine ⟨fun found _ => found, ?_⟩
  intro other team found apart
  rw [team?_modifyTeam, if_neg, found]
  rintro rfl
  exact apart within

theorem addScope (scope : Scope) : heap.Keeps touched (heap.addScope scope) := by
  refine ⟨?_, fun found _ => found⟩
  intro other old found _
  rw [scope?_addScope, if_neg (ne_nextScope (lt_of_scope? found))]
  exact found

theorem addTeam (team : Team) : heap.Keeps touched (heap.addTeam team) := by
  refine ⟨fun found _ => found, ?_⟩
  intro other old found _
  rw [team?_addTeam, if_neg, found]
  rintro rfl
  exact Nat.lt_irrefl _ (lt_of_team? found)

theorem addRoutine (routine : Routine) : heap.Keeps touched (heap.addRoutine routine) :=
  ⟨fun found _ => found, fun found _ => found⟩

end Keeps

end Heap

namespace Pairing

variable {pairing : Pairing} {heap heap' : Heap}

/-- Everything that is still to be made is paired with what is made at the same time. -/
structure Complete (pairing : Pairing) (heap heap' : Heap) : Prop where
  scopes : ∀ distance,
    pairing.scopes ⟨heap.scopes.size + distance⟩ ⟨heap'.scopes.size + distance⟩
  teams : ∀ distance,
    pairing.teams ⟨heap.teams.size + distance⟩ ⟨heap'.teams.size + distance⟩
  routines : ∀ distance,
    pairing.routines ⟨heap.routines.size + distance⟩ ⟨heap'.routines.size + distance⟩

/-- Heaps that look alike from paired places and go on to grow alike. -/
structure Lockstep (pairing : Pairing) (heap heap' : Heap) : Prop where
  agrees : pairing.Agrees heap heap'
  complete : pairing.Complete heap heap'
  ordered : heap.Ordered
  ordered' : heap'.Ordered

namespace Scopes

variable {scope scope' : Scope}

theorem write (related : pairing.Scopes scope scope') (name : String) {value value' : Value}
    (values : pairing.Values value value') :
    pairing.Scopes (scope.write name value) (scope'.write name value') := by
  refine { related with bindings := ?_ }
  intro other
  have bindings := related.bindings other
  rw [Scope.find?_write, Scope.find?_write]
  by_cases same : name = other
  · rw [if_pos same, if_pos same]
    generalize scope.find? other = binding at bindings ⊢
    generalize scope'.find? other = binding' at bindings ⊢
    cases bindings with
    | none => exact .none
    | some alike => exact .some ⟨values, alike.constant⟩
  · rw [if_neg same, if_neg same]
    exact bindings

theorem bind (related : pairing.Scopes scope scope') (name : String) {value value' : Value}
    (values : pairing.Values value value') (constant : Bool) :
    pairing.Scopes (scope.bind ⟨name, value, constant⟩)
      (scope'.bind ⟨name, value', constant⟩) := by
  refine { related with bindings := ?_ }
  intro other
  rw [Scope.find?_bind, Scope.find?_bind]
  dsimp only
  by_cases same : name = other
  · rw [if_pos same, if_pos same]
    exact .some ⟨values, rfl⟩
  · rw [if_neg same, if_neg same]
    exact related.bindings other

theorem clear (related : pairing.Scopes scope scope') :
    pairing.Scopes scope.clear scope'.clear :=
  { related with bindings := fun _ => .none }

end Scopes

theorem forall₂_set {α : Type} {related : α → α → Prop} {items items' : List α} {item item' : α}
    (old : List.Forall₂ related items items') (new : related item item') (position : Nat) :
    List.Forall₂ related (items.set position item) (items'.set position item') := by
  induction old generalizing position with
  | nil => exact .nil
  | cons head tail induction =>
      cases position with
      | zero => exact .cons new tail
      | succ position => exact .cons head (induction position)

theorem Teams.setElement {team team' : Team} (related : pairing.Teams team team')
    (position : Nat) {value value' : Value} (values : pairing.Values value value') :
    pairing.Teams { team with elements := team.elements.setIfInBounds position value }
      { team' with elements := team'.elements.setIfInBounds position value' } := by
  refine ⟨related.name, ?_⟩
  rw [Array.toList_setIfInBounds, Array.toList_setIfInBounds]
  exact forall₂_set related.elements values position

namespace Lockstep

theorem scope? (lockstep : pairing.Lockstep heap heap') {id id' : ScopeId}
    (paired : pairing.scopes id id') :
    Option.Rel pairing.Scopes (heap.scope? id) (heap'.scope? id') :=
  (lockstep.agrees.scopes paired).rel

theorem team? (lockstep : pairing.Lockstep heap heap') {id id' : TeamId}
    (paired : pairing.teams id id') :
    Option.Rel pairing.Teams (heap.team? id) (heap'.team? id') :=
  (lockstep.agrees.teams paired).rel

theorem routine? (lockstep : pairing.Lockstep heap heap') {id id' : RoutineId}
    (paired : pairing.routines id id') :
    Option.Rel pairing.Routines (heap.routine? id) (heap'.routine? id') :=
  (lockstep.agrees.routines paired).rel

theorem nextScope (lockstep : pairing.Lockstep heap heap') :
    pairing.scopes heap.nextScope heap'.nextScope :=
  lockstep.complete.scopes 0

theorem nextTeam (lockstep : pairing.Lockstep heap heap') :
    pairing.teams heap.nextTeam heap'.nextTeam :=
  lockstep.complete.teams 0

theorem nextRoutine (lockstep : pairing.Lockstep heap heap') :
    pairing.routines heap.nextRoutine heap'.nextRoutine :=
  lockstep.complete.routines 0

section Reading

variable {id id' : ScopeId}

theorem limits (lockstep : pairing.Lockstep heap heap') (paired : pairing.scopes id id') :
    heap.limits id = heap'.limits id' := by
  have scopes := lockstep.scope? paired
  unfold Heap.limits
  generalize heap.scope? id = scope at scopes
  generalize heap'.scope? id' = scope' at scopes
  cases scopes with
  | some related => exact related.limits
  | none => rfl

theorem depth (lockstep : pairing.Lockstep heap heap') (paired : pairing.scopes id id') :
    heap.depth id = heap'.depth id' := by
  have scopes := lockstep.scope? paired
  unfold Heap.depth
  generalize heap.scope? id = scope at scopes
  generalize heap'.scope? id' = scope' at scopes
  cases scopes with
  | some related => exact related.depth
  | none => rfl

theorem binds (lockstep : pairing.Lockstep heap heap') (paired : pairing.scopes id id')
    (name : String) : heap.binds id name = heap'.binds id' name := by
  have scopes := lockstep.scope? paired
  unfold Heap.binds
  generalize heap.scope? id = scope at scopes
  generalize heap'.scope? id' = scope' at scopes
  cases scopes with
  | none => rfl
  | @some scope scope' related =>
      have bindings := related.bindings name
      dsimp only [Option.bind_some]
      generalize scope.find? name = binding at bindings
      generalize scope'.find? name = binding' at bindings
      cases bindings <;> rfl

/-- What a name stands for in paired scopes. -/
structure Owned (pairing : Pairing) (found found' : ScopeId × Binding) : Prop where
  owner : pairing.scopes found.1 found'.1
  binding : found.2.Alike pairing.Values found'.2

theorem resolve? (lockstep : pairing.Lockstep heap heap') (name : String)
    {id id' : ScopeId} (paired : pairing.scopes id id') :
    Option.Rel (Owned pairing) (heap.resolve? name id) (heap'.resolve? name id') := by
  have scopes := lockstep.scope? paired
  rw [Heap.resolve?.eq_def heap, Heap.resolve?.eq_def heap']
  generalize found : heap.scope? id = scope at scopes ⊢
  generalize found' : heap'.scope? id' = scope' at scopes ⊢
  cases scopes with
  | none => exact .none
  | @some scope scope' related =>
      have bindings := related.bindings name
      have parents := related.parent
      dsimp only
      generalize scope.find? name = binding at bindings ⊢
      generalize scope'.find? name = binding' at bindings ⊢
      generalize inside : scope.parent = parent at parents ⊢
      generalize inside' : scope'.parent = parent' at parents ⊢
      cases bindings with
      | some alike => exact .some ⟨paired, alike⟩
      | none =>
          cases parents with
          | none => exact .none
          | some outer =>
              have earlier := lockstep.ordered.parents found inside
              have earlier' := lockstep.ordered'.parents found' inside'
              dsimp only
              rw [if_pos earlier, if_pos earlier']
              exact lockstep.resolve? name outer
termination_by id.index

end Reading

section Changing

theorem modifyScope (lockstep : pairing.Lockstep heap heap') {id id' : ScopeId}
    (paired : pairing.scopes id id') {change change' : Scope → Scope}
    (related : ∀ {scope scope'}, pairing.Scopes scope scope' →
      pairing.Scopes (change scope) (change' scope'))
    (keeps : ∀ scope, (change scope).parent = scope.parent)
    (keeps' : ∀ scope, (change' scope).parent = scope.parent) :
    pairing.Lockstep (heap.modifyScope id change) (heap'.modifyScope id' change') := by
  obtain ⟨agrees, complete, ordered, ordered'⟩ := lockstep
  refine ⟨{ agrees with scopes := ?_ }, { complete with scopes := ?_ },
    ordered.modifyScope id keeps, ordered'.modifyScope id' keeps'⟩
  · intro other other' otherPaired
    have once := agrees.scopes_once otherPaired paired
    rw [ScopeId.ext_iff, ScopeId.ext_iff] at once
    exact (agrees.scopes otherPaired).modify once related
  · intro distance
    rw [Heap.modifyScope_size, Heap.modifyScope_size]
    exact complete.scopes distance

theorem modifyTeam (lockstep : pairing.Lockstep heap heap') {id id' : TeamId}
    (paired : pairing.teams id id') {change change' : Team → Team}
    (related : ∀ {team team'}, pairing.Teams team team' →
      pairing.Teams (change team) (change' team')) :
    pairing.Lockstep (heap.modifyTeam id change) (heap'.modifyTeam id' change') := by
  obtain ⟨agrees, complete, ordered, ordered'⟩ := lockstep
  refine ⟨{ agrees with teams := ?_ }, { complete with teams := ?_ },
    ordered.modifyTeam id change, ordered'.modifyTeam id' change'⟩
  · intro other other' otherPaired
    have once := agrees.teams_once otherPaired paired
    rw [TeamId.ext_iff, TeamId.ext_iff] at once
    exact (agrees.teams otherPaired).modify once related
  · intro distance
    rw [Heap.modifyTeam_size, Heap.modifyTeam_size]
    exact complete.teams distance

theorem addScope (lockstep : pairing.Lockstep heap heap') {scope scope' : Scope}
    (related : pairing.Scopes scope scope')
    (earlier : ∀ parent, scope.parent = some parent → parent.index < heap.scopes.size)
    (earlier' : ∀ parent, scope'.parent = some parent → parent.index < heap'.scopes.size) :
    pairing.Lockstep (heap.addScope scope) (heap'.addScope scope') := by
  obtain ⟨agrees, complete, ordered, ordered'⟩ := lockstep
  refine ⟨{ agrees with scopes := fun paired => (agrees.scopes paired).push related },
    { complete with scopes := ?_ }, ordered.addScope earlier, ordered'.addScope earlier'⟩
  intro distance
  rw [Heap.addScope_size, Heap.addScope_size, Nat.add_assoc, Nat.add_assoc]
  exact complete.scopes (1 + distance)

theorem addTeam (lockstep : pairing.Lockstep heap heap') {team team' : Team}
    (related : pairing.Teams team team') :
    pairing.Lockstep (heap.addTeam team) (heap'.addTeam team') := by
  obtain ⟨agrees, complete, ordered, ordered'⟩ := lockstep
  refine ⟨{ agrees with teams := fun paired => (agrees.teams paired).push related },
    { complete with teams := ?_ }, ordered.addTeam team, ordered'.addTeam team'⟩
  intro distance
  rw [Heap.addTeam_size, Heap.addTeam_size, Nat.add_assoc, Nat.add_assoc]
  exact complete.teams (1 + distance)

theorem addRoutine (lockstep : pairing.Lockstep heap heap') {routine routine' : Routine}
    (related : pairing.Routines routine routine')
    (bound : routine.closure.index < heap.scopes.size)
    (bound' : routine'.closure.index < heap'.scopes.size) :
    pairing.Lockstep (heap.addRoutine routine) (heap'.addRoutine routine') := by
  obtain ⟨agrees, complete, ordered, ordered'⟩ := lockstep
  refine ⟨{ agrees with routines := fun paired => (agrees.routines paired).push related },
    { complete with routines := ?_ }, ordered.addRoutine bound, ordered'.addRoutine bound'⟩
  intro distance
  rw [Heap.addRoutine_size, Heap.addRoutine_size, Nat.add_assoc, Nat.add_assoc]
  exact complete.routines (1 + distance)

end Changing

end Lockstep

end Pairing

end Avenger
