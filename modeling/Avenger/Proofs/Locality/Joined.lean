import Avenger.Proofs.Coupling.Evaluation
import Avenger.Proofs.Locality.Lockstep

/-!
# Runs in paired scopes

Two runs of the same code in paired scopes keep their heaps in lockstep.
-/

namespace Avenger

/-- Where two runs are: in two scopes, and how many calls into the runs. -/
structure Vantage where
  left : ScopeId
  right : ScopeId
  depth : Nat

namespace Pairing

variable {pairing : Pairing} {start : Heap} {vantage : Vantage} {world world' : World}

/-- Worlds that are in lockstep and the same outside of their heaps, when code runs in paired
scopes; of the heap at the start, only paired places have changed. -/
structure Joined (pairing : Pairing) (start : Heap) (vantage : Vantage)
    (world world' : World) : Prop where
  lockstep : pairing.Lockstep world.heap world'.heap
  outside : world.SameOutside world'
  kept : start.Keeps pairing.Left world.heap
  paired : pairing.scopes vantage.left vantage.right
  bound : vantage.left.index < world.heap.scopes.size

namespace Joined

theorem bound' (joined : pairing.Joined start vantage world world') :
    vantage.right.index < world'.heap.scopes.size :=
  (joined.lockstep.agrees.scopes joined.paired).inside.mp joined.bound

/-- Worlds stay joined when both heaps are changed in lockstep. -/
theorem changed (joined : pairing.Joined start vantage world world')
    {change change' : Heap → Heap}
    (lockstep : pairing.Lockstep (change world.heap) (change' world'.heap))
    (kept : world.heap.Keeps pairing.Left (change world.heap))
    (larger : world.heap.scopes.size ≤ (change world.heap).scopes.size) :
    pairing.Joined start vantage (world.mapHeap change) (world'.mapHeap change') where
  lockstep := lockstep
  outside := { joined.outside with }
  kept := joined.kept.trans kept
  paired := joined.paired
  bound := Nat.lt_of_lt_of_le joined.bound larger

theorem modifyScope (joined : pairing.Joined start vantage world world') {id id' : ScopeId}
    (paired : pairing.scopes id id') {change change' : Scope → Scope}
    (related : ∀ {scope scope'}, pairing.Scopes scope scope' →
      pairing.Scopes (change scope) (change' scope'))
    (keeps : ∀ scope, (change scope).parent = scope.parent)
    (keeps' : ∀ scope, (change' scope).parent = scope.parent) :
    pairing.Joined start vantage (world.mapHeap (·.modifyScope id change))
      (world'.mapHeap (·.modifyScope id' change')) := by
  apply joined.changed (joined.lockstep.modifyScope paired related keeps keeps')
  · exact .modifyScope ⟨id', paired⟩ change
  · exact Nat.le_of_eq (Heap.modifyScope_size _ _ _).symm

theorem endScope (joined : pairing.Joined start vantage world world') {id id' : ScopeId}
    (paired : pairing.scopes id id') {routines routines' : Nat}
    (same : world.heap.routines.size = routines ↔ world'.heap.routines.size = routines') :
    pairing.Joined start vantage (world.endScope id routines)
      (world'.endScope id' routines') := by
  have retention := joined.outside.retention
  unfold World.endScope
  by_cases released : world.retention = .release ∧ world.heap.routines.size = routines
  · have released' : world'.retention = .release ∧ world'.heap.routines.size = routines' := by
      rwa [← retention, ← same]
    rw [if_pos released, if_pos released']
    exact joined.modifyScope paired (fun related => related.clear) (fun _ => rfl)
      fun _ => rfl
  · have retained : ¬ (world'.retention = .release ∧
        world'.heap.routines.size = routines') := by
      rwa [← retention, ← same]
    rw [if_neg released, if_neg retained]
    exact joined

/-- Worlds that are joined where code runs are so wherever other code runs. -/
theorem elsewhere (joined : pairing.Joined start vantage world world') {other : Vantage}
    (paired : pairing.scopes other.left other.right)
    (bound : other.left.index < world.heap.scopes.size) :
    pairing.Joined start other world world' :=
  { joined with paired, bound }

end Joined

/-- Runs of the same code in paired scopes. -/
def coupling (pairing : Pairing) (start : Heap) : Coupling where
  Stage := Vantage
  left := Vantage.left
  right := Vantage.right
  depth := Vantage.depth
  declaring _ := True
  worlds := pairing.Joined start
  teams := pairing.teams
  routines := pairing.routines
  stoppable := True
  yields _ := False
  exhaustible := True

/-- The step into two scopes that are the same up to the pairing, and out of them. -/
theorem opening (joined : pairing.Joined start vantage world world') {scope scope' : Scope}
    (depth : Nat) (related : pairing.Scopes scope scope')
    (earlier : ∀ parent, scope.parent = some parent →
      parent.index < world.heap.scopes.size)
    (earlier' : ∀ parent, scope'.parent = some parent →
      parent.index < world'.heap.scopes.size) :
    (pairing.coupling start).Opening vantage
      ⟨world.heap.nextScope, world'.heap.nextScope, depth⟩ world world' scope scope' where
  left := rfl
  right := rfl
  declaring := trivial
  opened := by
    have grown : pairing.Joined start vantage (world.mapHeap (·.addScope scope))
        (world'.mapHeap (·.addScope scope')) := by
      apply joined.changed (joined.lockstep.addScope related earlier earlier')
      · exact .addScope scope
      · exact Nat.le_of_lt (by simp)
    apply grown.elsewhere joined.lockstep.nextScope
    simp [Heap.nextScope]
  closed := by
    intro later later' inner
    have bound : vantage.left.index < later.heap.scopes.size :=
      Nat.lt_trans joined.bound inner.bound
    have next := (inner.lockstep.agrees.routines joined.lockstep.nextRoutine).next
    apply (inner.elsewhere joined.paired bound).endScope joined.lockstep.nextScope
    exact ⟨fun same => (next.mp same.symm).symm, fun same => (next.mpr same.symm).symm⟩

/-- Parameters are bound alike to related arguments. -/
theorem Scopes.bindAll {scope scope' : Scope} (related : pairing.Scopes scope scope')
    {arguments arguments' : List Value}
    (values : List.Forall₂ pairing.Values arguments arguments') (names : List String) :
    (pairing.coupling start).Agree
      (fun made made' => pairing.Scopes made made' ∧ made.parent = scope.parent ∧
        made'.parent = scope'.parent)
      (scope.bindAll names arguments) (scope'.bindAll names arguments') := by
  induction names generalizing scope scope' arguments arguments' with
  | nil => exact .ok ⟨related, rfl, rfl⟩
  | cons name names induction =>
      cases values with
      | nil => exact .ok ⟨related, rfl, rfl⟩
      | @cons value value' _ _ first rest =>
          have bindings := related.bindings name
          unfold Scope.bindAll
          generalize scope.find? name = binding at bindings ⊢
          generalize scope'.find? name = binding' at bindings ⊢
          cases bindings with
          | some alike => exact .error _
          | none => exact induction (related.bind name first false) rest

/-- The scope of a call depends on the calling scope only by its limit of calls and its
number of active calls. -/
theorem Lockstep.callScope {heap heap' : Heap} (lockstep : pairing.Lockstep heap heap')
    {routine routine' : Routine} (code : pairing.Routines routine routine')
    {arguments arguments' : List Value}
    (related : List.Forall₂ pairing.Values arguments arguments') {caller caller' : ScopeId}
    (depth : heap.depth caller = heap'.depth caller')
    (limit : (heap.limits caller).callDepth = (heap'.limits caller').callDepth) :
    (pairing.coupling start).Agree
      (fun made made' => pairing.Scopes made made' ∧ made.parent = some routine.closure ∧
        made'.parent = some routine'.closure)
      (heap.callScope routine arguments caller)
      (heap'.callScope routine' arguments' caller') := by
  unfold Heap.callScope
  dsimp only
  rw [← code.code.parameters, ← code.code.name, ← related.length_eq, ← depth, ← limit]
  split
  · exact .error _
  · split
    · exact .error _
    · have opened : pairing.Scopes (heap.callOf routine.closure (heap.depth caller))
          (heap'.callOf routine'.closure (heap.depth caller)) :=
        ⟨fun _ => .none, .some code.closure, lockstep.limits code.closure, rfl⟩
      exact opened.bindAll related routine.parameters

theorem Lockstep.lookup {heap heap' : Heap} (lockstep : pairing.Lockstep heap heap')
    {id id' : ScopeId} (paired : pairing.scopes id id') (name : String) :
    (pairing.coupling start).Agree pairing.Values (heap.lookup id name)
      (heap'.lookup id' name) := by
  have found := lockstep.resolve? name paired
  unfold Heap.lookup
  generalize heap.resolve? name id = owned at found ⊢
  generalize heap'.resolve? name id' = owned' at found ⊢
  cases found with
  | none => exact .error _
  | some owned => exact .ok owned.binding.value

theorem Lockstep.assignable {heap heap' : Heap} (lockstep : pairing.Lockstep heap heap')
    {id id' : ScopeId} (paired : pairing.scopes id id') (name : String) :
    (pairing.coupling start).Agree pairing.scopes (heap.assignable id name)
      (heap'.assignable id' name) := by
  have found := lockstep.resolve? name paired
  unfold Heap.assignable
  generalize heap.resolve? name id = owned at found ⊢
  generalize heap'.resolve? name id' = owned' at found ⊢
  cases found with
  | none => exact .error _
  | some owned =>
      dsimp only
      rw [← owned.binding.constant]
      split
      · exact .error _
      · exact .ok owned.owner

theorem lawful : (pairing.coupling start).Lawful where
  output := fun joined => joined.outside.output
  lookup := fun joined name => joined.lockstep.lookup joined.paired name
  limits := fun joined => .inl (congrArg _ (joined.lockstep.limits joined.paired))
  assign := by
    intro vantage world world' value value' joined related name
    apply (joined.lockstep.assignable joined.paired name).mono
    intro owner owner' owned
    exact joined.modifyScope owned (fun scopes => scopes.write name related) (fun _ => rfl)
      fun _ => rfl
  elements := by
    intro vantage world world' id id' joined paired
    have teams := joined.lockstep.team? paired
    unfold Heap.elements
    generalize world.heap.team? id = team at teams ⊢
    generalize world'.heap.team? id' = team' at teams ⊢
    cases teams with
    | none => exact .nil
    | some related => exact related.elements
  setElement := by
    intro vantage world world' id id' value value' joined paired related position
    apply joined.changed
    · exact joined.lockstep.modifyTeam paired fun teams => teams.setElement position related
    · exact .modifyTeam ⟨id', paired⟩ _
    · exact Nat.le_refl _
  print := fun joined line => { joined with outside := joined.outside.print line }
  clock := by
    intro vantage world world' joined
    obtain ⟨same, outside⟩ := joined.outside.clock
    exact ⟨same, { joined with outside }⟩
  chance := by
    intro vantage world world' joined
    obtain ⟨same, outside⟩ := joined.outside.chance
    exact ⟨same, { joined with outside }⟩
  routine := by
    intro vantage world world' id id' joined paired
    have routines := joined.lockstep.routine? paired
    generalize world.heap.routine? id = routine at routines ⊢
    generalize world'.heap.routine? id' = routine' at routines ⊢
    cases routines with
    | none => exact .none
    | some related => exact .some related.code
  child := by
    intro vantage world world' bindings _ joined constant
    refine ⟨⟨world.heap.nextScope, world'.heap.nextScope, vantage.depth⟩, rfl, ?_⟩
    apply opening joined
    · refine ⟨?_, .some joined.paired, joined.lockstep.limits joined.paired,
        joined.lockstep.depth joined.paired⟩
      intro name
      unfold Scope.find?
      dsimp only
      cases found : bindings.find? (·.name == name) with
      | none => exact .none
      | some binding =>
          exact .some ⟨constant binding (List.mem_of_find?_eq_some found), rfl⟩
    · rintro parent ⟨⟩
      exact joined.bound
    · rintro parent ⟨⟩
      exact joined.bound'
  call := by
    intro vantage world world' id id' routine routine' arguments arguments' joined paired
      found found' related
    have routines := joined.lockstep.routine? paired
    rw [found, found'] at routines
    cases routines with
    | some code =>
        have limits := joined.lockstep.limits joined.paired
        apply (joined.lockstep.callScope code related
          (joined.lockstep.depth joined.paired) (congrArg _ limits)).mono
        rintro scope scope' ⟨scopes, parent, parent'⟩
        refine ⟨_, rfl, opening joined _ scopes ?_ ?_⟩
        · intro closure inside
          cases parent.symm.trans inside
          exact joined.lockstep.ordered.closures found
        · intro closure inside
          cases parent'.symm.trans inside
          exact joined.lockstep.ordered'.closures found'
  binds := fun _ joined name => joined.lockstep.binds joined.paired name
  bind := by
    intro vantage world world' name value value' _ joined _ related constant
    exact joined.modifyScope joined.paired (fun scopes => scopes.bind name related constant)
      (fun _ => rfl) fun _ => rfl
  newTeam := by
    intro vantage world world' elements elements' joined related name
    refine ⟨joined.lockstep.nextTeam, ?_⟩
    apply joined.changed
    · exact joined.lockstep.addTeam ⟨rfl, related⟩
    · exact .addTeam _
    · exact Nat.le_refl _
  newRoutine := by
    intro vantage world world' _ joined name parameters body
    refine ⟨joined.lockstep.nextRoutine, ?_⟩
    apply joined.changed
    · exact joined.lockstep.addRoutine ⟨⟨rfl, rfl, rfl⟩, joined.paired⟩ joined.bound
        joined.bound'
    · exact .addRoutine _
    · exact Nat.le_refl _

end Pairing

end Avenger
