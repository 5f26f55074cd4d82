import Avenger.Proofs.Forgetting.Handles
import Avenger.Proofs.Locality.Lockstep
import Avenger.Proofs.Plain

/-!
# The view from what is held

A heap in which some scopes have lost their bindings and the heap in which nothing was forgotten
are the same as seen from what is held.  Whatever is read from there is then the same in both,
and whatever is written or made from there keeps the view the same.
-/

namespace Avenger

/-- The heap with no bindings at all. -/
def Heap.emptied (heap : Heap) : Heap := { heap with scopes := heap.scopes.map Scope.clear }

namespace Heap

variable (heap : Heap)

theorem scope?_emptied (id : ScopeId) :
    heap.emptied.scope? id = (heap.scope? id).map Scope.clear := by
  simp [emptied, scope?]

@[simp] theorem emptied_size : heap.emptied.scopes.size = heap.scopes.size := by
  simp [emptied]

theorem limits_emptied (id : ScopeId) : heap.emptied.limits id = heap.limits id := by
  unfold limits
  rw [scope?_emptied]
  cases heap.scope? id <;> rfl

theorem depth_emptied (id : ScopeId) : heap.emptied.depth id = heap.depth id := by
  unfold depth
  rw [scope?_emptied]
  cases heap.scope? id <;> rfl

theorem callBudget_emptied : heap.emptied.callBudget = heap.callBudget := by
  unfold callBudget greatestCallDepth
  rw [emptied, Array.foldl_map]
  rfl

theorem callScope_emptied (routine : Routine) (arguments : List Value) (caller : ScopeId) :
    heap.emptied.callScope routine arguments caller =
      heap.callScope routine arguments caller := by
  simp only [callScope, callOf, limits_emptied, depth_emptied]

theorem member_emptied (object index : Value) :
    heap.emptied.member object index = heap.member object index := by
  cases object <;> rfl

theorem plainValueText_emptied (value : Value) :
    heap.emptied.plainValueText value = heap.plainValueText value := by
  cases value <;> rfl

theorem teamTextWithin_emptied (depth : Nat) (outer : List TeamId) (id : TeamId) :
    heap.emptied.teamTextWithin depth outer id = heap.teamTextWithin depth outer id := by
  induction depth generalizing outer id with
  | zero => rfl
  | succ depth induction =>
      simp only [teamTextWithin, induction, plainValueText_emptied]
      all_goals rfl

theorem valueText_emptied (value : Value) :
    heap.emptied.valueText value = heap.valueText value := by
  cases value with
  | team id => exact heap.teamTextWithin_emptied _ [] id
  | _ => rfl

theorem splicedText_emptied (text : String) (index value : Value) :
    heap.emptied.splicedText text index value = heap.splicedText text index value := by
  cases value <;> rfl

theorem pureResult_emptied (function : Native) (arguments : List Value) :
    function.pureResult heap.emptied arguments = function.pureResult heap arguments := by
  cases function <;> rfl

theorem emptied_addScope (scope : Scope) :
    (heap.addScope scope).emptied = heap.emptied.addScope scope.clear := by
  simp [emptied, addScope]

theorem emptied_modifyScope (id : ScopeId) {change : Scope → Scope}
    (plain : ∀ scope, (change scope).clear = scope.clear) :
    (heap.modifyScope id change).emptied = heap.emptied := by
  unfold emptied modifyScope
  congr 1
  apply Array.ext_getElem?
  intro index
  simp only [Array.getElem?_map, Array.getElem?_modify]
  split
  · cases heap.scopes[index]? <;> simp [plain]
  · rfl

end Heap

/-! ### What is named after a change -/

namespace Heap

variable (heap : Heap)

theorem references_modifyScope (id : ScopeId) (change : Scope → Scope) (place : Place) :
    (heap.modifyScope id change).references place =
      if place = .scope id then
        ((heap.scope? id).map fun scope => (change scope).references).getD []
      else heap.references place := by
  cases place with
  | scope other =>
      simp only [references, scope?_modifyScope, Place.scope.injEq, eq_comm]
      split
      · next same => rw [same, Option.map_map]; rfl
      · rfl
  | team other => rfl
  | routine other => rfl

theorem references_addScope (scope : Scope) (place : Place) :
    (heap.addScope scope).references place =
      if place = .scope heap.nextScope then scope.references else heap.references place := by
  cases place with
  | scope other =>
      simp only [references, scope?_addScope, Place.scope.injEq]
      split <;> rfl
  | team other => rfl
  | routine other => rfl

theorem references_modifyTeam (id : TeamId) (change : Team → Team) (place : Place) :
    (heap.modifyTeam id change).references place =
      if place = .team id then
        ((heap.team? id).map fun team =>
          (change team).elements.toList.filterMap Value.place?).getD []
      else heap.references place := by
  cases place with
  | scope other => rfl
  | team other =>
      simp only [references, elements, team?_modifyTeam, Place.team.injEq, eq_comm]
      split
      · next same =>
          subst same
          cases heap.team? id <;> simp
      · rfl
  | routine other => rfl

theorem references_addTeam (team : Team) (place : Place) :
    (heap.addTeam team).references place =
      if place = .team heap.nextTeam then team.elements.toList.filterMap Value.place?
      else heap.references place := by
  cases place with
  | scope other => rfl
  | team other =>
      simp only [references, elements, team?_addTeam, Place.team.injEq]
      split <;> rfl
  | routine other => rfl

theorem references_addRoutine (routine : Routine) (place : Place) :
    (heap.addRoutine routine).references place =
      if place = .routine heap.nextRoutine then [.scope routine.closure]
      else heap.references place := by
  cases place with
  | scope other => rfl
  | team other => rfl
  | routine other =>
      simp only [references, routine?_addRoutine, Place.routine.injEq]
      split <;> rfl

end Heap

theorem Scope.references_bind (scope : Scope) (binding : Binding) {place : Place} :
    place ∈ (scope.bind binding).references →
      place ∈ scope.references ∨ binding.value.place? = some place := by
  simp only [references, bind, List.mem_append, List.filterMap_cons]
  rintro (parent | bound)
  · exact .inl (.inl parent)
  · split at bound
    · exact .inl (.inr bound)
    · next named =>
        rcases List.mem_cons.mp bound with rfl | bound
        · exact .inr named
        · exact .inl (.inr bound)

theorem Scope.references_write (scope : Scope) (name : String) (value : Value) {place : Place} :
    place ∈ (scope.write name value).references →
      place ∈ scope.references ∨ value.place? = some place := by
  simp only [references, write, List.mem_append, List.filterMap_map, List.mem_filterMap,
    Function.comp_apply]
  rintro (parent | ⟨binding, member, names⟩)
  · exact .inl (.inl parent)
  · split at names
    · exact .inr names
    · exact .inl (.inr ⟨binding, member, names⟩)

theorem Scope.references_bindAll {scope made : Scope} {names : List String} {values : List Value}
    (bound : scope.bindAll names values = .ok made) {place : Place}
    (member : place ∈ made.references) :
    place ∈ scope.references ∨ ∃ value ∈ values, value.place? = some place := by
  induction names generalizing scope values with
  | nil =>
      cases bound
      exact .inl member
  | cons name names induction =>
      cases values with
      | nil =>
          cases bound
          exact .inl member
      | cons value values =>
          unfold Scope.bindAll at bound
          split at bound
          · cases bound
          · rcases induction bound with old | ⟨given, among, named⟩
            · rcases scope.references_bind _ old with old | named
              · exact .inl old
              · exact .inr ⟨value, .head _, named⟩
            · exact .inr ⟨given, .tail _ among, named⟩

/-- The owner of a name is found from where the name is. -/
theorem Heap.Finds.owner {heap : Heap} {roots : List Place} {name : String} {id owner : ScopeId}
    {binding : Binding} (found : heap.Finds roots (.scope id))
    (resolved : heap.resolve? name id = some (owner, binding)) :
    heap.Finds roots (.scope owner) ∧
      ∃ scope, heap.scope? owner = some scope ∧ binding ∈ scope.bindings := by
  fun_induction heap.resolve? name id with
  | case1 => cases resolved
  | case2 id scope stands binding' bound =>
      cases resolved
      exact ⟨found, scope, stands, List.mem_of_find?_eq_some bound⟩
  | case3 => cases resolved
  | case4 id scope stands unbound parent inside earlier induction =>
      exact induction (found.next (.parent stands inside)) resolved
  | case5 => cases resolved

theorem Heap.Finds.assignable {heap : Heap} {roots : List Place} {name : String}
    {id owner : ScopeId} (found : heap.Finds roots (.scope id))
    (assigns : heap.assignable id name = .ok owner) : heap.Finds roots (.scope owner) := by
  obtain ⟨binding, resolved, -⟩ := Heap.assignable_eq_ok assigns
  exact (found.owner resolved).1

/-! ### The same view -/

namespace Held

/-- What a value names is found from what is held. -/
def Knows (held : Held) (heap : Heap) (value : Value) : Prop :=
  ∀ place, value.place? = some place → heap.Finds held.places place

/-- The heaps differ in bindings only, and not in those that are found from what is held. -/
structure SameView (held : Held) (heap kept : Heap) : Prop where
  emptied : heap.emptied = kept.emptied
  scope? : ∀ {id}, kept.Finds held.places (.scope id) → heap.scope? id = kept.scope? id
  ordered : heap.Ordered
  bound : ∀ id ∈ held.scopes, id.index < heap.scopes.size

variable {held : Held} {heap kept : Heap} {value : Value}

theorem knows_of_mem (member : value ∈ held.values) : held.Knows heap value :=
  fun place names =>
    ⟨place, List.mem_append_right _ (List.mem_filterMap.mpr ⟨value, member, names⟩), .refl⟩

theorem knows_of_plain (plain : value.Plain) : held.Knows heap value := by
  intro place names
  cases value with
  | team _ | routine _ => exact plain.elim
  | null | number _ | boolean _ | text _ | native _ _ | stopped => cases names

theorem finds_of_mem {id : ScopeId} (member : id ∈ held.scopes) :
    heap.Finds held.places (.scope id) :=
  ⟨_, List.mem_append_left _ (List.mem_map_of_mem member), .refl⟩

/-- What a name reads as where it is found is known. -/
theorem lookup_known {id : ScopeId} (found : heap.Finds held.places (.scope id)) (name : String) :
    Gives (held.Knows heap) (heap.lookup id name) := by
  intro value read
  unfold Heap.lookup at read
  split at read
  · next owner binding resolved =>
      cases read
      obtain ⟨above, scope, stands, bound⟩ := found.owner resolved
      exact fun place names => above.next (.bound stands bound names)
  · cases read

/-- A member of what is known is known. -/
theorem member_known {object : Value} (known : held.Knows heap object) (index : Value) :
    Gives (held.Knows heap) (heap.member object index) := by
  unfold Heap.member
  split
  · next id =>
      refine .after fun position => .ok ?_
      unfold Heap.elements
      cases stands : heap.team? id with
      | none => exact knows_of_plain (by simp)
      | some team =>
          cases present : team.elements[position]? with
          | none => exact knows_of_plain (by simp [present])
          | some value =>
              have member := Array.mem_of_getElem? present
              intro place names
              refine (known _ rfl).next (.element stands member ?_)
              simpa [present] using names
  · exact .after fun position => .ok (knows_of_plain (Value.plain_text _))
  · exact .error _

namespace SameView

theorem refl (ordered : heap.Ordered) (bound : ∀ id ∈ held.scopes, id.index < heap.scopes.size) :
    held.SameView heap heap :=
  ⟨rfl, fun _ => rfl, ordered, bound⟩

theorem teams (view : held.SameView heap kept) : heap.teams = kept.teams := by
  have same := congrArg (·.teams) view.emptied
  exact same

theorem routines (view : held.SameView heap kept) : heap.routines = kept.routines := by
  have same := congrArg (·.routines) view.emptied
  exact same

theorem size (view : held.SameView heap kept) : heap.scopes.size = kept.scopes.size := by
  have same := congrArg (·.scopes.size) view.emptied
  simpa using same

/-- What is read without looking at bindings is the same. -/
theorem read {α : Type} (view : held.SameView heap kept) (read : Heap → α)
    (unbound : ∀ heap : Heap, read heap.emptied = read heap) : read heap = read kept := by
  rw [← unbound heap, view.emptied, unbound kept]

theorem elements (view : held.SameView heap kept) (id : TeamId) :
    heap.elements id = kept.elements id :=
  view.read (·.elements id) fun _ => rfl

theorem routine? (view : held.SameView heap kept) (id : RoutineId) :
    heap.routine? id = kept.routine? id :=
  view.read (·.routine? id) fun _ => rfl

theorem references (view : held.SameView heap kept) {place : Place}
    (found : kept.Finds held.places place) : heap.references place = kept.references place := by
  cases place with
  | scope id => simp only [Heap.references, view.scope? found]
  | team id => simp only [Heap.references, Heap.elements, Heap.team?, view.teams]
  | routine id => simp only [Heap.references, Heap.routine?, view.routines]

/-- The same is found in both heaps. -/
theorem finds_iff (view : held.SameView heap kept) {place : Place} :
    heap.Finds held.places place ↔ kept.Finds held.places place := by
  have start : ∀ root ∈ held.places, kept.Finds held.places root :=
    fun root member => ⟨root, member, .refl⟩
  constructor
  · refine Heap.Finds.within start fun found link => found.next ?_
    rwa [← Heap.mem_references, ← view.references found, Heap.mem_references]
  · let both (place : Place) : Prop :=
      heap.Finds held.places place ∧ kept.Finds held.places place
    have starts : ∀ root ∈ held.places, both root :=
      fun root member => ⟨⟨root, member, .refl⟩, start root member⟩
    have links : ∀ {place other}, both place → kept.Link place other → both other := by
      rintro place other ⟨here, found⟩ link
      refine ⟨here.next ?_, found.next link⟩
      rwa [← Heap.mem_references, view.references found, Heap.mem_references]
    exact fun found => (found.within starts links).1

/-! ### Reading -/

theorem resolve? (view : held.SameView heap kept) (name : String) (id : ScopeId)
    (found : kept.Finds held.places (.scope id)) :
    heap.resolve? name id = kept.resolve? name id := by
  fun_induction kept.resolve? name id with
  | case1 id missing => rw [Heap.resolve?, view.scope? found, missing]
  | case2 id scope stands binding bound =>
      rw [Heap.resolve?, view.scope? found, stands]
      simp [bound]
  | case3 id scope stands unbound top =>
      rw [Heap.resolve?, view.scope? found, stands]
      simp [unbound, top]
  | case4 id scope stands unbound parent inside earlier induction =>
      rw [Heap.resolve?, view.scope? found, stands]
      simp [unbound, inside, earlier, induction (found.next (.parent stands inside))]
  | case5 id scope stands unbound parent inside later =>
      rw [Heap.resolve?, view.scope? found, stands]
      simp [unbound, inside, later]

theorem lookup (view : held.SameView heap kept) {id : ScopeId}
    (found : kept.Finds held.places (.scope id)) (name : String) :
    heap.lookup id name = kept.lookup id name := by
  unfold Heap.lookup
  rw [view.resolve? name id found]

theorem assignable (view : held.SameView heap kept) {id : ScopeId}
    (found : kept.Finds held.places (.scope id)) (name : String) :
    heap.assignable id name = kept.assignable id name := by
  unfold Heap.assignable
  rw [view.resolve? name id found]

theorem binds (view : held.SameView heap kept) {id : ScopeId}
    (found : kept.Finds held.places (.scope id)) (name : String) :
    heap.binds id name = kept.binds id name := by
  unfold Heap.binds
  rw [view.scope? found]

/-! ### Changing -/

/-- Less is held, or what was found before. -/
theorem weaken {held' : Held} (view : held.SameView heap kept)
    (scopes : held'.scopes ⊆ held.scopes) (values : ∀ value ∈ held'.values, held.Knows kept value) :
    held'.SameView heap kept := by
  have starts : ∀ root ∈ held'.places, kept.Finds held.places root := by
    intro root member
    rcases List.mem_append.mp member with opened | named
    · obtain ⟨id, among, rfl⟩ := List.mem_map.mp opened
      exact finds_of_mem (scopes among)
    · obtain ⟨value, among, names⟩ := List.mem_filterMap.mp named
      exact values value among root names
  exact { view with
    scope? := fun found => view.scope? (found.within starts .next)
    bound := fun id member => view.bound id (scopes member) }

/-- Both heaps are changed alike, and what is new names what was found before. -/
theorem changed {held' : Held} {heap' kept' : Heap} (view : held.SameView heap kept)
    (new : Place → Prop) (emptied : heap'.emptied = kept'.emptied) (ordered : heap'.Ordered)
    (bound : ∀ id ∈ held'.scopes, id.index < heap'.scopes.size)
    (starts : ∀ root ∈ held'.places, new root ∨ kept.Finds held.places root)
    (links : ∀ {place other}, new place ∨ kept.Finds held.places place →
      other ∈ kept'.references place → kept.Finds held.places other)
    (added : ∀ {id}, new (.scope id) → heap'.scope? id = kept'.scope? id)
    (changes : ∀ {id}, heap.scope? id = kept.scope? id → heap'.scope? id = kept'.scope? id) :
    held'.SameView heap' kept' where
  emptied := emptied
  scope? found := by
    have reached := found.within starts fun source link =>
      .inr (links source (Heap.mem_references.mpr link))
    exact reached.elim added fun found => changes (view.scope? found)
  ordered := ordered
  bound := bound

/-- What is held is found, and whatever else is held then is new. -/
theorem starts {held' : Held} {new : Place → Prop}
    (scopes : ∀ id ∈ held'.scopes, new (.scope id) ∨ id ∈ held.scopes)
    (values : ∀ value ∈ held'.values, ∀ place, value.place? = some place →
      new place ∨ kept.Finds held.places place) :
    ∀ root ∈ held'.places, new root ∨ kept.Finds held.places root := by
  intro root member
  rcases List.mem_append.mp member with opened | named
  · obtain ⟨id, among, rfl⟩ := List.mem_map.mp opened
    exact (scopes id among).imp_right finds_of_mem
  · obtain ⟨value, among, names⟩ := List.mem_filterMap.mp named
    exact values value among root names

/-- A scope that is found may name a value that is known, too. -/
theorem modifyScope (view : held.SameView heap kept) {id : ScopeId}
    (found : kept.Finds held.places (.scope id)) {change : Scope → Scope}
    (plain : ∀ scope, (change scope).clear = scope.clear)
    (names : ∀ scope place, place ∈ (change scope).references →
      place ∈ scope.references ∨ value.place? = some place)
    (known : held.Knows kept value) :
    held.SameView (heap.modifyScope id change) (kept.modifyScope id change) := by
  refine view.changed (fun _ => False) ?_ ?_ ?_ ?_ ?_ False.elim ?_
  · rw [Heap.emptied_modifyScope _ _ plain, Heap.emptied_modifyScope _ _ plain, view.emptied]
  · refine view.ordered.modifyScope id fun scope => ?_
    have same := congrArg (·.parent) (plain scope)
    exact same
  · simpa using view.bound
  · exact fun root member => .inr ⟨root, member, .refl⟩
  · rintro place other (impossible | within) member
    · exact impossible.elim
    · rw [Heap.references_modifyScope] at member
      split at member
      · next same =>
          cases stands : kept.scope? id with
          | none => simp [stands] at member
          | some scope =>
              rw [stands] at member
              rcases names scope other member with old | named
              · refine found.next (Heap.mem_references.mp ?_)
                simpa [Heap.references, stands] using old
              · exact known other named
      · exact within.next (Heap.mem_references.mp member)
  · intro other same
    rw [Heap.scope?_modifyScope, Heap.scope?_modifyScope, same]

theorem bind (view : held.SameView heap kept) {id : ScopeId}
    (found : kept.Finds held.places (.scope id)) (known : held.Knows kept value) (name : String)
    (constant : Bool) :
    held.SameView (heap.bind id ⟨name, value, constant⟩) (kept.bind id ⟨name, value, constant⟩) :=
  view.modifyScope found (fun _ => rfl) (fun scope _ => scope.references_bind _) known

theorem write (view : held.SameView heap kept) {id : ScopeId}
    (found : kept.Finds held.places (.scope id)) (known : held.Knows kept value) (name : String) :
    held.SameView (heap.write id name value) (kept.write id name value) :=
  view.modifyScope found (fun _ => rfl) (fun scope _ => scope.references_write name value) known

theorem setElement (view : held.SameView heap kept) (known : held.Knows kept value) (id : TeamId)
    (position : Nat) :
    held.SameView (heap.setElement id position value) (kept.setElement id position value) := by
  refine view.changed (fun _ => False) ?_ ?_ view.bound ?_ ?_ False.elim fun same => same
  · exact congrArg (·.setElement id position value) view.emptied
  · exact view.ordered.modifyTeam id _
  · exact fun root member => .inr ⟨root, member, .refl⟩
  · rintro place other (impossible | within) member
    · exact impossible.elim
    · unfold Heap.setElement at member
      rw [Heap.references_modifyTeam] at member
      split at member
      · next same =>
          cases stands : kept.team? id with
          | none => simp [stands] at member
          | some team =>
              rw [stands, Option.map_some, Option.getD_some] at member
              obtain ⟨element, among, names⟩ := List.mem_filterMap.mp member
              rcases Array.mem_or_eq_of_mem_setIfInBounds (Array.mem_toList_iff.mp among) with
                old | rfl
              · exact within.next (same ▸ .element stands old names)
              · exact known other names
      · exact within.next (Heap.mem_references.mp member)

/-- A scope is opened that names what is found. -/
theorem addScope (view : held.SameView heap kept) {scope : Scope}
    (names : ∀ place ∈ scope.references, kept.Finds held.places place)
    (earlier : ∀ parent, scope.parent = some parent → parent.index < heap.scopes.size) :
    (held.opened heap.nextScope).SameView (heap.addScope scope) (kept.addScope scope) := by
  have next : kept.nextScope = heap.nextScope := congrArg ScopeId.mk view.size.symm
  refine view.changed (· = .scope heap.nextScope) ?_ (view.ordered.addScope earlier) ?_ ?_ ?_ ?_ ?_
  · rw [Heap.emptied_addScope, Heap.emptied_addScope, view.emptied]
  · refine List.forall_mem_cons.mpr ⟨?_, fun id member => ?_⟩
    · rw [Heap.addScope_size]
      exact Nat.lt_succ_self _
    · have bound := view.bound id member
      rw [Heap.addScope_size]
      omega
  · refine starts (fun id member => ?_) fun value (member : value ∈ held.values) place named =>
      .inr (knows_of_mem member place named)
    exact (List.mem_cons.mp member).imp_left (congrArg Place.scope)
  · intro place other source member
    rw [Heap.references_addScope, next] at member
    split at member
    · exact names other member
    · next old =>
        exact (source.resolve_left old).next (Heap.mem_references.mp member)
  · rintro id ⟨⟩
    rw [Heap.scope?_addScope, Heap.scope?_addScope, if_pos rfl, if_pos next.symm]
  · intro id same
    rw [Heap.scope?_addScope, Heap.scope?_addScope, next, same]

/-- A team is made of values that are known. -/
theorem addTeam (view : held.SameView heap kept) {team : Team}
    (known : ∀ value ∈ team.elements, held.Knows kept value) :
    (held.and [.team heap.nextTeam]).SameView (heap.addTeam team) (kept.addTeam team) := by
  have next : kept.nextTeam = heap.nextTeam := congrArg (TeamId.mk ·.size) view.teams.symm
  refine view.changed (· = .team heap.nextTeam) ?_ (view.ordered.addTeam team) view.bound ?_ ?_
    nofun fun same => same
  · exact congrArg (·.addTeam team) view.emptied
  · refine starts (fun id member => .inr member) fun value member place named => ?_
    rcases List.mem_cons.mp member with rfl | old
    · exact .inl (Option.some.inj named).symm
    · exact .inr (knows_of_mem old place named)
  · intro place other source member
    rw [Heap.references_addTeam, next] at member
    split at member
    · obtain ⟨value, among, names⟩ := List.mem_filterMap.mp member
      exact known value (Array.mem_toList_iff.mp among) other names
    · next old =>
        exact (source.resolve_left old).next (Heap.mem_references.mp member)

/-- A function is defined in a scope that is open. -/
theorem addRoutine (view : held.SameView heap kept) {routine : Routine}
    (opened : routine.closure ∈ held.scopes) :
    (held.and [.routine heap.nextRoutine]).SameView (heap.addRoutine routine)
      (kept.addRoutine routine) := by
  have next : kept.nextRoutine = heap.nextRoutine :=
    congrArg (RoutineId.mk ·.size) view.routines.symm
  refine view.changed (· = .routine heap.nextRoutine) ?_
    (view.ordered.addRoutine (view.bound _ opened)) view.bound ?_ ?_ nofun fun same => same
  · exact congrArg (·.addRoutine routine) view.emptied
  · refine starts (fun id member => .inr member) fun value member place named => ?_
    rcases List.mem_cons.mp member with rfl | old
    · exact .inl (Option.some.inj named).symm
    · exact .inr (knows_of_mem old place named)
  · intro place other source member
    rw [Heap.references_addRoutine, next] at member
    split at member
    · rw [List.mem_singleton.mp member]
      exact finds_of_mem opened
    · next old =>
        exact (source.resolve_left old).next (Heap.mem_references.mp member)

/-- A scope that is not found loses its bindings. -/
theorem clear (view : held.SameView heap kept) {id : ScopeId}
    (unfound : ¬ heap.Finds held.places (.scope id)) : held.SameView (heap.clear id) kept where
  emptied := by
    have plain : ∀ scope : Scope, scope.clear.clear = scope.clear := fun _ => rfl
    rw [Heap.clear, Heap.emptied_modifyScope _ _ plain, view.emptied]
  scope? found := by
    rw [Heap.clear, Heap.scope?_modifyScope, if_neg, view.scope? found]
    rintro rfl
    exact unfound (view.finds_iff.mpr found)
  ordered := view.ordered.modifyScope id fun _ => rfl
  bound := by simpa [Heap.clear] using view.bound

end SameView

end Held

end Avenger
