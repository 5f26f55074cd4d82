import Avenger.Proofs.Heap

/-!
# Heaps without their limits

Two heaps that differ in the limits of their scopes only are the same once the limits are
erased.  Everything that a program can read of a heap but the limits themselves is the same
in the erased heap, and every change of a heap can be made after erasing as well as before.
-/

namespace Avenger

/-- The scope with the standard limits. -/
def Scope.unlimited (scope : Scope) : Scope := { scope with limits := .standard }

/-- The heap with the standard limits everywhere. -/
def Heap.unlimited (heap : Heap) : Heap :=
  { heap with scopes := heap.scopes.map Scope.unlimited }

/-- The world with the standard limits everywhere. -/
def World.unlimited (world : World) : World := world.mapHeap Heap.unlimited

namespace Heap

variable (heap : Heap)

@[simp] theorem unlimited_size : heap.unlimited.scopes.size = heap.scopes.size := by
  simp [unlimited]

@[simp] theorem unlimited_teams : heap.unlimited.teams = heap.teams := rfl

@[simp] theorem unlimited_routines : heap.unlimited.routines = heap.routines := rfl

theorem scope?_unlimited (id : ScopeId) :
    heap.unlimited.scope? id = (heap.scope? id).map Scope.unlimited := by
  simp [unlimited, scope?]

theorem depth_unlimited (id : ScopeId) : heap.unlimited.depth id = heap.depth id := by
  unfold depth
  rw [scope?_unlimited]
  cases heap.scope? id <;> rfl

theorem binds_unlimited (id : ScopeId) (name : String) :
    heap.unlimited.binds id name = heap.binds id name := by
  unfold binds
  rw [scope?_unlimited]
  cases heap.scope? id <;> rfl

theorem resolve?_unlimited (name : String) (id : ScopeId) :
    heap.unlimited.resolve? name id = heap.resolve? name id := by
  fun_induction heap.resolve? name id with
  | case1 id missing => rw [resolve?, scope?_unlimited, missing]; rfl
  | case2 id scope found binding bound =>
      rw [resolve?, scope?_unlimited, found]
      have bound : scope.unlimited.find? name = some binding := bound
      simp [bound]
  | case3 id scope found unbound top =>
      rw [resolve?, scope?_unlimited, found]
      have unbound : scope.unlimited.find? name = none := unbound
      have top : scope.unlimited.parent = none := top
      simp [unbound, top]
  | case4 id scope found unbound parent inside earlier induction =>
      rw [resolve?, scope?_unlimited, found]
      have unbound : scope.unlimited.find? name = none := unbound
      have inside : scope.unlimited.parent = some parent := inside
      simp [unbound, inside, earlier, induction]
  | case5 id scope found unbound parent inside later =>
      rw [resolve?, scope?_unlimited, found]
      have unbound : scope.unlimited.find? name = none := unbound
      have inside : scope.unlimited.parent = some parent := inside
      simp [unbound, inside, later]

theorem lookup_unlimited (id : ScopeId) (name : String) :
    heap.unlimited.lookup id name = heap.lookup id name := by
  unfold lookup
  rw [resolve?_unlimited]

theorem assignable_unlimited (id : ScopeId) (name : String) :
    heap.unlimited.assignable id name = heap.assignable id name := by
  unfold assignable
  rw [resolve?_unlimited]

theorem unlimited_modifyScope (id : ScopeId) {change : Scope → Scope}
    (commutes : ∀ scope, (change scope).unlimited = change scope.unlimited) :
    (heap.modifyScope id change).unlimited = heap.unlimited.modifyScope id change := by
  unfold unlimited modifyScope
  congr 1
  apply Array.ext_getElem?
  intro index
  simp only [Array.getElem?_map, Array.getElem?_modify]
  split
  · cases heap.scopes[index]? <;> simp [commutes]
  · rfl

theorem unlimited_addScope (scope : Scope) :
    (heap.addScope scope).unlimited = heap.unlimited.addScope scope.unlimited := by
  simp [unlimited, addScope]

end Heap

/-- Binding parameters does not read the limits of the scope. -/
theorem Scope.bindAll_unlimited (scope : Scope) (names : List String)
    (values : List Value) :
    scope.unlimited.bindAll names values =
      (scope.bindAll names values).map Scope.unlimited := by
  induction names generalizing scope values with
  | nil => rfl
  | cons name names induction =>
      cases values with
      | nil => rfl
      | cons value values =>
          unfold Scope.bindAll
          have same : scope.unlimited.find? name = scope.find? name := rfl
          rw [same]
          split
          · rfl
          · exact induction (scope.bind ⟨name, value, false⟩) values

end Avenger
