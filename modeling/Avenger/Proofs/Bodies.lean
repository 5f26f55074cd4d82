import Avenger.Eval

/-!
# Other bodies for the functions of a heap

The body of a function is looked at by a call of it and by nothing else.  What else is read of
a heap, and what is changed in it, is the same whatever the bodies are.
-/

namespace Avenger

/-- The function with its body changed. -/
def Routine.mapBody (routine : Routine) (change : List Stmt → List Stmt) : Routine :=
  { routine with body := change routine.body }

/-- The heap with the bodies of all functions changed. -/
def Heap.mapBodies (heap : Heap) (change : List Stmt → List Stmt) : Heap :=
  { heap with routines := heap.routines.map (·.mapBody change) }

/-- The world with the bodies of all functions changed. -/
def World.mapBodies (world : World) (change : List Stmt → List Stmt) : World :=
  { world with heap := world.heap.mapBodies change }

namespace Heap

/-- A reading of a heap that does not look at the bodies of functions. -/
def Bodiless {α : Type} (read : Heap → α) : Prop :=
  ∀ (heap : Heap) (change : List Stmt → List Stmt), read (heap.mapBodies change) = read heap

section Equations

variable (heap : Heap) (change : List Stmt → List Stmt)

theorem routine?_mapBodies (id : RoutineId) :
    (heap.mapBodies change).routine? id = (heap.routine? id).map (·.mapBody change) := by
  simp [routine?, mapBodies]

@[simp] theorem mapBodies_scopes : (heap.mapBodies change).scopes = heap.scopes := rfl

@[simp] theorem mapBodies_teams : (heap.mapBodies change).teams = heap.teams := rfl

@[simp] theorem mapBodies_routines_size :
    (heap.mapBodies change).routines.size = heap.routines.size := by
  simp [mapBodies]

theorem mapBodies_addRoutine (routine : Routine) :
    (heap.addRoutine routine).mapBodies change =
      (heap.mapBodies change).addRoutine (routine.mapBody change) := by
  simp [addRoutine, mapBodies]

/-- Bodies that are changed into themselves. -/
theorem mapBodies_eq_self
    (kept : ∀ {id routine}, heap.routine? id = some routine → change routine.body = routine.body) :
    heap.mapBodies change = heap := by
  obtain ⟨scopes, teams, routines⟩ := heap
  suffices same : routines.map (·.mapBody change) = routines by
    rw [mapBodies, same]
  apply Array.ext_getElem?
  intro index
  rw [Array.getElem?_map]
  cases found : routines[index]? with
  | none => rfl
  | some routine =>
      have same : change routine.body = routine.body := @kept ⟨index⟩ routine found
      rw [Option.map_some, Routine.mapBody, same]

end Equations

/-- A name is resolved in the scopes alone. -/
theorem resolve?_of_scopes {heap heap' : Heap} (same : heap.scopes = heap'.scopes) (name : String)
    (id : ScopeId) : heap.resolve? name id = heap'.resolve? name id := by
  have scopes (id : ScopeId) : heap.scope? id = heap'.scope? id := by rw [scope?, same, scope?]
  fun_induction heap.resolve? name id with
  | case1 id missing => rw [resolve?.eq_def heap', ← scopes, missing]
  | case2 id scope found binding bound => rw [resolve?.eq_def heap', ← scopes, found]; simp [bound]
  | case3 id scope found unbound top => rw [resolve?.eq_def heap', ← scopes, found]; simp [unbound, top]
  | case4 id scope found unbound parent inside earlier induction =>
      rw [resolve?.eq_def heap', ← scopes, found]
      simp [unbound, inside, earlier, induction]
  | case5 id scope found unbound parent inside later =>
      rw [resolve?.eq_def heap', ← scopes, found]
      simp [unbound, inside, later]

namespace Bodiless

theorem lookup (id : ScopeId) (name : String) : Bodiless (·.lookup id name) := by
  intro heap change
  simp only [Heap.lookup, resolve?_of_scopes (mapBodies_scopes heap change)]

theorem assignable (id : ScopeId) (name : String) : Bodiless (·.assignable id name) := by
  intro heap change
  simp only [Heap.assignable, resolve?_of_scopes (mapBodies_scopes heap change)]

theorem limits (id : ScopeId) : Bodiless (·.limits id) := fun _ _ => rfl

theorem binds (id : ScopeId) (name : String) : Bodiless (·.binds id name) := fun _ _ => rfl

theorem callBudget : Bodiless callBudget := fun _ _ => rfl

theorem elementCount (id : TeamId) : Bodiless fun heap => (heap.elements id).size :=
  fun _ _ => rfl

theorem member (object index : Value) : Bodiless (·.member object index) := by
  intro heap change
  cases object <;> rfl

theorem splicedText (text : String) (index value : Value) :
    Bodiless (·.splicedText text index value) := by
  intro heap change
  cases value <;> rfl

/-- A function is shown by its name. -/
theorem plainValueText (value : Value) : Bodiless (·.plainValueText value) := by
  intro heap change
  cases value with
  | routine id =>
      simp only [Heap.plainValueText, routine?_mapBodies, Option.map_map]
      rfl
  | _ => rfl

theorem teamTextWithin (depth : Nat) (outer : List TeamId) (id : TeamId) :
    Bodiless (·.teamTextWithin depth outer id) := by
  intro heap change
  induction depth generalizing outer id with
  | zero => rfl
  | succ depth induction =>
      have shown (value : Value) :
          (heap.mapBodies change).plainValueText value = heap.plainValueText value :=
        plainValueText value heap change
      simp only [Heap.teamTextWithin, induction, shown]
      rfl

theorem valueText (value : Value) : Bodiless (·.valueText value) := by
  intro heap change
  cases value with
  | team id => exact teamTextWithin _ [] id heap change
  | routine id => exact plainValueText (.routine id) heap change
  | null | number _ | boolean _ | text _ | native _ _ | stopped => rfl

theorem pureResult (function : Native) (arguments : List Value) :
    Bodiless (function.pureResult · arguments) := by
  intro heap change
  cases function <;> rfl

end Bodiless

/-- A call opens the same scope whatever the body is. -/
theorem callScope_mapBodies (heap : Heap) (change : List Stmt → List Stmt) (routine : Routine)
    (arguments : List Value) (caller : ScopeId) :
    (heap.mapBodies change).callScope (routine.mapBody change) arguments caller =
      heap.callScope routine arguments caller :=
  rfl

end Heap

end Avenger
