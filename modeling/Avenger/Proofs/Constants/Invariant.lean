import Avenger.Proofs.Trail
import Avenger.Proofs.Locality.Lockstep

/-!
# Constants at every moment of a run

A scope is anchored at a moment if it is open, if a function was defined in it, or if it is
around an anchored scope.  No step makes an old scope anchored that was not, the scopes that
are cleared are never anchored, and names are declared in open scopes only.  Hence the
constants of the anchored scopes are at every moment those that were declared there, with
the values that they were declared with.
-/

namespace Avenger

namespace Heap

variable {heap : Heap}

/-- The binding of a name in the scope at a place. -/
def binding? (heap : Heap) (id : ScopeId) (name : String) : Option Binding :=
  (heap.scope? id).bind (·.find? name)

/-- The parent of the scope at a place. -/
def parent? (heap : Heap) (id : ScopeId) : Option ScopeId := (heap.scope? id).bind (·.parent)

theorem binds_eq (heap : Heap) (id : ScopeId) (name : String) :
    heap.binds id name = (heap.binding? id name).isSome := rfl

theorem binding?_modifyScope (heap : Heap) {id other : ScopeId} (change : Scope → Scope)
    (apart : id ≠ other) (name : String) :
    (heap.modifyScope id change).binding? other name = heap.binding? other name := by
  rw [binding?, scope?_modifyScope, if_neg apart, binding?]

theorem binding?_bind {id : ScopeId} (present : id.index < heap.scopes.size)
    (binding : Binding) (other : ScopeId) (name : String) :
    (heap.bind id binding).binding? other name =
      if id = other ∧ binding.name = name then some binding else heap.binding? other name := by
  by_cases same : id = other
  · subst other
    obtain ⟨scope, found⟩ := Option.isSome_iff_exists.mp (scope?_isSome.mpr present)
    simp [binding?, bind, scope?_modifyScope, found, Scope.find?_bind]
  · rw [if_neg fun both => same both.1]
    exact binding?_modifyScope heap _ same name

theorem binding?_write (owner : ScopeId) (name : String) (value : Value) (other : ScopeId)
    (read : String) :
    (heap.write owner name value).binding? other read =
      if owner = other ∧ name = read then (heap.binding? other read).map ({ · with value })
      else heap.binding? other read := by
  by_cases same : owner = other
  · subst other
    rw [binding?, binding?, write, scope?_modifyScope, if_pos rfl]
    cases heap.scope? owner with
    | none => simp
    | some scope => simp [Scope.find?_write]
  · rw [if_neg fun both => same both.1]
    exact binding?_modifyScope heap _ same read

theorem binding?_addScope (scope : Scope) (id : ScopeId) (name : String) :
    (heap.addScope scope).binding? id name =
      if id = heap.nextScope then scope.find? name else heap.binding? id name := by
  rw [binding?, scope?_addScope]
  split <;> rfl

theorem parent?_modifyScope {change : Scope → Scope}
    (keeps : ∀ scope, (change scope).parent = scope.parent) (id other : ScopeId) :
    (heap.modifyScope id change).parent? other = heap.parent? other := by
  rw [parent?, scope?_modifyScope, parent?]
  split
  · cases heap.scope? other with
    | none => rfl
    | some scope => exact keeps scope
  · rfl

theorem parent?_addScope (scope : Scope) (id : ScopeId) :
    (heap.addScope scope).parent? id =
      if id = heap.nextScope then scope.parent else heap.parent? id := by
  rw [parent?, scope?_addScope]
  split <;> rfl

theorem Ordered.parent?_lt (ordered : heap.Ordered) {id parent : ScopeId}
    (inside : heap.parent? id = some parent) : parent.index < id.index := by
  obtain ⟨scope, found, inside⟩ := Option.bind_eq_some_iff.mp inside
  exact ordered.parents found inside

/-- The owner of a name binds it as the name is read. -/
theorem binding?_of_resolve? {name : String} {id owner : ScopeId} {binding : Binding}
    (resolved : heap.resolve? name id = some (owner, binding)) :
    heap.binding? owner name = some binding := by
  fun_induction heap.resolve? name id with
  | case1 => cases resolved
  | case2 id scope present binding' found =>
      cases resolved
      rw [binding?, present]
      exact found
  | case3 => cases resolved
  | case4 _ _ _ _ _ _ _ induction => exact induction resolved
  | case5 => cases resolved

theorem lookup_of_binding? {id : ScopeId} {name : String} {binding : Binding}
    (bound : heap.binding? id name = some binding) :
    heap.lookup id name = .ok binding.value := by
  obtain ⟨scope, present, found⟩ := Option.bind_eq_some_iff.mp bound
  simp only [lookup, resolve?, present, found]

/-- The scopes that are open, that functions were defined in, and those around them. -/
inductive Anchored (heap : Heap) (opened : List ScopeId) : ScopeId → Prop where
  | opened {id : ScopeId} (member : id ∈ opened) : Anchored heap opened id
  | closure {id : RoutineId} {routine : Routine} (found : heap.routine? id = some routine) :
      Anchored heap opened routine.closure
  | parent {id parent : ScopeId} (inner : Anchored heap opened id)
      (inside : heap.parent? id = some parent) : Anchored heap opened parent

namespace Anchored

variable {later : Heap} {opened : List ScopeId} {id : ScopeId}

/-- What is anchored in a later heap was anchored already if nothing new is above it. -/
theorem of_later {opened' : List ScopeId} (anchored : later.Anchored opened' id)
    (opens : ∀ id ∈ opened', heap.Anchored opened id)
    (closures : ∀ {id routine}, later.routine? id = some routine →
      heap.Anchored opened routine.closure)
    (parents : ∀ id, later.parent? id = heap.parent? id) : heap.Anchored opened id := by
  induction anchored with
  | opened member => exact opens _ member
  | closure found => exact closures found
  | parent _ inside induction =>
      rw [parents] at inside
      exact induction.parent inside

theorem of_modifyScope {changed : ScopeId} {change : Scope → Scope}
    (anchored : (heap.modifyScope changed change).Anchored opened id)
    (keeps : ∀ scope, (change scope).parent = scope.parent) : heap.Anchored opened id :=
  anchored.of_later (fun _ member => .opened member) (fun found => .closure found)
    (parent?_modifyScope keeps changed)

/-- Anchored scopes stand before a place if the open scopes and those of functions do. -/
theorem lt {bound : Nat} (anchored : heap.Anchored opened id) (ordered : heap.Ordered)
    (opens : ∀ id ∈ opened, id.index < bound)
    (closures : ∀ {id routine}, heap.routine? id = some routine →
      routine.closure.index < bound) : id.index < bound := by
  induction anchored with
  | opened member => exact opens _ member
  | closure found => exact closures found
  | parent _ inside induction => exact Nat.lt_trans (ordered.parent?_lt inside) induction

end Anchored

end Heap

namespace Moment

/-- A scope that is anchored at a moment. -/
abbrev Anchored (now : Moment) (id : ScopeId) : Prop :=
  now.world.heap.Anchored now.opened id

theorem anchored_scope (now : Moment) : now.Anchored now.scope := .opened (.head _)

/-- What holds at every moment of a run. -/
structure Invariant (now : Moment) : Prop where
  ordered : now.world.heap.Ordered
  opened : ∀ id ∈ now.opened, id.index < now.world.heap.scopes.size
  declared : ∀ entry ∈ now.declared, entry.1.index < now.world.heap.scopes.size
  /-- Every constant of an anchored scope was declared as it is. -/
  origin : ∀ {id name binding}, now.Anchored id →
    now.world.heap.binding? id name = some binding → binding.constant = true →
    (id, binding) ∈ now.declared
  /-- Every constant that was declared in an anchored scope is still as it was declared. -/
  lasting : ∀ {id binding}, (id, binding) ∈ now.declared → binding.constant = true →
    now.Anchored id → now.world.heap.binding? id binding.name = some binding

namespace Invariant

variable {now later : Moment}

theorem anchored_lt (invariant : now.Invariant) {id : ScopeId} (anchored : now.Anchored id) :
    id.index < now.world.heap.scopes.size :=
  anchored.lt invariant.ordered invariant.opened invariant.ordered.closures

/-- Nothing changes about constants if the anchored scopes were anchored already and have
the bindings that they had. -/
theorem of_same (invariant : now.Invariant) (ordered : later.world.heap.Ordered)
    (size : later.world.heap.scopes.size = now.world.heap.scopes.size)
    (opened : ∀ id ∈ later.opened, id ∈ now.opened) (declared : later.declared = now.declared)
    (anchored : ∀ {id}, later.Anchored id → now.Anchored id)
    (bindings : ∀ {id} name, later.Anchored id →
      later.world.heap.binding? id name = now.world.heap.binding? id name) :
    later.Invariant := by
  constructor
  case ordered => exact ordered
  case opened =>
      intro id member
      rw [size]
      exact invariant.opened id (opened id member)
  case declared =>
      rw [size, declared]
      exact invariant.declared
  case origin =>
      intro id name binding reached bound constant
      rw [bindings name reached] at bound
      rw [declared]
      exact invariant.origin (anchored reached) bound constant
  case lasting =>
      intro id binding member constant reached
      rw [declared] at member
      rw [bindings _ reached]
      exact invariant.lasting member constant (anchored reached)

theorem elsewhere (invariant : now.Invariant) (world : World)
    (scopes : world.heap.scopes = now.world.heap.scopes)
    (routines : world.heap.routines = now.world.heap.routines) :
    ({ now with world } : Moment).Invariant := by
  have places : ∀ id, world.heap.scope? id = now.world.heap.scope? id := by
    intro id
    rw [Heap.scope?, Heap.scope?, scopes]
  have functions : ∀ id, world.heap.routine? id = now.world.heap.routine? id := by
    intro id
    rw [Heap.routine?, Heap.routine?, routines]
  refine invariant.of_same ?_ ?_ (fun _ member => member) rfl ?_ ?_
  · constructor
    case parents =>
        intro id parent scope found inside
        exact invariant.ordered.parents ((places id).symm.trans found) inside
    case closures =>
        intro id routine found
        rw [scopes]
        exact invariant.ordered.closures ((functions id).symm.trans found)
  · rw [scopes]
  · intro id anchored
    refine anchored.of_later (fun id member => .opened member) ?_ ?_
    · intro id routine found
      exact .closure ((functions id).symm.trans found)
    · intro id
      rw [Heap.parent?, Heap.parent?, places]
  · intro id name _
    rw [Heap.binding?, Heap.binding?, places]

/-- A declaration adds its binding to the scope that the run is in, where the name was not
bound and so was never declared. -/
theorem declare (invariant : now.Invariant) (binding : Binding)
    (free : now.world.heap.binds now.scope binding.name = false) :
    ({ now with
      world := now.world.mapHeap (·.bind now.scope binding)
      declared := (now.scope, binding) :: now.declared } : Moment).Invariant := by
  have present := invariant.anchored_lt now.anchored_scope
  have unbound : now.world.heap.binding? now.scope binding.name = none := by
    rw [Heap.binds_eq] at free
    exact Option.isNone_iff_eq_none.mp (by simpa using free)
  have anchored : ∀ {id}, (now.world.heap.bind now.scope binding).Anchored now.opened id →
      now.Anchored id :=
    fun anchored => Heap.Anchored.of_modifyScope anchored fun _ => rfl
  constructor
  case ordered => exact invariant.ordered.modifyScope now.scope fun _ => rfl
  case opened =>
      intro id member
      simpa [Heap.bind] using invariant.opened id member
  case declared =>
      intro entry member
      simp only [World.mapHeap_heap, Heap.bind, Heap.modifyScope_size]
      rcases List.mem_cons.mp member with rfl | earlier
      · exact present
      · exact invariant.declared entry earlier
  case origin =>
      intro id name other reached bound constant
      simp only [World.mapHeap_heap] at bound
      rw [Heap.binding?_bind present] at bound
      split at bound
      · next both =>
          cases bound
          rw [both.1]
          exact .head _
      · exact .tail _ (invariant.origin (anchored reached) bound constant)
  case lasting =>
      intro id other member constant reached
      simp only [World.mapHeap_heap]
      rw [Heap.binding?_bind present]
      rcases List.mem_cons.mp member with same | earlier
      · cases same
        rw [if_pos ⟨rfl, rfl⟩]
      · have bound := invariant.lasting earlier constant (anchored reached)
        rw [if_neg ?_]
        · exact bound
        · rintro ⟨rfl, same⟩
          rw [← same, unbound] at bound
          cases bound

/-- A write changes no constant. -/
theorem write (invariant : now.Invariant) {owner : ScopeId} {name : String} {old : Binding}
    (bound : now.world.heap.binding? owner name = some old) (plain : old.constant = false)
    (value : Value) :
    ({ now with world := now.world.mapHeap (·.write owner name value) } : Moment).Invariant := by
  have anchored : ∀ {id}, (now.world.heap.write owner name value).Anchored now.opened id →
      now.Anchored id :=
    fun anchored => Heap.Anchored.of_modifyScope anchored fun _ => rfl
  constructor
  case ordered => exact invariant.ordered.modifyScope owner fun _ => rfl
  case opened =>
      intro id member
      simpa [Heap.write] using invariant.opened id member
  case declared =>
      intro entry member
      simpa [Heap.write] using invariant.declared entry member
  case origin =>
      intro id read binding reached found constant
      simp only [World.mapHeap_heap] at found
      rw [Heap.binding?_write] at found
      split at found
      · next both =>
          obtain ⟨rfl, rfl⟩ := both
          rw [bound] at found
          cases found
          rw [plain] at constant
          cases constant
      · exact invariant.origin (anchored reached) found constant
  case lasting =>
      intro id binding member constant reached
      have found := invariant.lasting member constant (anchored reached)
      simp only [World.mapHeap_heap]
      rw [Heap.binding?_write, if_neg ?_]
      · exact found
      · rintro ⟨rfl, rfl⟩
        rw [bound] at found
        cases found
        rw [plain] at constant
        cases constant

/-- A new function is defined in the scope that the run is in. -/
theorem routine (invariant : now.Invariant) (routine : Routine)
    (inside : routine.closure = now.scope) :
    ({ now with world := now.world.mapHeap (·.addRoutine routine) } : Moment).Invariant := by
  refine invariant.of_same ?_ rfl (fun _ member => member) rfl ?_ fun _ _ => rfl
  · refine invariant.ordered.addRoutine ?_
    rw [inside]
    exact invariant.anchored_lt now.anchored_scope
  · intro id anchored
    refine anchored.of_later (fun id member => .opened member) ?_ fun _ => rfl
    intro id other found
    simp only [World.mapHeap_heap] at found
    rw [Heap.routine?_addRoutine] at found
    split at found
    · cases found
      rw [inside]
      exact now.anchored_scope
    · exact .closure found

/-- A new scope has no constants yet. -/
theorem enter (invariant : now.Invariant) (scope : Scope)
    (inside : ∀ parent, scope.parent = some parent → now.Anchored parent)
    (plain : ∀ binding ∈ scope.bindings, binding.constant = false) :
    (now.enter scope).Invariant := by
  have anchored : ∀ {id}, (now.enter scope).Anchored id →
      id = now.world.heap.nextScope ∨ now.Anchored id := by
    intro id anchored
    induction anchored with
    | opened member =>
        rcases List.mem_cons.mp member with rfl | outer
        · exact .inl rfl
        · exact .inr (.opened outer)
    | closure found => exact .inr (.closure found)
    | parent _ above induction =>
        simp only [Moment.enter, World.mapHeap_heap] at above
        rw [Heap.parent?_addScope] at above
        split at above
        · exact .inr (inside _ above)
        · next old => exact .inr ((induction.resolve_left old).parent above)
  constructor
  case ordered =>
      refine invariant.ordered.addScope ?_
      intro parent above
      exact invariant.anchored_lt (inside parent above)
  case opened =>
      intro id member
      simp only [Moment.enter, World.mapHeap_heap, Heap.addScope_size]
      rcases List.mem_cons.mp member with rfl | outer
      · exact Nat.lt_succ_self _
      · exact Nat.lt_succ_of_lt (invariant.opened id outer)
  case declared =>
      intro entry member
      simp only [Moment.enter, World.mapHeap_heap, Heap.addScope_size]
      exact Nat.lt_succ_of_lt (invariant.declared entry member)
  case origin =>
      intro id name binding reached bound constant
      simp only [Moment.enter, World.mapHeap_heap] at bound
      rw [Heap.binding?_addScope] at bound
      split at bound
      · have member := List.mem_of_find?_eq_some bound
        rw [plain binding member] at constant
        cases constant
      · next old =>
          exact invariant.origin ((anchored reached).resolve_left old) bound constant
  case lasting =>
      intro id binding member constant reached
      have old := Heap.ne_nextScope (invariant.declared _ member)
      simp only [Moment.enter, World.mapHeap_heap]
      rw [Heap.binding?_addScope, if_neg old]
      exact invariant.lasting member constant ((anchored reached).resolve_left old)

/-- A scope is cleared only if no function was made while it was open, and then it is not
anchored any more: the scopes that are, are those that were before it was opened. -/
theorem leave {inner : Moment} (outside : now.Invariant) (invariant : inner.Invariant)
    (outer : inner.outer = now.opened)
    (kept : ∀ {id routine}, now.world.heap.routine? id = some routine →
      inner.world.heap.routine? id = some routine) : (now.leave inner).Invariant := by
  have opened : ∀ id ∈ now.opened, id ∈ inner.opened := by
    intro id member
    rw [Moment.opened, outer]
    exact .tail _ member
  unfold Moment.leave World.endScope
  split
  · next ended =>
      have closures : ∀ {id routine}, inner.world.heap.routine? id = some routine →
          routine.closure.index < now.world.heap.scopes.size := by
        intro id routine found
        have bound := Heap.lt_of_routine? found
        rw [ended.2] at bound
        have before := Array.getElem?_eq_getElem bound
        have same := Option.some.inj ((kept before).symm.trans found)
        rw [← same]
        exact outside.ordered.closures before
      have ordered : (inner.world.heap.clear now.world.heap.nextScope).Ordered :=
        invariant.ordered.modifyScope _ fun _ => rfl
      refine invariant.of_same ordered (by simp [Heap.clear]) opened rfl ?_ ?_
      · intro id anchored
        have before := Heap.Anchored.of_modifyScope anchored fun _ => rfl
        exact before.of_later (fun id member => .opened (opened id member))
          (fun found => .closure found) fun _ => rfl
      · intro id name anchored
        have bound := anchored.lt ordered outside.opened closures
        exact Heap.binding?_modifyScope _ _ (Heap.ne_nextScope bound).symm name
  · refine invariant.of_same invariant.ordered rfl opened rfl ?_ fun _ _ => rfl
    intro id anchored
    exact anchored.of_later (fun id member => .opened (opened id member))
      (fun found => .closure found) fun _ => rfl

end Invariant

end Moment

/-- The parameters of a function are no constants in the scope of a call. -/
theorem Scope.bindAll_plain {scope made : Scope} {names : List String} {values : List Value}
    (bound : scope.bindAll names values = .ok made)
    (plain : ∀ binding ∈ scope.bindings, binding.constant = false) :
    ∀ binding ∈ made.bindings, binding.constant = false := by
  fun_induction Scope.bindAll scope names values with
  | case1 => cases bound
  | case2 scope name names value values free induction =>
      apply induction bound
      intro binding member
      rcases List.mem_cons.mp member with rfl | earlier
      · rfl
      · exact plain binding earlier
  | case3 =>
      cases bound
      exact plain

namespace Eval

variable {α : Type} {run : Eval α} {now later : Moment}

theorem Primitive.invariant {declares : Option Binding}
    (primitive : Primitive now.scope run declares) (invariant : now.Invariant) :
    (now.after run declares).Invariant := by
  cases primitive with
  | pure | stop | readHeap | print | readClock | readChance | newTeam =>
      exact invariant.elsewhere _ rfl rfl
  | declare name value constant =>
      rw [Moment.after, declare_apply]
      cases free : now.world.heap.binds now.scope name with
      | true => exact invariant
      | false => exact invariant.declare ⟨name, value, constant⟩ free
  | assign name value =>
      rw [Moment.after, assign_apply, Heap.assignable]
      cases resolved : now.world.heap.resolve? name now.scope with
      | none => exact invariant
      | some found =>
          obtain ⟨owner, binding⟩ := found
          cases constant : binding.constant with
          | true => simpa [constant] using invariant
          | false =>
              simpa [constant] using
                invariant.write (Heap.binding?_of_resolve? resolved) constant value
  | writeElement id index value =>
      rw [Moment.after, writeElement_apply]
      cases index.position .team (now.world.heap.elements id).size with
      | error fault => exact invariant
      | ok position => exact invariant.elsewhere _ rfl rfl
  | newRoutine routine inside => exact invariant.routine routine inside

/-- The invariant holds at every moment that a run passes and when it ends. -/
theorem Trail.invariant {passed : List Moment} (trail : Trail run now passed later)
    (start : now.Invariant) : (∀ moment ∈ passed, moment.Invariant) ∧ later.Invariant := by
  have around : ∀ {now inner : Moment} {entered : Moment} {passed : List Moment},
      entered.Invariant → (∀ moment ∈ passed, moment.Invariant) → (now.leave inner).Invariant →
      ∀ moment ∈ entered :: passed ++ [now.leave inner], moment.Invariant := by
    intro now inner entered passed first middle last moment member
    simp only [List.cons_append, List.mem_cons, List.mem_append, List.not_mem_nil,
      or_false] at member
    rcases member with rfl | inside | rfl
    · exact first
    · exact middle moment inside
    · exact last
  induction trail with
  | primitive primitive =>
      have after := primitive.invariant start
      exact ⟨List.forall_mem_singleton.mpr after, after⟩
  | bind _ _ _ first second =>
      obtain ⟨before, middle⟩ := first start
      obtain ⟨behind, last⟩ := second middle
      exact ⟨List.forall_mem_append.mpr ⟨before, behind⟩, last⟩
  | failed _ _ first => exact first start
  | atLine _ _ inside => exact inside start
  | @block _ run now inner passed bindings plain trail inside =>
      have entered : (now.enter (now.world.heap.blockOf now.scope bindings)).Invariant := by
        refine start.enter _ ?_ plain
        rintro parent ⟨⟩
        exact .opened (.head _)
      obtain ⟨middle, last⟩ := inside entered
      have left := start.leave last trail.opened_eq.2 trail.leads.keeps_routine
      exact ⟨around entered middle left, left⟩
  | @call run now inner passed id arguments routine scope found made trail inside =>
      obtain ⟨-, bound⟩ := Heap.callScope_ok made
      have entered : (now.enter scope).Invariant := by
        refine start.enter _ ?_ (Scope.bindAll_plain bound (List.forall_mem_nil _))
        intro parent above
        rw [(Scope.bindAll_ok bound).1] at above
        cases above
        exact .closure found
      obtain ⟨middle, last⟩ := inside entered
      have left := start.leave last trail.opened_eq.2 trail.leads.keeps_routine
      exact ⟨around entered middle left, left⟩
  | refused => exact ⟨List.forall_mem_nil _, start⟩

end Eval

end Avenger
