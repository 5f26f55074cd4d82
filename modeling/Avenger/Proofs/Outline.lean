import Avenger.Proofs.Heap

/-!
# Which names the scopes of a heap have

The outline of a scope is its names with their constant marks, and its parent.  A run
changes the outline of no scope that stood in the heap before it, except where it declares a
name: expressions declare none, and a statement declares at most the one name of which it is
the declaration, in the scope that it runs in.
-/

namespace Avenger

/-- The names of a scope with their constant marks, the latest first, and its parent. -/
structure Scope.Outline where
  names : List (String × Bool)
  parent : Option ScopeId
  deriving DecidableEq

namespace Scope

def outline (scope : Scope) : Outline :=
  { names := scope.bindings.map fun binding => (binding.name, binding.constant)
    parent := scope.parent }

/-- The outline with another name, if there is one to add. -/
def Outline.add (outline : Outline) (name : Option (String × Bool)) : Outline :=
  { outline with names := name.toList ++ outline.names }

@[simp] theorem Outline.add_none (outline : Outline) : outline.add none = outline := rfl

@[simp] theorem outline_bind (scope : Scope) (binding : Binding) :
    (scope.bind binding).outline = scope.outline.add (some (binding.name, binding.constant)) :=
  rfl

@[simp] theorem outline_write (scope : Scope) (name : String) (value : Value) :
    (scope.write name value).outline = scope.outline := by
  simp only [outline, write, List.map_map]
  congr 1
  apply List.map_congr_left
  intro binding _
  dsimp only [Function.comp]
  split <;> rfl

theorem find?_isSome_iff (scope : Scope) (name : String) :
    (scope.find? name).isSome ↔ name ∈ scope.outline.names.map Prod.fst := by
  simp [find?, outline, Function.comp_def]

theorem find?_outline (scope : Scope) (name : String) :
    (scope.find? name).map (fun binding => (binding.name, binding.constant)) =
      scope.outline.names.find? (·.1 == name) := by
  rw [outline, List.find?_map]
  rfl

end Scope

namespace Heap

variable {heap : Heap}

/-- The outline of the scope at a place. -/
def outline? (heap : Heap) (id : ScopeId) : Option Scope.Outline :=
  (heap.scope? id).map Scope.outline

theorem outline?_congr {later : Heap} (same : later.scopes = heap.scopes) (id : ScopeId) :
    later.outline? id = heap.outline? id := by
  rw [outline?, outline?, scope?, scope?, same]

theorem outline?_modifyScope (heap : Heap) {id other : ScopeId} (change : Scope → Scope)
    (apart : other ≠ id) : (heap.modifyScope id change).outline? other = heap.outline? other := by
  rw [outline?, scope?_modifyScope, if_neg apart.symm, outline?]

theorem outline?_bind (heap : Heap) (id : ScopeId) (binding : Binding) :
    (heap.bind id binding).outline? id =
      (heap.outline? id).map (·.add (some (binding.name, binding.constant))) := by
  simp [outline?, bind, scope?_modifyScope, Function.comp_def]

@[simp] theorem outline?_write (heap : Heap) (owner : ScopeId) (name : String) (value : Value)
    (id : ScopeId) : (heap.write owner name value).outline? id = heap.outline? id := by
  rw [outline?, write, scope?_modifyScope, outline?]
  split
  · simp [Function.comp_def]
  · rfl

theorem outline?_addScope (heap : Heap) (scope : Scope) {id : ScopeId}
    (present : id.index < heap.scopes.size) :
    (heap.addScope scope).outline? id = heap.outline? id := by
  rw [outline?, scope?_addScope, if_neg (ne_nextScope present), outline?]

/-- Whether a scope binds a name can be seen from its outline. -/
theorem binds_iff (heap : Heap) (id : ScopeId) (name : String) :
    heap.binds id name = true ↔
      ∃ outline, heap.outline? id = some outline ∧ name ∈ outline.names.map Prod.fst := by
  unfold binds outline?
  cases heap.scope? id with
  | none => simp
  | some scope => simpa using scope.find?_isSome_iff name

/-- The owner of a name and whether the name is a constant there can be seen from the
outlines. -/
theorem resolve?_of_outlines {later : Heap}
    (same : ∀ {id outline}, heap.outline? id = some outline → later.outline? id = some outline)
    {name : String} {id owner : ScopeId} {binding : Binding}
    (resolved : heap.resolve? name id = some (owner, binding)) :
    ∃ binding', later.resolve? name id = some (owner, binding') ∧
      binding'.constant = binding.constant := by
  have later? : ∀ {id scope}, heap.scope? id = some scope →
      ∃ scope', later.scope? id = some scope' ∧ scope'.outline = scope.outline := by
    intro id scope found
    exact Option.map_eq_some_iff.mp (same (Option.map_eq_some_iff.mpr ⟨scope, found, rfl⟩))
  fun_induction heap.resolve? name id with
  | case1 => cases resolved
  | case2 id scope found binding' bound =>
      cases resolved
      obtain ⟨scope', found', outline⟩ := later? found
      have marks := scope'.find?_outline name
      rw [outline, ← scope.find?_outline, bound] at marks
      obtain ⟨binding', bound', mark⟩ := Option.map_eq_some_iff.mp marks
      refine ⟨binding', ?_, congrArg Prod.snd mark⟩
      simp only [resolve?, found', bound']
  | case3 => cases resolved
  | case4 id scope found free parent inside earlier induction =>
      obtain ⟨binding', resolved', mark⟩ := induction resolved
      obtain ⟨scope', found', outline⟩ := later? found
      have marks := scope'.find?_outline name
      rw [outline, ← scope.find?_outline, free] at marks
      have free' : scope'.find? name = none := Option.map_eq_none_iff.mp marks
      have inside' : scope'.parent = some parent := (congrArg Scope.Outline.parent outline).trans inside
      refine ⟨binding', ?_, mark⟩
      rw [resolve?]
      simp only [found', free', inside', earlier, if_true]
      exact resolved'
  | case5 => cases resolved

end Heap

theorem World.endScope_heap (world : World) (scope : ScopeId) (routines : Nat) :
    (world.endScope scope routines).heap = world.heap ∨
      (world.endScope scope routines).heap = world.heap.clear scope := by
  unfold World.endScope
  split
  · exact .inr rfl
  · exact .inl rfl

namespace Eval

/-- A run that changes the outline of none of the first `count` scopes. -/
def KeepsOutlines {α : Type} (count : Nat) (run : Eval α) : Prop :=
  ∀ world : World, count ≤ world.heap.scopes.size →
    count ≤ (last (run world)).heap.scopes.size ∧
      ∀ id : ScopeId, id.index < count →
        (last (run world)).heap.outline? id = world.heap.outline? id

namespace KeepsOutlines

variable {α β : Type} {count : Nat}

theorem of_scopes {run : Eval α}
    (same : ∀ world : World, (last (run world)).heap.scopes = world.heap.scopes) :
    KeepsOutlines count run := by
  intro world present
  exact ⟨by rw [same]; exact present, fun id _ => Heap.outline?_congr (same world) id⟩

theorem bind {run : Eval α} {next : α → Eval β} (first : KeepsOutlines count run)
    (second : ∀ result, KeepsOutlines count (next result)) :
    KeepsOutlines count (run >>= next) := by
  intro world present
  obtain ⟨size, same⟩ := first world present
  rw [last_bind]
  cases outcome : run world with
  | error stop later =>
      rw [outcome] at size same
      exact ⟨size, same⟩
  | ok result later =>
      rw [outcome] at size same
      obtain ⟨size', same'⟩ := second result later size
      exact ⟨size', fun id old => (same' id old).trans (same id old)⟩

theorem declare {scope : ScopeId} (later : count ≤ scope.index) (name : String) (value : Value)
    (constant : Bool) : KeepsOutlines count (Eval.declare scope name value constant) := by
  intro world present
  rw [declare_apply]
  split
  · exact ⟨present, fun _ _ => rfl⟩
  · refine ⟨by simpa [last, Heap.bind] using present, fun id old => ?_⟩
    have apart : id ≠ scope := by
      rintro rfl
      exact absurd old (Nat.not_lt.mpr later)
    exact Heap.outline?_modifyScope _ _ apart

theorem assign (scope : ScopeId) (name : String) (value : Value) :
    KeepsOutlines count (Eval.assign scope name value) := by
  intro world present
  rw [assign_apply]
  split
  · exact ⟨by simpa [last, Heap.write] using present,
      fun id _ => Heap.outline?_write _ _ _ _ id⟩
  · exact ⟨present, fun _ _ => rfl⟩

theorem writeElement (id : TeamId) (index value : Value) :
    KeepsOutlines count (Eval.writeElement id index value) := by
  apply of_scopes
  intro world
  rw [writeElement_apply]
  split <;> rfl

/-- A new scope stands behind the scopes that there are, so that it can be changed and
cleared without touching them. -/
theorem inScope {make : Heap → Scope} {run : ScopeId → Eval α}
    (inside : ∀ inner : ScopeId, count ≤ inner.index → KeepsOutlines count (run inner)) :
    KeepsOutlines count (Eval.inScope make run) := by
  intro world present
  have opened := inside world.heap.nextScope present
    (world.mapHeap (·.addScope (make world.heap))) (by simp; omega)
  rw [last_inScope]
  generalize last (run world.heap.nextScope (world.mapHeap (·.addScope (make world.heap)))) =
    later at opened ⊢
  obtain ⟨size, same⟩ := opened
  have kept : ∀ id : ScopeId, id.index < count →
      later.heap.outline? id = world.heap.outline? id := by
    intro id old
    rw [same id old]
    exact Heap.outline?_addScope _ _ (Nat.lt_of_lt_of_le old present)
  rcases later.endScope_heap world.heap.nextScope world.heap.routines.size with ended | ended
  · rw [ended]
    exact ⟨size, kept⟩
  · rw [ended]
    refine ⟨by simpa [Heap.clear] using size, fun id old => ?_⟩
    rw [← kept id old]
    exact Heap.outline?_modifyScope _ _ (Heap.ne_nextScope (Nat.lt_of_lt_of_le old present))

theorem callRoutine {run : Routine → ScopeId → Eval Flow}
    (inside : ∀ routine, ∀ inner : ScopeId, count ≤ inner.index →
      KeepsOutlines count (run routine inner)) (id : RoutineId) (arguments : List Value)
    (caller : ScopeId) : KeepsOutlines count (Eval.callRoutine run id arguments caller) := by
  intro world present
  rcases call_cases world.heap id arguments caller with ⟨routine, scope, found, made⟩ | refused
  · rw [last_callRoutine_of_ok found made]
    exact inScope (inside routine) world present
  · rw [last_callRoutine_of_refused refused]
    exact ⟨present, fun _ _ => rfl⟩

/-- Runs that declare names only behind the first `count` scopes keep the outlines of
these. -/
theorem compositional (count : Nat) :
    Compositional (fun scope => count ≤ scope.index) fun _ run => KeepsOutlines count run where
  pure _ := of_scopes fun _ => rfl
  stop _ _ := of_scopes fun _ => rfl
  bind := bind
  atLine line keeps := by
    intro world present
    rw [last_atLine]
    exact keeps world present
  readHeap _ := of_scopes fun _ => rfl
  print _ := of_scopes fun _ => rfl
  readClock := of_scopes fun _ => rfl
  readChance := of_scopes fun _ => rfl
  declare name value constant later := declare later name value constant
  assign := assign _
  writeElement := writeElement
  newTeam _ := of_scopes fun _ => rfl
  newRoutine _ _ := of_scopes fun _ => rfl
  inBlock _ _ inside := inScope inside
  call id arguments inside := callRoutine inside id arguments _

end KeepsOutlines

end Eval

theorem Heap.lt_of_outline? {heap : Heap} {id : ScopeId} {outline : Scope.Outline}
    (found : heap.outline? id = some outline) : id.index < heap.scopes.size := by
  obtain ⟨scope, present, -⟩ := Option.map_eq_some_iff.mp found
  exact lt_of_scope? present

/-- What is left of the outlines of a heap after a run in a scope: they are as they were,
but that a name may have been added to the scope itself, which did not have it. -/
structure Heap.OutlinesWith (heap later : Heap) (scope : ScopeId)
    (added : Option (String × Bool)) : Prop where
  elsewhere : ∀ {id : ScopeId} {outline : Scope.Outline}, heap.outline? id = some outline →
    id ≠ scope → later.outline? id = some outline
  here : ∀ {outline : Scope.Outline}, heap.outline? scope = some outline →
    later.outline? scope = some (outline.add added)
  fresh : ∀ {outline : Scope.Outline}, heap.outline? scope = some outline →
    ∀ name ∈ added, name.1 ∉ outline.names.map Prod.fst

namespace Heap.OutlinesWith

variable {heap later last : Heap} {scope : ScopeId}

theorem of_same (same : ∀ id : ScopeId, id.index < heap.scopes.size →
    later.outline? id = heap.outline? id) : heap.OutlinesWith later scope none where
  elsewhere found _ := (same _ (lt_of_outline? found)).trans found
  here found := (same _ (lt_of_outline? found)).trans found
  fresh _ _ member := absurd member (Option.not_mem_none _)

theorem trans {added : Option (String × Bool)} (first : heap.OutlinesWith later scope none)
    (second : later.OutlinesWith last scope added) : heap.OutlinesWith last scope added where
  elsewhere found apart := second.elsewhere (first.elsewhere found apart) apart
  here found := second.here (first.here found)
  fresh found := second.fresh (first.here found)

theorem bind {binding : Binding} (free : heap.binds scope binding.name = false) :
    heap.OutlinesWith (heap.bind scope binding) scope
      (some (binding.name, binding.constant)) where
  elsewhere found apart := (outline?_modifyScope heap _ apart).trans found
  here found := by rw [outline?_bind, found]; rfl
  fresh found name member taken := by
    cases member
    have bound := (heap.binds_iff scope binding.name).mpr ⟨_, found, taken⟩
    rw [free] at bound
    cases bound

end Heap.OutlinesWith

namespace Eval

/-- A run that adds a name to a scope unless it fails, and changes no outline else. -/
def Adds {α : Type} (scope : ScopeId) (name : Option (String × Bool)) (run : Eval α) : Prop :=
  ∀ world : World,
    match run world with
    | .ok _ later => world.heap.OutlinesWith later.heap scope name
    | .error _ later => world.heap.OutlinesWith later.heap scope none

namespace Adds

variable {α β : Type} {scope : ScopeId} {name : Option (String × Bool)}

theorem of_keeps {run : Eval α} (keeps : ∀ count, KeepsOutlines count run) :
    Adds scope none run := by
  intro world
  obtain ⟨-, same⟩ := keeps world.heap.scopes.size world (Nat.le_refl _)
  cases outcome : run world <;> rw [outcome] at same <;> exact .of_same same

theorem after {run : Eval α} {next : α → Eval β} (first : ∀ count, KeepsOutlines count run)
    (second : ∀ result, Adds scope name (next result)) : Adds scope name (run >>= next) := by
  intro world
  have before : Adds scope none run := of_keeps first
  have kept := before world
  cases outcome : run world with
  | error stop later =>
      rw [outcome] at kept
      rw [bind_of_error outcome]
      exact kept
  | ok result later =>
      rw [outcome] at kept
      rw [bind_of_ok outcome]
      have added := second result later
      cases ended : next result later <;> rw [ended] at added <;> exact kept.trans added

theorem declare (declared : String) (value : Value) (constant : Bool) :
    Adds scope (some (declared, constant)) (Eval.declare scope declared value constant) := by
  intro world
  rw [declare_apply]
  cases free : world.heap.binds scope declared with
  | true => exact .of_same fun _ _ => rfl
  | false => exact .bind free

theorem map {run : Eval α} (read : α → β) (adds : Adds scope name run) :
    Adds scope name (do return read (← run)) := by
  intro world
  have added := adds world
  cases outcome : run world with
  | ok result later =>
      rw [outcome] at added
      rw [bind_of_ok outcome]
      exact added
  | error stop later =>
      rw [outcome] at added
      rw [bind_of_error outcome]
      exact added

theorem atLine {run : Eval α} (line : Nat) (adds : Adds scope name run) :
    Adds scope name (Eval.atLine line run) := by
  intro world
  have added := adds world
  unfold Eval.atLine
  rcases outcome : run world with ⟨result, later⟩ | ⟨⟨error⟩ | _, later⟩ <;>
    rw [outcome] at added <;> exact added

end Adds

end Eval

section Evaluation

variable {invoke : Invoke}
  (calls : ∀ count id arguments scope, (invoke id arguments scope).KeepsOutlines count)
include calls

/-- An action adds the name that it declares to its own scope, after everything else. -/
theorem Action.exec_adds (action : Action) (scope : ScopeId) :
    (action.exec invoke scope).Adds scope action.declares? := by
  have laws := Eval.KeepsOutlines.compositional
  cases declares : action.declares? with
  | none =>
      refine .of_keeps fun count => (laws count).action (calls count) action fun declaring => ?_
      rw [declares] at declaring
      cases declaring
  | some name =>
      cases action with
      | declare name constant value =>
          cases declares
          refine .after (fun count => (laws count).option (calls count) value) fun value => ?_
          exact .map Flow.normal (.declare name value constant)
      | team name size values =>
          cases declares
          refine .after (fun count => (laws count).expression (calls count) size) fun size => ?_
          refine .after (fun count => @Eval.ExpressionLaws.ofExcept _ _ scope (laws count).toExpressionLaws _)
            fun slots => ?_
          refine .after (fun count => (laws count).expressions (calls count) values)
            fun values => ?_
          refine .after (fun count => (laws count).reserve name) fun _ => ?_
          refine .after (fun count => .of_scopes fun _ => rfl) fun team => ?_
          exact .map Flow.normal (.declare name team false)
      | assemble name parameters body =>
          cases declares
          refine .after (fun count => (laws count).reserve name) fun _ => ?_
          refine .after (fun count => (laws count).newRoutine _ rfl) fun routine => ?_
          exact .map Flow.normal (.declare name routine false)
      | _ => cases declares

end Evaluation

/-- Declarations stay in their own scope: a statement adds at most the name that it declares
to the scope that it runs in, and an expression adds none. -/
theorem declarations_stay_inside (scope : ScopeId) :
    (∀ statement : Stmt,
      (Eval.withCalls (statement.exec · scope)).Adds scope statement.action.declares?) ∧
      ∀ expression : Expr, (Eval.withCalls (expression.eval · scope)).Adds scope none := by
  have laws := Eval.KeepsOutlines.compositional
  have calls : ∀ budget count id arguments scope,
      (invokeWithin budget id arguments scope).KeepsOutlines count :=
    fun budget count id arguments scope => (laws count).invokeWithin budget id arguments
  constructor
  · rintro ⟨line, action⟩ world
    exact (action.exec_adds (calls _) scope).atLine line world
  · intro expression world
    have keeps : ∀ count, (expression.eval (invokeWithin world.heap.callBudget) scope).KeepsOutlines
        count :=
      fun count => (laws count).expression (calls _ count) expression
    exact Eval.Adds.of_keeps keeps world

end Avenger
