import Avenger.Proofs.Constants.Invariant

/-!
# Nearest owners

The chain of a scope is the scope itself and the scopes around it, from the inside out.  Scopes
that are made one after the other have finite chains.  The first scope of a chain that binds a
name decides what the name reads as and whether an assignment to it is refused, and an assignment
changes what the name reads as exactly where that scope is the nearest one that binds it.
-/

namespace Avenger

namespace Heap

variable {heap later : Heap}

/-- `Chain id chain`: from the scope at a place outward stand the scopes of the chain. -/
inductive Chain (heap : Heap) : ScopeId → List ScopeId → Prop where
  | outermost {id : ScopeId} {scope : Scope} (found : heap.scope? id = some scope)
      (alone : scope.parent = none) : Chain heap id [id]
  | inside {id parent : ScopeId} {scope : Scope} {outer : List ScopeId}
      (found : heap.scope? id = some scope) (within : scope.parent = some parent)
      (outward : Chain heap parent outer) : Chain heap id (id :: outer)

/-- The nearest scope of a chain that binds a name. -/
def nearest? (heap : Heap) (name : String) (chain : List ScopeId) : Option ScopeId :=
  chain.find? (heap.binds · name)

/-- What a name reads as along a chain. -/
def readAlong (heap : Heap) (name : String) (chain : List ScopeId) : Except Fault Value :=
  match (heap.nearest? name chain).bind (heap.binding? · name) with
  | some binding => .ok binding.value
  | none => .error (.unresolved name)

/-- Whether a name is a constant of a scope itself. -/
def marks (heap : Heap) (id : ScopeId) (name : String) : Bool :=
  (heap.binding? id name).any (·.constant)

/-! ### Chains -/

/-- Every scope was made after the scope around it. -/
def Nested (heap : Heap) : Prop :=
  ∀ id parent : ScopeId, heap.parent? id = some parent → parent.index < id.index

namespace Nested

theorem modifyScope (nested : heap.Nested) (id : ScopeId) {change : Scope → Scope}
    (keeps : ∀ scope, (change scope).parent = scope.parent) :
    (heap.modifyScope id change).Nested := by
  intro inner parent inside
  rw [parent?_modifyScope keeps] at inside
  exact nested inner parent inside

theorem addScope (nested : heap.Nested) {scope : Scope}
    (around : ∀ parent, scope.parent = some parent → parent.index < heap.scopes.size) :
    (heap.addScope scope).Nested := by
  intro inner parent inside
  rw [parent?_addScope] at inside
  split at inside
  · next new =>
      rw [new]
      exact around parent inside
  · exact nested inner parent inside

/-- Going outward from a scope ends. -/
theorem exists_chain (nested : heap.Nested) {id : ScopeId}
    (present : id.index < heap.scopes.size) : ∃ chain, heap.Chain id chain := by
  obtain ⟨scope, found⟩ := Option.isSome_iff_exists.mp (scope?_isSome.mpr present)
  cases inside : scope.parent with
  | none => exact ⟨[id], .outermost found inside⟩
  | some parent =>
      have earlier : parent.index < id.index := by
        apply nested
        simp [parent?, found, inside]
      obtain ⟨outer, outward⟩ := nested.exists_chain (Nat.lt_trans earlier present)
      exact ⟨id :: outer, .inside found inside outward⟩
termination_by id.index

end Nested

namespace Chain

variable {id : ScopeId} {chain : List ScopeId}

theorem unique {chain' : List ScopeId} (first : heap.Chain id chain)
    (second : heap.Chain id chain') : chain = chain' := by
  induction first generalizing chain' with
  | outermost found alone =>
      cases second with
      | outermost => rfl
      | inside found' within =>
          cases found.symm.trans found'
          cases alone.symm.trans within
  | inside found within _ induction =>
      cases second with
      | outermost found' alone =>
          cases found.symm.trans found'
          cases alone.symm.trans within
      | inside found' within' outward =>
          cases found.symm.trans found'
          cases within.symm.trans within'
          rw [induction outward]

/-- The chains stay as long as no scope gets another parent. -/
theorem modifyScope (stands : heap.Chain id chain) (changed : ScopeId) {change : Scope → Scope}
    (keeps : ∀ scope, (change scope).parent = scope.parent) :
    (heap.modifyScope changed change).Chain id chain := by
  have kept {id : ScopeId} {scope : Scope} (found : heap.scope? id = some scope) :
      ∃ scope', (heap.modifyScope changed change).scope? id = some scope' ∧
        scope'.parent = scope.parent := by
    rw [scope?_modifyScope, found]
    by_cases here : changed = id
    · exact ⟨change scope, if_pos here, keeps scope⟩
    · exact ⟨scope, if_neg here, rfl⟩
  induction stands with
  | outermost found alone =>
      obtain ⟨scope', found', same⟩ := kept found
      exact .outermost found' (same.trans alone)
  | inside found within _ induction =>
      obtain ⟨scope', found', same⟩ := kept found
      exact .inside found' (same.trans within) induction

end Chain

/-! ### Nearest owners -/

section Nearest

variable {name : String} {id owner : ScopeId} {chain : List ScopeId}

theorem nearest?_cons (heap : Heap) (name : String) (id : ScopeId) (outer : List ScopeId) :
    heap.nearest? name (id :: outer) =
      if heap.binds id name then some id else heap.nearest? name outer := by
  rw [nearest?, List.find?_cons]
  cases heap.binds id name <;> rfl

theorem nearest?_eq_none_iff :
    heap.nearest? name chain = none ↔ ∀ id ∈ chain, heap.binds id name = false := by
  simp [nearest?]

/-- The nearest owner of a name binds it. -/
theorem exists_binding (nearest : heap.nearest? name chain = some owner) :
    ∃ binding, heap.binding? owner name = some binding := by
  have binds : heap.binds owner name = true := List.find?_some (p := (heap.binds · name)) nearest
  rw [binds_eq] at binds
  exact Option.isSome_iff_exists.mp binds

/-- Looking for the owner of a name outward from a scope finds the nearest one. -/
theorem Chain.resolve?_eq (stands : heap.Chain id chain) (nested : heap.Nested) (name : String) :
    heap.resolve? name id =
      (heap.nearest? name chain).bind fun owner =>
        (heap.binding? owner name).map (owner, ·) := by
  induction stands with
  | @outermost id scope found alone =>
      rw [resolve?, nearest?_cons]
      cases bound : scope.find? name with
      | some binding => simp [found, bound, binds_eq, binding?]
      | none => simp [found, bound, alone, binds_eq, binding?, nearest?]
  | @inside id parent scope outer found within _ induction =>
      rw [resolve?, nearest?_cons]
      cases bound : scope.find? name with
      | some binding => simp [found, bound, binds_eq, binding?]
      | none =>
          have earlier : parent.index < id.index := by
            apply nested
            simp [parent?, found, within]
          simp [found, bound, within, earlier, induction, binds_eq, binding?]

theorem Chain.lookup_eq (stands : heap.Chain id chain) (nested : heap.Nested) (name : String) :
    heap.lookup id name = heap.readAlong name chain := by
  rw [lookup, stands.resolve?_eq nested, readAlong]
  cases nearest : heap.nearest? name chain with
  | none => rfl
  | some owner =>
      obtain ⟨binding, bound⟩ := exists_binding nearest
      simp [bound]

theorem Chain.assignable_eq (stands : heap.Chain id chain) (nested : heap.Nested)
    (name : String) :
    heap.assignable id name =
      match heap.nearest? name chain with
      | none => .error (.unresolved name)
      | some owner =>
          if heap.marks owner name then .error (.constantReassigned name) else .ok owner := by
  rw [assignable, stands.resolve?_eq nested]
  cases nearest : heap.nearest? name chain with
  | none => rfl
  | some owner =>
      obtain ⟨binding, bound⟩ := exists_binding nearest
      simp [marks, bound]

/-- A scope that gets another binding of a name is read where it is the nearest owner, and nothing
else changes. -/
theorem readAlong_changed {binding : Binding} (here : later.binding? owner name = some binding)
    (elsewhere : ∀ other read, ¬(other = owner ∧ read = name) →
      later.binding? other read = heap.binding? other read)
    (chain : List ScopeId) (read : String) :
    later.readAlong read chain =
      if read = name ∧ later.nearest? name chain = some owner then .ok binding.value
      else heap.readAlong read chain := by
  by_cases same : read = name
  · subst read
    induction chain with
    | nil => simp [readAlong, nearest?]
    | cons id outer induction =>
        by_cases owns : id = owner
        · subst id
          simp [readAlong, nearest?_cons, binds_eq, here]
        · have kept : later.binding? id name = heap.binding? id name :=
            elsewhere id name fun both => owns both.1
          cases bound : heap.binding? id name with
          | some old => simp [readAlong, nearest?_cons, binds_eq, kept, bound, owns]
          | none =>
              simpa [readAlong, nearest?_cons, binds_eq, kept, bound] using induction
  · have kept (id : ScopeId) : later.binding? id read = heap.binding? id read :=
      elsewhere id read fun both => same both.2
    simp [readAlong, nearest?, binds_eq, kept, same]

theorem binding?_clear (heap : Heap) (cleared id : ScopeId) (name : String) :
    (heap.clear cleared).binding? id name =
      if id = cleared then none else heap.binding? id name := by
  by_cases here : id = cleared
  · subst id
    rw [binding?, clear, scope?_modifyScope, if_pos rfl, if_pos rfl]
    cases heap.scope? cleared with
    | none => rfl
    | some scope => rfl
  · rw [if_neg here]
    exact binding?_modifyScope heap _ (Ne.symm here) name

/-- Without the bindings of a scope, names are read as if it were not in the chain. -/
theorem readAlong_clear (heap : Heap) (cleared : ScopeId) (chain : List ScopeId) (name : String) :
    (heap.clear cleared).readAlong name chain =
      heap.readAlong name (chain.filter (· ≠ cleared)) := by
  induction chain with
  | nil => rfl
  | cons id outer induction =>
      by_cases here : id = cleared
      · subst id
        simpa [readAlong, nearest?_cons, binds_eq, binding?_clear] using induction
      · cases bound : heap.binding? id name with
        | some binding =>
            simp [readAlong, nearest?_cons, binds_eq, binding?_clear, here, bound]
        | none =>
            simpa [readAlong, nearest?_cons, binds_eq, binding?_clear, here, bound] using induction

@[simp] theorem binds_write (heap : Heap) (owner : ScopeId) (name : String) (value : Value)
    (id : ScopeId) (read : String) :
    (heap.write owner name value).binds id read = heap.binds id read := by
  rw [binds_eq, binds_eq, binding?_write]
  split
  · cases heap.binding? id read <;> rfl
  · rfl

@[simp] theorem marks_write (heap : Heap) (owner : ScopeId) (name : String) (value : Value)
    (id : ScopeId) (read : String) :
    (heap.write owner name value).marks id read = heap.marks id read := by
  rw [marks, marks, binding?_write]
  split
  · cases heap.binding? id read <;> rfl
  · rfl

end Nearest

/-- The scopes of a heap have the same chains in a later one, and from each of them every name
reads as expected. -/
def ReadAs (heap later : Heap)
    (expected : ScopeId → List ScopeId → String → Except Fault Value) : Prop :=
  ∀ id chain, heap.Chain id chain →
    later.Chain id chain ∧ ∀ name, later.lookup id name = expected id chain name

end Heap

namespace World

/-! ### Scopes that operations have built -/

/-- The worlds in which operations have built the scopes, one after the other.  An operation may
fail, and anything may happen to the world that leaves the scopes alone. -/
inductive Built : World → Prop where
  | nothing {world : World} (empty : world.heap.scopes = #[]) : Built world
  | root {world : World} (built : Built world) (limits : Limits) :
      Built (Eval.last (Eval.newScope (fun _ => Heap.root limits) world))
  | child {world : World} (built : Built world) (id : ScopeId)
      (present : id.index < world.heap.scopes.size) :
      Built (Eval.last (Eval.newScope (·.childOf id) world))
  | call {world : World} (built : Built world) (closure : ScopeId)
      (present : closure.index < world.heap.scopes.size) (depth : Nat) :
      Built (Eval.last (Eval.newScope (·.callOf closure depth) world))
  | declare {world : World} (built : Built world) (id : ScopeId) (name : String) (value : Value)
      (constant : Bool) : Built (Eval.last (Eval.declare id name value constant world))
  | assign {world : World} (built : Built world) (id : ScopeId) (name : String) (value : Value) :
      Built (Eval.last (Eval.assign id name value world))
  | clear {world : World} (built : Built world) (id : ScopeId) :
      Built (Eval.last (Eval.changeHeap (·.clear id) world))
  | elsewhere {world later : World} (built : Built world)
      (same : later.heap.scopes = world.heap.scopes) : Built later

theorem Built.nested {world : World} (built : world.Built) : world.heap.Nested := by
  induction built with
  | nothing empty =>
      intro id parent inside
      simp [Heap.parent?, Heap.scope?, empty] at inside
  | root _ limits induction =>
      apply induction.addScope
      rintro parent ⟨⟩
  | child _ id present induction | call _ id present _ induction =>
      apply induction.addScope
      rintro parent ⟨⟩
      exact present
  | declare _ id name value constant induction =>
      rw [Eval.declare_apply]
      split
      · exact induction
      · exact induction.modifyScope id fun _ => rfl
  | assign _ id name value induction =>
      rw [Eval.assign_apply]
      split
      · exact induction.modifyScope _ fun _ => rfl
      · exact induction
  | clear _ id induction => exact induction.modifyScope id fun _ => rfl
  | elsewhere _ same induction =>
      intro id parent inside
      rw [Heap.parent?, Heap.scope?, same] at inside
      exact induction id parent inside

/-! ### The laws of the operations -/

/-- What an assignment to a name does in a scope with the given chain. -/
structure AssignmentLaws (world : World) (scope : ScopeId) (chain : List ScopeId) (name : String)
    (value : Value) : Prop where
  unresolved : Eval.assign scope name value world = .error (.error ⟨.unresolved name, none⟩) world ↔
    ∀ id ∈ chain, world.heap.binds id name = false
  constant : Eval.assign scope name value world =
      .error (.error ⟨.constantReassigned name, none⟩) world ↔
    ∃ owner, world.heap.nearest? name chain = some owner ∧ world.heap.marks owner name = true
  failed : ∀ stop later, Eval.assign scope name value world = .error stop later →
    later = world ∧ (stop = .error ⟨.unresolved name, none⟩ ∨
      stop = .error ⟨.constantReassigned name, none⟩)
  done : ∀ result later, Eval.assign scope name value world = .ok result later →
    result = value ∧ later.heap.marks = world.heap.marks ∧
      world.heap.ReadAs later.heap fun other outward read =>
        if read = name ∧ world.heap.nearest? name outward = world.heap.nearest? name chain then
          .ok value
        else world.heap.lookup other read

/-- What the declaration of a name does in a scope. -/
structure DeclarationLaws (world : World) (scope : ScopeId) (name : String) (value : Value)
    (constant : Bool) : Prop where
  duplicate : Eval.declare scope name value constant world =
      .error (.error ⟨.duplicate name, none⟩) world ↔ world.heap.binds scope name = true
  failed : ∀ stop later, Eval.declare scope name value constant world = .error stop later →
    later = world ∧ stop = .error ⟨.duplicate name, none⟩
  done : ∀ result later, Eval.declare scope name value constant world = .ok result later →
    result = value ∧
      (∀ id read, later.heap.marks id read =
        if id = scope ∧ read = name then constant else world.heap.marks id read) ∧
      world.heap.ReadAs later.heap fun other outward read =>
        if read = name ∧ later.heap.nearest? name outward = some scope then .ok value
        else world.heap.lookup other read

/-- What forgetting the bindings of a scope does. -/
structure ClearingLaws (world : World) (scope : ScopeId) : Prop where
  done : Eval.changeHeap (·.clear scope) world = .ok () (world.mapHeap (·.clear scope))
  reads : world.heap.ReadAs (world.heap.clear scope) fun _ outward read =>
    world.heap.readAlong read (outward.filter (· ≠ scope))
  free : ∀ name value constant, ∃ later,
    Eval.declare scope name value constant (world.mapHeap (·.clear scope)) = .ok value later

section Laws

variable {world : World} (nested : world.heap.Nested) {scope : ScopeId}

include nested

/-- A change of the bindings of one scope that leaves all other bindings alone. -/
theorem readAs_changed (owner : ScopeId) (change : Scope → Scope)
    (keeps : ∀ scope, (change scope).parent = scope.parent) {name : String} {binding : Binding}
    (here : (world.heap.modifyScope owner change).binding? owner name = some binding)
    (elsewhere : ∀ other read, ¬(other = owner ∧ read = name) →
      (world.heap.modifyScope owner change).binding? other read = world.heap.binding? other read) :
    world.heap.ReadAs (world.heap.modifyScope owner change) fun other outward read =>
      if read = name ∧
          (world.heap.modifyScope owner change).nearest? name outward = some owner then
        .ok binding.value
      else world.heap.lookup other read := by
  intro other outward stands
  have stands' := stands.modifyScope owner keeps
  refine ⟨stands', fun read => ?_⟩
  dsimp only
  rw [stands'.lookup_eq (nested.modifyScope owner keeps), stands.lookup_eq nested]
  exact Heap.readAlong_changed here elsewhere outward read

theorem assignmentLaws {chain : List ScopeId} (stands : world.heap.Chain scope chain)
    (name : String) (value : Value) : world.AssignmentLaws scope chain name value := by
  have assigned := Eval.assign_apply scope name value world
  have unbound : world.heap.nearest? name chain = none ↔
      ∀ id ∈ chain, world.heap.binds id name = false := Heap.nearest?_eq_none_iff
  rw [stands.assignable_eq nested] at assigned
  cases nearest : world.heap.nearest? name chain with
  | none =>
      simp only [nearest] at assigned
      constructor
      case unresolved => simp [assigned, ← unbound, nearest]
      case constant => simp [assigned, nearest]
      case failed => simp [assigned]
      case done => simp [assigned]
  | some owner =>
      obtain ⟨old, bound⟩ := Heap.exists_binding nearest
      cases constant : world.heap.marks owner name with
      | true =>
          simp only [nearest, constant, if_true] at assigned
          constructor
          case unresolved => simp [assigned, ← unbound, nearest]
          case constant => simp [assigned, nearest, constant]
          case failed => simp [assigned]
          case done => simp [assigned]
      | false =>
          simp only [nearest, constant, Bool.false_eq_true, if_false] at assigned
          constructor
          case unresolved => simp [assigned, ← unbound, nearest]
          case constant => simp [assigned, nearest, constant]
          case failed => simp [assigned]
          case done =>
              intro result later done
              rw [assigned] at done
              cases done
              refine ⟨rfl, funext fun id => funext fun read => Heap.marks_write .., ?_⟩
              have here : (world.heap.write owner name value).binding? owner name =
                  some { old with value } := by
                rw [Heap.binding?_write, if_pos ⟨rfl, rfl⟩, bound]
                rfl
              have same (outward : List ScopeId) :
                  (world.heap.write owner name value).nearest? name outward =
                    world.heap.nearest? name outward := by
                simp [Heap.nearest?]
              have reads : world.heap.ReadAs (world.heap.write owner name value)
                  fun other outward read =>
                    if read = name ∧
                        (world.heap.write owner name value).nearest? name outward = some owner then
                      .ok value
                    else world.heap.lookup other read :=
                readAs_changed nested owner (·.write name value) (fun _ => rfl) here
                  fun other read different =>
                    (Heap.binding?_write owner name value other read).trans
                      (if_neg fun both => different ⟨both.1.symm, both.2.symm⟩)
              simpa only [World.mapHeap_heap, same, nearest] using reads

theorem declarationLaws (present : scope.index < world.heap.scopes.size) (name : String)
    (value : Value) (constant : Bool) : world.DeclarationLaws scope name value constant := by
  have declared := Eval.declare_apply scope name value constant world
  cases bound : world.heap.binds scope name with
  | true =>
      rw [if_pos bound] at declared
      constructor
      case duplicate => simp [declared, bound]
      case failed => simp [declared]
      case done => simp [declared]
  | false =>
      rw [if_neg (by simp [bound])] at declared
      constructor
      case duplicate => simp [declared, bound]
      case failed => simp [declared]
      case done =>
          intro result later done
          rw [declared] at done
          cases done
          have bindings := Heap.binding?_bind present ⟨name, value, constant⟩
          refine ⟨rfl, fun id read => ?_, ?_⟩
          · rw [Heap.marks, World.mapHeap_heap, bindings]
            by_cases here : id = scope ∧ read = name
            · simp [here]
            · rw [if_neg fun both => here ⟨both.1.symm, both.2.symm⟩, if_neg here, Heap.marks]
          · have here := (bindings scope name).trans (if_pos ⟨rfl, rfl⟩)
            exact readAs_changed nested scope (·.bind ⟨name, value, constant⟩) (fun _ => rfl) here
              fun other read different => (bindings other read).trans
                (if_neg fun both => different ⟨both.1.symm, both.2.symm⟩)

theorem clearingLaws : world.ClearingLaws scope := by
  constructor
  case done => rfl
  case reads =>
      intro id outward stands
      have stands' : (world.heap.clear scope).Chain id outward :=
        stands.modifyScope scope fun _ => rfl
      refine ⟨stands', fun read => ?_⟩
      rw [stands'.lookup_eq (nested.modifyScope scope fun _ => rfl)]
      exact Heap.readAlong_clear world.heap scope outward read
  case free =>
      intro name value constant
      have unbound : (world.heap.clear scope).binds scope name = false := by
        rw [Heap.binds_eq, Heap.binding?_clear, if_pos rfl]
        rfl
      rw [Eval.declare_apply, World.mapHeap_heap, unbound]
      exact ⟨_, rfl⟩

end Laws

/-- The nearest owner decides.  In scopes that operations have built, every scope has one chain,
along which names are read.  An assignment is refused if no scope of the chain binds the name, or
if the nearest one that does has it as a constant; a declaration is refused if the scope itself
binds the name.  What they do else, and what it does to forget the bindings of a scope, shows from
every scope, and a refusal changes nothing. -/
theorem nearest_owner_decides {world : World} (built : world.Built) {scope : ScopeId}
    (present : scope.index < world.heap.scopes.size) :
    ∃ chain, world.heap.Chain scope chain ∧
      (∀ chain', world.heap.Chain scope chain' → chain' = chain) ∧
      (∀ name, world.heap.lookup scope name = world.heap.readAlong name chain) ∧
      (∀ name value, world.AssignmentLaws scope chain name value) ∧
      (∀ name value constant, world.DeclarationLaws scope name value constant) ∧
      world.ClearingLaws scope := by
  have nested := built.nested
  obtain ⟨chain, stands⟩ := nested.exists_chain present
  refine ⟨chain, stands, fun chain' stands' => stands'.unique stands,
    fun name => stands.lookup_eq nested name,
    fun name value => assignmentLaws nested stands name value,
    fun name value constant => declarationLaws nested present name value constant,
    clearingLaws nested⟩

/-- A world in which the name of a constant is declared once more in a scope inside. -/
def shadowed : World :=
  let global := Eval.last (Eval.newScope (fun _ => Heap.root .standard)
    (initial (Readings.seeded 0 0) .release))
  let fixed := Eval.last (Eval.declare ⟨0⟩ "PI" (.number 3) true global)
  let inner := Eval.last (Eval.newScope (·.childOf ⟨0⟩) fixed)
  Eval.last (Eval.declare ⟨1⟩ "PI" (.number 4) false inner)

/-- The inner declaration hides the constant, until the inner scope is cleared. -/
theorem nearest_owner_decides_shadowed :
    shadowed.Built ∧ shadowed.heap.lookup ⟨1⟩ "PI" = .ok (.number 4) ∧
      Eval.assign ⟨1⟩ "PI" (.number 5) shadowed ≠
        .error (.error ⟨.constantReassigned "PI", none⟩) shadowed ∧
      (shadowed.heap.clear ⟨1⟩).lookup ⟨1⟩ "PI" = .ok (.number 3) := by
  have built : shadowed.Built := by
    have start : (initial (Readings.seeded 0 0) .release).Built := .nothing rfl
    have global := (start.root .standard).declare ⟨0⟩ "PI" (.number 3) true
    exact (global.child ⟨0⟩ Nat.zero_lt_one).declare ⟨1⟩ "PI" (.number 4) false
  obtain ⟨chain, stands, unique, reads, assigns, -, clears⟩ :=
    nearest_owner_decides built (Nat.lt_succ_self 1 : (⟨1⟩ : ScopeId).index < _)
  obtain rfl : [⟨1⟩, ⟨0⟩] = chain := unique _ (.inside rfl rfl (.outermost rfl rfl))
  refine ⟨built, reads "PI", fun refused => ?_, (clears.reads _ _ stands).2 "PI"⟩
  obtain ⟨owner, nearest, constant⟩ := (assigns "PI" (.number 5)).constant.mp refused
  cases nearest
  cases constant

end World

end Avenger
