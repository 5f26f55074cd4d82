import Avenger.Proofs.Coupling.Evaluation
import Avenger.Proofs.Folding

/-!
# Runs in corresponding scopes

Two runs of the same code in corresponding scopes keep their heaps the same up to a folding,
which grows with each scope that both of them open.  Extra scopes are opened by one of the runs
only, between runs of the same code.
-/

namespace Avenger

namespace Folding

/-- Where two runs are: in two scopes, how many calls into the runs, and which scopes are known
to correspond. -/
structure Stage where
  left : ScopeId
  right : ScopeId
  depth : Nat
  known : Folding

variable {folding : Folding} {skips : Prop} {stage : Stage} {world world' : World}
  {id id' : ScopeId}

/-- Worlds with heaps that are the same up to a folding of all scopes, and that are the same
outside of their heaps. -/
structure Spans (folding : Folding) (skips : Prop) (world world' : World) : Prop where
  agrees : folding.Agrees skips world.heap world'.heap
  covers : folding.Covers world.heap world'.heap
  ordered : world.heap.Ordered
  ordered' : world'.heap.Ordered
  outside : world.SameOutside world'

/-- Worlds that are the same up to a folding when code runs in corresponding scopes. -/
def Joined (skips : Prop) (stage : Stage) (world world' : World) : Prop :=
  ∃ folding : Folding, folding.Extends stage.known ∧ folding.Meets stage.left stage.right ∧
    folding.Spans skips world world'

/-- Runs of the same code in corresponding scopes.  Names are declared, scopes opened and
functions defined only in paired ones. -/
def coupling (skips : Prop) : Coupling where
  Stage := Stage
  left := Stage.left
  right := Stage.right
  depth := Stage.depth
  declaring stage := stage.known.pairs stage.left stage.right
  worlds := Joined skips
  teams := Eq
  routines := Eq
  stoppable := True
  yields _ := False
  exhaustible := True

theorem values_iff {value value' : Value} :
    (coupling skips).Values value value' ↔ value = value' := by
  constructor
  · intro related
    cases related with
    | team same | routine same => rw [same]
    | _ => rfl
  · rintro rfl
    cases value with
    | team => exact .team rfl
    | routine => exact .routine rfl
    | stopped => exact .stopped trivial
    | null => exact .null
    | number => exact .number _
    | boolean => exact .boolean _
    | text => exact .text _
    | native => exact .native _ _

theorem forall₂_values_iff {values values' : List Value} :
    List.Forall₂ (coupling skips).Values values values' ↔ values = values' := by
  rw [← List.forall₂_eq_eq_eq]
  exact ⟨fun related => related.imp fun _ _ => values_iff.mp,
    fun related => related.imp fun _ _ => values_iff.mpr⟩

theorem flows_iff {flow flow' : Flow} : (coupling skips).Flows flow flow' ↔ flow = flow' := by
  constructor
  · intro related
    cases related with
    | normal related | snap related => rw [values_iff.mp related]
    | endGame => rfl
  · rintro rfl
    cases flow with
    | normal => exact .normal (values_iff.mpr rfl)
    | snap => exact .snap (values_iff.mpr rfl)
    | endGame => exact .endGame

theorem Scopes.earlier {heap heap' : Heap} {scope scope' : Scope}
    (related : folding.Scopes skips scope scope') (agrees : folding.Agrees skips heap heap') :
    (∀ parent, scope.parent = some parent → parent.index < heap.scopes.size) ∧
      ∀ parent, scope'.parent = some parent → parent.index < heap'.scopes.size := by
  have parents := related.parent
  generalize scope.parent = parent at parents
  generalize scope'.parent = parent' at parents
  cases parents with
  | none => exact ⟨nofun, nofun⟩
  | some leads =>
      exact ⟨by rintro _ ⟨⟩; exact agrees.bound leads.meets,
        by rintro _ ⟨⟩; exact agrees.bound' leads.meets⟩

namespace Spans

variable (spans : folding.Spans skips world world')
include spans

theorem rebind (paired : folding.pairs id id') (change : List Binding → List Binding) :
    folding.Spans skips (world.mapHeap (·.rebind id change))
      (world'.mapHeap (·.rebind id' change)) where
  agrees := spans.agrees.rebind paired change
  covers := spans.covers.of_sizes (Heap.modifyScope_size _ _ _) (Heap.modifyScope_size _ _ _)
  ordered := spans.ordered.modifyScope id fun _ => rfl
  ordered' := spans.ordered'.modifyScope id' fun _ => rfl
  outside := { spans.outside with }

/-- Paired scopes end alike. -/
theorem endScope (paired : folding.pairs id id') (routines : Nat) :
    folding.Spans skips (world.endScope id routines) (world'.endScope id' routines) := by
  have same : world.retention = .release ∧ world.heap.routines.size = routines ↔
      world'.retention = .release ∧ world'.heap.routines.size = routines := by
    rw [spans.outside.retention, spans.agrees.count]
  unfold World.endScope
  by_cases released : world.retention = .release ∧ world.heap.routines.size = routines
  · rw [if_pos released, if_pos (same.mp released)]
    exact spans.rebind paired fun _ => []
  · rw [if_neg released, if_neg (mt same.mpr released)]
    exact spans

/-- The end of an extra scope changes nothing. -/
theorem endHollow (extra : folding.hollow id id') (routines : Nat) :
    world'.endScope id' routines = world' := by
  unfold World.endScope
  split
  · rw [spans.agrees.clear_hollow extra]
  · rfl

theorem addScope {scope scope' : Scope} (related : folding.Scopes skips scope scope') :
    (folding.pair world.heap.nextScope world'.heap.nextScope).Spans skips
      (world.mapHeap (·.addScope scope)) (world'.mapHeap (·.addScope scope')) where
  agrees := spans.agrees.addScope related
  covers := spans.covers.addScope scope scope'
  ordered := spans.ordered.addScope (related.earlier spans.agrees).1
  ordered' := spans.ordered'.addScope (related.earlier spans.agrees).2
  outside := { spans.outside with }

theorem addHollow (paired : folding.pairs id id') :
    (folding.extra id world'.heap.nextScope).Spans skips world
      (world'.mapHeap (·.addScope (world'.heap.childOf id'))) where
  agrees := spans.agrees.addHollow paired
  covers := spans.covers.addHollow id _
  ordered := spans.ordered
  ordered' := spans.ordered'.addScope (by
    rintro _ ⟨⟩
    exact spans.agrees.bound' (.inl paired))
  outside := { spans.outside with }

theorem addRoutine (leads : folding.Leads skips id id') (name : String)
    (parameters : List String) (body : List Stmt) :
    folding.Spans skips (world.mapHeap (·.addRoutine ⟨name, parameters, body, id⟩))
      (world'.mapHeap (·.addRoutine ⟨name, parameters, body, id'⟩)) where
  agrees := spans.agrees.addRoutine ⟨⟨rfl, rfl, rfl⟩, leads⟩
  covers := spans.covers.of_sizes rfl rfl
  ordered := spans.ordered.addRoutine (spans.agrees.bound leads.meets)
  ordered' := spans.ordered'.addRoutine (spans.agrees.bound' leads.meets)
  outside := { spans.outside with }

theorem lookup (meets : folding.Meets id id') (name : String) :
    (coupling skips).Agree (coupling skips).Values (world.heap.lookup id name)
      (world'.heap.lookup id' name) := by
  have found := spans.agrees.resolve? spans.ordered spans.ordered' name meets
  unfold Heap.lookup
  generalize world.heap.resolve? name id = owned at found ⊢
  generalize world'.heap.resolve? name id' = owned' at found ⊢
  cases found with
  | none => exact .error _
  | some owned => exact .ok (values_iff.mpr (congrArg Binding.value owned.2))

theorem assignable (meets : folding.Meets id id') (name : String) :
    (coupling skips).Agree folding.pairs (world.heap.assignable id name)
      (world'.heap.assignable id' name) := by
  have found := spans.agrees.resolve? spans.ordered spans.ordered' name meets
  unfold Heap.assignable
  generalize world.heap.resolve? name id = owned at found ⊢
  generalize world'.heap.resolve? name id' = owned' at found ⊢
  cases found with
  | none => exact .error _
  | some owned =>
      dsimp only
      rw [owned.2]
      split
      · exact .error _
      · exact .ok owned.1

/-- Calls of one function in corresponding scopes get scopes that hold the same. -/
theorem callScope (meets : folding.Meets id id') {routine routine' : Routine}
    (same : folding.Routines skips routine routine') (arguments : List Value) :
    (coupling skips).Agree (folding.Scopes skips) (world.heap.callScope routine arguments id)
      (world'.heap.callScope routine' arguments id') := by
  have bindAll {scope scope' : Scope} (related : folding.Scopes skips scope scope')
      (names : List String) (values : List Value) :
      (coupling skips).Agree (folding.Scopes skips) (scope.bindAll names values)
        (scope'.bindAll names values) := by
    induction names generalizing scope scope' values with
    | nil => exact .ok related
    | cons name names induction =>
        cases values with
        | nil => exact .ok related
        | cons value values =>
            unfold Scope.bindAll
            rw [Scope.find?, Scope.find?, related.bindings]
            split
            · exact .error _
            · have bound : folding.Scopes skips (scope.bind ⟨name, value, false⟩)
                  (scope'.bind ⟨name, value, false⟩) :=
                { related with bindings := congrArg (List.cons _) related.bindings }
              exact induction bound values
  unfold Heap.callScope
  dsimp only
  rw [← same.code.parameters, ← same.code.name, spans.agrees.depth meets,
    spans.agrees.limits meets]
  split
  · exact .error _
  · split
    · exact .error _
    · have opened (depth : Nat) : folding.Scopes skips
          (world.heap.callOf routine.closure depth) (world'.heap.callOf routine'.closure depth) :=
        ⟨rfl, .some same.closure, spans.agrees.limits same.closure.meets, rfl⟩
      exact bindAll (opened _) _ _

end Spans

/-- The second run is in an extra scope when the first one opens a scope there, too. -/
theorem Spans.fill (spans : folding.Spans False world world') (extra : folding.hollow id id') :
    (folding.fill world.heap.nextScope id').Spans False
      (world.mapHeap (·.addScope (world.heap.childOf id))) world' where
  agrees := spans.agrees.fill extra
  covers := spans.covers.fill id' _
  ordered := spans.ordered.addScope (by
    rintro _ ⟨⟩
    exact spans.agrees.bound (.inr extra))
  ordered' := spans.ordered'
  outside := { spans.outside with }

/-- The step into two new scopes that hold the same, and out of them. -/
theorem opening (more : folding.Extends stage.known) (meets : folding.Meets stage.left stage.right)
    (spans : folding.Spans skips world world') {scope scope' : Scope} (depth : Nat)
    (related : folding.Scopes skips scope scope') :
    (coupling skips).Opening stage
      ⟨world.heap.nextScope, world'.heap.nextScope, depth,
        folding.pair world.heap.nextScope world'.heap.nextScope⟩ world world' scope scope' where
  left := rfl
  right := rfl
  declaring := .inr ⟨rfl, rfl⟩
  opened := ⟨_, .refl _, .inl (.inr ⟨rfl, rfl⟩), spans.addScope related⟩
  closed := by
    rintro later later' ⟨grown, larger, -, spanned⟩
    have extends_ := larger.trans (Extends.pair folding _ _)
    rw [spans.agrees.count]
    exact ⟨grown, extends_.trans more, extends_.meets meets,
      spanned.endScope (larger.pairs (.inr ⟨rfl, rfl⟩)) _⟩

theorem lawful (skips : Prop) : (coupling skips).Lawful where
  output := by
    rintro stage world world' ⟨folding, -, -, spans⟩
    exact spans.outside.output
  lookup := by
    rintro stage world world' ⟨folding, -, meets, spans⟩ name
    exact spans.lookup meets name
  limits := by
    rintro stage world world' ⟨folding, -, meets, spans⟩
    exact .inl (congrArg _ (spans.agrees.limits meets))
  assign := by
    rintro stage world world' value value' ⟨folding, more, meets, spans⟩ related name
    obtain rfl := values_iff.mp related
    apply (spans.assignable meets name).mono
    intro owner owner' paired
    exact ⟨folding, more, meets, spans.rebind paired _⟩
  elements := by
    rintro stage world world' id _ ⟨folding, -, -, spans⟩ rfl
    rw [forall₂_values_iff, Heap.elements, spans.agrees.team?, Heap.elements]
  setElement := by
    rintro stage world world' id _ value value' ⟨folding, more, meets, spans⟩ rfl related position
    obtain rfl := values_iff.mp related
    exact ⟨folding, more, meets, spans.agrees.modifyTeam _ _, spans.covers.of_sizes rfl rfl,
      spans.ordered.modifyTeam _ _, spans.ordered'.modifyTeam _ _, { spans.outside with }⟩
  print := by
    rintro stage world world' ⟨folding, more, meets, spans⟩ line
    exact ⟨folding, more, meets, { spans with outside := spans.outside.print line }⟩
  clock := by
    rintro stage world world' ⟨folding, more, meets, spans⟩
    obtain ⟨same, outside⟩ := spans.outside.clock
    exact ⟨same, folding, more, meets, { spans with outside }⟩
  chance := by
    rintro stage world world' ⟨folding, more, meets, spans⟩
    obtain ⟨same, outside⟩ := spans.outside.chance
    exact ⟨same, folding, more, meets, { spans with outside }⟩
  routine := by
    rintro stage world world' id _ ⟨folding, -, -, spans⟩ rfl
    have routines := spans.agrees.routines id
    generalize world.heap.routine? id = routine at routines ⊢
    generalize world'.heap.routine? id = routine' at routines ⊢
    cases routines with
    | none => exact .none
    | some related => exact .some related.code
  child := by
    rintro stage world world' bindings declaring ⟨folding, more, meets, spans⟩ -
    refine ⟨⟨world.heap.nextScope, world'.heap.nextScope, stage.depth,
      folding.pair world.heap.nextScope world'.heap.nextScope⟩, rfl,
      opening more meets spans stage.depth ?_⟩
    exact ⟨rfl, .some (.inl (more.pairs declaring)), spans.agrees.limits meets,
      spans.agrees.depth meets⟩
  call := by
    rintro stage world world' id _ routine routine' arguments arguments'
      ⟨folding, more, meets, spans⟩ rfl found found' related
    obtain rfl := forall₂_values_iff.mp related
    have routines := spans.agrees.routines id
    rw [found, found'] at routines
    cases routines with
    | some same =>
        apply (spans.callScope meets same arguments).mono
        intro scope scope' scopes
        exact ⟨⟨_, _, stage.depth + 1, _⟩, rfl, opening more meets spans _ scopes⟩
  binds := by
    rintro stage world world' declaring ⟨folding, more, -, spans⟩ name
    exact spans.agrees.binds (more.pairs declaring) name
  bind := by
    rintro stage world world' name value value' declaring ⟨folding, more, meets, spans⟩ - related
      constant
    obtain rfl := values_iff.mp related
    exact ⟨folding, more, meets, spans.rebind (more.pairs declaring) _⟩
  newTeam := by
    rintro stage world world' elements elements' ⟨folding, more, meets, spans⟩ related name
    obtain rfl : elements = elements' := Array.toList_inj.mp (forall₂_values_iff.mp related)
    have same : world.heap.nextTeam = world'.heap.nextTeam := by
      rw [Heap.nextTeam, Heap.nextTeam, spans.agrees.teams]
    exact ⟨same, folding, more, meets, spans.agrees.addTeam _, spans.covers.of_sizes rfl rfl,
      spans.ordered.addTeam _, spans.ordered'.addTeam _, { spans.outside with }⟩
  newRoutine := by
    rintro stage world world' declaring ⟨folding, more, meets, spans⟩ name parameters body
    have same : world.heap.nextRoutine = world'.heap.nextRoutine := by
      rw [Heap.nextRoutine, Heap.nextRoutine, spans.agrees.count]
    exact ⟨same, folding, more, meets,
      spans.addRoutine (.inl (more.pairs declaring)) name parameters body⟩

/-! ### Steps of one of the runs, or into scopes that skip an extra one -/

section Scopes

variable {α β : Type} {results : α → β → Prop}

/-- The second run is in an extra scope. -/
theorem inHollow (paired : stage.known.pairs stage.left stage.right) {left : Eval α}
    {right : ScopeId → Eval β}
    (inside : ∀ inner : Stage, inner.left = stage.left → inner.depth = stage.depth →
      (coupling skips).Coupled inner results left (right inner.right)) :
    (coupling skips).Coupled stage results left (Eval.inChild stage.right right) := by
  rintro world world' ⟨folding, more, meets, spans⟩
  have known := more.pairs paired
  have ended := inside
    ⟨stage.left, world'.heap.nextScope, stage.depth,
      folding.extra stage.left world'.heap.nextScope⟩ rfl rfl world _
    ⟨_, .refl _, .inr (.inr ⟨rfl, rfl⟩), spans.addHollow known⟩
  have closed {later later' : World} {grown : Folding}
      (larger : grown.Extends (folding.extra stage.left world'.heap.nextScope))
      (spanned : grown.Spans skips later later') (routines : Nat) :
      Joined skips stage later (later'.endScope world'.heap.nextScope routines) := by
    have extended := larger.trans (Extends.extra folding _ _)
    rw [spanned.endHollow (larger.hollow (.inr ⟨rfl, rfl⟩))]
    exact ⟨grown, extended.trans more, extended.meets meets, spanned⟩
  generalize left world = leftEnd at ended ⊢
  generalize rightEnded : right world'.heap.nextScope _ = rightEnd at ended
  cases ended with
  | ok related worlds =>
      obtain ⟨grown, larger, -, spanned⟩ := worlds
      rw [Eval.inChild, Eval.inScope_of_ok rightEnded]
      exact .ok related (closed larger spanned _)
  | error possible worlds =>
      obtain ⟨grown, larger, -, spanned⟩ := worlds
      rw [Eval.inChild, Eval.inScope_of_error rightEnded]
      exact .error possible (closed larger spanned _)
  | spared impossible => exact impossible.elim

/-- Scopes inside corresponding ones, where extra scopes may come in between. -/
theorem inChild_skipping {left : ScopeId → Eval α} {right : ScopeId → Eval β}
    (inside : ∀ inner : Stage, inner.depth = stage.depth →
      inner.known.pairs inner.left inner.right →
      (coupling True).Coupled inner results (left inner.left) (right inner.right)) :
    (coupling True).Coupled stage results (Eval.inChild stage.left left)
      (Eval.inChild stage.right right) := by
  rintro world world' ⟨folding, more, meets, spans⟩
  have opened : folding.Scopes True (world.heap.childOf stage.left)
      (world'.heap.childOf stage.right) :=
    ⟨rfl, .some (meets.imp_right fun extra => ⟨trivial, extra⟩), spans.agrees.limits meets,
      spans.agrees.depth meets⟩
  exact Coupling.Coupled.inScope (opening more meets spans stage.depth opened)
    (inside _ rfl (.inr ⟨rfl, rfl⟩))

end Scopes

/-- A world is the same as itself. -/
theorem Spans.refl {world : World} (ordered : world.heap.Ordered) :
    (self world.heap).Spans skips world world where
  agrees := self_agrees ordered
  covers := self_covers world.heap
  ordered := ordered
  ordered' := ordered
  outside := .refl world

end Folding

end Avenger
