import Avenger.Proofs.Folding.Joined
import Avenger.Proofs.Refusal
import Mathlib.Order.Compare

/-!
# A multiverse as a chain of branches

Once its discriminant has a value, a `multiverse` does the same as a chain of branches that compare
this value with those of the clauses, around which an `endGame` ends.  Both of them evaluate the
tests of the clauses in turn to choose a body, which `Clause.choose` describes, and both run that
body in a new scope.  The multiverse opens its scope before the tests and the chain afterwards.
-/

namespace Avenger

/-! ### Equality in both directions -/

open Float.Model UnpackedFloat in
theorem Number.compare_swap (left right : UnpackedFloat) :
    right.compare left = (left.compare right).map Ordering.swap := by
  cases left with
  | notANumber => cases right <;> rfl
  | infinity sign =>
      cases right with
      | infinity sign' => cases sign <;> cases sign' <;> rfl
      | notANumber => rfl
      | zero | finite => cases sign <;> rfl
  | zero sign =>
      cases right with
      | notANumber | zero => rfl
      | infinity sign' | finite sign' => cases sign' <;> rfl
  | finite sign mantissa exponent =>
      cases right with
      | notANumber => rfl
      | infinity sign' => cases sign' <;> rfl
      | zero => cases sign <;> rfl
      | finite sign' mantissa' exponent' =>
          have exponents : Ord.compare exponent' exponent = (Ord.compare exponent exponent').swap :=
            Std.OrientedCmp.eq_swap
          have mantissas : Ord.compare mantissa' mantissa = (Ord.compare mantissa mantissa').swap :=
            Std.OrientedCmp.eq_swap
          cases sign <;> cases sign' <;>
            simp [UnpackedFloat.compare, exponents, mantissas, Ordering.swap_then]

theorem Number.beq_comm (left right : Float) : (left == right) = (right == left) := by
  show (left.toModel.unpack.compare right.toModel.unpack == some .eq) =
    (right.toModel.unpack.compare left.toModel.unpack == some .eq)
  rw [compare_swap left.toModel.unpack]
  rcases left.toModel.unpack.compare right.toModel.unpack with _ | order
  · rfl
  · cases order <;> rfl

/-- A number or a text equals a value of its kind if that value is the same as it. -/
theorem Value.compare_equal (value candidate : Value)
    (plain : value.kind = .number ∨ value.kind = .text) :
    Value.compare .equal value candidate =
      if candidate.kind ≠ value.kind then .null else .boolean (candidate.same value) := by
  cases value with
  | number left =>
      cases candidate with
      | number right => exact congrArg Value.boolean (Number.beq_comm left right)
      | _ => rfl
  | text left =>
      cases candidate with
      | text right => exact congrArg Value.boolean BEq.comm
      | _ => rfl
  | _ => simp [Value.kind] at plain

/-! ### The chain -/

/-- The expression that a number or a text is written as. -/
def Value.literal : Value → Expr
  | .number value => .number value
  | .text value => .text value
  | _ => .null

/-- A clause that is chosen when a value equals that of the test. -/
def Clause.comparing (value : Value) : Clause → Clause
  | .mk test body => .mk (.comparison .equal value.literal test) body

/-- The chain of branches that compares a value with those of clauses in turn.  Without clauses it
is the block of the fallback. -/
def Stmt.chain (line : Nat) (value : Value) (fallback : List Stmt) : List Clause → Stmt
  | [] => .mk line (.branch (.number 1) fallback [] none)
  | .mk test body :: rest =>
      .mk line (.branch (.comparison .equal value.literal test) body (rest.map (.comparing value))
        (some fallback))

/-- A flow that an `endGame` does not get out of. -/
def Flow.absorbed : Flow → Flow
  | .endGame => .normal .null
  | flow => flow

/-! ### The choice of a body -/

/-- Whether a test gives a value.  A value of another kind is refused. -/
def Expr.gives (invoke : Invoke) (refusal : Value.Kind → Fault) (value : Value) (scope : ScopeId)
    (test : Expr) : Eval Bool := do
  let candidate ← test.eval invoke scope
  if candidate.kind ≠ value.kind then Eval.fail (refusal candidate.kind)
  else return candidate.same value

/-- The body of the first clause whose test gives a value, or the fallback.  No test after that one
is evaluated. -/
def Clause.choose (invoke : Invoke) (refusal : Value.Kind → Fault) (value : Value)
    (fallback : List Stmt) : List Clause → ScopeId → Eval (List Stmt)
  | [], _ => return fallback
  | .mk test body :: rest, scope => do
      if ← test.gives invoke refusal value scope then return body
      else Clause.choose invoke refusal value fallback rest scope

/-- To choose a body and then run it in a new scope. -/
def Clause.chooseFirst (invoke : Invoke) (line : Nat) (refusal : Value.Kind → Fault)
    (value : Value) (fallback : List Stmt) (clauses : List Clause) (scope : ScopeId) : Eval Flow :=
  Eval.atLine line do
    let body ← Clause.choose invoke refusal value fallback clauses scope
    Eval.inChild scope fun inner => Stmt.execList invoke body inner .null

/-- To choose a body and run it, both in a new scope. -/
def Clause.chooseInside (invoke : Invoke) (line : Nat) (refusal : Value.Kind → Fault)
    (value : Value) (fallback : List Stmt) (clauses : List Clause) (scope : ScopeId) : Eval Flow :=
  Eval.atLine line <| Eval.inChild scope fun inner => do
    let body ← Clause.choose invoke refusal value fallback clauses inner
    Stmt.execList invoke body inner .null

/-- The fault of a comparison of two kinds of values: it is no condition. -/
def Clause.incomparable (_ : Value.Kind) : Fault := .conditionKind .ifWorthy .null

section Choice

variable {invoke : Invoke} {value : Value}

/-- A comparison with a number or a text is a condition unless the kinds differ. -/
theorem Expr.test_comparing (plain : value.kind = .number ∨ value.kind = .text) (test : Expr)
    (scope : ScopeId) :
    (Expr.comparison .equal value.literal test).test invoke .ifWorthy scope =
      test.gives invoke Clause.incomparable value scope := by
  have literal : value.literal.eval invoke scope = pure value := by
    cases value with
    | number | text => rfl
    | _ => simp [Value.kind] at plain
  rw [Expr.test, Expr.eval, literal, pure_bind, bind_assoc]
  refine bind_congr fun candidate => ?_
  rw [pure_bind, Value.compare_equal value candidate plain]
  by_cases mismatch : candidate.kind ≠ value.kind
  · rw [if_pos mismatch, if_pos mismatch]
    rfl
  · rw [if_neg mismatch, if_neg mismatch]
    rfl

variable (line : Nat) (fallback : List Stmt) (clauses : List Clause) (scope : ScopeId)

theorem Clause.execFirst_comparing (plain : value.kind = .number ∨ value.kind = .text) :
    Clause.execFirst invoke (clauses.map (.comparing value)) scope
        (Eval.inChild scope fun inner => Stmt.execList invoke fallback inner .null) = (do
      let body ← Clause.choose invoke incomparable value fallback clauses scope
      Eval.inChild scope fun inner => Stmt.execList invoke body inner .null) := by
  induction clauses with
  | nil => rfl
  | cons clause rest induction =>
      obtain ⟨test, body⟩ := clause
      rw [List.map_cons, Clause.comparing, Clause.execFirst, Clause.choose,
        Expr.test_comparing plain, bind_assoc, induction]
      refine bind_congr fun holds => ?_
      cases holds <;> rfl

theorem Clause.execMatching_eq :
    Clause.execMatching invoke value clauses scope (Stmt.execList invoke fallback scope .null) = (do
      let body ← Clause.choose invoke (.caseKind value.kind) value fallback clauses scope
      Stmt.execList invoke body scope .null) := by
  induction clauses with
  | nil => rfl
  | cons clause rest induction =>
      obtain ⟨test, body⟩ := clause
      rw [Clause.execMatching, Clause.choose, Expr.gives, bind_assoc, bind_assoc]
      refine bind_congr fun candidate => ?_
      by_cases mismatch : candidate.kind ≠ value.kind
      · rw [if_pos mismatch, if_pos mismatch]
        rfl
      · rw [if_neg mismatch, if_neg mismatch, induction, pure_bind]
        split <;> rfl

theorem Stmt.exec_chain (plain : value.kind = .number ∨ value.kind = .text) :
    (Stmt.chain line value fallback clauses).exec invoke scope =
      Clause.chooseFirst invoke line Clause.incomparable value fallback clauses scope := by
  cases clauses with
  | nil =>
      rw [Stmt.chain, Stmt.exec_block, Clause.chooseFirst, Clause.choose, pure_bind,
        Eval.atLine_inChild]
      simp only [Eval.atLine_execList]
  | cons clause rest =>
      rw [Clause.chooseFirst, ← Clause.execFirst_comparing fallback _ _ plain]
      obtain ⟨test, body⟩ := clause
      rw [Stmt.chain, Stmt.exec, Action.exec_branch, List.map_cons, Clause.comparing,
        Clause.execFirst]

theorem Stmt.exec_multiverse (discriminant : Expr) :
    (Stmt.mk line (.multiverse discriminant clauses fallback)).exec invoke scope = (do
      let value ← Eval.atLine line (discriminant.eval invoke scope)
      if value.kind ≠ .number ∧ value.kind ≠ .text then
        Eval.atLine line (Eval.fail (.discriminantKind value.kind))
      else
        let flow ← Clause.chooseInside invoke line (.caseKind value.kind) value fallback clauses
          scope
        return flow.absorbed) := by
  rw [Stmt.exec, Action.exec, Eval.atLine_bind]
  refine bind_congr fun value => ?_
  split
  · rfl
  · rw [Clause.chooseInside, Eval.atLine_bind]
    simp only [Clause.execMatching_eq]
    refine bind_congr fun flow => ?_
    cases flow <;> rfl

end Choice

/-! ### The fault of a refused test -/

/-- How a construct refuses the values of tests. -/
def Clause.report (invoke : Invoke) (value : Value) (clauses : List Clause)
    (refusal : Value.Kind → Fault) : Eval.Report where
  probe evaluation := ∃ (test : Expr) (body : List Stmt) (scope : ScopeId),
    .mk test body ∈ clauses ∧ evaluation = test.eval invoke scope
  refused kind := kind ≠ value.kind
  fault := refusal

section Naming

variable {invoke : Invoke} {value : Value} {clauses : List Clause}
  (refusal refusal' : Value.Kind → Fault)

theorem Expr.gives_renamed {test : Expr} {body : List Stmt} (known : .mk test body ∈ clauses)
    (scope : ScopeId) :
    Eval.Renamed (Clause.report invoke value clauses refusal)
      (Clause.report invoke value clauses refusal') none
      (test.gives invoke refusal value scope) (test.gives invoke refusal' value scope) := by
  refine .evaluating ⟨test, body, scope, known, rfl⟩ ⟨test, body, scope, known, rfl⟩
    fun candidate => ?_
  by_cases mismatch : candidate.kind ≠ value.kind
  · exact .inr ⟨⟨mismatch, if_pos mismatch⟩, mismatch, if_pos mismatch⟩
  · left
    rw [if_neg mismatch, if_neg mismatch]

theorem Clause.choose_renamed (fallback : List Stmt) (scope : ScopeId) {rest : List Clause}
    (known : rest ⊆ clauses) :
    Eval.Renamed (report invoke value clauses refusal) (report invoke value clauses refusal') none
      (choose invoke refusal value fallback rest scope)
      (choose invoke refusal' value fallback rest scope) := by
  induction rest with
  | nil => exact .refl _
  | cons clause rest induction =>
      obtain ⟨test, body⟩ := clause
      obtain ⟨here, later⟩ := List.cons_subset.mp known
      refine (Expr.gives_renamed refusal refusal' here scope).bind fun holds => ?_
      cases holds with
      | true => exact .refl _
      | false => exact induction later

variable (line : Nat) (fallback : List Stmt) (scope : ScopeId)

theorem Clause.chooseFirst_renamed :
    Eval.Renamed (report invoke value clauses refusal) (report invoke value clauses refusal')
      (some line) (chooseFirst invoke line refusal value fallback clauses scope)
      (chooseFirst invoke line refusal' value fallback clauses scope) := by
  refine .atLine ?_ line
  exact (choose_renamed refusal refusal' fallback scope (List.Subset.refl clauses)).bind
    fun _ => .refl _

theorem Clause.chooseInside_renamed :
    Eval.Renamed (report invoke value clauses refusal) (report invoke value clauses refusal')
      (some line) (chooseInside invoke line refusal value fallback clauses scope)
      (chooseInside invoke line refusal' value fallback clauses scope) := by
  refine .atLine (.inChild fun inner => ?_) line
  exact (choose_renamed refusal refusal' fallback inner (List.Subset.refl clauses)).bind
    fun _ => .refl _

end Naming

/-! ### The two runs in step -/

section Gradual

variable {invoke : Invoke} (gradual : ∀ id arguments caller, (invoke id arguments caller).Gradual)
  (refusal : Value.Kind → Fault) (value : Value)
include gradual

theorem Expr.gives_gradual (scope : ScopeId) (test : Expr) :
    (test.gives invoke refusal value scope).Gradual := by
  refine (Expr.eval_gradual gradual scope test).bind fun candidate => ?_
  split
  · exact .fail _
  · exact .pure _

theorem Clause.choose_gradual (fallback : List Stmt) (clauses : List Clause) (scope : ScopeId) :
    (choose invoke refusal value fallback clauses scope).Gradual := by
  induction clauses with
  | nil => exact .pure _
  | cons clause rest induction =>
      obtain ⟨test, body⟩ := clause
      refine (Expr.gives_gradual gradual refusal value scope test).bind fun holds => ?_
      cases holds with
      | true => exact .pure _
      | false => exact induction

end Gradual

/-- Changes make no function disappear. -/
theorem World.Leads.routines_le {world later : World} (leads : World.Leads world later) :
    world.heap.routines.size ≤ later.heap.routines.size := by
  by_contra! fewer
  obtain ⟨routine, found⟩ : ∃ routine,
      world.heap.routine? ⟨later.heap.routines.size⟩ = some routine :=
    ⟨_, Array.getElem?_eq_getElem fewer⟩
  exact Nat.lt_irrefl _ (Heap.lt_of_routine? (leads.keeps_routine found))

/-- When no function was made, all functions are defined in scopes that were there before. -/
theorem World.Leads.closures_old {world later : World} (leads : World.Leads world later)
    (ordered : world.heap.Ordered)
    (same : later.heap.routines.size = world.heap.routines.size) {id : RoutineId}
    {routine : Routine} (found : later.heap.routine? id = some routine) :
    routine.closure.index < world.heap.scopes.size := by
  have old : id.index < world.heap.routines.size := by
    rw [← same]
    exact Heap.lt_of_routine? found
  have kept := leads.keeps_routine (Array.getElem?_eq_getElem old)
  cases kept.symm.trans found
  exact ordered.closures (Array.getElem?_eq_getElem old)

/-- Worlds that are the same up to a renaming of scopes which keeps those of a heap.  If scopes keep
their bindings when they end, every scope is renamed.  Otherwise at least those are that a scope of
the heap or a function leads to. -/
def World.Renamed (start : Heap) (world world' : World) : Prop :=
  ∃ folding : Folding, folding.Extends (.self start) ∧
    folding.Agrees False world.heap world'.heap ∧ world.SameOutside world' ∧
    (world.retention = .keep → folding.Covers world.heap world'.heap)

namespace Folding

variable {stage : Stage} {skips : Prop} {invoke : Invoke} {depth : Nat}

theorem gives (calls : (coupling skips).Calls depth invoke invoke) (level : stage.depth = depth)
    (refusal : Value.Kind → Fault) (value : Value) (test : Expr) :
    (coupling skips).Coupled stage (· = ·) (test.gives invoke refusal value stage.left)
      (test.gives invoke refusal value stage.right) := by
  refine (Coupling.expression (lawful skips) calls level test).bind ?_ ?_
  · intro candidate
    split
    · exact .fail _
    · exact .pure _
  intro candidate candidate' candidates
  rw [values_iff.mp candidates]
  split
  · exact .fail _
  · exact .pure rfl

/-- Bodies are chosen alike in corresponding scopes. -/
theorem choose (calls : (coupling skips).Calls depth invoke invoke) (level : stage.depth = depth)
    (refusal : Value.Kind → Fault) (value : Value) (fallback : List Stmt) (clauses : List Clause) :
    (coupling skips).Coupled stage (· = ·)
      (Clause.choose invoke refusal value fallback clauses stage.left)
      (Clause.choose invoke refusal value fallback clauses stage.right) := by
  induction clauses with
  | nil => exact .pure rfl
  | cons clause rest induction =>
      obtain ⟨test, body⟩ := clause
      exact .branch (gives calls level refusal value test) (.pure body)
        (Clause.choose_gradual calls.gradual refusal value fallback rest stage.right) (.pure rfl)
        induction

/-- The scopes of a body end alike although only one of them was open during the tests.  If a test
has made a function and the body has not, then only the scope of the chain loses its bindings; but
no function is defined in it, so that it does not matter. -/
theorem Spans.close {start opened last last' : World} {folding : Folding} {id' : ScopeId}
    (spans : folding.Spans False last last') (more : folding.Extends (.self start.heap))
    (paired : folding.pairs opened.heap.nextScope id') (ordered : opened.heap.Ordered)
    (earlier : start.heap.scopes.size ≤ opened.heap.scopes.size)
    (before : World.Leads start opened) (after : World.Leads opened last) :
    World.Renamed start.heap (last.endScope opened.heap.nextScope opened.heap.routines.size)
      (last'.endScope id' start.heap.routines.size) := by
  have count := spans.agrees.count
  have retention := spans.outside.retention
  unfold World.endScope
  by_cases released : last.retention = .release ∧
      last.heap.routines.size = opened.heap.routines.size
  · rw [if_pos released]
    by_cases released' : last'.retention = .release ∧
        last'.heap.routines.size = start.heap.routines.size
    · rw [if_pos released']
      have cleared := spans.rebind paired fun _ => []
      exact ⟨folding, more, cleared.agrees, cleared.outside, fun _ => cleared.covers⟩
    · rw [if_neg released']
      have elsewhere (other : ScopeId) (apart : other ≠ opened.heap.nextScope) :
          (last.heap.clear opened.heap.nextScope).scope? other = last.heap.scope? other := by
        rw [Heap.clear, Heap.scope?_modifyScope, if_neg apart.symm]
      refine ⟨folding.below opened.heap.nextScope, ⟨?_, False.elim⟩, ?_, { spans.outside with }, ?_⟩
      · rintro id _ ⟨rfl, bound⟩
        exact ⟨more.pairs ⟨rfl, bound⟩, Nat.lt_of_lt_of_le bound earlier⟩
      · exact spans.agrees.below spans.ordered paired (after.closures_old ordered released.2)
          elsewhere (fun _ _ => rfl) rfl rfl rfl rfl
      · intro kept
        cases released.1.symm.trans kept
  · have open' : ¬ (last'.retention = .release ∧
        last'.heap.routines.size = start.heap.routines.size) := by
      rintro ⟨release, same⟩
      have first := before.routines_le
      have second := after.routines_le
      exact released ⟨retention.trans release, by omega⟩
    rw [if_neg released, if_neg open']
    exact ⟨folding, more, spans.agrees, spans.outside, fun _ => spans.covers⟩

/-- A body that one run runs in a new scope and the other one in a scope that is extra so far. -/
theorem body_endSame (calls : (coupling False).Calls 0 invoke invoke) (body : List Stmt)
    {folding : Folding} {id id' : ScopeId} {start opened opened' : World}
    (spans : folding.Spans False opened opened') (more : folding.Extends (.self start.heap))
    (extra : folding.hollow id id') (before : World.Leads start opened) :
    Eval.EndSame
      (fun last last' =>
        World.Renamed start.heap last (last'.endScope id' start.heap.routines.size))
      (Eval.inChild id (fun inner => Stmt.execList invoke body inner .null) opened)
      (Stmt.execList invoke body id' .null opened') := by
  let stage : Stage := ⟨opened.heap.nextScope, id', 0, folding.fill opened.heap.nextScope id'⟩
  let child := opened.mapHeap (·.addScope (opened.heap.childOf id))
  have begun : (coupling False).worlds stage child opened' :=
    ⟨stage.known, .refl _, .inl (.inr ⟨rfl, rfl⟩), spans.fill extra⟩
  have declaring : (coupling False).declaring stage := .inr ⟨rfl, rfl⟩
  have ran : (coupling False).Coupled stage (coupling False).Flows
      (Stmt.execList invoke body stage.left .null) (Stmt.execList invoke body stage.right .null) :=
    Coupling.statements (lawful False) calls body rfl declaring .null
  have ended := ran child opened' begun
  have grows := (Stmt.execList_gradual calls.gradual body stage.left .null) child
  have earlier : start.heap.scopes.size ≤ opened.heap.scopes.size := by
    by_contra! fewer
    have old : (Folding.self start.heap).pairs opened.heap.nextScope opened.heap.nextScope :=
      ⟨rfl, fewer⟩
    exact Nat.lt_irrefl _ (spans.agrees.bound (.inl (more.pairs old)))
  have closed {last last' : World} (after : World.Leads child last)
      (joined : Joined False stage last last') :
      World.Renamed start.heap
        (last.endScope opened.heap.nextScope opened.heap.routines.size)
        (last'.endScope id' start.heap.routines.size) := by
    obtain ⟨grown, larger, -, spanned⟩ := joined
    have old : grown.Extends (.self start.heap) :=
      ⟨fun paired => larger.pairs (.inl (more.pairs paired)), False.elim⟩
    exact spanned.close old (larger.pairs (.inr ⟨rfl, rfl⟩)) spans.ordered earlier before
      (.head (.scope opened _) after)
  generalize leftRan : Stmt.execList invoke body stage.left .null child = left at ended grows
  generalize Stmt.execList invoke body stage.right .null opened' = right at ended
  cases ended with
  | spared impossible => exact impossible.elim
  | ok flows joined =>
      rw [flows_iff.mp flows] at leftRan
      rw [Eval.inChild, Eval.inScope_of_ok leftRan]
      exact .ok _ (closed grows joined)
  | error possible joined =>
      rw [Eval.inChild, Eval.inScope_of_error leftRan]
      exact .error _ (closed grows joined)

/-- Whether the scope of the chosen body is opened before the tests or after them, the runs end in
the same way. -/
theorem choice_endSame (calls : (coupling False).Calls 0 invoke invoke) (refusal : Value.Kind → Fault)
    (value : Value) (line : Nat) (fallback : List Stmt) (clauses : List Clause) {scope : ScopeId}
    {start : World} (ordered : start.heap.Ordered) (has : start.heap.Has (.scope scope)) :
    Eval.EndSame (World.Renamed start.heap)
      (Clause.chooseFirst invoke line refusal value fallback clauses scope start)
      (Clause.chooseInside invoke line refusal value fallback clauses scope start) := by
  let inner := start.heap.nextScope
  let stage : Stage := ⟨scope, inner, 0, (self start.heap).extra scope inner⟩
  let child := start.mapHeap (·.addScope (start.heap.childOf scope))
  have begun : (coupling False).worlds stage start child :=
    ⟨stage.known, .refl _, .inr (.inr ⟨rfl, rfl⟩), (Spans.refl ordered).addHollow ⟨rfl, has⟩⟩
  have tests : (coupling False).Coupled stage (· = ·)
      (Clause.choose invoke refusal value fallback clauses stage.left)
      (Clause.choose invoke refusal value fallback clauses stage.right) :=
    choose calls rfl refusal value fallback clauses
  have tested := tests start child begun
  have before := Clause.choose_gradual calls.gradual refusal value fallback clauses scope start
  refine Eval.EndSame.atLine ?_ line
  generalize leftChosen : Clause.choose invoke refusal value fallback clauses stage.left start =
    left at tested
  generalize rightChosen : Clause.choose invoke refusal value fallback clauses stage.right child =
    right at tested
  cases tested with
  | spared impossible => exact impossible.elim
  | error possible joined =>
      obtain ⟨folding, more, -, spans⟩ := joined
      have old := more.trans (Extends.extra _ scope inner)
      rw [Eval.bind_of_error leftChosen, Eval.inChild,
        Eval.inScope_of_error (Eval.bind_of_error rightChosen),
        spans.endHollow (more.hollow (.inr ⟨rfl, rfl⟩))]
      exact .error _ ⟨folding, old, spans.agrees, spans.outside, fun _ => spans.covers⟩
  | ok same joined =>
      obtain rfl := same
      obtain ⟨folding, more, -, spans⟩ := joined
      rw [Eval.bind_of_ok leftChosen]
      refine Eval.EndSame.inScope ?_ id
      rw [Eval.bind_of_ok rightChosen]
      rw [leftChosen] at before
      exact body_endSame calls _ spans (more.trans (Extends.extra _ scope inner))
        (more.hollow (.inr ⟨rfl, rfl⟩)) before

/-- An expression leaves a heap behind that is in order and still has the scope. -/
theorem expression_keeps (calls : (coupling False).Calls 0 invoke invoke) {expression : Expr} {value : Value}
    {scope : ScopeId} {world later : World} (ordered : world.heap.Ordered)
    (has : world.heap.Has (.scope scope))
    (evaluated : expression.eval invoke scope world = .ok value later) :
    later.heap.Ordered ∧ later.heap.Has (.scope scope) := by
  let stage : Stage := ⟨scope, scope, 0, .self world.heap⟩
  have begun : (coupling False).worlds stage world world :=
    ⟨.self world.heap, .refl _, .inl ⟨rfl, has⟩, .refl ordered⟩
  have coupled : (coupling False).Coupled stage (coupling False).Values
      (expression.eval invoke stage.left) (expression.eval invoke stage.right) :=
    Coupling.expression (lawful False) calls rfl expression
  have ended := coupled world world begun
  rw [evaluated] at ended
  cases ended with
  | ok related joined =>
      obtain ⟨folding, -, meets, spans⟩ := joined
      exact ⟨spans.ordered, spans.agrees.bound meets⟩

end Folding

/-- Once its discriminant has a number or a text as its value, a multiverse does the same as the
chain of comparisons with this value: it ends in the same way in worlds that are the same up to the
names of new scopes.  Only when a test gives a value of another kind, after which the chain fails
because a comparison is no condition, the multiverse tells the two kinds. -/
theorem Stmt.multiverse_as_chain (line : Nat) (discriminant : Expr) (clauses : List Clause)
    (fallback : List Stmt) (calls : Nat) {scope : ScopeId} {world start : World} {value : Value}
    (ordered : world.heap.Ordered) (has : world.heap.Has (.scope scope))
    (plain : value.kind = .number ∨ value.kind = .text)
    (evaluated : discriminant.eval (invokeWithin calls) scope world = .ok value start) :
    Eval.EndAlike (Clause.report (invokeWithin calls) value clauses Clause.incomparable)
      (Clause.report (invokeWithin calls) value clauses (.caseKind value.kind)) line
      (World.Renamed start.heap)
      (do
        let flow ← (Stmt.chain line value fallback clauses).exec (invokeWithin calls) scope
        return flow.absorbed)
      start
      ((Stmt.mk line (.multiverse discriminant clauses fallback)).exec (invokeWithin calls) scope)
      world := by
  have inStep : (Folding.coupling False).Calls 0 (invokeWithin calls) (invokeWithin calls) :=
    .same (Folding.lawful False) trivial 0 calls
  obtain ⟨ordered, has⟩ := Folding.expression_keeps inStep ordered has evaluated
  have same (refusal : Value.Kind → Fault) :=
    (Folding.choice_endSame inStep refusal value line fallback clauses ordered has).read Flow.absorbed
  rw [Stmt.exec_chain line fallback clauses scope plain, Stmt.exec_multiverse]
  refine .after (Eval.atLine_of_ok line evaluated) ?_
  have fits : ¬ (value.kind ≠ .number ∧ value.kind ≠ .text) := by
    rintro ⟨number, text⟩
    exact plain.elim number text
  rw [if_neg fits]
  refine .of_renamed ?_ (.bind (Clause.chooseFirst_renamed _ _ line fallback scope) fun _ => .refl _)
    (.bind (Clause.chooseInside_renamed _ _ line fallback scope) fun _ => .refl _) (same _) (same _)
  intro kind kind' equal
  injection equal

/-- A function that is made in the chosen body keeps its scope, and an `endGame` only leaves the
multiverse. -/
theorem Stmt.multiverse_as_chain_capture :
    let world : World := (World.initial (Readings.seeded 0 0) .release).mapHeap
      (·.addScope (Heap.root .standard))
    let clauses : List Clause :=
      [.mk (.text "a") [], .mk (.text "b") [.mk 2 (.assemble "next" [] []), .mk 3 .endGame]]
    ∃ later later',
      (do
        let flow ← (Stmt.chain 1 (.text "b") [] clauses).exec (invokeWithin 1) ⟨0⟩
        return flow.absorbed : Eval Flow) world = .ok (.normal .null) later ∧
        (Stmt.mk 1 (.multiverse (.text "b") clauses [])).exec (invokeWithin 1) ⟨0⟩ world =
          .ok (.normal .null) later' ∧
        World.Renamed world.heap later later' := by
  intro world clauses
  have ordered : world.heap.Ordered := Heap.Ordered.empty.addScope nofun
  have evaluated : (Expr.text "b").eval (invokeWithin 1) ⟨0⟩ world = .ok (.text "b") world := rfl
  have alike := Stmt.multiverse_as_chain 1 (.text "b") clauses [] 1 ordered
    (Nat.zero_lt_one : world.heap.Has (.scope ⟨0⟩)) (.inr rfl) evaluated
  obtain ⟨last, ran⟩ : ∃ last, (Stmt.mk 1 (.multiverse (.text "b") clauses [])).exec
      (invokeWithin 1) ⟨0⟩ world = .ok (.normal .null) last := ⟨_, rfl⟩
  cases alike with
  | ok ended ended' related =>
      cases ended'.symm.trans ran
      exact ⟨_, _, ended, ended', related⟩
  | error ended ended' => cases ended'.symm.trans ran
  | refused refuses refuses' => cases refuses'.failed.symm.trans ran

end Avenger
