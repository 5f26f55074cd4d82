import Avenger.Proofs.Folding.Joined
import Avenger.Proofs.Refusal

/-!
# A loop with a header as a loop with a condition

`wakandaFor (header; condition; modification) { body }` does the same as
`ifWorthy (1) { header  fightUntil (condition) { ifWorthy (1) { body }  modification; } }`.  The
second form opens one more scope in each turn, which stays empty.  First both forms are brought
to one shape, by the laws of labels; then their runs are followed in step.
-/

namespace Avenger

/-- A loop with a header, written with a loop that has a condition only. -/
def Stmt.forAsWhile (line : Nat) (header : Stmt) (condition modification : Expr)
    (body : List Stmt) : Stmt :=
  .mk line (.branch (.number 1)
    [header, .mk line (.loopWhile condition
      [.mk line (.branch (.number 1) body [] none), .mk line (.expression modification)])]
    [] none)

/-- A flow without the value that the last statement has given. -/
def Flow.forget : Flow → Flow
  | .normal _ => .normal .null
  | flow => flow

namespace Loop

variable (invoke : Invoke)

/-- A turn of a loop with a header: the body and, unless it leaves the loop, the modification. -/
def pass (body : List Stmt) (modification : Expr) (outer : ScopeId) : Eval Flow := do
  match ← Eval.inChild outer fun inner => Stmt.execList invoke body inner .null with
  | .normal _ =>
      let _ ← modification.eval invoke outer
      return .normal .null
  | flow => return flow

/-- The turns of a loop on a line in a scope. -/
def turns (line : Nat) (construct : Construct) (condition : Expr) (turn : ScopeId → Eval Flow)
    (outer : ScopeId) : Eval Flow :=
  Eval.atLine line do
    let limits ← Eval.readHeap (·.limits outer)
    conditional limits.iterations (condition.test invoke construct outer) (turn outer)
      limits.iterations

/-- A loop in a scope of its own, after a header that is run there, too. -/
def headed (line : Nat) (construct : Construct) (header : Stmt) (condition : Expr)
    (turn : ScopeId → Eval Flow) (scope : ScopeId) : Eval Flow :=
  Eval.inChild scope fun outer => do
    match ← header.exec invoke outer with
    | .normal _ => turns invoke line construct condition turn outer
    | flow => return flow

section Shape

variable {invoke} {limit : Nat} {test : Eval Bool} {turn turn' : Eval Flow}

/-- A loop does not use the values that its turns give. -/
theorem conditional_forget (left : Nat) :
    conditional limit test (do return (← turn).forget) left = conditional limit test turn left := by
  induction left with
  | zero => rfl
  | succ left induction =>
      unfold conditional
      refine bind_congr fun goes => ?_
      cases goes with
      | false => rfl
      | true =>
          simp only [if_true, bind_assoc, pure_bind]
          refine bind_congr fun flow => ?_
          cases flow with
          | normal value => exact induction
          | snap | endGame => rfl

/-- Turns that are the same once they are labelled make loops that are. -/
theorem atLine_conditional {line : Nat} (same : Eval.atLine line turn = Eval.atLine line turn')
    (left : Nat) :
    Eval.atLine line (conditional limit test turn left) =
      Eval.atLine line (conditional limit test turn' left) := by
  induction left with
  | zero => rfl
  | succ left induction =>
      unfold conditional
      rw [Eval.atLine_bind, Eval.atLine_bind]
      refine bind_congr fun goes => ?_
      cases goes with
      | false => rfl
      | true =>
          simp only [if_true]
          rw [Eval.atLine_bind, Eval.atLine_bind, same]
          refine bind_congr fun flow => ?_
          cases flow with
          | normal value => exact induction
          | snap | endGame => rfl

end Shape

end Loop

/-! ### The common shape -/

section Shape

variable {invoke : Invoke} (line : Nat) (body : List Stmt) (modification : Expr)

theorem Loop.pass_eq (scope : ScopeId) :
    Loop.pass invoke body modification scope = (do
      let flow ← (do
        match ← Eval.inChild scope fun inner => Stmt.execList invoke body inner .null with
        | .normal value =>
            let _ ← modification.eval invoke scope
            return .normal value
        | flow => return flow : Eval Flow)
      return flow.forget) := by
  rw [Loop.pass, bind_assoc]
  refine bind_congr fun flow => ?_
  cases flow with
  | normal value =>
      dsimp only
      rw [bind_assoc]
      rfl
  | snap | endGame => rfl

/-- The loop with a header. -/
theorem Stmt.exec_loopFor (header : Stmt) (condition : Expr) (scope : ScopeId) :
    (Stmt.mk line (.loopFor header condition modification body)).exec invoke scope =
      Loop.headed invoke line .wakandaFor header condition (Loop.pass invoke body modification)
        scope := by
  rw [Stmt.exec, Action.exec, Eval.atLine_inChild, Loop.headed]
  congr 1
  funext outer
  rw [Eval.atLine_bind, Eval.atLine_exec]
  refine bind_congr fun flow => ?_
  cases flow with
  | snap | endGame => rfl
  | normal value =>
      dsimp only
      rw [Loop.turns, Loop.pass_eq]
      refine congrArg (Eval.atLine line) (bind_congr fun limits => ?_)
      exact (Loop.conditional_forget _).symm

/-- The turns of the other form of the loop. -/
theorem Loop.turns_desugared (condition : Expr) (outer : ScopeId) :
    (Stmt.mk line (.loopWhile condition
        [.mk line (.branch (.number 1) body [] none), .mk line (.expression modification)])).exec
          invoke outer =
      Loop.turns invoke line .fightUntil condition
        (fun outer => Eval.inChild outer (Loop.pass invoke body modification)) outer := by
  rw [Stmt.exec, Action.exec, Loop.turns, Eval.atLine_bind, Eval.atLine_bind]
  refine bind_congr fun limits => ?_
  rw [← Loop.conditional_forget]
  refine Loop.atLine_conditional ?_ _
  have inside (scope : ScopeId) : Eval.atLine line (do
      return (← Stmt.execList invoke [.mk line (.branch (.number 1) body [] none),
        .mk line (.expression modification)] scope .null).forget) =
      Eval.atLine line (Loop.pass invoke body modification scope) := by
    rw [Loop.pass, Stmt.execList, Stmt.exec_block, bind_assoc, Eval.atLine_bind, Eval.atLine_bind]
    refine bind_congr fun flow => ?_
    cases flow with
    | snap | endGame => rfl
    | normal value =>
        dsimp only
        rw [Stmt.execList, Stmt.exec, Action.exec, bind_assoc, Eval.atLine_bind,
          Eval.atLine_atLine]
        simp only [Eval.atLine_bind, bind_assoc]
        rfl
  rw [Eval.inChild, Eval.inScope_bind_pure, Eval.atLine_inScope, Eval.inChild,
    Eval.atLine_inScope]
  congr 1
  funext scope
  exact inside scope

theorem Stmt.exec_forAsWhile (header : Stmt) (condition : Expr) (scope : ScopeId) :
    (Stmt.forAsWhile line header condition modification body).exec invoke scope =
      Loop.headed invoke line .fightUntil header condition
        (fun outer => Eval.inChild outer (Loop.pass invoke body modification)) scope := by
  rw [Stmt.forAsWhile, Stmt.exec_block, Loop.headed]
  congr 1
  funext outer
  rw [Stmt.execList]
  refine bind_congr fun flow => ?_
  cases flow with
  | snap | endGame => rfl
  | normal value =>
      dsimp only
      rw [Stmt.execList, Loop.turns_desugared]
      have whole (run : Eval Flow) : (run >>= fun flow => match flow with
          | .normal value => Stmt.execList invoke [] outer value
          | flow => pure flow) = run := by
        refine (bind_congr fun flow => ?_).trans (bind_pure run)
        cases flow <;> rfl
      exact whole _

end Shape

/-! ### The name of the loop in an error -/

/-- How a loop refuses a condition that is neither a number nor a truth value. -/
def Loop.report (invoke : Invoke) (condition : Expr) (construct : Construct) : Eval.Report where
  probe evaluation := ∃ outer, evaluation = condition.eval invoke outer
  refused kind := kind ≠ .number ∧ kind ≠ .boolean
  fault := .conditionKind construct

section Naming

variable {invoke : Invoke} {condition : Expr} (construct construct' : Construct)

theorem Loop.test_renamed (outer : ScopeId) :
    Eval.Renamed (report invoke condition construct) (report invoke condition construct') none
      (condition.test invoke construct outer) (condition.test invoke construct' outer) := by
  refine .evaluating ⟨outer, rfl⟩ ⟨outer, rfl⟩ fun value => ?_
  cases value with
  | number _ | boolean _ => exact .inl rfl
  | _ => exact .inr ⟨⟨⟨nofun, nofun⟩, rfl⟩, ⟨nofun, nofun⟩, rfl⟩

theorem Loop.conditional_renamed {report report' : Eval.Report} {limit : Nat}
    {test test' : Eval Bool} (turn : Eval Flow)
    (tests : Eval.Renamed report report' none test test') (left : Nat) :
    Eval.Renamed report report' none (conditional limit test turn left)
      (conditional limit test' turn left) := by
  induction left with
  | zero => exact tests.bind fun _ => .refl _
  | succ left induction =>
      refine tests.bind fun goes => ?_
      cases goes with
      | false => exact .refl _
      | true =>
          refine (Eval.Renamed.refl turn).bind fun flow => ?_
          cases flow with
          | normal _ => exact induction
          | snap _ | endGame => exact .refl _

theorem Loop.headed_renamed (line : Nat) (header : Stmt) (turn : ScopeId → Eval Flow)
    (scope : ScopeId) :
    Eval.Renamed (report invoke condition construct) (report invoke condition construct')
      (some line) (headed invoke line construct header condition turn scope)
      (headed invoke line construct' header condition turn scope) := by
  refine .inChild fun outer => (Eval.Renamed.refl _).bind fun flow => ?_
  cases flow with
  | snap _ | endGame => exact .refl _
  | normal _ =>
      refine Eval.Renamed.atLine ((Eval.Renamed.refl _).bind fun limits => ?_) line
      exact conditional_renamed _ (test_renamed construct construct' outer) _

end Naming

/-! ### The two runs in step -/

/-- Worlds that are the same up to a renaming of scopes which keeps those of a heap, and, if
`skips` is true, up to extra empty scopes. -/
def World.Folded (skips : Prop) (start : Heap) (world world' : World) : Prop :=
  ∃ folding : Folding, folding.Extends (.self start) ∧ folding.Spans skips world world'

namespace Folding

variable {stage : Stage} {invoke : Invoke} {depth : Nat}

/-- A turn in an extra scope does the same. -/
theorem pass (calls : (coupling True).Calls depth invoke invoke) (level : stage.depth = depth)
    (paired : stage.known.pairs stage.left stage.right) (body : List Stmt)
    (modification : Expr) :
    (coupling True).Coupled stage (coupling True).Flows
      (Loop.pass invoke body modification stage.left)
      (Eval.inChild stage.right (Loop.pass invoke body modification)) := by
  have lawful := lawful True
  refine inHollow paired fun inner same deep => ?_
  have level : inner.depth = depth := deep.trans level
  rw [← same]
  refine Coupling.Coupled.bind (inChild_skipping fun block deeper declaring =>
    Coupling.statements lawful calls body (deeper.trans level) declaring .null) ?_ ?_
  · intro flow
    cases flow <;> simp [Expr.eval_gradual calls.gradual]
  intro flow flow' flows
  cases flows with
  | snap related => exact .pure (.snap related)
  | endGame => exact .pure .endGame
  | normal _ =>
      have modified : (coupling True).Coupled inner (coupling True).Values
          (modification.eval invoke inner.left) (modification.eval invoke inner.right) :=
        Coupling.expression lawful calls level modification
      exact modified.map fun _ => Flow.Alike.normal .null

theorem headed (calls : (coupling True).Calls depth invoke invoke) (level : stage.depth = depth)
    (paired : stage.known.pairs stage.left stage.right) (line : Nat) (construct : Construct)
    (header : Stmt) (condition modification : Expr) (body : List Stmt) :
    (coupling True).Coupled stage (coupling True).Flows
      (Loop.headed invoke line construct header condition
        (Loop.pass invoke body modification) stage.left)
      (Loop.headed invoke line construct header condition
        (fun outer => Eval.inChild outer (Loop.pass invoke body modification)) stage.right) := by
  have lawful := lawful True
  refine Coupling.inChild lawful paired fun outer deep declaring => ?_
  have level : outer.depth = depth := deep.trans level
  have turn : (Eval.inChild outer.right (Loop.pass invoke body modification)).Gradual := by
    refine .inChild _ fun inner => Eval.Gradual.bind (.inChild _ fun block =>
      Stmt.execList_gradual calls.gradual body block .null) fun flow => ?_
    cases flow <;> simp [Expr.eval_gradual calls.gradual]
  have test := condition.test_gradual calls.gradual construct outer.right
  have turns (limits : Limits) : (Loop.conditional limits.iterations
      (condition.test invoke construct outer.right)
      (Eval.inChild outer.right (Loop.pass invoke body modification))
      limits.iterations).Gradual :=
    Loop.conditional_gradual test turn _
  refine (Coupling.statement lawful calls header level declaring).bind ?_ ?_
  · intro flow
    cases flow with
    | normal value => exact .atLine line ((Eval.Gradual.readHeap _).bind turns)
    | snap | endGame => exact .pure _
  intro flow flow' flows
  cases flows with
  | snap related => exact .pure (.snap related)
  | endGame => exact .pure .endGame
  | normal _ =>
      refine Coupling.Coupled.atLine line
        (Coupling.Coupled.bind (Coupling.Coupled.readHeap lawful.limits) turns ?_)
      intro limits limits' same
      exact Coupling.conditional lawful same.bounds
        (Coupling.condition lawful calls level construct condition)
        (pass calls level declaring body modification) test turn

/-- Coupled runs from one world end in the same way. -/
theorem endSame {skips : Prop} {run run' : ScopeId → Eval Flow} {scope : ScopeId} {world : World}
    (ordered : world.heap.Ordered) (has : world.heap.Has (.scope scope))
    (coupled : ∀ stage : Stage, stage.known.pairs stage.left stage.right →
      (coupling skips).Coupled stage (coupling skips).Flows (run stage.left) (run' stage.right)) :
    Eval.EndSame (World.Folded skips world.heap) (run scope world) (run' scope world) := by
  have ended := coupled ⟨scope, scope, 0, .self world.heap⟩ ⟨rfl, has⟩ world world
    ⟨.self world.heap, .refl _, .inl ⟨rfl, has⟩, .refl ordered⟩
  generalize run scope world = left at ended
  generalize run' scope world = right at ended
  cases ended with
  | ok related worlds =>
      obtain ⟨folding, more, -, spans⟩ := worlds
      rw [flows_iff.mp related]
      exact .ok _ ⟨folding, more, spans⟩
  | error possible worlds =>
      obtain ⟨folding, more, -, spans⟩ := worlds
      exact .error _ ⟨folding, more, spans⟩
  | spared impossible => exact impossible.elim

end Folding

/-- A loop with a header does the same as its form with a condition only: it ends in the same way
in worlds that are the same up to the names of new scopes and extra empty scopes.  Only when its
condition is neither a number nor a truth value, the error names the other loop. -/
theorem Stmt.loopFor_as_while (line : Nat) (header : Stmt) (condition modification : Expr)
    (body : List Stmt) (calls : Nat) {scope : ScopeId} {world : World}
    (ordered : world.heap.Ordered) (has : world.heap.Has (.scope scope)) :
    Eval.EndAlike (Loop.report (invokeWithin calls) condition .wakandaFor)
      (Loop.report (invokeWithin calls) condition .fightUntil) line
      (World.Folded True world.heap)
      ((Stmt.mk line (.loopFor header condition modification body)).exec (invokeWithin calls)
        scope) world
      ((Stmt.forAsWhile line header condition modification body).exec (invokeWithin calls) scope)
      world := by
  have same (construct : Construct) := Folding.endSame ordered has fun stage paired =>
    Folding.headed (.same (Folding.lawful True) trivial stage.depth calls) rfl paired line
      construct header condition modification body
  rw [Stmt.exec_loopFor, Stmt.exec_forAsWhile]
  refine .of_renamed ?_ (Loop.headed_renamed .wakandaFor .fightUntil line header _ scope)
    (Loop.headed_renamed .wakandaFor .fightUntil line header _ scope)
    (same .wakandaFor) (same .fightUntil)
  intro kind kind' equal
  injection equal

/-- A function that is made in a turn, which then leaves the loop, keeps the scope of that turn. -/
theorem Stmt.loopFor_as_while_capture :
    let world : World := (World.initial (Readings.seeded 0 0) .release).mapHeap
      (·.addScope (Heap.root .standard))
    let header : Stmt := .mk 1 (.declare "count" false none)
    let condition : Expr := .comparison .equal (.text "a") (.text "a")
    let body : List Stmt := [.mk 2 (.assemble "next" [] []), .mk 3 .endGame]
    ∃ later later',
      (Stmt.mk 1 (.loopFor header condition .null body)).exec (invokeWithin 1) ⟨0⟩ world =
          .ok (.normal .null) later ∧
        (Stmt.forAsWhile 1 header condition .null body).exec (invokeWithin 1) ⟨0⟩ world =
          .ok (.normal .null) later' ∧
        World.Folded True world.heap later later' := by
  intro world header condition body
  have ordered : world.heap.Ordered := Heap.Ordered.empty.addScope nofun
  have alike := Stmt.loopFor_as_while 1 header condition .null body 1 ordered
    (Nat.zero_lt_one : world.heap.Has (.scope ⟨0⟩))
  obtain ⟨last, ran⟩ : ∃ last, (Stmt.mk 1 (.loopFor header condition .null body)).exec
      (invokeWithin 1) ⟨0⟩ world = .ok (.normal .null) last := ⟨_, rfl⟩
  cases alike with
  | ok ended ended' related =>
      cases ended.symm.trans ran
      exact ⟨_, _, ended, ended', related⟩
  | error ended => cases ended.symm.trans ran
  | refused refuses => cases refuses.failed.symm.trans ran

end Avenger
