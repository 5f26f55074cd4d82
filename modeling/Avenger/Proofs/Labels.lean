import Avenger.Proofs.Change

/-!
# Labelling the parts of a run

To label a run with a line is to label its parts with it.  A label inside a run that is labelled
with the same line does nothing, and neither does a label around a statement.
-/

namespace Avenger

/-- A stop whose error is labelled with a line unless it has one. -/
def Eval.Stop.atLine (stop : Eval.Stop) (line : Nat) : Eval.Stop :=
  match stop with
  | .error failure => .error (failure.atLine line)
  | .outOfBudget => .outOfBudget

namespace Eval

variable {α β : Type} {run : Eval α} {world later : World} (line : Nat)

theorem atLine_of_ok {result : α} (ended : run world = .ok result later) :
    Eval.atLine line run world = .ok result later := by
  unfold Eval.atLine
  rw [ended]

theorem atLine_of_error {stop : Stop} (ended : run world = .error stop later) :
    Eval.atLine line run world = .error (stop.atLine line) later := by
  unfold Eval.atLine
  rw [ended]
  cases stop <;> rfl

/-- The first label is the one that stays. -/
theorem Stop.atLine_atLine (stop : Stop) (outer : Nat) :
    (stop.atLine line).atLine outer = stop.atLine line := by
  cases stop with
  | error error => rfl
  | outOfBudget => rfl

theorem atLine_bind (run : Eval α) (next : α → Eval β) :
    Eval.atLine line (run >>= next) =
      Eval.atLine line run >>= fun result => Eval.atLine line (next result) := by
  funext world
  cases ended : run world with
  | ok result later =>
      rw [bind_of_ok (atLine_of_ok line ended)]
      unfold Eval.atLine
      rw [bind_of_ok ended]
  | error stop later =>
      rw [bind_of_error (atLine_of_error line ended), atLine_of_error line (bind_of_error ended)]

theorem atLine_inScope (make : Heap → Scope) (run : ScopeId → Eval α) :
    Eval.atLine line (Eval.inScope make run) =
      Eval.inScope make fun scope => Eval.atLine line (run scope) := by
  funext world
  cases ended : run world.heap.nextScope (world.mapHeap (·.addScope (make world.heap))) with
  | ok result later =>
      rw [atLine_of_ok line (inScope_of_ok ended), inScope_of_ok (atLine_of_ok line ended)]
  | error stop later =>
      rw [atLine_of_error line (inScope_of_error ended),
        inScope_of_error (atLine_of_error line ended)]

theorem atLine_inChild (parent : ScopeId) (run : ScopeId → Eval α) :
    Eval.atLine line (Eval.inChild parent run) =
      Eval.inChild parent fun scope => Eval.atLine line (run scope) :=
  atLine_inScope line _ run

/-- A run that has been labelled is not labelled again. -/
theorem atLine_atLine (outer : Nat) (run : Eval α) :
    Eval.atLine outer (Eval.atLine line run) = Eval.atLine line run := by
  funext world
  cases ended : run world with
  | ok result later =>
      have once := atLine_of_ok line ended
      rw [atLine_of_ok outer once, once]
  | error stop later =>
      have once := atLine_of_error line ended
      rw [atLine_of_error outer once, once, Stop.atLine_atLine]

/-- Statements label themselves. -/
theorem atLine_exec (invoke : Invoke) (statement : Stmt) (scope : ScopeId) :
    Eval.atLine line (statement.exec invoke scope) = statement.exec invoke scope := by
  obtain ⟨own, action⟩ := statement
  rw [Stmt.exec, atLine_atLine]

/-- What is read off a result can be read before the scope ends. -/
theorem inScope_bind_pure (make : Heap → Scope) (run : ScopeId → Eval α) (read : α → β) :
    (do return read (← Eval.inScope make run)) =
      Eval.inScope make fun scope => do return read (← run scope) := by
  funext world
  cases ended : run world.heap.nextScope (world.mapHeap (·.addScope (make world.heap))) with
  | ok result later =>
      rw [bind_of_ok (inScope_of_ok ended)]
      exact (inScope_of_ok (bind_of_ok ended)).symm
  | error stop later =>
      rw [bind_of_error (inScope_of_error ended)]
      exact (inScope_of_error (bind_of_error ended)).symm

/-- The statements of a list label themselves, too. -/
theorem atLine_execList (invoke : Invoke) (statements : List Stmt) (scope : ScopeId)
    (last : Value) :
    Eval.atLine line (Stmt.execList invoke statements scope last) =
      Stmt.execList invoke statements scope last := by
  induction statements generalizing last with
  | nil => rfl
  | cons statement rest induction =>
      rw [Stmt.execList, atLine_bind, atLine_exec]
      refine bind_congr fun flow => ?_
      cases flow with
      | normal value => exact induction value
      | snap | endGame => rfl

end Eval

/-- A branch whose condition is the number one is a block. -/
theorem Stmt.exec_block (invoke : Invoke) (line : Nat) (body : List Stmt) (scope : ScopeId) :
    (Stmt.mk line (.branch (.number 1) body [] none)).exec invoke scope =
      Eval.inChild scope fun inner => Stmt.execList invoke body inner .null := by
  have holds : (Expr.number 1).test invoke .ifWorthy scope = pure true := by
    have one : ((1 : Float) != 0) = true := by decide
    rw [Expr.test, Expr.eval, pure_bind, Value.truth?, one]
  rw [Stmt.exec, Action.exec_branch, holds, pure_bind, if_pos rfl, Eval.atLine_inChild]
  simp only [Eval.atLine_execList]

end Avenger
