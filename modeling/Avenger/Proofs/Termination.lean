import Avenger.Proofs.Termination.Rule

/-!
# Every run ends

With a budget that the sizes of the code and the limits of the heap determine, the counted
evaluator is never stopped by its budget, and it does what the evaluator does.
-/

namespace Avenger

variable {bounds : Bounds} {left : Nat} {invoke : Invoke}

/-- Calls that finish as counted ones do while at most `left` of them may be active. -/
def Bounds.Answers (bounds : Bounds) (left : Nat) (invoke : Invoke) : Prop :=
  ∀ {world : World} {caller : ScopeId} {budget : Nat} (id : RoutineId)
    (arguments : List Value), bounds.Ready left world.heap caller →
    bounds.callCost left < budget →
    Finishes bounds world (invoke id arguments caller)
      (invokeCounted budget id arguments caller)

section Expressions

theorem Value.call_finishes (answers : bounds.Answers left invoke) {world : World}
    {scope : ScopeId} {budget : Nat} (callee : Value) (arguments : List Value)
    (ready : bounds.Ready left world.heap scope) (enough : bounds.callCost left < budget) :
    Finishes bounds world (callee.call invoke arguments scope)
      (callee.call (invokeCounted budget) arguments scope) := by
  cases callee with
  | native function _ => exact .native ready.hold function arguments
  | routine id => exact answers id arguments ready enough
  | null | number | boolean | text | team | stopped => exact .fail _

mutual

theorem Expr.eval_finishes (answers : bounds.Answers left invoke) (expression : Expr)
    {world : World} {scope : ScopeId} {budget : Nat}
    (ready : bounds.Ready left world.heap scope)
    (enough : expression.weight + bounds.callCost left ≤ budget) :
    Finishes bounds world (expression.eval invoke scope)
      (expression.evalWithin budget scope) := by
  cases budget with
  | zero => cases expression <;> simp [Expr.weight] at enough
  | succ budget =>
      cases expression with
      | number _ | text _ | null => exact .pure ready.hold _
      | name identifier => exact .lookup ready.hold scope identifier
      | arithmetic operator first second =>
          simp only [Expr.weight] at enough
          apply Finishes.onward ready (first.eval_finishes answers ready (by omega))
          intro value later ready
          apply Finishes.onward ready (second.eval_finishes answers ready (by omega))
          intro value' later ready
          apply Finishes.onward ready (.readHeap ready.hold _)
          intro limits later ready
          exact .ofExcept ready.hold _
      | comparison operator first second | connective operator first second =>
          simp only [Expr.weight] at enough
          apply Finishes.onward ready (first.eval_finishes answers ready (by omega))
          intro value later ready
          apply Finishes.onward ready (second.eval_finishes answers ready (by omega))
          intro value' later ready
          exact .pure ready.hold _
      | not operand =>
          simp only [Expr.weight] at enough
          apply Finishes.onward ready (operand.eval_finishes answers ready (by omega))
          intro value later ready
          exact .pure ready.hold _
      | minus operand =>
          simp only [Expr.weight] at enough
          apply Finishes.onward ready (operand.eval_finishes answers ready (by omega))
          intro value later ready
          exact .ofExcept ready.hold _
      | assign target value =>
          simp only [Expr.weight] at enough
          unfold Expr.eval Expr.evalWithin
          cases target with
          | name identifier =>
              apply Finishes.onward ready (value.eval_finishes answers ready (by omega))
              intro value later ready
              exact .assign ready.hold scope identifier value
          | member object index =>
              simp only [Expr.weight] at enough
              apply Finishes.onward ready (object.eval_finishes answers ready (by omega))
              intro base later ready
              apply Finishes.onward ready (index.eval_finishes answers ready (by omega))
              intro index later ready
              apply Finishes.onward ready (value.eval_finishes answers ready (by omega))
              intro value later ready
              cases base with
              | team id => exact .writeElement ready.hold id index value
              | text content =>
                  cases object with
                  | name identifier =>
                      exact .writeCharacter ready.hold scope identifier content index value
                  | _ => exact .fail _
              | _ => exact .fail _
          | _ => exact .fail _
      | update operator target value =>
          simp only [Expr.weight] at enough
          unfold Expr.eval Expr.evalWithin
          cases target with
          | name identifier =>
              apply Finishes.onward ready (.lookup ready.hold scope identifier)
              intro current later ready
              apply Finishes.onward ready (value.eval_finishes answers ready (by omega))
              intro value later ready
              cases current with
              | number _ =>
                  cases value with
                  | number _ => exact .assign ready.hold scope identifier _
                  | _ => exact .fail _
              | _ => exact .fail _
          | _ => exact .fail _
      | member object index =>
          simp only [Expr.weight] at enough
          apply Finishes.onward ready (object.eval_finishes answers ready (by omega))
          intro object later ready
          apply Finishes.onward ready (index.eval_finishes answers ready (by omega))
          intro index later ready
          apply Finishes.onward ready (.readHeap ready.hold _)
          intro found later ready
          exact .ofExcept ready.hold found
      | call callee arguments =>
          simp only [Expr.weight] at enough
          apply Finishes.onward ready (callee.eval_finishes answers ready (by omega))
          intro callee later ready
          apply Finishes.onward ready
            (Expr.evalList_finishes answers arguments ready (by omega))
          intro arguments later ready
          exact callee.call_finishes answers arguments ready (by omega)

/-- List counterpart of `Expr.eval_finishes`. -/
theorem Expr.evalList_finishes (answers : bounds.Answers left invoke)
    (expressions : List Expr) {world : World} {scope : ScopeId} {budget : Nat}
    (ready : bounds.Ready left world.heap scope)
    (enough : Expr.listWeight expressions + bounds.callCost left ≤ budget) :
    Finishes bounds world (Expr.evalList invoke scope expressions)
      (Expr.evalListWithin budget scope expressions) := by
  cases budget with
  | zero => cases expressions <;> simp [Expr.listWeight] at enough
  | succ budget =>
      cases expressions with
      | nil => exact .pure ready.hold _
      | cons expression rest =>
          simp only [Expr.listWeight] at enough
          apply Finishes.onward ready (expression.eval_finishes answers ready (by omega))
          intro value later ready
          apply Finishes.onward ready
            (Expr.evalList_finishes answers rest ready (by omega))
          intro values later ready
          exact .pure ready.hold _

end

theorem Expr.evalOption_finishes (answers : bounds.Answers left invoke)
    (expression : Option Expr) {world : World} {scope : ScopeId} {budget : Nat}
    (ready : bounds.Ready left world.heap scope)
    (enough : Expr.optionWeight expression + bounds.callCost left ≤ budget) :
    Finishes bounds world (Expr.evalOption invoke scope expression)
      (Eval.optional (Expr.evalWithin budget scope) expression) := by
  cases expression with
  | none => exact .pure ready.hold _
  | some expression => exact expression.eval_finishes answers ready enough

theorem Expr.test_finishes (answers : bounds.Answers left invoke) (construct : Construct)
    (condition : Expr) {world : World} {scope : ScopeId} {budget : Nat}
    (ready : bounds.Ready left world.heap scope)
    (enough : condition.weight + bounds.callCost left ≤ budget) :
    Finishes bounds world (condition.test invoke construct scope)
      (Eval.truth construct (Expr.evalWithin budget scope condition)) := by
  apply Finishes.onward ready (condition.eval_finishes answers ready enough)
  intro value later ready
  cases value.truth? with
  | some truth => exact .pure ready.hold truth
  | none => exact .fail _

theorem Expr.rangePart_finishes (answers : bounds.Answers left invoke) (part : RangePart)
    (expression : Expr) {world : World} {scope : ScopeId} {budget : Nat}
    (ready : bounds.Ready left world.heap scope)
    (enough : expression.weight + bounds.callCost left ≤ budget) :
    Finishes bounds world (expression.rangePart invoke part scope)
      (Eval.rangePart part (Expr.evalWithin budget scope expression)) := by
  apply Finishes.onward ready (expression.eval_finishes answers ready enough)
  intro value later ready
  cases value with
  | number value => exact .pure ready.hold value
  | _ => exact .fail _

theorem Expr.range_finishes (answers : bounds.Answers left invoke) (start stop : Expr)
    (step : Option Expr) {world : World} {scope : ScopeId} {budget : Nat}
    (ready : bounds.Ready left world.heap scope)
    (enough : start.weight + stop.weight + Expr.optionWeight step + bounds.callCost left ≤
      budget) :
    Finishes bounds world (Expr.range invoke scope start stop step)
      (Eval.range
        (Eval.rangePart .start (Expr.evalWithin budget scope start))
        (Eval.rangePart .stop (Expr.evalWithin budget scope stop))
        (Eval.rangeStep (Expr.evalWithin budget scope) step)) := by
  rw [Expr.range_eq]
  apply Finishes.onward ready (start.rangePart_finishes answers .start ready (by omega))
  intro start later ready
  apply Finishes.onward ready (stop.rangePart_finishes answers .stop ready (by omega))
  intro stop later ready
  have parts : Finishes bounds later (Expr.stepPart invoke scope step)
      (Eval.rangeStep (Expr.evalWithin budget scope) step) := by
    cases step with
    | none => exact .pure ready.hold _
    | some step =>
        simp only [Expr.optionWeight] at enough
        exact step.rangePart_finishes answers .step ready (by omega)
  apply Finishes.onward ready parts
  intro step later ready
  split
  · exact .pure ready.hold _
  · exact .fail _

end Expressions

section Loops

variable {scope : ScopeId} {cost limit : Nat}

theorem Loop.turn_pure (body : Eval Flow) : Loop.turn body (pure .null) = body := by
  unfold Loop.turn
  rw [← bind_pure body]
  simp only [bind_assoc]
  congr 1
  funext flow
  cases flow <;> simp

theorem Loop.conditional_finishes {construct : Construct} {condition : Expr}
    {body : List Stmt} {modification : Option Expr} {test : Eval Bool} {turn : Eval Flow}
    (tests : ∀ {world : World} {budget : Nat}, bounds.Ready left world.heap scope →
      cost + bounds.callCost left ≤ budget →
      Finishes bounds world test
        (Eval.truth construct (Expr.evalWithin budget scope condition)))
    (bodies : ∀ {world : World} {budget : Nat}, bounds.Ready left world.heap scope →
      cost + bounds.callCost left ≤ budget →
      Finishes bounds world turn
        (Loop.turn
          (Eval.inChild scope fun inner => Stmt.execListWithin budget body inner .null)
          (Eval.optional (Expr.evalWithin budget scope) modification)))
    (turns : Nat) {world : World} {number budget : Nat}
    (ready : bounds.Ready left world.heap scope)
    (limited : (world.heap.limits scope).iterations = limit)
    (made : number + turns = limit + 1)
    (enough : cost + turns + 1 + bounds.callCost left ≤ budget) :
    Finishes bounds world (Loop.conditional limit test turn turns)
      (Loop.conditionalWithin budget construct condition body modification scope number) := by
  induction turns generalizing world number budget with
  | zero =>
      cases budget with
      | zero => omega
      | succ budget =>
          apply (tests ready (by omega)).bind
          intro holds later steady hold
          cases holds with
          | false => exact .pure hold _
          | true =>
              obtain ⟨-, same, -⟩ := steady scope ready.bound
              have limited : (later.heap.limits scope).iterations = limit := by
                rw [same, limited]
              rw [← limited]
              exact .refused (by omega)
  | succ turns induction =>
      cases budget with
      | zero => omega
      | succ budget =>
          apply (tests ready (by omega)).bind
          intro holds later steady hold
          cases holds with
          | false => exact .pure hold _
          | true =>
              obtain ⟨-, same, -⟩ := steady scope ready.bound
              have limited : (later.heap.limits scope).iterations = limit := by
                rw [same, limited]
              have ready := ready.later steady hold
              apply Finishes.guarded (by omega)
              apply (bodies ready (by omega)).bind
              intro flow later steady hold
              cases flow with
              | snap _ | endGame => exact .pure hold _
              | normal _ =>
                  obtain ⟨-, same, -⟩ := steady scope ready.bound
                  exact induction (ready.later steady hold) (by rw [same, limited])
                    (by omega) (by omega)

theorem Loop.counted_finishes {iterator : String} {range : Range} {body : List Stmt}
    {turn : Float → Eval Flow}
    (bodies : ∀ {world : World} {budget : Nat} (count : Float),
      bounds.Ready left world.heap scope → cost + bounds.callCost left ≤ budget →
      Finishes bounds world (turn count)
        (Eval.inScope (fun heap => (heap.childOf scope).bind ⟨iterator, .number count, false⟩)
          fun inner => Stmt.execListWithin budget body inner .null))
    (turns : Nat) {world : World} {number budget : Nat} (count : Float)
    (ready : bounds.Ready left world.heap scope)
    (limited : (world.heap.limits scope).iterations = limit)
    (made : number + turns = limit + 1)
    (enough : cost + turns + 1 + bounds.callCost left ≤ budget) :
    Finishes bounds world (Loop.counted limit range turn turns count)
      (Loop.countedWithin budget iterator range body scope number count) := by
  induction turns generalizing world number budget count with
  | zero =>
      cases budget with
      | zero => omega
      | succ budget =>
          unfold Loop.counted Loop.countedWithin
          split
          · rw [← limited]
            exact .refused (by omega)
          · exact .pure ready.hold _
  | succ turns induction =>
      cases budget with
      | zero => omega
      | succ budget =>
          unfold Loop.counted Loop.countedWithin
          split
          · apply Finishes.guarded (by omega)
            apply (bodies count ready (by omega)).bind
            intro flow later steady hold
            cases flow with
            | snap _ | endGame => exact .pure hold _
            | normal _ =>
                obtain ⟨-, same, -⟩ := steady scope ready.bound
                exact induction _ (ready.later steady hold) (by rw [same, limited])
                  (by omega) (by omega)
          · exact .pure ready.hold _

end Loops

section Statements

mutual

theorem Stmt.exec_finishes (answers : bounds.Answers left invoke) (statement : Stmt)
    {world : World} {scope : ScopeId} {budget : Nat}
    (light : statement.weight bounds.turns ≤ bounds.weight)
    (ready : bounds.Ready left world.heap scope)
    (enough : statement.weight bounds.turns + bounds.callCost left ≤ budget) :
    Finishes bounds world (statement.exec invoke scope)
      (statement.execWithin budget scope) := by
  cases budget with
  | zero =>
      cases statement
      simp [Stmt.weight] at enough
  | succ budget =>
      cases statement with
      | mk line action =>
          simp only [Stmt.weight] at light enough
          exact .atLine line (action.exec_finishes answers (by omega) ready (by omega))
termination_by sizeOf statement

/-- Counterpart of `Stmt.exec_finishes` for what statements do. -/
theorem Action.exec_finishes (answers : bounds.Answers left invoke) (action : Action)
    {world : World} {scope : ScopeId} {budget : Nat}
    (light : action.weight bounds.turns ≤ bounds.weight)
    (ready : bounds.Ready left world.heap scope)
    (enough : action.weight bounds.turns + bounds.callCost left ≤ budget) :
    Finishes bounds world (action.exec invoke scope)
      (action.execWithin budget scope) := by
  cases budget with
  | zero => cases action <;> simp [Action.weight] at enough
  | succ budget =>
      cases action with
      | expression value =>
          simp only [Action.weight] at enough
          apply Finishes.onward ready (value.eval_finishes answers ready (by omega))
          intro value later ready
          exact .pure ready.hold _
      | declare name constant value =>
          simp only [Action.weight] at enough
          apply Finishes.onward ready
            (Expr.evalOption_finishes answers value ready (by omega))
          intro value later ready
          apply Finishes.onward ready (.declare ready.hold scope name value constant)
          intro value later ready
          exact .pure ready.hold _
      | team name size values =>
          simp only [Action.weight] at enough
          apply Finishes.onward ready (size.eval_finishes answers ready (by omega))
          intro size later ready
          apply Finishes.onward ready (.ofExcept ready.hold _)
          intro size later ready
          apply Finishes.onward ready
            (Expr.evalList_finishes answers values ready (by omega))
          intro values later ready
          apply Finishes.onward ready (.reserve ready.hold scope name)
          intro _ later ready
          apply Finishes.onward ready (.newTeam ready.hold _)
          intro team later ready
          apply Finishes.onward ready (.declare ready.hold scope name team false)
          intro team later ready
          exact .pure ready.hold _
      | branch condition body alternatives otherwise =>
          simp only [Action.weight] at light enough
          rw [Action.exec_branch]
          apply Finishes.onward ready
            (condition.test_finishes answers .ifWorthy ready (by omega))
          intro holds later ready
          cases holds with
          | true =>
              exact .inChild ready fun inner later ready =>
                Stmt.execList_finishes answers body (by omega) ready (by omega) .null
          | false =>
              apply Clause.execFirst_finishes answers alternatives _ (by omega) ready
                (by omega)
              intro world budget ready enough
              cases budget with
              | zero => omega
              | succ budget =>
                  cases otherwise with
                  | none => exact .pure ready.hold _
                  | some body =>
                      simp only [Stmt.optionWeight] at light enough
                      exact .inChild ready fun inner later ready =>
                        Stmt.execList_finishes answers body (by omega) ready (by omega) .null
      | loopWhile condition body =>
          simp only [Action.weight] at light enough
          apply Finishes.reading
          have tests : ∀ {world : World} {budget : Nat},
              bounds.Ready left world.heap scope →
              condition.weight + Stmt.listWeight bounds.turns body +
                bounds.callCost left ≤ budget →
              Finishes bounds world (condition.test invoke .fightUntil scope)
                (Eval.truth .fightUntil (Expr.evalWithin budget scope condition)) := by
            intro world budget ready enough
            exact condition.test_finishes answers .fightUntil ready (by omega)
          apply Loop.conditional_finishes tests _ _ ready rfl (Nat.add_comm 1 _)
          · have within := ready.hold.turns_le ready.bound
            omega
          intro world budget ready enough
          rw [Eval.optional, Loop.turn_pure]
          exact .inChild ready fun inner later ready =>
            Stmt.execList_finishes answers body (by omega) ready (by omega) .null
      | loopRange iterator start stop step body =>
          simp only [Action.weight] at light enough
          apply Finishes.onward ready
            (Expr.range_finishes answers start stop step ready (by omega))
          intro range later ready
          apply Finishes.reading
          have bodies : ∀ {world : World} {budget : Nat} (count : Float),
              bounds.Ready left world.heap scope →
              Stmt.listWeight bounds.turns body + bounds.callCost left ≤ budget →
              Finishes bounds world
                (Eval.inScope
                  (fun heap => (heap.childOf scope).bind ⟨iterator, .number count, false⟩)
                  fun inner => Stmt.execList invoke body inner .null)
                (Eval.inScope
                  (fun heap => (heap.childOf scope).bind ⟨iterator, .number count, false⟩)
                  fun inner => Stmt.execListWithin budget body inner .null) := by
            intro world budget count ready enough
            exact .inBound ready rfl rfl fun inner later ready =>
              Stmt.execList_finishes answers body (by omega) ready enough .null
          have within := ready.hold.turns_le ready.bound
          exact Loop.counted_finishes bodies _ range.start ready rfl (Nat.add_comm 1 _)
            (by omega)
      | loopFor header condition modification body =>
          simp only [Action.weight] at light enough
          rw [Action.exec, Action.execWithin]
          apply Finishes.inChild ready
          intro outer later ready
          apply Finishes.onward ready
            (header.exec_finishes answers (by omega) ready (by omega))
          intro flow later ready
          cases flow with
          | snap _ | endGame => exact .pure ready.hold _
          | normal _ =>
              apply Finishes.reading
              have tests : ∀ {world : World} {budget : Nat},
                  bounds.Ready left world.heap outer →
                  condition.weight + modification.weight +
                    Stmt.listWeight bounds.turns body + bounds.callCost left ≤ budget →
                  Finishes bounds world (condition.test invoke .wakandaFor outer)
                    (Eval.truth .wakandaFor (Expr.evalWithin budget outer condition)) := by
                intro world budget ready enough
                exact condition.test_finishes answers .wakandaFor ready (by omega)
              apply Loop.conditional_finishes tests _ _ ready rfl (Nat.add_comm 1 _)
              · have within := ready.hold.turns_le ready.bound
                omega
              intro world budget ready enough
              apply Finishes.onward ready
                (.inChild ready fun inner later ready =>
                  Stmt.execList_finishes answers body (by omega) ready (by omega) .null)
              intro flow later ready
              cases flow with
              | snap _ | endGame => exact .pure ready.hold _
              | normal value =>
                  apply Finishes.onward ready
                    (modification.eval_finishes answers ready (by omega))
                  intro _ later ready
                  exact .pure ready.hold _
      | multiverse discriminant cases fallback =>
          simp only [Action.weight] at light enough
          apply Finishes.onward ready (discriminant.eval_finishes answers ready (by omega))
          intro value later ready
          split
          · exact .fail _
          · apply Finishes.onward ready
              (.inChild ready fun inner later ready =>
                Clause.execMatching_finishes answers value cases fallback (by omega) ready
                  (by omega))
            intro flow later ready
            cases flow <;> exact .pure ready.hold _
      | assemble name parameters body =>
          simp only [Action.weight] at light
          have body : Stmt.listWeight bounds.turns body ≤ bounds.weight := by omega
          apply Finishes.onward ready (.reserve ready.hold scope name)
          intro _ later ready
          apply Finishes.onward ready (.newRoutine ready.hold ready.bound body)
          intro routine later ready
          apply Finishes.onward ready (.declare ready.hold scope name routine false)
          intro routine later ready
          exact .pure ready.hold _
      | snap value =>
          simp only [Action.weight] at enough
          apply Finishes.onward ready
            (Expr.evalOption_finishes answers value ready (by omega))
          intro value later ready
          exact .pure ready.hold _
      | endGame => exact .pure ready.hold _
termination_by sizeOf action

/-- List counterpart of `Stmt.exec_finishes`. -/
theorem Stmt.execList_finishes (answers : bounds.Answers left invoke)
    (statements : List Stmt) {world : World} {scope : ScopeId} {budget : Nat}
    (light : Stmt.listWeight bounds.turns statements ≤ bounds.weight)
    (ready : bounds.Ready left world.heap scope)
    (enough : Stmt.listWeight bounds.turns statements + bounds.callCost left ≤ budget)
    (last : Value) :
    Finishes bounds world (Stmt.execList invoke statements scope last)
      (Stmt.execListWithin budget statements scope last) := by
  cases budget with
  | zero => cases statements <;> simp [Stmt.listWeight] at enough
  | succ budget =>
      cases statements with
      | nil => exact .pure ready.hold _
      | cons statement rest =>
          simp only [Stmt.listWeight] at light enough
          apply Finishes.onward ready
            (statement.exec_finishes answers (by omega) ready (by omega))
          intro flow later ready
          cases flow with
          | normal value =>
              exact Stmt.execList_finishes answers rest (by omega) ready (by omega) value
          | snap _ | endGame => exact .pure ready.hold _
termination_by sizeOf statements

theorem Clause.execFirst_finishes (answers : bounds.Answers left invoke)
    (clauses : List Clause) {otherwise : Option (List Stmt)} {rest : Eval Flow}
    {world : World} {scope : ScopeId} {budget : Nat}
    (rests : ∀ {world : World} {budget : Nat}, bounds.Ready left world.heap scope →
      Stmt.optionWeight bounds.turns otherwise + 1 + bounds.callCost left ≤ budget →
      Finishes bounds world rest (Clause.execFirstWithin budget [] otherwise scope))
    (light : Clause.listWeight bounds.turns clauses ≤ bounds.weight)
    (ready : bounds.Ready left world.heap scope)
    (enough : Clause.listWeight bounds.turns clauses +
      Stmt.optionWeight bounds.turns otherwise + 1 + bounds.callCost left ≤ budget) :
    Finishes bounds world (Clause.execFirst invoke clauses scope rest)
      (Clause.execFirstWithin budget clauses otherwise scope) := by
  cases clauses with
  | nil =>
      simp only [Clause.listWeight] at enough
      exact rests ready (by omega)
  | cons clause clauses =>
      cases budget with
      | zero => omega
      | succ budget =>
          cases clause with
          | mk condition body =>
              simp only [Clause.listWeight] at light enough
              apply Finishes.onward ready
                (condition.test_finishes answers .ifWorthy ready (by omega))
              intro holds later ready
              cases holds with
              | true =>
                  exact .inChild ready fun inner later ready =>
                    Stmt.execList_finishes answers body (by omega) ready (by omega) .null
              | false =>
                  exact Clause.execFirst_finishes answers clauses rests (by omega) ready
                    (by omega)
termination_by sizeOf clauses

theorem Clause.execMatching_finishes (answers : bounds.Answers left invoke) (value : Value)
    (clauses : List Clause) (fallback : List Stmt) {world : World} {scope : ScopeId}
    {budget : Nat}
    (light : Clause.listWeight bounds.turns clauses +
      Stmt.listWeight bounds.turns fallback ≤ bounds.weight)
    (ready : bounds.Ready left world.heap scope)
    (enough : Clause.listWeight bounds.turns clauses +
      Stmt.listWeight bounds.turns fallback + 1 + bounds.callCost left ≤ budget) :
    Finishes bounds world
      (Clause.execMatching invoke value clauses scope
        (Stmt.execList invoke fallback scope .null))
      (Clause.execMatchingWithin budget value clauses fallback scope) := by
  cases budget with
  | zero => omega
  | succ budget =>
      cases clauses with
      | nil =>
          simp only [Clause.listWeight] at light enough
          exact Stmt.execList_finishes answers fallback (by omega) ready (by omega) .null
      | cons clause rest =>
          cases clause with
          | mk test body =>
              simp only [Clause.listWeight] at light enough
              apply Finishes.onward ready (test.eval_finishes answers ready (by omega))
              intro candidate later ready
              split
              · exact .fail _
              · split
                · exact Stmt.execList_finishes answers body (by omega) ready (by omega) .null
                · exact Clause.execMatching_finishes answers value rest fallback (by omega)
                    ready (by omega)
termination_by sizeOf clauses + sizeOf fallback

end

end Statements

section Calls

/-- A call finishes if the body does, with one call fewer left. -/
theorem Finishes.callRoutine {world : World} {caller : ScopeId}
    {run counted : Routine → ScopeId → Eval Flow}
    (ready : bounds.Ready left world.heap caller)
    (bodies : ∀ {rest : Nat} (routine : Routine) {inner : ScopeId} {later : World},
      left = rest + 1 → Stmt.listWeight bounds.turns routine.body ≤ bounds.weight →
      bounds.Ready rest later.heap inner →
      Finishes bounds later (run routine inner) (counted routine inner))
    (id : RoutineId) (arguments : List Value) :
    Finishes bounds world (Eval.callRoutine run id arguments caller)
      (Eval.callRoutine counted id arguments caller) := by
  have applied := Eval.callRoutine_apply run id arguments caller world
  have applied' := Eval.callRoutine_apply counted id arguments caller world
  cases found : world.heap.routine? id with
  | none =>
      rw [found] at applied applied'
      refine ⟨applied.trans applied'.symm, ?_⟩
      rw [applied]
      exact .error _ _
  | some routine =>
      rw [found] at applied applied'
      dsimp only at applied applied'
      cases made : world.heap.callScope routine arguments caller with
      | error fault =>
          rw [made] at applied applied'
          refine ⟨applied.trans applied'.symm, ?_⟩
          rw [applied]
          exact .error _ _
      | ok scope =>
          rw [made] at applied applied'
          dsimp only at applied applied'
          obtain ⟨allowed, bound⟩ := Heap.callScope_ok made
          obtain ⟨-, limits, depth⟩ := Scope.bindAll_ok bound
          have few := ready.hold.calls_le ready.bound
          have calls := ready.calls
          have closure := ready.hold.closures found
          have weight := ready.hold.weights found
          obtain ⟨rest, rfl⟩ : ∃ rest, left = rest + 1 := ⟨left - 1, by omega⟩
          have added : (world.heap.addScope scope).scope? world.heap.nextScope =
              some scope := by
            simp [Heap.scope?_addScope]
          have inner : bounds.Ready rest (world.mapHeap (·.addScope scope)).heap
              world.heap.nextScope := by
            refine ⟨ready.hold.addScope closure limits, Heap.lt_of_scope? added, ?_⟩
            rw [World.mapHeap_heap, Heap.depth_eq added, depth]
            simp only [Heap.callOf]
            omega
          refine .of_eq applied applied' ?_
          apply Finishes.bind (Finishes.inScope (bodies routine rfl weight inner))
          intro flow later _ hold
          cases flow <;> exact .pure hold _

/-- Calls within a depth do what counted calls do, when the depth is greater than the number
of calls that may be active. -/
theorem invokeWithin_answers {calls : Nat} (deep : left < calls) :
    bounds.Answers left (invokeWithin calls) := by
  induction left generalizing calls with
  | zero =>
      intro world caller budget id arguments ready enough
      cases calls with
      | zero => omega
      | succ calls =>
          cases budget with
          | zero => omega
          | succ budget =>
              apply Finishes.callRoutine ready
              intro rest routine inner later impossible
              omega
  | succ left induction =>
      intro world caller budget id arguments ready enough
      cases calls with
      | zero => omega
      | succ calls =>
          cases budget with
          | zero => omega
          | succ budget =>
              apply Finishes.callRoutine ready
              intro rest routine inner later same weight ready
              obtain rfl : left = rest := by omega
              simp only [Bounds.callCost, Nat.succ_mul] at enough
              apply Stmt.execList_finishes (induction (by omega)) routine.body weight ready
              simp only [Bounds.callCost]
              omega

end Calls

section Budgets

/-- What is measured of an element is at most the greatest measure. -/
theorem Array.measure_le_greatest {α : Type} (items : Array α) (measure : α → Nat)
    {item : α} (member : item ∈ items) :
    measure item ≤ items.foldl (fun greatest item => max greatest (measure item)) 0 := by
  rw [← Array.foldl_toList]
  have grown : ∀ (items : List α) (start : Nat),
      start ≤ items.foldl (fun greatest item => max greatest (measure item)) start ∧
        ∀ item ∈ items,
          measure item ≤ items.foldl (fun greatest item => max greatest (measure item)) start := by
    intro items
    induction items with
    | nil =>
        intro start
        simp
    | cons first rest induction =>
        intro start
        obtain ⟨above, members⟩ := induction (max start (measure first))
        constructor
        · exact Nat.le_trans (Nat.le_max_left _ _) above
        · intro item member
          rcases List.mem_cons.mp member with rfl | later
          · exact Nat.le_trans (Nat.le_max_right _ _) above
          · exact members item later
  exact (grown items.toList 0).2 item (by simpa using member)

/-- The bounds of a heap hold in it, if the scope of every function is in the heap. -/
theorem Bounds.ofHeap_hold (program : Program) {heap : Heap}
    (closed : ∀ {id routine}, heap.routine? id = some routine →
      routine.closure.index < heap.scopes.size) :
    (Bounds.ofHeap program heap).Hold heap := by
  constructor
  case turns =>
      intro id scope found
      exact Array.measure_le_greatest heap.scopes (·.limits.iterations)
        (Array.mem_of_getElem? found)
  case calls =>
      intro id scope found
      exact Array.measure_le_greatest heap.scopes (·.limits.callDepth)
        (Array.mem_of_getElem? found)
  case closures =>
      intro id routine found
      exact closed found
  case weights =>
      intro id routine found
      have weight := Array.measure_le_greatest heap.routines
        (fun routine => Stmt.listWeight heap.greatestTurns routine.body)
        (Array.mem_of_getElem? found)
      exact Nat.le_trans weight (Nat.le_max_right _ _)

/-- A counted run with a budget is not stopped by it, a larger budget changes nothing, and
the evaluator does the same. -/
structure Eval.Settles {α : Type} (counted : Nat → Eval α) (budget : Nat) (run : Eval α)
    (world : World) : Prop where
  ends : ∀ later, counted budget world ≠ .error .outOfBudget later
  stable : ∀ larger, budget ≤ larger → counted larger world = counted budget world
  agrees : counted budget world = run world

theorem Eval.Settles.of_finishes {α : Type} {counted : Nat → Eval α} {budget : Nat}
    {run : Eval α} {world : World}
    (finishes : ∀ larger, budget ≤ larger → Finishes bounds world run (counted larger)) :
    Eval.Settles counted budget run world := by
  have exact := finishes budget (Nat.le_refl budget)
  constructor
  case ends =>
      intro later stopped
      have ended := exact.ended
      rw [exact.same, stopped] at ended
      cases ended
  case stable =>
      intro larger above
      rw [← exact.same, ← (finishes larger above).same]
  case agrees => exact exact.same.symm

section

variable {world : World} {scope : ScopeId}
  (closed : ∀ {id routine}, world.heap.routine? id = some routine →
    routine.closure.index < world.heap.scopes.size)
  (bound : scope.index < world.heap.scopes.size)

include closed bound

theorem Bounds.ofHeap_ready (program : Program) :
    (Bounds.ofHeap program world.heap).Ready
      (world.heap.greatestCallDepth - world.heap.depth scope) world.heap scope := by
  refine ⟨Bounds.ofHeap_hold program closed, bound, ?_⟩
  simp only [Bounds.ofHeap]
  omega

/-- Calls at least as deep as the heap allows answer as counted ones do. -/
theorem Finishes.withCalls {α : Type} (program : Program) (run : Invoke → Eval α)
    {counted : Eval α} {calls budget : Nat} (deep : world.heap.callBudget ≤ calls)
    (enough : program.budget world.heap ≤ budget)
    (finishes : ∀ {left : Nat} {invoke : Invoke},
      (Bounds.ofHeap program world.heap).Answers left invoke →
      (Bounds.ofHeap program world.heap).Ready left world.heap scope →
      (Bounds.ofHeap program world.heap).weight +
        (Bounds.ofHeap program world.heap).callCost left < budget →
      Finishes (Bounds.ofHeap program world.heap) world (run invoke) counted) :
    Finishes (Bounds.ofHeap program world.heap) world (run (invokeWithin calls))
      counted := by
  have deeper : world.heap.greatestCallDepth - world.heap.depth scope < calls := by
    simp only [Heap.callBudget] at deep
    omega
  have cost : (Bounds.ofHeap program world.heap).callCost
      (world.heap.greatestCallDepth - world.heap.depth scope) ≤
        (Bounds.ofHeap program world.heap).callCost world.heap.greatestCallDepth :=
    Nat.mul_le_mul_right _ (Nat.sub_le _ _)
  apply finishes (invokeWithin_answers deeper) (Bounds.ofHeap_ready closed bound program)
  simp only [Program.budget, Bounds.budget] at enough
  exact Nat.lt_of_lt_of_le (Nat.lt_succ_of_le (Nat.add_le_add_left cost _)) enough

theorem Stmt.execList_finishes_deep (program : Program) {calls budget : Nat}
    (deep : world.heap.callBudget ≤ calls) (enough : program.budget world.heap ≤ budget) :
    Finishes (Bounds.ofHeap program world.heap) world
      (Stmt.execList (invokeWithin calls) program scope .null)
      (Stmt.execListWithin budget program scope .null) := by
  apply Finishes.withCalls closed bound program (Stmt.execList · program scope .null) deep
    enough
  intro left invoke answers ready enough
  have light : Stmt.listWeight (Bounds.ofHeap program world.heap).turns program ≤
      (Bounds.ofHeap program world.heap).weight := Nat.le_max_left _ _
  exact Stmt.execList_finishes answers program light ready (by omega) .null

theorem Value.call_finishes_deep (callee : Value) (arguments : List Value)
    {calls budget : Nat} (deep : world.heap.callBudget ≤ calls)
    (enough : Program.budget [] world.heap ≤ budget) :
    Finishes (Bounds.ofHeap [] world.heap) world
      (callee.call (invokeWithin calls) arguments scope)
      (callee.callWithin budget arguments scope) := by
  apply Finishes.withCalls closed bound [] (callee.call · arguments scope) deep enough
  intro left invoke answers ready enough
  exact callee.call_finishes answers arguments ready (by omega)

theorem Stmt.exec_finishes_deep (statement : Stmt) {calls budget : Nat}
    (deep : world.heap.callBudget ≤ calls)
    (enough : Program.budget [statement] world.heap ≤ budget) :
    Finishes (Bounds.ofHeap [statement] world.heap) world
      (statement.exec (invokeWithin calls) scope) (statement.execWithin budget scope) := by
  apply Finishes.withCalls closed bound [statement] (statement.exec · scope) deep enough
  intro left invoke answers ready enough
  have light : Stmt.listWeight (Bounds.ofHeap [statement] world.heap).turns [statement] ≤
      (Bounds.ofHeap [statement] world.heap).weight := Nat.le_max_left _ _
  simp only [Stmt.listWeight] at light
  exact Stmt.exec_finishes answers statement (by omega) ready (by omega)

theorem Expr.eval_finishes_deep (expression : Expr) {calls budget : Nat}
    (deep : world.heap.callBudget ≤ calls)
    (enough : Program.budget [.mk 0 (.expression expression)] world.heap ≤ budget) :
    Finishes (Bounds.ofHeap [.mk 0 (.expression expression)] world.heap) world
      (expression.eval (invokeWithin calls) scope) (expression.evalWithin budget scope) := by
  apply Finishes.withCalls closed bound [.mk 0 (.expression expression)]
    (expression.eval · scope) deep enough
  intro left invoke answers ready enough
  have light : Stmt.listWeight (Bounds.ofHeap [.mk 0 (.expression expression)] world.heap).turns
      [.mk 0 (.expression expression)] ≤
        (Bounds.ofHeap [.mk 0 (.expression expression)] world.heap).weight :=
    Nat.le_max_left _ _
  simp only [Stmt.listWeight, Stmt.weight, Action.weight] at light
  exact Expr.eval_finishes answers expression ready (by omega)

/-- Calls that are deep enough do what the calls of the heap do. -/
theorem Stmt.exec_eq_deep (statement : Stmt) {calls : Nat}
    (deep : world.heap.callBudget ≤ calls) :
    Eval.withCalls (statement.exec · scope) world =
      statement.exec (invokeWithin calls) scope world :=
  (Stmt.exec_finishes_deep closed bound statement (Nat.le_refl _) (Nat.le_refl _)).same.trans
    (Stmt.exec_finishes_deep closed bound statement deep (Nat.le_refl _)).same.symm

/-- Calls that are deep enough do what the calls of the heap do. -/
theorem Expr.eval_eq_deep (expression : Expr) {calls : Nat}
    (deep : world.heap.callBudget ≤ calls) :
    Eval.withCalls (expression.eval · scope) world =
      expression.eval (invokeWithin calls) scope world :=
  (Expr.eval_finishes_deep closed bound expression (Nat.le_refl _)
      (Nat.le_refl _)).same.trans
    (Expr.eval_finishes_deep closed bound expression deep (Nat.le_refl _)).same.symm

/-- Calls that are deep enough do what the calls of the heap do. -/
theorem Program.exec_eq_deep (program : Program) {calls : Nat}
    (deep : world.heap.callBudget ≤ calls) :
    program.exec scope world =
      Stmt.execList (invokeWithin calls) program scope .null world :=
  (Stmt.execList_finishes_deep closed bound program (Nat.le_refl _) (Nat.le_refl _)).same.trans
    (Stmt.execList_finishes_deep closed bound program deep (Nat.le_refl _)).same.symm

/-- Calls that are deep enough do what the calls of the heap do. -/
theorem Value.callFrom_eq_deep (callee : Value) (arguments : List Value) {calls : Nat}
    (deep : world.heap.callBudget ≤ calls) :
    callee.callFrom arguments scope world =
      callee.call (invokeWithin calls) arguments scope world :=
  (Value.call_finishes_deep closed bound callee arguments (Nat.le_refl _)
      (Nat.le_refl _)).same.trans
    (Value.call_finishes_deep closed bound callee arguments deep (Nat.le_refl _)).same.symm

theorem Program.exec_finishes (program : Program) {budget : Nat}
    (enough : program.budget world.heap ≤ budget) :
    Finishes (Bounds.ofHeap program world.heap) world (program.exec scope)
      (Stmt.execListWithin budget program scope .null) := by
  apply Finishes.reading
  exact Stmt.execList_finishes_deep closed bound program (Nat.le_refl _) enough

theorem Program.eval_finishes (program : Program) {budget : Nat}
    (enough : program.budget world.heap ≤ budget) :
    Finishes (Bounds.ofHeap program world.heap) world (program.eval scope)
      (Program.evalWithin budget program scope) := by
  apply Finishes.bind (Program.exec_finishes closed bound program enough)
  intro flow later _ hold
  cases flow <;> exact .pure hold _

theorem Value.callFrom_finishes (callee : Value) (arguments : List Value) {budget : Nat}
    (enough : Program.budget [] world.heap ≤ budget) :
    Finishes (Bounds.ofHeap [] world.heap) world (callee.callFrom arguments scope)
      (callee.callWithin budget arguments scope) := by
  apply Finishes.reading
  exact Value.call_finishes_deep closed bound callee arguments (Nat.le_refl _) enough

end

/-- Every run ends: of a program, of a block and of a call, in every heap that has the
scopes of its functions and from every scope of it.  The budget is computed from the code,
the bodies of the functions and the greatest limits. -/
theorem every_run_ends {world : World} {scope : ScopeId}
    (closed : ∀ {id routine}, world.heap.routine? id = some routine →
      routine.closure.index < world.heap.scopes.size)
    (bound : scope.index < world.heap.scopes.size) :
    (∀ program : Program,
      Eval.Settles (Program.evalWithin · program scope) (program.budget world.heap)
          (program.eval scope) world ∧
        Eval.Settles (Stmt.execListWithin · program scope .null)
          (program.budget world.heap) (program.exec scope) world) ∧
      ∀ (callee : Value) (arguments : List Value),
        Eval.Settles (Value.callWithin · callee arguments scope)
          (Program.budget [] world.heap) (callee.callFrom arguments scope) world := by
  constructor
  · intro program
    constructor
    · exact .of_finishes fun larger above =>
        Program.eval_finishes closed bound program above
    · exact .of_finishes fun larger above =>
        Program.exec_finishes closed bound program above
  · intro callee arguments
    exact .of_finishes fun larger above =>
      Value.callFrom_finishes closed bound callee arguments above

/-- A world with a function that calls itself and a team that contains itself. -/
def World.circular : World :=
  { World.initial { clock := fun _ => 0, chance := fun _ => 0 } .keep with
    heap :=
      { scopes := #[{
          bindings := [⟨"f", .routine ⟨0⟩, false⟩, ⟨"t", .team ⟨0⟩, false⟩]
          parent := none
          limits := { iterations := 2, callDepth := 3 }
          depth := 0 }]
        teams := #[⟨"t", #[.team ⟨0⟩]⟩]
        routines := #[⟨"f", [], [.mk 1 (.expression (.call (.name "f") []))], ⟨0⟩⟩] } }

/-- The function that calls itself ends, within thirty-six units. -/
theorem circular_call_ends :
    Program.budget [] World.circular.heap = 36 ∧
      Eval.Settles (Value.callWithin · (.routine ⟨0⟩) [] ⟨0⟩) 36
        (Value.callFrom (.routine ⟨0⟩) [] ⟨0⟩) World.circular := by
  have closed : ∀ {id routine}, World.circular.heap.routine? id = some routine →
      routine.closure.index < World.circular.heap.scopes.size := by
    intro id routine found
    obtain ⟨bound, rfl⟩ := Array.getElem?_eq_some_iff.mp found
    have first : id.index = 0 := Nat.lt_one_iff.mp bound
    simp [first, World.circular]
  have budget : Program.budget [] World.circular.heap = 36 := by decide
  refine ⟨budget, ?_⟩
  rw [← budget]
  exact (every_run_ends closed (by decide : 0 < 1)).2 (.routine ⟨0⟩) []

end Budgets

end Avenger
