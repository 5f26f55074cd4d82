import Avenger.Proofs.Recoding.Rule

/-!
# Recoded programs do the same

By induction on the form of programs; functions by induction on the budget of calls.
-/

namespace Avenger

/-- A statement that leaves its list does not end normally. -/
theorem Stmt.exec_ne_normal {invoke : Invoke} {statement : Stmt} (leaves : statement.leaves = true)
    (scope : ScopeId) (world later : World) (value : Value) :
    statement.exec invoke scope world ≠ .ok (.normal value) later := by
  obtain ⟨line, action⟩ := statement
  intro ended
  rw [Stmt.exec, Eval.atLine] at ended
  cases action with
  | endGame => cases ended
  | snap given =>
      rw [Action.exec] at ended
      cases ran : Expr.evalOption invoke scope given world with
      | ok value between =>
          rw [Eval.bind_of_ok ran] at ended
          cases ended
      | error stop between =>
          rw [Eval.bind_of_error ran] at ended
          cases stop <;> cases ended
  | _ => cases leaves

namespace Eval.Mirrors

variable {recoding : Recoding} {invoke : Invoke}

section Loops

variable {limit : Nat}

theorem conditional {test test' : Eval Bool} {turn turn' : Eval Flow}
    (tests : Mirrors recoding test test') (turns : Mirrors recoding turn turn') (left : Nat) :
    Mirrors recoding (Loop.conditional limit test turn left)
      (Loop.conditional limit test' turn' left) := by
  induction left with
  | zero =>
      refine tests.bind fun goes => ?_
      cases goes with
      | true => exact fail _
      | false => exact pure _
  | succ left induction =>
      refine tests.bind fun goes => ?_
      cases goes with
      | false => exact pure _
      | true =>
          refine turns.bind fun flow => ?_
          cases flow with
          | normal _ => exact induction
          | snap _ | endGame => exact pure _

theorem counted {range : Range} {turn turn' : Float → Eval Flow}
    (turns : ∀ count, Mirrors recoding (turn count) (turn' count)) (left : Nat) (count : Float) :
    Mirrors recoding (Loop.counted limit range turn left count)
      (Loop.counted limit range turn' left count) := by
  induction left generalizing count with
  | zero =>
      unfold Loop.counted
      split
      · exact fail _
      · exact pure _
  | succ left induction =>
      unfold Loop.counted
      split
      · refine (turns count).bind fun flow => ?_
        cases flow with
        | normal _ => exact induction _
        | snap _ | endGame => exact pure _
      · exact pure _

end Loops

mutual

theorem statement (lawful : recoding.Lawful)
    (calls : ∀ id arguments scope, Mirrors recoding (invoke id arguments scope)
      (invoke id arguments scope))
    (given : Stmt) (scope : ScopeId) :
    Mirrors recoding (given.exec invoke scope)
      ((recoding.statement given).exec invoke scope) := by
  cases given with
  | mk line given =>
      rw [lawful.labelled]
      exact atLine line (action lawful calls given scope)

/-- Counterpart of `statement` for what statements do. -/
theorem action (lawful : recoding.Lawful)
    (calls : ∀ id arguments scope, Mirrors recoding (invoke id arguments scope)
      (invoke id arguments scope))
    (given : Action) (scope : ScopeId) :
    Mirrors recoding (given.exec invoke scope)
      ((given.mapParts recoding.statement recoding.statements).exec invoke scope) := by
  have laws : ExpressionLaws fun _ run => Mirrors recoding run run := expressionLaws
  cases given with
  | expression value => exact (laws.expression calls value).bind fun _ => pure _
  | declare name constant value =>
      exact (laws.option calls value).bind fun _ => (declare _ _ _ _).bind fun _ => pure _
  | team name size values =>
      refine (laws.expression calls size).bind fun _ => (ofExcept _).bind fun _ => ?_
      refine (laws.expressions calls values).bind fun _ => (laws.reserve name).bind fun _ => ?_
      exact (newTeam _).bind fun _ => (declare _ _ _ _).bind fun _ => pure _
  | branch condition body alternatives otherwise =>
      rw [Action.mapParts, Action.exec_branch, Action.exec_branch]
      refine (laws.test calls .ifWorthy condition).bind fun goes => ?_
      cases goes with
      | true => exact inChild _ fun inner => statements lawful calls body inner .null
      | false =>
          refine firstClause lawful calls alternatives scope ?_
          cases otherwise with
          | none => exact pure _
          | some body => exact inChild _ fun inner => statements lawful calls body inner .null
  | loopWhile condition body =>
      refine (readHeap (.limits scope)).bind fun limits => ?_
      exact conditional (laws.test calls .fightUntil condition)
        (inChild _ fun inner => statements lawful calls body inner .null) _
  | loopRange iterator start stop step body =>
      refine (laws.range calls start stop step).bind fun range => ?_
      refine (readHeap (.limits scope)).bind fun limits => ?_
      exact counted (fun count => inScope (fun _ _ => rfl)
        fun inner => statements lawful calls body inner .null) _ _
  | loopFor header condition modification body =>
      refine inChild _ fun outer => (statement lawful calls header outer).bind fun flow => ?_
      cases flow with
      | snap _ | endGame => exact pure _
      | normal _ =>
          refine (readHeap (.limits outer)).bind fun limits => ?_
          refine conditional (laws.test calls .wakandaFor condition) ?_ _
          refine (inChild _ fun inner => statements lawful calls body inner .null).bind
            fun flow => ?_
          cases flow with
          | snap _ | endGame => exact pure _
          | normal _ => exact (laws.expression calls modification).bind fun _ => pure _
  | multiverse discriminant cases fallback =>
      refine (laws.expression calls discriminant).bind fun value => ?_
      split
      · exact fail _
      · refine (inChild _ fun inner => matchingClause lawful calls value cases inner
          (statements lawful calls fallback inner .null)).bind fun flow => ?_
        cases flow <;> exact pure _
  | assemble name parameters body =>
      refine (laws.reserve name).bind fun _ => (newRoutine _).bind fun _ => ?_
      exact (declare _ _ _ _).bind fun _ => pure _
  | snap value => exact (laws.option calls value).bind fun _ => pure _
  | endGame => exact pure _

/-- List counterpart of `statement`. -/
theorem statements (lawful : recoding.Lawful)
    (calls : ∀ id arguments scope, Mirrors recoding (invoke id arguments scope)
      (invoke id arguments scope))
    (given : List Stmt) (scope : ScopeId) (last : Value) :
    Mirrors recoding (Stmt.execList invoke given scope last)
      (Stmt.execList invoke (recoding.statements given) scope last) := by
  cases given with
  | nil =>
      rw [lawful.nil]
      exact pure _
  | cons first rest =>
      have head := statement lawful calls first scope
      rcases lawful.cons first rest with same | ⟨leaves, same⟩
      · rw [same]
        refine head.bind fun flow => ?_
        cases flow with
        | normal value => exact statements lawful calls rest scope value
        | snap _ | endGame => exact pure _
      · -- what follows is left out, and it would not have been run either
        rw [same]
        intro world
        have mirrored := head world
        cases ended : first.exec invoke scope world with
        | error stop later =>
            rw [ended] at mirrored
            rw [Stmt.execList, Stmt.execList, bind_of_error ended, bind_of_error mirrored]
            rfl
        | ok flow later =>
            rw [ended] at mirrored
            rw [Stmt.execList, Stmt.execList, bind_of_ok ended, bind_of_ok mirrored]
            cases flow with
            | normal value => exact absurd ended (first.exec_ne_normal leaves scope _ _ _)
            | snap _ | endGame => rfl

theorem firstClause (lawful : recoding.Lawful)
    (calls : ∀ id arguments scope, Mirrors recoding (invoke id arguments scope)
      (invoke id arguments scope))
    (clauses : List Clause) (scope : ScopeId) {otherwise otherwise' : Eval Flow}
    (last : Mirrors recoding otherwise otherwise') :
    Mirrors recoding (Clause.execFirst invoke clauses scope otherwise)
      (Clause.execFirst invoke (clauses.map (·.mapBody recoding.statements)) scope
        otherwise') := by
  have laws : ExpressionLaws fun _ run => Mirrors recoding run run := expressionLaws
  match clauses with
  | [] => exact last
  | .mk condition body :: rest =>
      refine (laws.test calls .ifWorthy condition).bind fun goes => ?_
      cases goes with
      | true => exact inChild _ fun inner => statements lawful calls body inner .null
      | false => exact firstClause lawful calls rest scope last

theorem matchingClause (lawful : recoding.Lawful)
    (calls : ∀ id arguments scope, Mirrors recoding (invoke id arguments scope)
      (invoke id arguments scope))
    (value : Value) (clauses : List Clause) (scope : ScopeId)
    {fallback fallback' : Eval Flow} (last : Mirrors recoding fallback fallback') :
    Mirrors recoding (Clause.execMatching invoke value clauses scope fallback)
      (Clause.execMatching invoke value (clauses.map (·.mapBody recoding.statements)) scope
        fallback') := by
  have laws : ExpressionLaws fun _ run => Mirrors recoding run run := expressionLaws
  match clauses with
  | [] => exact last
  | .mk test body :: rest =>
      refine (laws.expression calls test).bind fun candidate => ?_
      split
      · exact fail _
      · split
        · exact statements lawful calls body scope .null
        · exact matchingClause lawful calls value rest scope last

end

/-- A call runs the recoded body, whatever its budget. -/
theorem invokeWithin (lawful : recoding.Lawful) (budget : Nat) (id : RoutineId)
    (arguments : List Value) (caller : ScopeId) :
    Mirrors recoding (Avenger.invokeWithin budget id arguments caller)
      (Avenger.invokeWithin budget id arguments caller) := by
  induction budget generalizing id arguments caller with
  | zero => exact fun _ => rfl
  | succ budget induction =>
      rw [invokeWithin_succ]
      exact callRoutine (fun routine inner =>
        statements lawful induction routine.body inner .null) id arguments caller

theorem exec (lawful : recoding.Lawful) (program : Program) (scope : ScopeId) :
    Mirrors recoding (program.exec scope)
      (Program.exec (recoding.statements program) scope) :=
  (readHeap .callBudget).bind fun budget =>
    statements lawful (invokeWithin lawful budget) program scope .null

theorem eval (lawful : recoding.Lawful) (program : Program) (scope : ScopeId) :
    Mirrors recoding (program.eval scope)
      (Program.eval (recoding.statements program) scope) := by
  refine (exec lawful program scope).bind fun flow => ?_
  cases flow <;> exact pure _

end Eval.Mirrors

end Avenger
