import Avenger.Proofs.EndGame.Rule
import Avenger.Proofs.Plain

/-!
# Programs handle proper values only

Expressions and calls give proper values, and statements end with proper flows, by induction on
their form; functions by induction on the budget of calls.
-/

namespace Avenger

/-! ### Operations on values -/

theorem Value.Plain.proper {value : Value} (plain : value.Plain) : value.Proper := by
  rintro rfl
  exact plain

theorem Gives.proper {result : Except Fault Value} (gives : Gives Value.Plain result) :
    Gives Value.Proper result :=
  gives.mono fun _ => Value.Plain.proper

theorem Heap.Proper.member {heap : Heap} (proper : heap.Proper) (object index : Value) :
    Gives Value.Proper (heap.member object index) := by
  unfold Heap.member
  split
  · exact .after fun position => .ok (proper.element _ position)
  · exact .after fun position => .ok (Value.proper_text _)
  · exact .error _

theorem Team.make_proper (name : String) (size : Nat) {values : List Value}
    (are : ∀ value ∈ values, value.Proper) :
    ∀ value ∈ (Team.make name size values).elements, value.Proper := by
  intro value member
  rcases Array.mem_append.mp member with given | filled
  · exact are value (List.mem_toArray.mp given)
  · obtain ⟨-, rfl⟩ := Array.mem_replicate.mp filled
    exact Value.proper_number 0

namespace Eval.Contained

variable {scope : ScopeId}

/-! ### Natives and loops -/

theorem printAll (values : List Value) :
    Contained scope (fun _ => True) (Native.printAll values) := by
  induction values with
  | nil => exact pure trivial
  | cons value values induction =>
      have printed : Contained scope (fun _ => True) (do
          Eval.print (← Eval.readHeap (·.valueText value))
          Native.printAll values) :=
        (readAny _).andThen fun _ => (print _).andThen fun _ => induction
      cases value with
      | team _ => exact fail _
      | number _ | text _ | boolean _ | null | routine _ | native _ _ | stopped => exact printed

theorem native (function : Native) (arguments : List Value) :
    Contained scope Value.Proper (function.apply arguments) := by
  refine (checkAny _).andThen fun _ => ?_
  split
  · unfold Native.printValues
    split
    · exact (print _).andThen fun _ => pure Value.proper_null
    · exact (printAll arguments).andThen fun _ => pure Value.proper_null
  · unfold Native.test
    split
    · exact fail _
    · split
      · exact fail _
      · split
        · exact (readAny _).andThen fun _ => fail _
        · exact (print _).andThen fun _ => pure (Value.proper_boolean _)
  · exact readClock.andThen fun _ => pure (Value.proper_number _)
  · exact readChance.andThen fun _ => pure (Value.proper_number _)
  · exact (readHeap fun heap _ => (Native.pureResult_plain _ heap arguments).proper).bind
      fun _ is => ofExcept is

section Loops

variable {limit : Nat}

theorem conditional {test : Eval Bool} {turn : Eval Flow}
    (tests : Contained scope (fun _ => True) test) (turns : Contained scope Flow.Proper turn)
    (left : Nat) : Contained scope Flow.Proper (Loop.conditional limit test turn left) := by
  induction left with
  | zero =>
      refine tests.andThen fun goes => ?_
      cases goes with
      | true => exact fail _
      | false => exact pure Value.proper_null
  | succ left induction =>
      refine tests.andThen fun goes => ?_
      cases goes with
      | false => exact pure Value.proper_null
      | true =>
          refine turns.bind fun flow is => ?_
          cases flow with
          | normal _ => exact induction
          | snap _ => exact pure is
          | endGame => exact pure Value.proper_null

theorem counted {range : Range} {turn : Float → Eval Flow}
    (turns : ∀ count, Contained scope Flow.Proper (turn count)) (left : Nat) (count : Float) :
    Contained scope Flow.Proper (Loop.counted limit range turn left count) := by
  induction left generalizing count with
  | zero =>
      unfold Loop.counted
      split
      · exact fail _
      · exact pure Value.proper_null
  | succ left induction =>
      unfold Loop.counted
      split
      · refine (turns count).bind fun flow is => ?_
        cases flow with
        | normal _ => exact induction _
        | snap _ => exact pure is
        | endGame => exact pure Value.proper_null
      · exact pure Value.proper_null

end Loops

/-! ### Programs -/

/-- Calls that give proper values for proper arguments. -/
def Calls (invoke : Invoke) : Prop :=
  ∀ id arguments scope, (∀ argument ∈ arguments, argument.Proper) →
    Contained scope Value.Proper (invoke id arguments scope)

namespace Calls

variable {invoke : Invoke}

theorem value (calls : Calls invoke) (callee : Value) {arguments : List Value}
    (are : ∀ argument ∈ arguments, argument.Proper) :
    Contained scope Value.Proper (callee.call invoke arguments scope) := by
  unfold Value.call
  split
  · exact native _ arguments
  · exact calls _ arguments scope are
  · exact fail _

mutual

theorem expression (calls : Calls invoke) {scope : ScopeId} (expression : Expr) :
    Contained scope Value.Proper (expression.eval invoke scope) := by
  cases expression with
  | number value => exact pure (Value.proper_number value)
  | text value => exact pure (Value.proper_text value)
  | null => exact pure Value.proper_null
  | name identifier => exact lookup identifier
  | arithmetic operator left right =>
      refine (calls.expression left).bind fun left _ => ?_
      refine (calls.expression right).bind fun right _ => ?_
      exact (readAny _).andThen fun _ => ofExcept (Value.arithmetic_plain _ _ left right).proper
  | comparison operator left right =>
      refine (calls.expression left).bind fun left _ => ?_
      refine (calls.expression right).bind fun right _ => ?_
      exact pure (Value.compare_plain _ left right).proper
  | connective operator left right =>
      refine (calls.expression left).bind fun left _ => ?_
      refine (calls.expression right).bind fun right _ => ?_
      exact pure (Value.connect_plain _ left right).proper
  | not operand =>
      exact (calls.expression operand).bind fun value _ => pure value.not_plain.proper
  | minus operand =>
      exact (calls.expression operand).bind fun value _ => ofExcept value.minus_plain.proper
  | assign target value =>
      unfold Expr.eval
      split
      · exact (calls.expression value).bind fun _ is => assign _ is
      · rename_i object index
        refine (calls.expression object).bind fun base _ => ?_
        refine (calls.expression index).bind fun index _ => ?_
        refine (calls.expression value).bind fun value is => ?_
        split
        · exact writeElement _ _ is
        · exact writeCharacter _ _ _ is
        · exact fail _
        · exact fail _
      · exact fail _
  | update operator target value =>
      unfold Expr.eval
      split
      · refine (lookup _).bind fun _ _ => ?_
        refine (calls.expression value).bind fun _ _ => ?_
        split
        · exact assign _ (Value.proper_number _)
        · exact fail _
      · exact fail _
  | member object index =>
      refine (calls.expression object).bind fun object _ => ?_
      refine (calls.expression index).bind fun index _ => ?_
      exact (readHeap fun _ proper => proper.member object index).bind
        fun _ is => ofExcept is
  | call callee arguments =>
      refine (calls.expression callee).bind fun callee _ => ?_
      exact (calls.expressions arguments).bind fun _ are => calls.value callee are

/-- List counterpart of `expression`. -/
theorem expressions (calls : Calls invoke) {scope : ScopeId} (expressions : List Expr) :
    Contained scope (∀ value ∈ ·, value.Proper) (Expr.evalList invoke scope expressions) := by
  cases expressions with
  | nil => exact pure (List.forall_mem_nil _)
  | cons expression rest =>
      refine (calls.expression expression).bind fun _ is => ?_
      exact (calls.expressions rest).bind fun _ are => pure (List.forall_mem_cons.mpr ⟨is, are⟩)

end

theorem option (calls : Calls invoke) (expression : Option Expr) :
    Contained scope Value.Proper (Expr.evalOption invoke scope expression) := by
  cases expression with
  | none => exact pure Value.proper_null
  | some expression => exact calls.expression expression

theorem test (calls : Calls invoke) (construct : Construct) (condition : Expr) :
    Contained scope (fun _ => True) (condition.test invoke construct scope) := by
  refine (calls.expression condition).bind fun _ _ => ?_
  split
  · exact pure trivial
  · exact fail _

theorem rangePart (calls : Calls invoke) (part : RangePart) (expression : Expr) :
    Contained scope (fun _ => True) (expression.rangePart invoke part scope) := by
  refine (calls.expression expression).bind fun _ _ => ?_
  split
  · exact pure trivial
  · exact fail _

theorem range (calls : Calls invoke) (start stop : Expr) (step : Option Expr) :
    Contained scope (fun _ => True) (Expr.range invoke scope start stop step) := by
  have stepPart : Contained scope (fun _ => True) (Expr.stepPart invoke scope step) := by
    cases step with
    | none => exact pure trivial
    | some step => exact calls.rangePart .step step
  rw [Expr.range_eq]
  refine (calls.rangePart .start start).andThen fun _ => ?_
  refine (calls.rangePart .stop stop).andThen fun _ => stepPart.andThen fun _ => ?_
  split
  · exact pure trivial
  · exact fail _

mutual

theorem statement (calls : Calls invoke) {scope : ScopeId} (statement : Stmt) :
    Contained scope Flow.Proper (statement.exec invoke scope) := by
  cases statement with
  | mk line action => exact atLine line (calls.action action)

/-- Counterpart of `statement` for what statements do. -/
theorem action (calls : Calls invoke) {scope : ScopeId} (action : Action) :
    Contained scope Flow.Proper (action.exec invoke scope) := by
  cases action with
  | expression value => exact (calls.expression value).bind fun _ is => pure is
  | declare name constant value =>
      refine (calls.option value).bind fun _ is => ?_
      exact (declare name is constant).bind fun _ is => pure is
  | team name size values =>
      refine (calls.expression size).bind fun _ _ => (checkAny _).andThen fun size => ?_
      refine (calls.expressions values).bind fun values are => (reserve name).andThen fun _ => ?_
      refine (newTeam (Team.make_proper name size are)).bind fun _ is => ?_
      exact (declare name is false).bind fun _ is => pure is
  | branch condition body alternatives otherwise =>
      rw [Action.exec_branch]
      refine (calls.test .ifWorthy condition).andThen fun goes => ?_
      cases goes with
      | true => exact inChild fun inner => calls.statements body Value.proper_null
      | false =>
          refine calls.firstClause alternatives ?_
          cases otherwise with
          | none => exact pure Value.proper_null
          | some body => exact inChild fun inner => calls.statements body Value.proper_null
  | loopWhile condition body =>
      refine (readAny _).andThen fun limits => ?_
      exact conditional (calls.test .fightUntil condition)
        (inChild fun inner => calls.statements body Value.proper_null) _
  | loopRange iterator start stop step body =>
      refine (calls.range start stop step).andThen fun range => (readAny _).andThen fun limits => ?_
      refine counted (fun count => ?_) _ _
      have plain : ∀ binding ∈ [(⟨iterator, .number count, false⟩ : Binding)],
          binding.constant = false := List.forall_mem_singleton.mpr rfl
      exact inBlock plain (List.forall_mem_singleton.mpr (Value.proper_number count))
        fun inner => calls.statements body Value.proper_null
  | loopFor header condition modification body =>
      refine inChild fun outer => (calls.statement header).bind fun flow is => ?_
      cases flow with
      | snap _ | endGame => exact pure is
      | normal _ =>
          refine (readAny _).andThen fun limits => ?_
          refine conditional (calls.test .wakandaFor condition) ?_ _
          refine (inChild fun inner => calls.statements body Value.proper_null).bind
            fun flow is => ?_
          cases flow with
          | snap _ | endGame => exact pure is
          | normal _ => exact (calls.expression modification).bind fun _ _ => pure is
  | multiverse discriminant cases fallback =>
      refine (calls.expression discriminant).bind fun value _ => ?_
      split
      · exact fail _
      · refine (inChild fun inner => calls.matchingClause value cases
          (calls.statements fallback Value.proper_null)).bind fun flow is => ?_
        cases flow with
        | normal _ | snap _ => exact pure is
        | endGame => exact pure Value.proper_null
  | assemble name parameters body =>
      have made : Contained scope Value.Proper
          (Eval.newRoutine { name, parameters, body, closure := scope }) := newRoutine rfl
      refine (reserve name).andThen fun _ => made.bind fun _ is => ?_
      exact (declare name is false).bind fun _ is => pure is
  | snap value => exact (calls.option value).bind fun _ is => pure is
  | endGame => exact pure trivial

/-- List counterpart of `statement`. -/
theorem statements (calls : Calls invoke) {scope : ScopeId} (statements : List Stmt)
    {last : Value} (is : last.Proper) :
    Contained scope Flow.Proper (Stmt.execList invoke statements scope last) := by
  cases statements with
  | nil => exact pure is
  | cons statement rest =>
      refine (calls.statement statement).bind fun flow is => ?_
      cases flow with
      | normal value => exact calls.statements rest is
      | snap _ | endGame => exact pure is

theorem firstClause (calls : Calls invoke) {scope : ScopeId} (clauses : List Clause)
    {otherwise : Eval Flow} (last : Contained scope Flow.Proper otherwise) :
    Contained scope Flow.Proper (Clause.execFirst invoke clauses scope otherwise) := by
  match clauses with
  | [] => exact last
  | .mk condition body :: rest =>
      refine (calls.test .ifWorthy condition).andThen fun goes => ?_
      cases goes with
      | true => exact inChild fun inner => calls.statements body Value.proper_null
      | false => exact calls.firstClause rest last

theorem matchingClause (calls : Calls invoke) {scope : ScopeId} (value : Value)
    (clauses : List Clause) {fallback : Eval Flow} (last : Contained scope Flow.Proper fallback) :
    Contained scope Flow.Proper (Clause.execMatching invoke value clauses scope fallback) := by
  match clauses with
  | [] => exact last
  | .mk test body :: rest =>
      refine (calls.expression test).bind fun candidate _ => ?_
      split
      · exact fail _
      · split
        · exact calls.statements body Value.proper_null
        · exact calls.matchingClause value rest last

end

/-- Calls of functions give proper values for proper arguments, whatever their budget. -/
theorem within (budget : Nat) : Calls (invokeWithin budget) := by
  induction budget with
  | zero => exact fun id arguments scope are => stop _
  | succ budget induction =>
      intro id arguments scope are
      rw [invokeWithin_succ]
      exact call id are fun routine inner =>
        statements induction routine.body Value.proper_null

end Calls

theorem program (program : Program) : Contained scope Flow.Proper (program.exec scope) :=
  (readAny _).andThen fun budget => (Calls.within budget).statements program Value.proper_null

end Eval.Contained

end Avenger
