import Avenger.Proofs.Lookahead.Expression
import Avenger.Proofs.Relocation.Statement

/-!
# Lookahead in statements

Every reader of statements decides by the tokens that it takes and the one after them.
-/

namespace Avenger.Reader.Decides

variable {budget size : Nat} {sort : Token → Prop}

theorem semicolon (expectation : String) :
    Decides budget size 1 sort (Reader.semicolon expectation) :=
  .expected (by decide) fun _ => .pure ()

theorem parameter : Decides budget size 1 sort Reader.parameter :=
  (expect (by decide) _).map fun token => .pure token.text

theorem endGame : Decides budget size 1 sort Reader.endGame :=
  .step ((semicolon _).map fun _ => .pure Action.endGame)

section Plain

variable (enough : size ≤ budget)

include enough

/-- An expression and the semicolon behind it. -/
theorem ended {α : Type} {expectation : String} (result : Expr → α) :
    Decides budget size 1 anyToken do
      let value ← Reader.expression
      Reader.semicolon expectation
      return result value :=
  (expression enough).map fun value =>
    ((semicolon expectation).fewer (Nat.zero_le 1)).map fun _ => .pure (result value)

theorem declaration (constant : Bool) :
    Decides budget size 1 sort (Reader.declaration constant) := by
  refine .step (.andThen (expect (by decide) _) fun name => .peek fun token _ => ?_)
  split
  · rename_i kind
    split
    · exact .fail (.uninitializedConstant kind name.text)
    · exact .take (by rw [kind]; decide) (.pure _)
  · refine .expected (by decide) fun _ => ?_
    exact (ended (by omega) _).fewer (Nat.zero_le 1)

theorem condition (construct : String) :
    Decides budget size 1 sort (Reader.condition construct) := by
  refine .step (.andThen (expect (by decide) _) fun _ => ?_)
  refine .andThen (expression (by omega)) fun test => ?_
  exact .expected (by decide) fun _ => .pure test

theorem teamValue : Decides budget size 1 anyToken Reader.teamValue :=
  (expression enough).map fun value => (Decides.skip .comma).map fun _ => .pure value

theorem teamValues : Decides budget size 0 anyToken Reader.teamValues :=
  .itemsUntil enough (teamValue enough)

theorem team : Decides budget size 1 sort Reader.team := by
  refine .step (.andThen (expect (by decide) _) fun name => ?_)
  refine .andThen (expect (by decide) _) fun _ => ?_
  refine .andThen (expression (by omega)) fun count => ?_
  refine .andThen (expect (by decide) _) fun _ => ?_
  refine .andThen (expect (by decide) _) fun _ => ?_
  refine .andThen (expect (by decide) _) fun _ => ?_
  refine .andThen (teamValues (by omega)) fun values => ?_
  refine .andThen (expect (by decide) _) fun _ => ?_
  exact (semicolon _).map fun _ => .pure (Action.team name.text count values)

theorem loopStep : Decides budget size 0 anyToken Reader.loopStep := by
  refine (Decides.skip .stepWord).map fun skipped => ?_
  cases skipped with
  | true =>
      have step : Decides budget size 1 anyToken (some <$> Reader.expression) :=
        (expression enough).map fun value => .pure (some value)
      exact (step.smaller (Nat.sub_le _ _)).fewer (Nat.zero_le 1)
  | false => exact .pure none

theorem snap : Decides budget size 1 sort Reader.snap := by
  have closing (value : Option Expr) : Decides budget size 1 anyToken do
      Reader.semicolon "expected ';' after 'snap'"
      return Action.snap value :=
    (semicolon _).map fun _ => .pure (Action.snap value)
  refine .step (.peek fun token _ => ?_)
  split
  · exact (closing none).sorted
  · have value : Decides budget size 1 anyToken (some <$> Reader.expression) :=
      (expression enough).map fun value => .pure (some value)
    exact (value.andThen fun value => (closing value).smaller (Nat.sub_le _ _)).sorted

theorem expressionAction : Decides budget size 1 anyToken Reader.expressionAction :=
  ended enough Action.expression

end Plain

section Inside

variable {nested : Reader Stmt} (enough : size ≤ budget)
  (statements : Decides budget (size - 1) 1 anyToken nested)

include enough statements

theorem block (construct : String) :
    Decides budget size 1 anyToken (Reader.block nested construct) := by
  refine .andThen (expect (by decide) _) fun _ => ?_
  refine .andThen (.itemsUntil (by omega) statements) fun body => ?_
  exact .expected (by decide) fun _ => .pure body

theorem guarded (construct : String) :
    Decides budget size 1 sort (Reader.guarded nested construct) := by
  refine .andThen (condition enough construct) fun test => ?_
  refine (block (by omega) (statements.smaller (by omega)) construct).map fun body => ?_
  exact .pure (Clause.mk test body)

theorem alternative (read : List Clause × Option (List Stmt)) :
    Decides budget size 1 sort (Reader.alternative nested read) := by
  refine .step (.peek fun token _ => ?_)
  split
  · exact (guarded enough statements _).map fun clause => .pure (clause :: read.1, none)
  · exact ((block enough statements _).map fun body => .pure (read.1, some body)).sorted

theorem branch : Decides budget size 1 sort (Reader.branch nested) := by
  refine (guarded enough statements _).map fun first => ?_
  refine map (.foldWhile (by omega) fun read => ?_) fun rest => .pure _
  exact alternative (by omega) (statements.smaller (by omega)) read

theorem loopWhile : Decides budget size 1 sort (Reader.loopWhile nested) :=
  (guarded enough statements _).map fun clause => .pure (Action.loopWhile clause.test clause.body)

theorem caseBody : Decides budget (size - 1) 0 anyToken (Reader.caseBody nested) :=
  .itemsUntil (by omega) statements

theorem caseOf (read : List Clause × List Stmt) :
    Decides budget size 1 sort (Reader.caseOf nested read) := by
  have bodies := caseBody enough statements
  refine .peek fun token _ => ?_
  split
  · refine .step ((expression enough).map fun test => ?_)
    refine .closed (by decide) fun _ => ?_
    exact (bodies.smaller (by omega)).map fun body => .pure (Clause.mk test body :: read.1, read.2)
  · refine .step (.expected (by decide) fun _ => ?_)
    exact bodies.map fun body => .pure (read.1, body)
  · rename_i noCase noDefault
    exact .fail (.strayInMultiverse ⟨noCase, noDefault⟩)

theorem multiverse : Decides budget size 1 sort (Reader.multiverse nested) := by
  refine .step (.andThen (expect (by decide) _) fun _ => ?_)
  refine .andThen (expression (by omega)) fun discriminant => ?_
  refine .andThen (expect (by decide) _) fun _ => ?_
  refine .andThen (expect (by decide) _) fun _ => ?_
  refine .andThen (.foldWhile (by omega) fun read => ?_) fun cases => ?_
  · exact caseOf (by omega) (statements.smaller (by omega)) read
  · exact .expected (by decide) fun _ => .pure _

theorem loopRange : Decides budget size 1 sort (Reader.loopRange nested) := by
  refine .step (.andThen (expect (by decide) _) fun _ => ?_)
  refine .andThen (expect (by decide) _) fun iterator => ?_
  refine .andThen (expect (by decide) _) fun _ => ?_
  refine .andThen (expression (by omega)) fun start => ?_
  refine .andThen (expect (by decide) _) fun _ => ?_
  refine .andThen (expression (by omega)) fun stop => ?_
  refine .andThen (loopStep (by omega)) fun step => ?_
  refine .andThen (expect (by decide) _) fun _ => ?_
  refine (block (by omega) (statements.smaller (by omega)) _).map fun body => ?_
  exact .pure (Action.loopRange iterator.text start stop step body)

theorem loopFor : Decides budget size 1 sort (Reader.loopFor nested) := by
  refine .step (.andThen (expect (by decide) _) fun _ => ?_)
  refine .andThen statements fun header => ?_
  refine .andThen (expression (by omega)) fun test => ?_
  refine .andThen (semicolon _) fun _ => ?_
  refine .andThen (expression (by omega)) fun modification => ?_
  refine .andThen (expect (by decide) _) fun _ => ?_
  refine (block (by omega) (statements.smaller (by omega)) _).map fun body => ?_
  exact .pure (Action.loopFor header test modification body)

theorem assemble : Decides budget size 1 sort (Reader.assemble nested) := by
  refine .step (.andThen (expect (by decide) _) fun name => ?_)
  refine .andThen (expect (by decide) _) fun _ => .peek fun token _ => ?_
  have last (parameters : List String) : Decides budget (size - 1 - 1) 1 anyToken do
      let _ ← Reader.expect .closeParen "expected ')' after function parameters"
      return Action.assemble name.text parameters (← Reader.block nested "assemble") := by
    refine .andThen (expect (by decide) _) fun _ => ?_
    refine (block (by omega) (statements.smaller (by omega)) _).map fun body => ?_
    exact .pure (Action.assemble name.text parameters body)
  split
  · exact (last []).sorted
  · have parameters : Decides budget (size - 1 - 1) 1 anyToken (Reader.separated Reader.parameter) :=
      .separated (by omega) parameter
    exact (parameters.andThen fun parameters => (last parameters).smaller (Nat.sub_le _ _)).sorted

theorem action (first : Token) :
    Decides budget size 1 (· = first) (Reader.action nested first) := by
  unfold Reader.action
  split
  case h_12 kind => exact .fail (.reservedWord kind)
  · exact declaration enough false
  · exact declaration enough true
  · exact branch enough statements
  · exact loopWhile enough statements
  · exact endGame
  · exact team enough
  · exact multiverse enough statements
  · exact loopRange enough statements
  · exact loopFor enough statements
  · exact assemble enough statements
  · exact snap enough
  · exact (expressionAction enough).sorted

end Inside

theorem statementWithin {steps : Nat} (fits : size ≤ steps) (enough : size ≤ budget) :
    Decides budget size 1 anyToken (Reader.statementWithin steps) := by
  induction steps generalizing size with
  | zero =>
      obtain rfl : size = 0 := by omega
      exact .empty
  | succ steps induction =>
      have statements := @induction (size - 1) (by omega) (by omega)
      rw [Relocation.statementWithin_succ]
      refine .peek fun first _ => ?_
      exact (action enough statements first).map fun action => .pure (Stmt.mk first.line action)

theorem statement (enough : size ≤ budget) : Decides budget size 1 anyToken Reader.statement :=
  .whole (statementWithin enough enough)

theorem program (enough : size ≤ budget) : Decides budget size 0 anyToken Reader.program :=
  .itemsUntil enough (statement enough)

end Avenger.Reader.Decides
