import Avenger.Proofs.Lookahead.Rule

/-!
# Lookahead in expressions

Every reader of expressions decides by the tokens that it takes and the one after them.
-/

namespace Avenger.Reader.Decides

variable {budget size : Nat} {sort : Token → Prop}

/-- A reader of expressions that decides and takes a token. -/
abbrev Whole (budget size : Nat) (reader : Reader Expr) : Prop :=
  Decides budget size 1 anyToken reader

section Levels

variable {inner operand : Reader Expr}

/-- A whole expression up to a token that closes it. -/
theorem grouped {kind : Token.Kind} (inside : kind ≠ .endOfFile) (expectation : String)
    (finish : Expr → Expr) (whole : Whole budget size inner) :
    Whole budget size do
      let grouped ← inner
      let _ ← Reader.expect kind expectation
      return finish grouped :=
  whole.map fun grouped => .closed inside fun _ => .pure (finish grouped)

theorem primary (whole : Whole budget (size - 1) inner)
    (operands : Whole budget (size - 1) operand) :
    Whole budget size (Reader.primary inner operand) := by
  refine .peek fun token _ => ?_
  split
  case h_1 kind | h_3 kind | h_4 kind => exact .take (by rw [kind]; decide) (.pure _)
  case h_2 kind =>
    cases readable : Number.ofText? token.text with
    | some value => exact .take (by rw [kind]; decide) (.pure (Expr.number value))
    | none => exact .failAfter (.invalidNumber kind readable)
  case h_5 kind | h_6 kind =>
    exact .take (by rw [kind]; decide) ((grouped (by decide) _ id whole).fewer (Nat.zero_le 1))
  case h_7 kind =>
    refine .take (by rw [kind]; decide) (fewer ?_ (Nat.zero_le 1))
    exact operands.map fun value => .pure (Expr.not value)
  case h_8 kind => exact .fail (.reservedWord kind)
  case h_9 => exact .fail .unexpected

theorem unary (whole : Whole budget (size - 1) inner)
    (operands : Whole budget (size - 1) operand) :
    Whole budget size (Reader.unary inner operand) := by
  have primaries := primary whole operands
  refine (Decides.skip .minus).andThen fun skipped => ?_
  cases skipped with
  | true => exact primaries.map fun value => .pure (Expr.minus value)
  | false => exact primaries

theorem addIndex (whole : Whole budget size inner) (object : Expr) :
    Decides budget size 1 sort (Reader.addIndex inner object) :=
  .step (grouped (by decide) _ (Expr.member object) whole)

theorem member (enough : size ≤ budget) (whole : Whole budget (size - 1) inner)
    (operands : Whole budget (size - 1) operand) :
    Whole budget size (Reader.member inner operand) :=
  (unary whole operands).map fun _ => .foldWhile (by omega) (addIndex whole)

/-- The arguments of a call and the parenthesis behind them. -/
theorem arguments (enough : size ≤ budget) (whole : Whole budget size inner) :
    Decides budget size 1 anyToken (Reader.arguments inner) := by
  have closing (values : List Expr) : Decides budget size 1 anyToken do
      let _ ← Reader.expect .closeParen "expected ')' after arguments"
      return values :=
    .expected (by decide) fun _ => .pure values
  refine .peek fun token _ => ?_
  split
  · exact (closing []).sorted
  · refine ((Decides.separated enough whole).andThen fun values => ?_).sorted
    exact (closing values).smaller (Nat.sub_le _ _)

theorem addArguments (enough : size ≤ budget) (whole : Whole budget size inner)
    (callee : Expr) : Decides budget size 1 sort (Reader.addArguments inner callee) :=
  .step ((arguments enough whole).map fun values => .pure (Expr.call callee values))

theorem call (enough : size ≤ budget) (whole : Whole budget (size - 1) inner)
    (operands : Whole budget (size - 1) operand) :
    Whole budget size (Reader.call inner operand) :=
  (member enough whole operands).map fun _ =>
    .foldWhile (by omega) (addArguments (by omega) whole)

end Levels

section Operators

variable {operand : Reader Expr}

theorem addArithmetic (operators : List Arithmetic) (operands : Whole budget size operand)
    (left : Expr) : Decides budget size 1 sort (Reader.addArithmetic operators operand left) :=
  .peek fun _ _ => .step (operands.map fun _ => .pure _)

theorem arithmetic (operators : List Arithmetic) (enough : size ≤ budget)
    (operands : Whole budget size operand) :
    Whole budget size (Reader.arithmetic operators operand) :=
  operands.map fun _ => .foldWhile (by omega)
    (addArithmetic operators (operands.smaller (Nat.sub_le _ _)))

section Joined

variable {Operator : Type} {kind : Token.Kind} {operator? : String → Option Operator}
  (join : Operator → Expr → Expr → Expr)
  (unknown : ∀ token : Token, token.kind = kind → operator? token.text = none →
    SyntaxFault.FoundAt (.unknownOperator token.text) token)

include unknown

/-- Only a token of the kind between the operands may turn out to be an unknown operator. -/
theorem addJoined (operands : Whole budget size operand) (left : Expr) :
    Decides budget size 1 (fun token => decide (token.kind = kind) = true)
      (Reader.addJoined operator? join operand left) := by
  refine .peek fun token goesOn => ?_
  cases read : operator? token.text with
  | some operator =>
      exact .step (operands.map fun right => .pure (join operator left right))
  | none => exact .failAfter (unknown token (of_decide_eq_true goesOn) read)

theorem joined (enough : size ≤ budget) (operands : Whole budget size operand) :
    Whole budget size (Reader.joined kind operator? join operand) :=
  operands.map fun _ => .foldWhile (by omega)
    (addJoined join unknown (operands.smaller (Nat.sub_le _ _)))

end Joined

end Operators

section Circle

variable {inner operand : Reader Expr}

theorem comparisonOver (enough : size ≤ budget) (whole : Whole budget (size - 1) inner)
    (operands : Whole budget (size - 1) operand) :
    Whole budget size (Reader.comparisonOver inner operand) := by
  have calls := call enough whole operands
  have sums := arithmetic [.add, .subtract] enough
    (arithmetic [.multiply, .divide, .modulo] enough (arithmetic [.power] enough calls))
  exact joined .comparison (fun _ kind unknown => .unknownComparison kind unknown) enough sums

theorem logical (enough : size ≤ budget) (whole : Whole budget (size - 1) inner)
    (operands : Whole budget (size - 1) operand) :
    Whole budget size (Reader.logical inner operand) :=
  joined .connective (fun _ kind unknown => .unknownConnective kind unknown) enough
    (comparisonOver enough whole operands)

theorem assignmentOver (enough : size ≤ budget) (whole : Whole budget (size - 1) inner)
    (operands : Whole budget (size - 1) operand) :
    Whole budget size (Reader.assignmentOver inner operand) := by
  have targets := logical enough whole operands
  have value (finish : Expr → Expr) : Decides budget (size - 1) 0 anyToken do
      let value ← inner
      return finish value :=
    (whole.map fun value => .pure (finish value)).fewer (Nat.zero_le 1)
  refine targets.map fun target => .peek fun token _ => ?_
  split
  · exact .step (value (Expr.assign target))
  · rename_i kind
    cases read : updateOperator? token.text with
    | some operator => exact .step (value (Expr.update operator target))
    | none => exact .failAfter (.unknownUpdate kind read)
  · exact .pure target

/-- Every step inward takes a token first, so the budget is not used up. -/
theorem within {steps : Nat} (fits : size ≤ steps) (enough : size ≤ budget) :
    Whole budget size (expressionWithin steps) ∧ Whole budget size (comparisonWithin steps) := by
  induction steps generalizing size with
  | zero =>
      obtain rfl : size = 0 := by omega
      exact ⟨.empty, .empty⟩
  | succ steps induction =>
      obtain ⟨expressions, comparisons⟩ := @induction (size - 1) (by omega) (by omega)
      exact ⟨assignmentOver enough expressions comparisons,
        comparisonOver enough expressions comparisons⟩

theorem expression (enough : size ≤ budget) : Whole budget size Reader.expression :=
  .whole (within enough enough).1

theorem comparison (enough : size ≤ budget) : Whole budget size Reader.comparison :=
  .whole (within enough enough).2

end Circle

end Avenger.Reader.Decides
