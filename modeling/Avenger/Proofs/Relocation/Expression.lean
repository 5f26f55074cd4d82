import Avenger.Proofs.Relocation.Rule
import Avenger.Reader.Expression

/-!
# Reading expressions elsewhere

Expressions have no lines, so they are read elsewhere as the same ones.  An expression ends
only where the next token is known.
-/

namespace Avenger.Reader.Relocation

variable {move : Relocation} {size : Nat}

/-- Two readers of the same expressions at home and elsewhere. -/
abbrev Same (move : Relocation) (size : Nat) (reader reader' : Reader Expr) : Prop :=
  move.Moves size 1 False id reader reader'

section Levels

variable {inner inner' operand operand' : Reader Expr}

/-- A whole expression up to a token that closes it. -/
theorem grouped_moves {kind : Token.Kind} (inside : kind ≠ .endOfFile) (expectation : String)
    (finish : Expr → Expr) (same : move.Same size inner inner') :
    move.Same size
      (do
        let grouped ← inner
        let _ ← expect kind expectation
        return finish grouped)
      (do
        let grouped ← inner'
        let _ ← expect kind expectation
        return finish grouped) :=
  same.map fun grouped => .closed inside fun _ => .pure (finish grouped)

theorem primary_moves (same : move.Same (size - 1) inner inner')
    (sameOperand : move.Same (size - 1) operand operand') :
    move.Same size (primary inner operand) (primary inner' operand') := by
  intro tokens fits
  unfold primary
  rw [peek_bind, peek_bind]
  cases tokens with
  | nil =>
      generalize finish : ([] : List Token).headD move.home.finish = token
      have kind : token.kind = .endOfFile := finish ▸ move.ends
      rw [kind]
      refine .error fun alone => ?_
      rw [headD_tokens (.inr alone), finish]
      have kind' : (token.relabel move.lines).kind = .endOfFile := kind
      rw [kind']
      rfl
  | cons token tokens =>
      have fits : tokens.length < size - 1 := by simpa using Nat.lt_sub_of_add_lt fits
      rw [headD_tokens (.inl (List.cons_ne_nil _ _)), List.headD_cons]
      have kind : (token.relabel move.lines).kind = token.kind := rfl
      rw [kind]
      generalize token.kind = kind
      cases kind
      case identifier | string | null => exact .ok (Nat.le_refl _) fun _ => rfl
      case number =>
          have text : (token.relabel move.lines).text = token.text := rfl
          dsimp only
          rw [text, advance_bind, advance_bind]
          cases Number.ofText? token.text with
          | some value => exact .ok (Nat.le_refl _) fun _ => rfl
          | none => exact .error fun _ => rfl
      case openParen | openBrace =>
          exact (grouped_moves (by decide) _ id same tokens fits).after
      case not =>
          have negated : move.Same (size - 1) (operand >>= fun value => return Expr.not value)
              (operand' >>= fun value => return Expr.not value) :=
            sameOperand.map fun value => .pure (Expr.not value)
          exact (negated tokens fits).after
      all_goals exact .error fun _ => rfl

theorem unary_moves (same : move.Same (size - 1) inner inner')
    (sameOperand : move.Same (size - 1) operand operand') :
    move.Same size (unary inner operand) (unary inner' operand') := by
  have primaries := primary_moves same sameOperand
  have both : move.Moves size (0 + 1) False id (unary inner operand) (unary inner' operand') := by
    refine (Moves.skip .minus).bind (fun skipped => ?_) (.inr id)
    cases skipped with
    | true => exact primaries.map fun value => .pure (Expr.minus value)
    | false => exact primaries
  rwa [Nat.zero_add] at both

theorem member_moves (enough : size ≤ move.home.budget) (enough' : size ≤ move.away.budget)
    (same : move.Same (size - 1) inner inner')
    (sameOperand : move.Same (size - 1) operand operand') :
    move.Same size (member inner operand) (member inner' operand') := by
  refine (unary_moves same sameOperand).map fun object => ?_
  refine Moves.foldWhile (by omega) (by omega) (fun _ _ => rfl) (fun _ _ kind => by simp [kind])
    (fun impossible => impossible.elim) fun object => ?_
  exact Moves.step (grouped_moves (by decide) _ (Expr.member object) same) (.inl Nat.zero_lt_one)

/-- The arguments of a call and the parenthesis behind them. -/
theorem arguments_moves (enough : size ≤ move.home.budget) (enough' : size ≤ move.away.budget)
    (same : move.Same size inner inner') :
    move.Moves size 1 False id (arguments inner) (arguments inner') := by
  refine Moves.peek (fun token => ?_) (.inr id)
  have kind : (token.relabel move.lines).kind = token.kind := rfl
  rw [kind]
  have closed (values : List Expr) : move.Moves size 1 False id
      (do
        let _ ← expect .closeParen "expected ')' after arguments"
        return values)
      (do
        let _ ← expect .closeParen "expected ')' after arguments"
        return values) :=
    .expected (by decide) fun _ => .pure values
  split
  · exact closed []
  · have values := Moves.separated enough enough' same
    rw [List.map_id_fun] at values
    refine values.map fun values => ?_
    exact (closed values).mono (Nat.sub_le _ _) (Nat.zero_le 1) id

theorem call_moves (enough : size ≤ move.home.budget) (enough' : size ≤ move.away.budget)
    (same : move.Same (size - 1) inner inner')
    (sameOperand : move.Same (size - 1) operand operand') :
    move.Same size (call inner operand) (call inner' operand') := by
  refine (member_moves enough enough' same sameOperand).map fun callee => ?_
  refine Moves.foldWhile (by omega) (by omega) (fun _ _ => rfl) (fun _ _ kind => by simp [kind])
    (fun impossible => impossible.elim) fun callee => ?_
  refine Moves.step ?_ (.inl Nat.zero_lt_one)
  exact (arguments_moves (by omega) (by omega) same).map fun values =>
    .pure (Expr.call callee values)

end Levels

section Operators

variable {operand operand' : Reader Expr}

theorem arithmetic_moves (operators : List Arithmetic) (enough : size ≤ move.home.budget)
    (enough' : size ≤ move.away.budget) (same : move.Same size operand operand') :
    move.Same size (arithmetic operators operand) (arithmetic operators operand') := by
  refine same.map fun left => ?_
  refine Moves.foldWhile (by omega) (by omega) (fun _ _ => rfl) ?_
    (fun impossible => impossible.elim) fun left => ?_
  · intro _ token kind
    simp [arithmeticIn?, kind]
  · refine Moves.peek (fun token => ?_) (.inr id)
    refine Moves.step ?_ (.inr id)
    have operator : arithmeticIn? operators (token.relabel move.lines) =
        arithmeticIn? operators token := rfl
    rw [operator]
    exact (same.smaller (Nat.sub_le _ _)).map fun right => .pure _

theorem joined_moves {Operator : Type} {kind : Token.Kind} (operator? : String → Option Operator)
    (join : Operator → Expr → Expr → Expr) (inside : kind ≠ .endOfFile)
    (enough : size ≤ move.home.budget) (enough' : size ≤ move.away.budget)
    (same : move.Same size operand operand') :
    move.Same size (joined kind operator? join operand) (joined kind operator? join operand') := by
  refine same.map fun left => ?_
  refine Moves.foldWhile (by omega) (by omega) (fun _ _ => rfl) ?_
    (fun impossible => impossible.elim) fun left => ?_
  · intro _ token ended
    simpa [ended] using inside.symm
  · refine Moves.peek (fun token => ?_) (.inr id)
    refine Moves.step ?_ (.inr id)
    have text : (token.relabel move.lines).text = token.text := rfl
    rw [text]
    cases operator? token.text with
    | some operator =>
        exact (same.smaller (Nat.sub_le _ _)).map fun right => .pure (join operator left right)
    | none => exact .fail token.line _

end Operators

section Circle

variable {inner inner' operand operand' : Reader Expr}

theorem comparisonOver_moves (enough : size ≤ move.home.budget) (enough' : size ≤ move.away.budget)
    (same : move.Same (size - 1) inner inner')
    (sameOperand : move.Same (size - 1) operand operand') :
    move.Same size (comparisonOver inner operand) (comparisonOver inner' operand') := by
  have calls := call_moves enough enough' same sameOperand
  have sums := arithmetic_moves [.add, .subtract] enough enough'
    (arithmetic_moves [.multiply, .divide, .modulo] enough enough'
      (arithmetic_moves [.power] enough enough' calls))
  exact joined_moves Comparison.ofSymbol? .comparison (by decide) enough enough' sums

theorem logical_moves (enough : size ≤ move.home.budget) (enough' : size ≤ move.away.budget)
    (same : move.Same (size - 1) inner inner')
    (sameOperand : move.Same (size - 1) operand operand') :
    move.Same size (logical inner operand) (logical inner' operand') :=
  joined_moves Connective.ofSymbol? .connective (by decide) enough enough'
    (comparisonOver_moves enough enough' same sameOperand)

theorem assignmentOver_moves (enough : size ≤ move.home.budget) (enough' : size ≤ move.away.budget)
    (same : move.Same (size - 1) inner inner')
    (sameOperand : move.Same (size - 1) operand operand') :
    move.Same size (assignmentOver inner operand) (assignmentOver inner' operand') := by
  have targets := logical_moves enough enough' same sameOperand
  refine targets.map fun target => ?_
  refine Moves.peek (fun token => ?_) (.inr id)
  have kind : (token.relabel move.lines).kind = token.kind := rfl
  have text : (token.relabel move.lines).text = token.text := rfl
  rw [kind, text]
  have value (finish : Expr → Expr) : move.Moves (size - 1) 0 False id
      (inner >>= fun value => return finish value) (inner' >>= fun value => return finish value) :=
    (same.map fun value => .pure (finish value)).mono (Nat.le_refl _) (Nat.zero_le 1) id
  split
  · exact .step (value (Expr.assign target)) (.inr id)
  · refine .step ?_ (.inr id)
    cases updateOperator? token.text with
    | some operator => exact value (Expr.update operator target)
    | none => exact .fail token.line _
  · exact .pure target

/-- Expressions and comparisons are read alike with any two budgets that suffice. -/
theorem within_moves {budget budget' : Nat} (fits : size ≤ budget) (fits' : size ≤ budget')
    (enough : size ≤ move.home.budget) (enough' : size ≤ move.away.budget) :
    move.Same size (expressionWithin budget) (expressionWithin budget') ∧
      move.Same size (comparisonWithin budget) (comparisonWithin budget') := by
  induction budget generalizing size budget' with
  | zero =>
      obtain rfl : size = 0 := by omega
      exact ⟨.none, .none⟩
  | succ budget induction =>
      cases budget' with
      | zero =>
          obtain rfl : size = 0 := by omega
          exact ⟨.none, .none⟩
      | succ budget' =>
          have inside := @induction (size - 1) budget' (by omega) (by omega) (by omega) (by omega)
          exact ⟨assignmentOver_moves enough enough' inside.1 inside.2,
            comparisonOver_moves enough enough' inside.1 inside.2⟩

theorem expression_moves (enough : size ≤ move.home.budget) (enough' : size ≤ move.away.budget) :
    move.Same size expression expression :=
  (within_moves enough enough' enough enough').1

end Circle

end Avenger.Reader.Relocation
