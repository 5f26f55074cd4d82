import Avenger.Proofs.Relocation.Expression
import Avenger.Reader.Program

/-!
# Reading statements elsewhere

Statements are read elsewhere with other lines.  A statement ends with a token of its own, so
it is the same whatever stands behind it, unless that is an `otherwise`.
-/

namespace Avenger.Reader.Relocation

variable {move : Relocation} {size : Nat} {stable : Prop}

/-- No `otherwise` stands behind the tokens elsewhere. -/
def Apart (move : Relocation) : Prop :=
  (move.more.headD move.away.finish).kind ≠ .otherwise

/-- Two readers of the same statements at home and, with other lines, elsewhere. -/
abbrev Nested (move : Relocation) (size : Nat) (reader reader' : Reader Stmt) : Prop :=
  move.Moves size 1 False (Stmt.relabel move.lines) reader reader'

/-- Statements up to a token of one of the given kinds. -/
theorem statements_moves {kinds : List Token.Kind} {nested nested' : Reader Stmt}
    (enough : size ≤ move.home.budget) (enough' : size ≤ move.away.budget)
    (ends : .endOfFile ∈ kinds) (same : move.Nested size nested nested') :
    move.Moves size 0 False (Stmt.listRelabel move.lines) (itemsUntil kinds nested)
      (itemsUntil kinds nested') := by
  rw [funext (Stmt.listRelabel_eq_map move.lines)]
  exact .itemsUntil enough enough' ends (fun impossible => impossible.elim) same

theorem semicolon_moves (expectation : String) :
    move.Moves size 1 stable id (semicolon expectation) (semicolon expectation) :=
  .expected (by decide) fun _ => .pure ()

theorem parameter_moves : move.Moves size 1 False id parameter parameter :=
  (Moves.expect (by decide) _).map fun token => .pure token.text

theorem endGame_moves : move.Moves size 1 stable (Action.relabel move.lines) endGame endGame := by
  refine .step ?_ (.inl Nat.zero_lt_one)
  exact (semicolon_moves _).map fun _ => .pure Action.endGame

section Plain

variable (enough : size ≤ move.home.budget) (enough' : size ≤ move.away.budget)

include enough enough'

/-- An expression and the semicolon behind it. -/
theorem ended_moves {α β : Type} {image : α → β} {expectation : String} {result : Expr → α}
    {result' : Expr → β} (same : ∀ value, result' value = image (result value)) :
    move.Moves size 1 stable image
      (do
        let value ← expression
        semicolon expectation
        return result value)
      (do
        let value ← expression
        semicolon expectation
        return result' value) := by
  refine Moves.andThen (expression_moves enough enough') fun value => ?_
  refine (semicolon_moves expectation).map fun _ => ?_
  have moved : move.Moves (size - 1 - 1) 0 stable image (return result value)
      (return image (result value)) :=
    .pure (result value)
  rwa [← same] at moved

theorem declaration_moves (constant : Bool) :
    move.Moves size 1 stable (Action.relabel move.lines) (declaration constant)
      (declaration constant) := by
  refine .step ?_ (.inl Nat.zero_lt_one)
  refine .andThen (.expect (by decide) _) fun name => ?_
  refine .look (fun tokens fits => ?_) (.inl Nat.zero_lt_one)
  have kind (token : Token) : (token.relabel move.lines).kind = token.kind := rfl
  rw [kind]
  by_cases ends : (tokens.headD move.home.finish).kind = .semicolon
  · obtain ⟨token, rest, rfl, -⟩ := eq_cons_of_kind move.ends ends (by decide)
    rw [if_pos ends, if_pos ends]
    split
    · exact .error fun _ => rfl
    · exact .ok (Nat.le_refl _) fun _ => rfl
  · rw [if_neg ends, if_neg ends]
    have value : move.Moves (size - 1 - 1) 1 stable (Action.relabel move.lines)
        (do
          let value ← expression
          semicolon "expected ';' after declaration"
          return Action.declare name.text constant (some value))
        (do
          let value ← expression
          semicolon "expected ';' after declaration"
          return Action.declare name.text constant (some value)) :=
      ended_moves (by omega) (by omega) fun _ => by rw [Action.relabel]
    have whole := value.mono (Nat.le_refl _) (Nat.zero_le 1) id
    exact Moves.expected (by decide) (fun _ => whole) tokens fits

theorem condition_moves (construct : String) :
    move.Moves size 1 stable id (condition construct) (condition construct) := by
  refine .step ?_ (.inl Nat.zero_lt_one)
  refine .andThen (.expect (by decide) _) fun _ => ?_
  refine .andThen (expression_moves (by omega) (by omega)) fun test => ?_
  exact .expected (by decide) fun _ => .pure test

theorem teamValues_moves : move.Moves size 0 False id teamValues teamValues := by
  have value : move.Moves size 1 False id
      (do
        let value ← expression
        let _ ← skip? .comma
        return value)
      (do
        let value ← expression
        let _ ← skip? .comma
        return value) :=
    (expression_moves enough enough').map fun value =>
      (Moves.skip .comma).map fun _ => .pure value
  have values : move.Moves size 0 False (List.map id) teamValues teamValues :=
    .itemsUntil enough enough' (by decide) (fun impossible => impossible.elim) value
  rwa [List.map_id_fun] at values

theorem team_moves :
    move.Moves size 1 stable (Action.relabel move.lines) team team := by
  refine .step ?_ (.inl Nat.zero_lt_one)
  refine .andThen (.expect (by decide) _) fun name => ?_
  refine .andThen (.expect (by decide) _) fun _ => ?_
  refine .andThen (expression_moves (by omega) (by omega)) fun count => ?_
  refine .andThen (.expect (by decide) _) fun _ => ?_
  refine .andThen (.expect (by decide) _) fun _ => ?_
  refine .andThen (.expect (by decide) _) fun _ => ?_
  refine .andThen (teamValues_moves (by omega) (by omega)) fun values => ?_
  refine .andThen (.expect (by decide) _) fun _ => ?_
  exact (semicolon_moves _).map fun _ => .pure (Action.team name.text count values)

theorem loopStep_moves : move.Moves size 0 False id loopStep loopStep := by
  refine (Moves.skip .stepWord).map fun skipped => ?_
  cases skipped with
  | true =>
      have step : move.Moves size 1 False id (some <$> expression) (some <$> expression) :=
        (expression_moves enough enough').map fun value => .pure (some value)
      exact step.mono (Nat.sub_le _ _) (Nat.zero_le 1) id
  | false => exact .pure none

theorem snap_moves : move.Moves size 1 stable (Action.relabel move.lines) snap snap := by
  have ended (value : Option Expr) : move.Moves size 1 stable (Action.relabel move.lines)
      (do
        semicolon "expected ';' after 'snap'"
        return Action.snap value)
      (do
        semicolon "expected ';' after 'snap'"
        return Action.snap value) :=
    (semicolon_moves _).map fun _ => .pure (Action.snap value)
  have value : move.Moves size 1 False id (some <$> expression) (some <$> expression) :=
    (expression_moves enough enough').map fun value => .pure (some value)
  refine .step ?_ (.inl Nat.zero_lt_one)
  refine .peek (fun token => ?_) (.inl Nat.zero_lt_one)
  have kind : (token.relabel move.lines).kind = token.kind := rfl
  rw [kind]
  split
  · exact ended none
  · exact value.andThen fun value => (ended value).smaller (Nat.sub_le _ _)

theorem expressionAction_moves :
    move.Moves size 1 stable (Action.relabel move.lines) expressionAction expressionAction :=
  ended_moves enough enough' fun value => by rw [Action.relabel]

end Plain

section Inside

variable {nested nested' : Reader Stmt} (enough : size ≤ move.home.budget)
  (enough' : size ≤ move.away.budget) (same : move.Nested (size - 1) nested nested')

include enough enough' same

theorem block_moves (construct : String) :
    move.Moves size 1 stable (Stmt.listRelabel move.lines) (block nested construct)
      (block nested' construct) := by
  refine .andThen (.expect (by decide) _) fun _ => ?_
  refine .andThen (statements_moves (by omega) (by omega) (by decide) same) fun body => ?_
  exact .expected (by decide) fun _ => .pure body

theorem guarded_moves (construct : String) :
    move.Moves size 1 stable (Clause.relabel move.lines) (guarded nested construct)
      (guarded nested' construct) := by
  refine .andThen (condition_moves enough enough' construct) fun test => ?_
  refine (block_moves (by omega) (by omega) (same.smaller (Nat.sub_le _ _)) construct).map
    fun body => ?_
  exact .pure (Clause.mk test body)

theorem loopWhile_moves :
    move.Moves size 1 stable (Action.relabel move.lines) (loopWhile nested)
      (loopWhile nested') := by
  refine (guarded_moves enough enough' same _).map fun clause => ?_
  obtain ⟨test, body⟩ := clause
  exact .pure (Action.loopWhile test body)

/-- What comes after the body of a branch, with other lines. -/
abbrev alternativeImage (move : Relocation) (read : List Clause × Option (List Stmt)) :
    List Clause × Option (List Stmt) :=
  (Clause.listRelabel move.lines read.1, Stmt.optionRelabel move.lines read.2)

theorem alternative_moves (read : List Clause × Option (List Stmt)) :
    move.Moves size 1 stable move.alternativeImage (alternative nested read)
      (alternative nested' (move.alternativeImage read)) := by
  refine .step ?_ (.inl Nat.zero_lt_one)
  refine .peek (fun token => ?_) (.inl Nat.zero_lt_one)
  have kind : (token.relabel move.lines).kind = token.kind := rfl
  rw [kind]
  split
  · refine (guarded_moves enough enough' same _).map fun clause => ?_
    obtain ⟨test, body⟩ := clause
    exact .pure (Clause.mk test body :: read.1, none)
  · exact (block_moves enough enough' same _).map fun body => .pure (read.1, some body)

/-- A branch is over where no `otherwise` follows. -/
theorem branch_moves :
    move.Moves size 1 move.Apart (Action.relabel move.lines) (branch nested) (branch nested') := by
  refine (guarded_moves enough enough' same _).map fun first => ?_
  have rest : move.Moves (size - 1) 0 move.Apart move.alternativeImage
      (foldWhile (fun read token => read.2.isNone && token.kind = .otherwise)
        (alternative nested) ([], none))
      (foldWhile (fun read token => read.2.isNone && token.kind = .otherwise)
        (alternative nested') ([], none)) := by
    refine .foldWhile (by omega) (by omega) ?_ ?_ ?_ fun read => ?_
    · intro read token
      rw [show (move.alternativeImage read).2 = read.2.map (Stmt.listRelabel move.lines) from
        Stmt.optionRelabel_eq_map move.lines read.2, Option.isNone_map]
      rfl
    · intro _ token kind
      simp [kind]
    · intro apart _
      have other : decide ((move.more.headD move.away.finish).kind = .otherwise) = false :=
        decide_eq_false apart
      rw [other, Bool.and_false]
    · exact alternative_moves (by omega) (by omega) (same.smaller (by omega)) read
  refine rest.map fun rest => ?_
  obtain ⟨test, body⟩ := first
  refine .pureOf ?_
  rw [Action.relabel, Clause.listRelabel_reverse]
  rfl

theorem caseBody_moves :
    move.Moves (size - 1) 0 False (Stmt.listRelabel move.lines) (caseBody nested)
      (caseBody nested') :=
  statements_moves (by omega) (by omega) (by decide) same

/-- The cases of a multiverse, with other lines. -/
abbrev casesImage (move : Relocation) (read : List Clause × List Stmt) :
    List Clause × List Stmt :=
  (Clause.listRelabel move.lines read.1, Stmt.listRelabel move.lines read.2)

theorem caseOf_moves (read : List Clause × List Stmt) :
    move.Moves size 1 False move.casesImage (caseOf nested read)
      (caseOf nested' (move.casesImage read)) := by
  refine .peek (fun token => ?_) (.inl Nat.zero_lt_one)
  have kind : (token.relabel move.lines).kind = token.kind := rfl
  rw [kind]
  have bodies := caseBody_moves enough enough' same
  split
  · refine .step ?_ (.inl Nat.zero_lt_one)
    refine .map (expression_moves enough enough') fun test => ?_
    refine .closed (by decide) fun _ => ?_
    refine (bodies.smaller (by omega)).map fun body => ?_
    exact .pure (Clause.mk test body :: read.1, read.2)
  · refine .step ?_ (.inl Nat.zero_lt_one)
    refine .expected (by decide) fun _ => ?_
    exact bodies.map fun body => .pure (read.1, body)
  · exact .fail token.line _

theorem multiverse_moves :
    move.Moves size 1 stable (Action.relabel move.lines) (multiverse nested)
      (multiverse nested') := by
  refine .step ?_ (.inl Nat.zero_lt_one)
  refine .andThen (.expect (by decide) _) fun _ => ?_
  refine .andThen (expression_moves (by omega) (by omega)) fun discriminant => ?_
  refine .andThen (.expect (by decide) _) fun _ => ?_
  refine .andThen (.expect (by decide) _) fun _ => ?_
  have cases : move.Moves (size - 1 - 1 - 1 - 1) 0 False move.casesImage
      (foldWhile (fun _ token => token.kind != .closeBrace && token.kind != .endOfFile)
        (caseOf nested) ([], []))
      (foldWhile (fun _ token => token.kind != .closeBrace && token.kind != .endOfFile)
        (caseOf nested') ([], [])) := by
    refine .foldWhile (by omega) (by omega) (fun _ _ => rfl) (fun _ _ kind => by simp [kind])
      (fun impossible => impossible.elim) fun read => ?_
    exact caseOf_moves (by omega) (by omega) (same.smaller (by omega)) read
  refine cases.andThen fun cases => ?_
  refine .expected (by decide) fun _ => ?_
  refine .pureOf ?_
  rw [Action.relabel, Clause.listRelabel_reverse]
  rfl

theorem loopRange_moves :
    move.Moves size 1 stable (Action.relabel move.lines) (loopRange nested)
      (loopRange nested') := by
  refine .step ?_ (.inl Nat.zero_lt_one)
  refine .andThen (.expect (by decide) _) fun _ => ?_
  refine .andThen (.expect (by decide) _) fun iterator => ?_
  refine .andThen (.expect (by decide) _) fun _ => ?_
  refine .andThen (expression_moves (by omega) (by omega)) fun start => ?_
  refine .andThen (.expect (by decide) _) fun _ => ?_
  refine .andThen (expression_moves (by omega) (by omega)) fun stop => ?_
  refine .andThen (loopStep_moves (by omega) (by omega)) fun step => ?_
  refine .andThen (.expect (by decide) _) fun _ => ?_
  refine (block_moves (by omega) (by omega) (same.smaller (by omega)) _).map fun body => ?_
  exact .pure (Action.loopRange iterator.text start stop step body)

theorem loopFor_moves :
    move.Moves size 1 stable (Action.relabel move.lines) (loopFor nested) (loopFor nested') := by
  refine .step ?_ (.inl Nat.zero_lt_one)
  refine .andThen (.expect (by decide) _) fun _ => ?_
  refine .andThen same fun header => ?_
  refine .andThen (expression_moves (by omega) (by omega)) fun test => ?_
  refine .andThen (semicolon_moves _) fun _ => ?_
  refine .andThen (expression_moves (by omega) (by omega)) fun modification => ?_
  refine .andThen (.expect (by decide) _) fun _ => ?_
  refine (block_moves (by omega) (by omega) (same.smaller (by omega)) _).map fun body => ?_
  exact .pure (Action.loopFor header test modification body)

theorem assemble_moves :
    move.Moves size 1 stable (Action.relabel move.lines) (assemble nested)
      (assemble nested') := by
  refine .step ?_ (.inl Nat.zero_lt_one)
  refine .andThen (.expect (by decide) _) fun name => ?_
  refine .andThen (.expect (by decide) _) fun _ => ?_
  refine .peek (fun token => ?_) (.inl Nat.zero_lt_one)
  have kind : (token.relabel move.lines).kind = token.kind := rfl
  rw [kind]
  have last (parameters : List String) : move.Moves (size - 1 - 1) 1 stable
      (Action.relabel move.lines)
      (do
        let _ ← expect .closeParen "expected ')' after function parameters"
        return Action.assemble name.text parameters (← block nested "assemble"))
      (do
        let _ ← expect .closeParen "expected ')' after function parameters"
        return Action.assemble name.text parameters (← block nested' "assemble")) := by
    refine .andThen (.expect (by decide) _) fun _ => ?_
    refine (block_moves (by omega) (by omega) (same.smaller (by omega)) _).map fun body => ?_
    exact .pure (Action.assemble name.text parameters body)
  split
  · exact last []
  · have parameters : move.Moves (size - 1 - 1) 1 False (List.map id) (separated parameter)
        (separated parameter) :=
      .separated (by omega) (by omega) parameter_moves
    rw [List.map_id_fun] at parameters
    exact parameters.andThen fun parameters => (last parameters).smaller (Nat.sub_le _ _)

end Inside

theorem action_moves {nested nested' : Reader Stmt} (enough : size ≤ move.home.budget)
    (enough' : size ≤ move.away.budget) (same : move.Nested (size - 1) nested nested')
    (first : Token) :
    move.Moves size 1 move.Apart (Action.relabel move.lines) (action nested first)
      (action nested' (first.relabel move.lines)) := by
  unfold action
  have kind : (first.relabel move.lines).kind = first.kind := rfl
  rw [kind]
  split
  · exact declaration_moves enough enough' false
  · exact declaration_moves enough enough' true
  · exact branch_moves enough enough' same
  · exact loopWhile_moves enough enough' same
  · exact endGame_moves
  · exact team_moves enough enough'
  · exact multiverse_moves enough enough' same
  · exact loopRange_moves enough enough' same
  · exact loopFor_moves enough enough' same
  · exact assemble_moves enough enough' same
  · exact snap_moves enough enough'
  · exact .fail first.line _
  · exact expressionAction_moves enough enough'

/-- A statement in terms of its first token and its action. -/
theorem statementWithin_succ (budget : Nat) :
    statementWithin (budget + 1) = (do
      let first ← peek
      let action ← action (statementWithin budget) first
      return Stmt.mk first.line action) := by
  funext setting tokens
  rw [peek_bind]
  cases ran : action (statementWithin budget) (tokens.headD setting.finish) setting tokens with
  | ok result =>
      simp only [statementWithin, ran, bind_of_ok ran]
      rfl
  | error stop => simp only [statementWithin, ran, bind_of_error ran]

/-- Statements are read alike with any two budgets that suffice. -/
theorem statementWithin_moves {budget budget' : Nat} (fits : size ≤ budget)
    (fits' : size ≤ budget') (enough : size ≤ move.home.budget)
    (enough' : size ≤ move.away.budget) :
    move.Moves size 1 move.Apart (Stmt.relabel move.lines) (statementWithin budget)
      (statementWithin budget') := by
  induction budget generalizing size budget' with
  | zero =>
      obtain rfl : size = 0 := by omega
      exact .none
  | succ budget induction =>
      cases budget' with
      | zero =>
          obtain rfl : size = 0 := by omega
          exact .none
      | succ budget' =>
          have inside := @induction (size - 1) budget' (by omega) (by omega) (by omega) (by omega)
          have nested := inside.mono (Nat.le_refl _) (Nat.le_refl 1) False.elim
          have whole : move.Moves size 1 move.Apart (Stmt.relabel move.lines)
              (do
                let first ← peek
                let action ← action (statementWithin budget) first
                return Stmt.mk first.line action)
              (do
                let first ← peek
                let action ← action (statementWithin budget') first
                return Stmt.mk first.line action) := by
            refine .peek (fun first => ?_) (.inl Nat.zero_lt_one)
            refine (action_moves enough enough' nested first).map fun action => ?_
            exact .pure (Stmt.mk first.line action)
          rw [statementWithin_succ, statementWithin_succ]
          exact whole

theorem statement_moves (enough : size ≤ move.home.budget) (enough' : size ≤ move.away.budget) :
    move.Moves size 1 move.Apart (Stmt.relabel move.lines) statement statement :=
  statementWithin_moves enough enough' enough enough'

end Avenger.Reader.Relocation
