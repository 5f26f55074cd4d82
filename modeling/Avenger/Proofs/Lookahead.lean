import Mathlib.Data.Finset.Lattice.Fold
import Avenger.Proofs.Lookahead.Statement
import Avenger.Proofs.Grammar
import Avenger.Proofs.Printing

/-!
# Where a program or a syntax error is decided

The tokens up to one of them decide what is read: a syntax error is found at that token, and a
program ends with it, the first end of file.  What stands behind that token is never looked
at.
-/

namespace Avenger

/-- Tokens with an end of file behind them, which is added if they do not end with one. -/
def Token.closed (tokens : List Token) : List Token :=
  match tokens.getLast? with
  | none => [endOfFile 1]
  | some last => if last.kind = .endOfFile then tokens else tokens ++ [endOfFile last.line]

/-- Of all tokens, those up to the given one decide what is read. -/
structure Program.DecidedAt (tokens : List Token) (place : Nat) (token : Token) : Prop where
  there : (Token.closed tokens)[place]? = some token
  /-- The token is not behind the first end of file. -/
  inside : ∀ earlier ∈ (Token.closed tokens).take place, earlier.kind ≠ .endOfFile
  alike : ∀ tokens' : List Token,
    (Token.closed tokens').take (place + 1) = (Token.closed tokens).take (place + 1) →
      Program.ofTokens tokens' = Program.ofTokens tokens

namespace Reader

section Closed

theorem before_of_inside {tokens : List Token}
    (inside : ∀ token ∈ tokens, token.kind ≠ .endOfFile) : before tokens = tokens := by
  have none : ∀ token ∈ ([] : List Token).head?, token.kind = .endOfFile := by simp
  have whole := before_append inside none
  rwa [List.append_nil] at whole

/-- Without an end of file, one is added behind all tokens. -/
theorem closed_of_inside {tokens : List Token}
    (inside : ∀ token ∈ tokens, token.kind ≠ .endOfFile) :
    Token.closed tokens = tokens ++ [Token.endOfFile (tokens.getLast?.elim 1 (·.line))] := by
  unfold Token.closed
  cases last : tokens.getLast? with
  | none =>
      rw [List.getLast?_eq_none_iff.mp last]
      rfl
  | some token => exact if_neg (inside token (List.mem_of_getLast? last))

/-- What is added stands behind all tokens. -/
theorem closed_of_ne_nil {tokens : List Token} (some : tokens ≠ []) :
    ∃ added, Token.closed tokens = tokens ++ added := by
  unfold Token.closed
  rw [List.getLast?_eq_some_getLast some]
  dsimp only
  split
  · exact ⟨[], (List.append_nil _).symm⟩
  · exact ⟨_, rfl⟩

/-- The first end of file stands behind the tokens that are read. -/
theorem closed_eq (tokens : List Token) :
    ∃ after, Token.closed tokens = before tokens ++ finish tokens :: after := by
  unfold finish
  cases found : tokens.find? (·.kind == .endOfFile) with
  | none =>
      have inside : ∀ token ∈ tokens, token.kind ≠ .endOfFile := by
        simpa using List.find?_eq_none.mp found
      rw [before_of_inside inside]
      exact ⟨[], closed_of_inside inside⟩
  | some ending =>
      obtain ⟨kind, used, after, rfl, others⟩ := List.find?_eq_some_iff_append.mp found
      have inside : ∀ token ∈ used, token.kind ≠ .endOfFile := by simpa using others
      rw [before_append inside (by simpa using kind)]
      have some : used ++ ending :: after ≠ [] := by simp
      obtain ⟨added, closed⟩ := closed_of_ne_nil some
      rw [closed]
      exact ⟨after ++ added, by simp⟩

/-- The token at a place before the end of file, or the end of file behind all of them. -/
theorem getElem?_append_cons {tokens after : List Token} {ending : Token} {place : Nat}
    (inside : place ≤ tokens.length) :
    (tokens ++ ending :: after)[place]? = some ((tokens.drop place).headD ending) := by
  induction tokens generalizing place with
  | nil =>
      obtain rfl := Nat.le_zero.mp inside
      rfl
  | cons token tokens induction =>
      cases place with
      | zero => rfl
      | succ place => exact induction (Nat.le_of_succ_le_succ inside)

/-- Tokens that start like others up to the token behind the `used` ones meet them there. -/
theorem meets_of_take {setting setting' : Setting} {used rest tokens' after after' : List Token}
    (ends : setting.finish.kind = .endOfFile) (ends' : setting'.finish.kind = .endOfFile)
    (inside : ∀ token ∈ used ++ rest, token.kind ≠ .endOfFile)
    (inside' : ∀ token ∈ tokens', token.kind ≠ .endOfFile)
    (same : (tokens' ++ setting'.finish :: after').take (used.length + 1) =
      (used ++ rest ++ setting.finish :: after).take (used.length + 1)) :
    ∃ rest', tokens' = used ++ rest' ∧ Meets setting setting' rest rest' := by
  induction used generalizing tokens' with
  | nil =>
      refine ⟨tokens', rfl, ?_⟩
      cases rest with
      | nil =>
          cases tokens' with
          | nil => exact .finish (by simpa using same.symm)
          | cons token' tokens' =>
              have found : token' = setting.finish := by simpa using same
              exact absurd ends (found ▸ inside' token' (.head _))
      | cons token rest =>
          cases tokens' with
          | nil =>
              have found : setting'.finish = token := by simpa using same
              exact absurd ends' (found ▸ inside token (.head _))
          | cons token' tokens' =>
              obtain rfl : token' = token := by simpa using same
              exact .token token' rest tokens'
  | cons token used induction =>
      cases tokens' with
      | nil =>
          have found : setting'.finish = token := by
            simpa using congrArg List.head? same
          exact absurd ends' (found ▸ inside token (.head _))
      | cons token' tokens' =>
          rw [List.length_cons, List.cons_append, List.cons_append, List.cons_append,
            List.take_succ_cons, List.take_succ_cons, List.cons.injEq] at same
          obtain ⟨rfl, same⟩ := same
          obtain ⟨rest', rfl, meets⟩ := induction
            (fun token member => inside token (.tail _ member))
            (fun token member => inside' token (.tail _ member)) same
          exact ⟨rest', rfl, meets⟩

end Closed

/-- Programs are read alike with any two budgets that suffice. -/
theorem program_funded {ending : Token} {tokens : List Token} {budget budget' : Nat}
    (ends : ending.kind = .endOfFile) (fits : tokens.length < budget)
    (fits' : tokens.length < budget') :
    Reader.program ⟨ending, budget⟩ tokens = Reader.program ⟨ending, budget'⟩ tokens := by
  let move : Relocation := ⟨id, ⟨ending, budget⟩, ⟨ending, budget'⟩, [], ends⟩
  have statements : move.Moves (tokens.length + 1) 1 False (Stmt.relabel id) statement statement :=
    (Relocation.statement_moves fits fits').mono (Nat.le_refl _) (Nat.le_refl 1) False.elim
  have programs : move.Moves (tokens.length + 1) 0 False (List.map (Stmt.relabel id))
      Reader.program Reader.program :=
    .itemsUntil fits fits' (by decide) False.elim statements
  refine programs.alike (fun statements => ?_) (Nat.lt_succ_self _)
  rw [funext Stmt.relabel_id, List.map_id']

end Reader

namespace Program

open Reader

variable {tokens tokens' : List Token} {budget : Nat}

theorem ofTokens_of_ok {program : Program} {rest : List Token}
    (fits : (before tokens).length < budget)
    (read : Reader.program ⟨finish tokens, budget⟩ (before tokens) = .ok (program, rest)) :
    ofTokens tokens = .ok program := by
  unfold ofTokens run runWithin
  rw [program_funded (finish_kind tokens) (Nat.lt_succ_self _) fits, read]
  rfl

theorem ofTokens_of_error {error : SyntaxError} (fits : (before tokens).length < budget)
    (failed : Reader.program ⟨finish tokens, budget⟩ (before tokens) = .error (.error error)) :
    ofTokens tokens = .error error := by
  unfold ofTokens run runWithin
  rw [program_funded (finish_kind tokens) (Nat.lt_succ_self _) fits, failed]
  rfl

/-- What the deciding token is for a program and for a syntax error. -/
def EndsAt (token : Token) : Except SyntaxError Program → Prop
  | .ok _ => token.kind = .endOfFile
  | .error error => error.line = token.line ∧ error.fault.FoundAt token

/-- Of fewer than `bound` tokens, those up to a place decide what is read. -/
structure DecidedWithin (tokens : List Token) (bound place : Nat) : Prop where
  inside : place ≤ (before tokens).length
  ends : EndsAt (((before tokens).drop place).headD (finish tokens)) (ofTokens tokens)
  alike : ∀ tokens' : List Token, tokens'.length < bound →
    (Token.closed tokens').take (place + 1) = (Token.closed tokens).take (place + 1) →
      ofTokens tokens' = ofTokens tokens

theorem before_length_le (tokens : List Token) : (before tokens).length ≤ tokens.length :=
  (List.takeWhile_sublist _).length_le

/-- What a reader has settled for some tokens, it says for others that start with the same. -/
theorem read_of_take {used rest : List Token}
    {answer : List Token → Except Stop (Program × List Token)}
    (split : before tokens = used ++ rest)
    (settled : Settled Reader.program budget ⟨finish tokens, budget⟩ used rest answer)
    (fits : (before tokens').length < budget)
    (same : (Token.closed tokens').take (used.length + 1) =
      (Token.closed tokens).take (used.length + 1)) :
    ∃ rest', Reader.program ⟨finish tokens', budget⟩ (before tokens') = answer rest' := by
  obtain ⟨after, closed⟩ := closed_eq tokens
  obtain ⟨after', closed'⟩ := closed_eq tokens'
  rw [closed, closed', split] at same
  obtain ⟨rest', split', meets⟩ :
      ∃ rest', before tokens' = used ++ rest' ∧
        Meets ⟨finish tokens, budget⟩ ⟨finish tokens', budget⟩ rest rest' :=
    meets_of_take (finish_kind tokens) (finish_kind tokens') (split ▸ before_inside tokens)
      (before_inside tokens') same
  rw [split'] at fits ⊢
  exact ⟨rest', settled _ rest' rfl fits meets⟩

/-- The place behind the used tokens decides if every answer there is read as one result. -/
theorem decidedWithin_of_settled {used rest : List Token} {bound : Nat}
    {answer : List Token → Except Stop (Program × List Token)}
    {result : Except SyntaxError Program} (split : before tokens = used ++ rest)
    (settled : Settled Reader.program budget ⟨finish tokens, budget⟩ used rest answer)
    (fits : tokens.length < budget) (enough : bound ≤ budget)
    (reads : ∀ tokens' rest', (before tokens').length < budget →
      Reader.program ⟨finish tokens', budget⟩ (before tokens') = answer rest' →
      ofTokens tokens' = result)
    (ends : EndsAt (rest.headD (finish tokens)) result) :
    DecidedWithin tokens bound used.length := by
  have read (tokens' : List Token) (fits' : tokens'.length < budget)
      (same : (Token.closed tokens').take (used.length + 1) =
        (Token.closed tokens).take (used.length + 1)) : ofTokens tokens' = result := by
    have fits' := Nat.lt_of_le_of_lt (before_length_le tokens') fits'
    obtain ⟨rest', read⟩ := read_of_take split settled fits' same
    exact reads tokens' rest' fits' read
  have here := read tokens fits rfl
  refine ⟨?_, ?_, fun tokens' few same => ?_⟩
  · rw [split, List.length_append]
    exact Nat.le_add_right _ _
  · rw [split, List.drop_left, here]
    exact ends
  · rw [here]
    exact read tokens' (Nat.lt_of_lt_of_le few enough) same

/-- However many tokens others may have, some place decides. -/
theorem exists_decidedWithin (tokens : List Token) (bound : Nat) :
    ∃ place, DecidedWithin tokens bound place := by
  let budget := tokens.length + bound + 1
  have fits : (before tokens).length < budget := by
    have short := before_length_le tokens
    omega
  have finishes := finish_kind tokens
  have decided : Decided Reader.program budget 0 ⟨finish tokens, budget⟩ (before tokens) :=
    Decides.program (Nat.le_refl _) _ _ rfl finishes fits trivial
  cases decided with
  | @ok used rest program split _ settled =>
      have read := settled _ rest rfl (split ▸ fits) (.refl _ rest)
      rw [← split] at read
      obtain rfl := program_rest finishes (before_inside tokens) read
      have ends : EndsAt (finish tokens) (.ok program) := finishes
      refine ⟨_, decidedWithin_of_settled split settled (by omega) (by omega) ?_ ends⟩
      exact fun tokens' rest' fits' => ofTokens_of_ok fits'
  | @error used rest fault split found settled =>
      have ends : EndsAt (rest.headD (finish tokens)) (.error ⟨_, fault⟩) := ⟨rfl, found⟩
      refine ⟨_, decidedWithin_of_settled split settled (by omega) (by omega) ?_ ends⟩
      exact fun tokens' rest' fits' => ofTokens_of_error fits'

/-- The fault of a syntax error is found at one of the tokens or at the end of file. -/
theorem exists_found {error : SyntaxError} (failed : ofTokens tokens = .error error) :
    ∃ token, (token ∈ tokens ∨ token.kind = .endOfFile) ∧ error.fault.FoundAt token := by
  obtain ⟨place, decided⟩ := exists_decidedWithin tokens 0
  have ends := decided.ends
  rw [failed] at ends
  refine ⟨_, ?_, ends.2⟩
  cases left : (before tokens).drop place with
  | nil => exact .inr (finish_kind tokens)
  | cons token rest =>
      have member : token ∈ before tokens := List.mem_of_mem_drop (left ▸ List.mem_cons_self)
      exact .inl ((List.takeWhile_sublist _).subset member)

/-- One place decides for any number of tokens: there are only so many places. -/
theorem exists_decidedWithin_all (tokens : List Token) :
    ∃ place, ∀ bound, DecidedWithin tokens bound place := by
  by_contra none
  simp only [not_exists, not_forall] at none
  choose fails failed using none
  let most := (Finset.range ((before tokens).length + 1)).sup fails
  obtain ⟨place, decided⟩ := exists_decidedWithin tokens most
  refine failed place ⟨decided.inside, decided.ends, fun tokens' few => ?_⟩
  have below : fails place ≤ most :=
    Finset.le_sup (Finset.mem_range.mpr (Nat.lt_succ_of_le decided.inside))
  exact decided.alike tokens' (Nat.lt_of_lt_of_le few below)

/-- What is read is decided by the tokens up to one of them: the first end of file for a
program, and for a syntax error the token at which the fault is found, whose line is reported. -/
theorem decided_at_token (tokens : List Token) :
    ∃ place token, DecidedAt tokens place token ∧ EndsAt token (ofTokens tokens) := by
  obtain ⟨place, decided⟩ := exists_decidedWithin_all tokens
  have first := decided 0
  refine ⟨place, _, ⟨?_, ?_, fun tokens' => ?_⟩, first.ends⟩
  · obtain ⟨after, closed⟩ := closed_eq tokens
    rw [closed]
    exact getElem?_append_cons first.inside
  · obtain ⟨after, closed⟩ := closed_eq tokens
    rw [closed, List.take_append_of_le_length first.inside]
    exact fun earlier member => before_inside tokens earlier (List.mem_of_mem_take member)
  · exact (decided (tokens'.length + 1)).alike tokens' (Nat.lt_succ_self _)

end Program

end Avenger
