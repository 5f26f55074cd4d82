import Avenger.Proofs.Grammar.Rules
import Avenger.Proofs.Printing.Rule

/-!
# What readers take

A reader that succeeds has taken some tokens off the front, and these stand for its result.
Each way to combine readers can be taken apart again: what the whole has taken is what its
parts have taken.
-/

namespace Avenger.Reader

open Grammar

variable {setting : Setting} {α β : Type} {tokens rest : List Token}

/-- `Taken derives tokens value rest`: the tokens before the rest are used up, in order, and
stand for the value. -/
def Taken (derives : α → List Token → Prop) (tokens : List Token) (value : α)
    (rest : List Token) : Prop :=
  ∃ used, tokens = used ++ rest ∧ derives value used

/-- What a reader takes stands for its result. -/
structure Accepts (setting : Setting) (reader : Reader α) (derives : α → List Token → Prop) :
    Prop where
  taken : ∀ {tokens rest : List Token} {value : α},
    reader setting tokens = .ok (value, rest) → Taken derives tokens value rest

theorem Taken.imp {derives other : α → List Token → Prop} {value : α}
    (taken : Taken derives tokens value rest)
    (implies : ∀ used, derives value used → other value used) :
    Taken other tokens value rest := by
  obtain ⟨used, split, derived⟩ := taken
  exact ⟨used, split, implies used derived⟩

/-! ### Single readers -/

theorem bind_eq_ok {first : Reader α} {second : α → Reader β} {result : β}
    (read : (first >>= second) setting tokens = .ok (result, rest)) :
    ∃ value between, first setting tokens = .ok (value, between) ∧
      second value setting between = .ok (result, rest) := by
  cases ran : first setting tokens with
  | ok read' =>
      obtain ⟨value, between⟩ := read'
      rw [bind_of_ok ran] at read
      exact ⟨value, between, rfl, read⟩
  | error stop =>
      rw [bind_of_error ran] at read
      cases read

theorem pure_eq_ok {value result : α}
    (read : (pure value : Reader α) setting tokens = .ok (result, rest)) :
    value = result ∧ tokens = rest := by
  cases read
  exact ⟨rfl, rfl⟩

theorem peek_bind (second : Token → Reader β) :
    (peek >>= second) setting tokens = second (tokens.headD setting.finish) setting tokens :=
  rfl

theorem advance_bind (second : Unit → Reader β) :
    (advance >>= second) setting tokens = second () setting tokens.tail :=
  rfl

section Ends

variable (ends : setting.finish.kind = .endOfFile)
include ends

/-- A token that is no end of file is there. -/
theorem eq_cons_of_kind_ne (other : (tokens.headD setting.finish).kind ≠ .endOfFile) :
    ∃ token more, tokens = token :: more := by
  cases tokens with
  | nil => exact absurd ends other
  | cons token more => exact ⟨token, more, rfl⟩

theorem eq_cons_of_kind {kind : Token.Kind} (same : (tokens.headD setting.finish).kind = kind)
    (inside : kind ≠ .endOfFile) : ∃ token more, tokens = token :: more ∧ token.kind = kind := by
  obtain ⟨token, more, rfl⟩ := eq_cons_of_kind_ne ends (same ▸ inside)
  exact ⟨token, more, rfl, same⟩

theorem expect_eq_ok {kind : Token.Kind} {expectation : String} {token : Token}
    (read : expect kind expectation setting tokens = .ok (token, rest))
    (inside : kind ≠ .endOfFile) : tokens = token :: rest ∧ token.kind = kind := by
  unfold expect at read
  rw [peek_bind] at read
  split at read
  · rename_i same
    obtain ⟨first, more, rfl, same⟩ := eq_cons_of_kind ends same inside
    rw [advance_bind] at read
    obtain ⟨rfl, rfl⟩ := pure_eq_ok read
    exact ⟨rfl, same⟩
  · cases read

theorem expect_bind_eq_ok {kind : Token.Kind} {expectation : String} {second : Token → Reader β}
    {result : β}
    (read : (expect kind expectation >>= second) setting tokens = .ok (result, rest))
    (inside : kind ≠ .endOfFile) :
    ∃ token more, tokens = token :: more ∧ token.kind = kind ∧
      second token setting more = .ok (result, rest) := by
  obtain ⟨token, more, readToken, readRest⟩ := bind_eq_ok read
  obtain ⟨split, kind⟩ := expect_eq_ok ends readToken inside
  exact ⟨token, more, split, kind, readRest⟩

theorem skip_eq_ok {kind : Token.Kind} {skipped : Bool}
    (read : skip? kind setting tokens = .ok (skipped, rest)) (inside : kind ≠ .endOfFile) :
    (skipped = true ∧ ∃ token, tokens = token :: rest ∧ token.kind = kind) ∨
      (skipped = false ∧ tokens = rest) := by
  unfold skip? at read
  rw [peek_bind] at read
  split at read
  · rename_i same
    obtain ⟨first, more, rfl, same⟩ := eq_cons_of_kind ends same inside
    rw [advance_bind] at read
    obtain ⟨rfl, rfl⟩ := pure_eq_ok read
    exact .inl ⟨rfl, first, rfl, same⟩
  · obtain ⟨rfl, rfl⟩ := pure_eq_ok read
    exact .inr ⟨rfl, rfl⟩

end Ends

theorem Accepts.bind_eq_ok {reader : Reader α} {derives : α → List Token → Prop}
    (accepts : Accepts setting reader derives) {second : α → Reader β} {result : β}
    (read : (reader >>= second) setting tokens = .ok (result, rest)) :
    ∃ value used more, tokens = used ++ more ∧ derives value used ∧
      second value setting more = .ok (result, rest) := by
  obtain ⟨value, more, readValue, readRest⟩ := Reader.bind_eq_ok read
  obtain ⟨used, split, derived⟩ := accepts.taken readValue
  exact ⟨value, used, more, split, derived, readRest⟩

/-! ### Loops -/

section Loops

variable {more : α → Token → Bool} {step : α → Reader α}

/-- What one turn of a loop keeps, the whole loop keeps. -/
theorem foldTurns_induction (kept : α → List Token → Prop) {turns : Nat} {value result : α}
    (read : foldTurns more step turns value setting tokens = .ok (result, rest))
    (start : kept value tokens)
    (turn : ∀ {tokens rest : List Token} {value next : α}, kept value tokens →
      more value (tokens.headD setting.finish) = true →
      step value setting tokens = .ok (next, rest) → kept next rest) :
    kept result rest := by
  induction turns generalizing value tokens with
  | zero =>
      unfold foldTurns at read
      split at read
      · cases read
      · cases read
        exact start
  | succ turns induction =>
      unfold foldTurns at read
      split at read
      · rename_i goes
        cases ran : step value setting tokens with
        | error stop =>
            simp only [ran] at read
            cases read
        | ok next =>
            simp only [ran] at read
            exact induction read (turn start goes ran)
      · cases read
        exact start

/-- A loop ends at a token that it does not go on with. -/
theorem foldTurns_ends {turns : Nat} {value result : α}
    (read : foldTurns more step turns value setting tokens = .ok (result, rest)) :
    more result (rest.headD setting.finish) = false := by
  induction turns generalizing value tokens with
  | zero =>
      unfold foldTurns at read
      split at read
      · cases read
      · rename_i stops
        cases read
        exact Bool.eq_false_iff.mpr stops
  | succ turns induction =>
      unfold foldTurns at read
      split at read
      · cases ran : step value setting tokens with
        | error stop =>
            simp only [ran] at read
            cases read
        | ok next =>
            simp only [ran] at read
            exact induction read
      · rename_i stops
        cases read
        exact Bool.eq_false_iff.mpr stops

/-- What a loop takes in all if each turn adds to what was taken before. -/
theorem foldWhile_taken (derives : α → List Token → Prop) (first : List Token)
    {value result : α} (read : foldWhile more step value setting tokens = .ok (result, rest))
    (start : derives value first)
    (turn : ∀ {tokens rest : List Token} {value next : α} {used : List Token},
      derives value used → more value (tokens.headD setting.finish) = true →
      step value setting tokens = .ok (next, rest) →
      ∃ added, tokens = added ++ rest ∧ derives next (used ++ added)) :
    Taken derives (first ++ tokens) result rest := by
  refine foldTurns_induction (fun value left => Taken derives (first ++ tokens) value left)
    read ⟨first, rfl, start⟩ ?_
  rintro left rest value next ⟨used, split, derived⟩ goes read
  obtain ⟨added, rfl, derived⟩ := turn derived goes read
  exact ⟨used ++ added, split.trans (List.append_assoc _ _ _).symm, derived⟩

end Loops

/-! ### Rows -/

section Rows

variable {item : Reader α} {derives : α → List Token → Prop}

theorem itemsUntil_accepts {stops : List Token.Kind} (accepts : Accepts setting item derives) :
    Accepts setting (itemsUntil stops item) (Sequence derives) := by
  refine ⟨fun {tokens rest values} read => ?_⟩
  obtain ⟨items, between, loop, last⟩ := bind_eq_ok read
  obtain ⟨rfl, rfl⟩ := pure_eq_ok last
  refine foldWhile_taken (fun items used => Sequence derives items.reverse used) [] loop .none ?_
  intro tokens rest items next used sequence _ read
  obtain ⟨value, between, readItem, last⟩ := bind_eq_ok read
  obtain ⟨rfl, rfl⟩ := pure_eq_ok last
  obtain ⟨added, split, derived⟩ := accepts.taken readItem
  exact ⟨added, split, List.reverse_cons ▸ sequence.concat derived⟩

theorem itemsUntil_ends {stops : List Token.Kind} {values : List α}
    (read : itemsUntil stops item setting tokens = .ok (values, rest)) :
    (rest.headD setting.finish).kind ∈ stops := by
  obtain ⟨items, between, loop, last⟩ := bind_eq_ok read
  obtain ⟨rfl, rfl⟩ := pure_eq_ok last
  have ended := foldTurns_ends loop
  rwa [Bool.not_eq_eq_eq_not, Bool.not_false, List.contains_iff_mem] at ended

theorem separated_accepts (ends : setting.finish.kind = .endOfFile)
    (accepts : Accepts setting item derives) :
    Accepts setting (separated item) (Separated derives) := by
  refine ⟨fun {tokens rest values} read => ?_⟩
  obtain ⟨first, between, readFirst, readRest⟩ := bind_eq_ok read
  obtain ⟨items, after, loop, last⟩ := bind_eq_ok readRest
  obtain ⟨rfl, rfl⟩ := pure_eq_ok last
  obtain ⟨used, rfl, derived⟩ := accepts.taken readFirst
  have taken := foldWhile_taken
    (fun items used =>
      ∃ later, items.reverse = first :: later ∧ Sequence (AfterComma derives) later used) []
    loop ⟨[], rfl, .none⟩ (by
      rintro tokens rest items next used ⟨later, split, sequence⟩ goes read
      obtain ⟨comma, more, rfl, kind⟩ :=
        eq_cons_of_kind ends (of_decide_eq_true goes) (by decide)
      rw [advance_bind] at read
      obtain ⟨value, between, readItem, last⟩ := bind_eq_ok read
      obtain ⟨rfl, rfl⟩ := pure_eq_ok last
      obtain ⟨added, rfl, derived⟩ := accepts.taken readItem
      refine ⟨comma :: added, rfl, later ++ [value], ?_, sequence.concat (.mk kind derived)⟩
      rw [List.reverse_cons, split, List.cons_append])
  obtain ⟨more, split, later, same, sequence⟩ := taken
  rw [List.nil_append] at split
  rw [same, split]
  exact ⟨used ++ more, (List.append_assoc _ _ _).symm, .some derived sequence⟩

/-- Items in parentheses, of which the next token tells whether there are any. -/
theorem separated_or_nil {token : Token} {last : List α → Reader β} {result : β}
    (ends : setting.finish.kind = .endOfFile) (accepts : Accepts setting item derives)
    (read : (do
      let values ← if token.kind = .closeParen then pure [] else separated item
      last values : Reader β) setting tokens = .ok (result, rest)) :
    ∃ values between, Taken (Separated derives) tokens values between ∧
      last values setting between = .ok (result, rest) := by
  split at read
  · exact ⟨[], tokens, ⟨[], rfl, .none⟩, read⟩
  · obtain ⟨values, between, readValues, readLast⟩ := bind_eq_ok read
    exact ⟨values, between, (separated_accepts ends accepts).taken readValues, readLast⟩

end Rows

end Avenger.Reader
