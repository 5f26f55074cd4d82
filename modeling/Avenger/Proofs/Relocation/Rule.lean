import Avenger.Proofs.Relabeling
import Avenger.Proofs.Grammar.Taken

/-!
# Reading tokens elsewhere

The same tokens are read twice: where they stand, and elsewhere, with other lines, with at
least as large a budget and perhaps with more tokens behind them.  A reader moves along if it
does elsewhere what it does at home, as long as it has not come to the end of the tokens.  One
rule for each way to combine readers.  The rules count the tokens that a reader takes, so they
also say that no budget is used up.
-/

namespace Avenger.Reader

section Loops

variable {α : Type} {more : α → Token → Bool} {step : α → Reader α} {turns : Nat} {value : α}
  {setting : Setting} {tokens : List Token}

/-- A loop stops at a token that it does not go on with. -/
theorem foldTurns_of_stop (stops : more value (tokens.headD setting.finish) = false) :
    foldTurns more step turns value setting tokens = .ok (value, tokens) := by
  unfold foldTurns
  rw [stops]
  rfl

/-- A loop that goes on makes a turn and is a loop again. -/
theorem foldTurns_of_turn (goes : more value (tokens.headD setting.finish) = true) :
    foldTurns more step (turns + 1) value setting tokens =
      (step value >>= foldTurns more step turns) setting tokens := by
  conv => lhs; unfold foldTurns
  rw [if_pos goes]
  cases ran : step value setting tokens with
  | error stop => rw [bind_of_error ran]
  | ok result => rw [bind_of_ok ran]

end Loops

/-- Tokens that are read at home and elsewhere. -/
structure Relocation where
  lines : Nat → Nat
  home : Setting
  away : Setting
  /-- What stands behind the tokens elsewhere. -/
  more : List Token
  ends : home.finish.kind = .endOfFile

namespace Relocation

variable {α β : Type} {move : Relocation}

/-- The tokens elsewhere. -/
def tokens (move : Relocation) (tokens : List Token) : List Token :=
  tokens.map (·.relabel move.lines) ++ move.more

/-- Nothing stands behind the tokens elsewhere, either. -/
def Alone (move : Relocation) : Prop :=
  move.more = [] ∧ move.away.finish = move.home.finish.relabel move.lines

@[simp] theorem tokens_cons (move : Relocation) (token : Token) (tokens : List Token) :
    move.tokens (token :: tokens) = token.relabel move.lines :: move.tokens tokens := rfl

@[simp] theorem tokens_nil (move : Relocation) : move.tokens [] = move.more := rfl

/-- The next token elsewhere is the one at home if there is one, or if both lists end
there. -/
theorem headD_tokens {tokens : List Token} (known : tokens ≠ [] ∨ move.Alone) :
    (move.tokens tokens).headD move.away.finish =
      (tokens.headD move.home.finish).relabel move.lines := by
  cases tokens with
  | cons token tokens => rfl
  | nil =>
      obtain ⟨none, finish⟩ := known.resolve_left fun ne => ne rfl
      rw [tokens_nil, none]
      exact finish

/-- How two readings from `size` tokens end.  At home at least `spent` tokens are taken and the
budget is not used up.  Elsewhere the result is the same if tokens are left, if the end of the
tokens is known to make no difference, or if nothing stands behind them. -/
inductive Outcome (move : Relocation) (size spent : Nat) (stable : Prop) (image : α → β) :
    Except Stop (α × List Token) → Except Stop (β × List Token) → Prop where
  | ok {value : α} {rest : List Token} {other : Except Stop (β × List Token)}
      (taken : rest.length + spent ≤ size)
      (same : rest ≠ [] ∨ stable ∨ move.Alone → other = .ok (image value, move.tokens rest)) :
      Outcome move size spent stable image (.ok (value, rest)) other
  | error {error : SyntaxError} {other : Except Stop (β × List Token)}
      (same : move.Alone → other = .error (.error (error.relabel move.lines))) :
      Outcome move size spent stable image (.error (.error error)) other

/-- A reading that starts one token earlier takes one token more. -/
theorem Outcome.after {size spent : Nat} {stable : Prop} {image : α → β}
    {left : Except Stop (α × List Token)} {right : Except Stop (β × List Token)}
    (outcome : move.Outcome size spent stable image left right) :
    move.Outcome (size + 1) 1 stable image left right := by
  cases outcome with
  | ok taken same => exact .ok (by omega) same
  | error same => exact .error same

/-- A reader of fewer than `size` tokens that does the same elsewhere and takes at least
`spent` tokens. -/
def Moves (move : Relocation) (size spent : Nat) (stable : Prop) (image : α → β)
    (reader : Reader α) (reader' : Reader β) : Prop :=
  ∀ tokens : List Token, tokens.length < size →
    move.Outcome tokens.length spent stable image (reader move.home tokens)
      (reader' move.away (move.tokens tokens))

/-- A loop comes to an end where the tokens end. -/
theorem Outcome.finish {stable : Prop} {image : α → β} {more : α → Token → Bool}
    {more' : β → Token → Bool} {step : α → Reader α} {step' : β → Reader β} {turns turns' : Nat}
    {value : α}
    (goes : ∀ value token, more' (image value) (token.relabel move.lines) = more value token)
    (ends : ∀ value token, token.kind = .endOfFile → more value token = false)
    (stops : stable → ∀ value, more' value (move.more.headD move.away.finish) = false) :
    move.Outcome 0 0 stable image (foldTurns more step turns value move.home [])
      (foldTurns more' step' turns' (image value) move.away (move.tokens [])) := by
  have ended : more value (([] : List Token).headD move.home.finish) = false :=
    ends value _ move.ends
  rw [foldTurns_of_stop ended]
  refine .ok (Nat.le_refl _) fun known => foldTurns_of_stop ?_
  rcases known with some | stays | alone
  · exact absurd rfl some
  · exact stops stays _
  · rw [headD_tokens (.inr alone), goes, ended]

namespace Moves

variable {size spent spent' : Nat} {stable stable' : Prop} {image : α → β} {reader : Reader α}
  {reader' : Reader β}

/-- There are no lists of fewer than no tokens. -/
theorem none : move.Moves 0 spent stable image reader reader' :=
  fun _ fits => absurd fits (Nat.not_lt_zero _)

theorem mono (moves : move.Moves size spent stable image reader reader')
    {size' : Nat} (smaller : size' ≤ size) (fewer : spent' ≤ spent) (implies : stable' → stable) :
    move.Moves size' spent' stable' image reader reader' := by
  intro tokens fits
  have moved := moves tokens (Nat.lt_of_lt_of_le fits smaller)
  revert moved
  generalize reader move.home tokens = left
  intro moved
  cases moved with
  | ok taken same =>
      exact .ok (Nat.le_trans (Nat.add_le_add_left fewer _) taken)
        fun known => same (known.imp_right (Or.imp_left implies))
  | error same => exact .error same

/-- The same reader of fewer tokens. -/
theorem smaller (moves : move.Moves size spent stable image reader reader') {size' : Nat}
    (smaller : size' ≤ size) : move.Moves size' spent stable image reader reader' :=
  moves.mono smaller (Nat.le_refl _) id

theorem pure (value : α) :
    move.Moves size 0 stable image (Pure.pure value) (Pure.pure (image value)) :=
  fun _ _ => .ok (Nat.le_refl _) fun _ => rfl

theorem pureOf {value : α} {value' : β} (made : image value = value') :
    move.Moves size 0 stable image (Pure.pure value) (Pure.pure value') :=
  made ▸ pure value

theorem fail (line : Nat) (fault : SyntaxFault) :
    move.Moves size spent stable image (Reader.fail line fault)
      (Reader.fail (move.lines line) fault) :=
  fun _ _ => .error fun _ => rfl

/-- The second reader goes on where the first one stops; it may take a token and thus make the
end of the tokens known, or it leaves that to the first one. -/
theorem bind {γ δ : Type} {image' : γ → δ} {next : α → Reader γ} {next' : β → Reader δ}
    (first : move.Moves size spent stable image reader reader')
    (second : ∀ value, move.Moves (size - spent) spent' stable' image' (next value)
      (next' (image value)))
    (known : 0 < spent' ∨ (stable' → stable)) :
    move.Moves size (spent + spent') stable' image' (reader >>= next) (reader' >>= next') := by
  intro tokens fits
  have start := first tokens fits
  revert start
  generalize ran : reader move.home tokens = left
  generalize ran' : reader' move.away (move.tokens tokens) = right
  intro start
  cases start with
  | error same =>
      rw [bind_of_error ran]
      refine .error fun alone => ?_
      exact bind_of_error (ran'.trans (same alone))
  | @ok value middle _ taken same =>
      rw [bind_of_ok ran]
      have fits : middle.length < size - spent := by omega
      have goOn (known : middle ≠ [] ∨ stable ∨ move.Alone) :
          (reader' >>= next') move.away (move.tokens tokens) =
            next' (image value) move.away (move.tokens middle) :=
        bind_of_ok (ran'.trans (same known))
      have rest := second value middle fits
      revert rest
      generalize next value move.home middle = left
      intro rest
      cases rest with
      | error same' =>
          refine .error fun alone => ?_
          rw [goOn (.inr (.inr alone))]
          exact same' alone
      | @ok value' rest _ taken' same' =>
          refine .ok (by omega) fun ends => ?_
          rw [goOn, same' ends]
          rcases ends with some | stays | alone
          · exact .inl fun none => by simp_all
          · rcases known with takes | implies
            · exact .inl fun none => by simp_all
            · exact .inr (.inl (implies stays))
          · exact .inr (.inr alone)

/-- A reader that leaves open what comes behind it, and one that takes a token after it. -/
theorem andThen {γ δ : Type} {image' : γ → δ} {next : α → Reader γ} {next' : β → Reader δ}
    (first : move.Moves size spent False image reader reader')
    (second : ∀ value, move.Moves (size - spent) 1 stable image' (next value)
      (next' (image value))) :
    move.Moves size 1 stable image' (reader >>= next) (reader' >>= next') :=
  (first.bind second (.inl Nat.zero_lt_one)).mono (Nat.le_refl _) (Nat.le_add_left 1 spent) id

/-- A reader after which only its result is changed. -/
theorem map {γ δ : Type} {image' : γ → δ} {next : α → Reader γ} {next' : β → Reader δ}
    (first : move.Moves size spent stable image reader reader')
    (second : ∀ value, move.Moves (size - spent) 0 stable image' (next value)
      (next' (image value))) :
    move.Moves size spent stable image' (reader >>= next) (reader' >>= next') :=
  first.bind second (.inr id)

/-- A reader that looks at the next token, if it takes one or if the end of the tokens is left
open. -/
theorem look {next : Token → Reader α} {next' : Token → Reader β}
    (later : ∀ tokens : List Token, tokens.length < size →
      move.Outcome tokens.length spent stable image
        (next (tokens.headD move.home.finish) move.home tokens)
        (next' ((tokens.headD move.home.finish).relabel move.lines) move.away
          (move.tokens tokens)))
    (careful : 0 < spent ∨ ¬ stable) :
    move.Moves size spent stable image (Reader.peek >>= next) (Reader.peek >>= next') := by
  intro tokens fits
  rw [peek_bind, peek_bind]
  have moved := later tokens fits
  by_cases known : tokens ≠ [] ∨ move.Alone
  · rw [headD_tokens known]
    exact moved
  · -- At the end of the tokens only the reading at home has to be looked at.
    obtain ⟨none, notAlone⟩ := not_or.mp known
    obtain rfl := Decidable.not_not.mp none
    revert moved
    generalize next _ move.home [] = left
    intro moved
    cases moved with
    | error _ => exact .error fun alone => absurd alone notAlone
    | @ok value rest _ taken same =>
        rw [List.length_nil, Nat.le_zero, Nat.add_eq_zero_iff, List.length_eq_zero_iff] at taken
        obtain ⟨rfl, takesNone⟩ := taken
        refine .ok (by simp [takesNone]) fun known => ?_
        rcases known with some | stays | alone
        · exact absurd rfl some
        · have takes := careful.resolve_right (not_not_intro stays)
          omega
        · exact absurd alone notAlone

/-- A reader that looks at the next token and then does the same elsewhere for each token. -/
theorem peek {next : Token → Reader α} {next' : Token → Reader β}
    (later : ∀ token, move.Moves size spent stable image (next token)
      (next' (token.relabel move.lines)))
    (careful : 0 < spent ∨ ¬ stable) :
    move.Moves size spent stable image (Reader.peek >>= next) (Reader.peek >>= next') :=
  look (fun tokens fits => later _ tokens fits) careful

theorem advance : move.Moves size 0 False id Reader.advance Reader.advance := by
  intro tokens _
  cases tokens with
  | nil =>
      refine .ok (Nat.le_refl _) fun known => ?_
      rcases known with some | impossible | alone
      · exact absurd rfl some
      · exact impossible.elim
      · simp [Reader.advance, alone.1]
  | cons token tokens => exact .ok (Nat.le_succ _) fun _ => rfl

/-- A reader after a token that is stepped over. -/
theorem step {next : Unit → Reader α} {next' : Unit → Reader β}
    (later : move.Moves size spent stable image (next ()) (next' ()))
    (careful : 0 < spent ∨ ¬ stable) :
    move.Moves size spent stable image (Reader.advance >>= next) (Reader.advance >>= next') := by
  have both := advance.bind (fun _ => later) careful
  rwa [Nat.zero_add] at both

/-- A token that has to be there is taken. -/
theorem expect {kind : Token.Kind} (inside : kind ≠ .endOfFile) (expectation : String) :
    move.Moves size 1 stable (·.relabel move.lines) (Reader.expect kind expectation)
      (Reader.expect kind expectation) := by
  intro tokens _
  have found (setting : Setting) (tokens : List Token) :
      Reader.expect kind expectation setting tokens =
        (if (tokens.headD setting.finish).kind = kind then
          .ok (tokens.headD setting.finish, tokens.tail)
        else .error (.error ⟨(tokens.headD setting.finish).line,
          .missing expectation (tokens.headD setting.finish).text⟩)) := by
    unfold Reader.expect
    rw [peek_bind]
    split <;> rfl
  rw [found, found]
  cases tokens with
  | nil =>
      have apart : ¬ move.home.finish.kind = kind := fun same => inside (same.symm.trans move.ends)
      rw [if_neg (by simpa using apart)]
      refine .error fun alone => ?_
      rw [headD_tokens (.inr alone), if_neg (by simpa [Token.relabel] using apart)]
      rfl
  | cons token tokens =>
      rw [headD_tokens (.inl (List.cons_ne_nil _ _))]
      by_cases same : token.kind = kind
      · rw [if_pos (by simpa using same), if_pos (by simpa [Token.relabel] using same)]
        exact .ok (Nat.le_refl _) fun _ => rfl
      · rw [if_neg (by simpa using same), if_neg (by simpa [Token.relabel] using same)]
        exact .error fun _ => rfl

/-- A reader after a token that has to be there. -/
theorem expected {kind : Token.Kind} {expectation : String} {next : Token → Reader α}
    {next' : Token → Reader β} (inside : kind ≠ .endOfFile)
    (later : ∀ token, move.Moves (size - 1) 0 stable image (next token)
      (next' (token.relabel move.lines))) :
    move.Moves size 1 stable image (Reader.expect kind expectation >>= next)
      (Reader.expect kind expectation >>= next') :=
  (expect inside expectation).map later

/-- A reader after a token that has to be there, of which nothing need be said. -/
theorem closed {kind : Token.Kind} {expectation : String} {next : Token → Reader α}
    {next' : Token → Reader β} (inside : kind ≠ .endOfFile)
    (later : ∀ token, move.Moves (size - 1) 0 stable image (next token)
      (next' (token.relabel move.lines))) :
    move.Moves size 0 stable image (Reader.expect kind expectation >>= next)
      (Reader.expect kind expectation >>= next') :=
  (expected inside later).mono (Nat.le_refl _) (Nat.zero_le 1) id

theorem skip (kind : Token.Kind) : move.Moves size 0 False id (skip? kind) (skip? kind) := by
  refine peek (fun token => ?_) (.inr id)
  have same : (token.relabel move.lines).kind = token.kind := rfl
  rw [same]
  split
  · exact advance.map fun _ => .pure true
  · exact .pure false

section Loops

variable {more : α → Token → Bool} {more' : β → Token → Bool} {step : α → Reader α}
  {step' : β → Reader β} {turns turns' : Nat}

/-- A loop makes the same turns elsewhere. -/
theorem foldTurns {value : α} (enough : size ≤ turns) (enough' : size ≤ turns')
    (goes : ∀ value token, more' (image value) (token.relabel move.lines) = more value token)
    (ends : ∀ value token, token.kind = .endOfFile → more value token = false)
    (stops : stable → ∀ value, more' value (move.more.headD move.away.finish) = false)
    (turn : ∀ value, move.Moves size 1 stable image (step value) (step' (image value))) :
    move.Moves size 0 stable image (Reader.foldTurns more step turns value)
      (Reader.foldTurns more' step' turns' (image value)) := by
  induction turns generalizing size turns' value with
  | zero =>
      intro tokens fits
      omega
  | succ turns induction =>
      intro tokens fits
      cases tokens with
      | nil => exact .finish goes ends stops
      | cons token tokens =>
          have same := goes value token
          cases goesOn : more value token with
          | false =>
              rw [goesOn] at same
              rw [foldTurns_of_stop goesOn, foldTurns_of_stop same]
              exact .ok (Nat.le_refl _) fun _ => rfl
          | true =>
              rw [goesOn] at same
              rw [List.length_cons] at fits
              obtain ⟨turns', rfl⟩ : ∃ less, turns' = less + 1 := ⟨turns' - 1, by omega⟩
              rw [foldTurns_of_turn goesOn, foldTurns_of_turn same]
              have rest : move.Moves size 1 stable image
                  (step value >>= Reader.foldTurns more step turns)
                  (step' (image value) >>= Reader.foldTurns more' step' turns') := by
                refine (turn value).map fun value => ?_
                exact induction (by omega) (by omega)
                  fun value => (turn value).mono (Nat.sub_le _ _) (Nat.le_refl _) id
              exact rest.mono (Nat.le_refl _) (Nat.zero_le 1) id _ (by simpa using fits)

theorem foldWhile {value : α} (enough : size ≤ move.home.budget) (enough' : size ≤ move.away.budget)
    (goes : ∀ value token, more' (image value) (token.relabel move.lines) = more value token)
    (ends : ∀ value token, token.kind = .endOfFile → more value token = false)
    (stops : stable → ∀ value, more' value (move.more.headD move.away.finish) = false)
    (turn : ∀ value, move.Moves size 1 stable image (step value) (step' (image value))) :
    move.Moves size 0 stable image (Reader.foldWhile more step value)
      (Reader.foldWhile more' step' (image value)) :=
  foldTurns enough enough' goes ends stops turn

end Loops

section Rows

variable {item : Reader α} {item' : Reader β}

theorem itemsUntil {kinds : List Token.Kind} (enough : size ≤ move.home.budget)
    (enough' : size ≤ move.away.budget) (ends : .endOfFile ∈ kinds)
    (stops : stable → (move.more.headD move.away.finish).kind ∈ kinds)
    (items : move.Moves size 1 stable image item item') :
    move.Moves size 0 stable (List.map image) (Reader.itemsUntil kinds item)
      (Reader.itemsUntil kinds item') := by
  have done : move.Moves size 0 stable (List.map image)
      (Reader.foldWhile (fun _ token => !kinds.contains token.kind)
        (fun items => do return (← item) :: items) [])
      (Reader.foldWhile (fun _ token => !kinds.contains token.kind)
        (fun items => do return (← item') :: items) []) := by
    refine foldWhile enough enough' (fun _ _ => rfl) ?_ ?_ fun done => ?_
    · intro _ token kind
      simpa [kind] using ends
    · intro stays _
      simpa using stops stays
    · exact items.map fun value => .pure (value :: done)
  refine done.map fun done => ?_
  rw [← List.map_reverse]
  exact .pure done.reverse

theorem separated (enough : size ≤ move.home.budget) (enough' : size ≤ move.away.budget)
    (items : move.Moves size 1 False image item item') :
    move.Moves size 1 False (List.map image) (Reader.separated item) (Reader.separated item') := by
  refine items.map fun first => ?_
  have done : move.Moves (size - 1) 0 False (List.map image)
      (Reader.foldWhile (fun _ token => token.kind = .comma)
        (fun items => do
          Reader.advance
          return (← item) :: items) [first])
      (Reader.foldWhile (fun _ token => token.kind = .comma)
        (fun items => do
          Reader.advance
          return (← item') :: items) [image first]) := by
    refine foldWhile (by omega) (by omega) (fun _ _ => rfl) (fun _ _ kind => by simp [kind])
      (fun impossible => impossible.elim) fun done => ?_
    refine step ?_ (.inr id)
    exact (items.smaller (Nat.sub_le _ _)).map fun value => .pure (value :: done)
  refine done.map fun done => ?_
  rw [← List.map_reverse]
  exact .pure done.reverse

end Rows

/-- Readers that move along read alike with two budgets where nothing is moved. -/
theorem alike {finish : Token} {budget budget' : Nat} {ends : finish.kind = .endOfFile}
    {image : α → α} {reader reader' : Reader α} {tokens : List Token}
    (moves : Moves ⟨id, ⟨finish, budget⟩, ⟨finish, budget'⟩, [], ends⟩ size spent stable image
      reader reader')
    (unchanged : ∀ value, image value = value) (fits : tokens.length < size) :
    reader ⟨finish, budget⟩ tokens = reader' ⟨finish, budget'⟩ tokens := by
  have here (tokens : List Token) :
      Relocation.tokens ⟨id, ⟨finish, budget⟩, ⟨finish, budget'⟩, [], ends⟩ tokens = tokens := by
    have labels : tokens.map (Token.relabel id) = tokens := List.map_id tokens
    exact (List.append_nil _).trans labels
  have alone : Alone ⟨id, ⟨finish, budget⟩, ⟨finish, budget'⟩, [], ends⟩ := ⟨rfl, rfl⟩
  have moved := moves tokens fits
  rw [here] at moved
  revert moved
  change Outcome _ _ _ _ _ (reader ⟨finish, budget⟩ tokens) (reader' ⟨finish, budget'⟩ tokens) → _
  generalize reader ⟨finish, budget⟩ tokens = left
  generalize reader' ⟨finish, budget'⟩ tokens = right
  intro moved
  cases moved with
  | ok _ same => rw [same (.inr (.inr alone)), unchanged, here]
  | error same =>
      rw [same alone]
      rfl

end Moves

end Relocation

end Avenger.Reader
