import Avenger.Proofs.Part
import Avenger.Proofs.Relocation.Rule

/-!
# One token of lookahead

A reader decides by the tokens that it takes and the one after them, which may be the end of
file: with any other tokens behind that one it gives the same result, or fails with the same
error.  A syntax error is found at the last token that has been looked at.  One rule for each
way to combine readers.
-/

namespace Avenger

/-- A fault that is found at a token.  It quotes the token, or the token is one that the fault
is about. -/
inductive SyntaxFault.FoundAt : SyntaxFault → Token → Prop where
  | missing {token : Token} (expectation : String) : FoundAt (.missing expectation token.text) token
  | unexpected {token : Token} : FoundAt (.unexpected token.text) token
  | reservedWord {token : Token} (kind : token.kind = .reserved) :
      FoundAt (.reservedWord token.text) token
  | invalidNumber {token : Token} (kind : token.kind = .number)
      (unreadable : Number.ofText? token.text = none) : FoundAt (.invalidNumber token.text) token
  | unknownComparison {token : Token} (kind : token.kind = .comparison)
      (unknown : Comparison.ofSymbol? token.text = none) :
      FoundAt (.unknownOperator token.text) token
  | unknownConnective {token : Token} (kind : token.kind = .logical)
      (unknown : Connective.ofSymbol? token.text = none) :
      FoundAt (.unknownOperator token.text) token
  | unknownUpdate {token : Token} (kind : token.kind = .compoundAssign)
      (unknown : Reader.updateOperator? token.text = none) :
      FoundAt (.unknownOperator token.text) token
  | uninitializedConstant {token : Token} (kind : token.kind = .semicolon) (name : String) :
      FoundAt (.uninitializedConstant name) token
  | strayInMultiverse {token : Token} (kind : token.kind ≠ .madness ∧ token.kind ≠ .default) :
      FoundAt .strayInMultiverse token

namespace Reader

variable {α β : Type}

/-- The next token is the same, or both lists end with the same end of file. -/
inductive Meets (setting setting' : Setting) : List Token → List Token → Prop where
  | token (token : Token) (more more' : List Token) :
      Meets setting setting' (token :: more) (token :: more')
  | finish (same : setting.finish = setting'.finish) : Meets setting setting' [] []

namespace Meets

variable {setting setting' : Setting} {tokens tokens' : List Token}

theorem refl (setting : Setting) (tokens : List Token) : Meets setting setting tokens tokens := by
  cases tokens with
  | nil => exact .finish rfl
  | cons token more => exact .token token more more

theorem headD (meets : Meets setting setting' tokens tokens') :
    tokens'.headD setting'.finish = tokens.headD setting.finish := by
  cases meets with
  | token token more more' => rfl
  | finish same => exact same.symm

/-- Lists that start alike meet where they do so behind their common start. -/
theorem append (meets : Meets setting setting' tokens tokens') (used : List Token) :
    Meets setting setting' (used ++ tokens) (used ++ tokens') := by
  cases used with
  | nil => exact meets
  | cons token used => exact .token token _ _

end Meets

/-- For fewer than `size` tokens that are `used` and go on like `rest`, the reader gives the
answer that only depends on what is left. -/
def Settled (reader : Reader α) (size : Nat) (setting : Setting) (used rest : List Token)
    (answer : List Token → Except Stop (α × List Token)) : Prop :=
  ∀ (setting' : Setting) (rest' : List Token), setting'.budget = setting.budget →
    (used ++ rest').length < size → Meets setting setting' rest rest' →
    reader setting' (used ++ rest') = answer rest'

/-- A reader takes at least `spent` tokens, or it finds a fault at the token after those that
it has used. -/
inductive Decided (reader : Reader α) (size spent : Nat) (setting : Setting)
    (tokens : List Token) : Prop where
  | ok {used rest : List Token} (value : α) (split : tokens = used ++ rest)
      (enough : spent ≤ used.length)
      (settled : Settled reader size setting used rest fun left => .ok (value, left))
  | error {used rest : List Token} {fault : SyntaxFault} (split : tokens = used ++ rest)
      (found : fault.FoundAt (rest.headD setting.finish))
      (settled : Settled reader size setting used rest fun _ =>
        .error (.error ⟨(rest.headD setting.finish).line, fault⟩))

/-- A reader that decides whenever there are fewer than `size` tokens and the next one, which
may be the end of file, is of the given sort. -/
def Decides (budget size spent : Nat) (sort : Token → Prop) (reader : Reader α) : Prop :=
  ∀ (setting : Setting) (tokens : List Token), setting.budget = budget →
    setting.finish.kind = .endOfFile → tokens.length < size →
    sort (tokens.headD setting.finish) → Decided reader size spent setting tokens

/-- Every token. -/
abbrev anyToken : Token → Prop := fun _ => True

namespace Decided

variable {size spent : Nat} {setting : Setting} {tokens : List Token} {reader reader' : Reader α}

/-- Readers that do the same with the same next token decide alike. -/
theorem congr (decided : Decided reader size spent setting tokens)
    (same : ∀ (setting' : Setting) (tokens' : List Token), setting'.budget = setting.budget →
      Meets setting setting' tokens tokens' → reader' setting' tokens' = reader setting' tokens') :
    Decided reader' size spent setting tokens := by
  cases decided with
  | ok value split enough settled =>
      refine .ok value split enough fun setting' rest' budget fits meets => ?_
      rw [same setting' _ budget (split ▸ meets.append _)]
      exact settled setting' rest' budget fits meets
  | error split found settled =>
      refine .error split found fun setting' rest' budget fits meets => ?_
      rw [same setting' _ budget (split ▸ meets.append _)]
      exact settled setting' rest' budget fits meets

theorem mono (decided : Decided reader size spent setting tokens) {size' spent' : Nat}
    (smaller : size' ≤ size) (fewer : spent' ≤ spent) :
    Decided reader size' spent' setting tokens := by
  cases decided with
  | ok value split enough settled =>
      exact .ok value split (Nat.le_trans fewer enough) fun setting' rest' budget fits =>
        settled setting' rest' budget (Nat.lt_of_lt_of_le fits smaller)
  | error split found settled =>
      exact .error split found fun setting' rest' budget fits =>
        settled setting' rest' budget (Nat.lt_of_lt_of_le fits smaller)

/-- A reader that succeeds without a token. -/
theorem here (value : α)
    (reads : ∀ (setting' : Setting) (tokens' : List Token), setting'.budget = setting.budget →
      Meets setting setting' tokens tokens' → reader setting' tokens' = .ok (value, tokens')) :
    Decided reader size 0 setting tokens :=
  .ok value (List.nil_append _).symm (Nat.zero_le _) fun setting' rest' budget _ meets =>
    reads setting' rest' budget meets

/-- The second reader goes on where the first one stops. -/
theorem bind {spent' : Nat} {next : α → Reader β}
    (first : Decided reader size spent setting tokens)
    (second : ∀ (value : α) (rest : List Token), rest.length + spent ≤ tokens.length →
      Decided (next value) (size - spent) spent' setting rest) :
    Decided (reader >>= next) size (spent + spent') setting tokens := by
  cases first with
  | error split found settled =>
      refine .error split found fun setting' rest' budget fits meets => ?_
      exact bind_of_error (settled setting' rest' budget fits meets)
  | @ok used middle value split enough settled =>
      subst split
      have goOn {used' rest rest' : List Token} {setting' : Setting} (split : middle = used' ++ rest)
          (budget : setting'.budget = setting.budget)
          (fits : (used ++ used' ++ rest').length < size)
          (meets : Meets setting setting' rest rest') :
          (reader >>= next) setting' (used ++ used' ++ rest') =
            next value setting' (used' ++ rest') := by
        rw [List.append_assoc] at fits ⊢
        exact bind_of_ok (settled setting' _ budget fits (split ▸ meets.append used'))
      have inside {used' rest' : List Token} (fits : (used ++ used' ++ rest').length < size) :
          (used' ++ rest').length < size - spent := by
        rw [List.append_assoc, List.length_append] at fits
        omega
      have taken : middle.length + spent ≤ (used ++ middle).length := by
        rw [List.length_append]
        omega
      cases second value middle taken with
      | @ok used' rest result split enough' settled' =>
          refine .ok result (by rw [split, List.append_assoc]) (by rw [List.length_append]; omega)
            fun setting' rest' budget fits meets => ?_
          rw [goOn split budget fits meets]
          exact settled' setting' rest' budget (inside fits) meets
      | @error used' rest fault split found settled' =>
          refine .error (by rw [split, List.append_assoc]) found
            fun setting' rest' budget fits meets => ?_
          rw [goOn split budget fits meets]
          exact settled' setting' rest' budget (inside fits) meets

end Decided

namespace Decides

variable {budget size spent spent' : Nat} {sort sort' : Token → Prop} {reader : Reader α}

/-- There are no lists of fewer than no tokens. -/
theorem empty : Decides budget 0 spent sort reader :=
  fun _ _ _ _ fits => absurd fits (Nat.not_lt_zero _)

theorem mono (decides : Decides budget size spent sort reader) {size' : Nat}
    (smaller : size' ≤ size) (fewer : spent' ≤ spent) (implies : ∀ token, sort' token → sort token) :
    Decides budget size' spent' sort' reader :=
  fun setting tokens funded ends fits sorted =>
    (decides setting tokens funded ends (Nat.lt_of_lt_of_le fits smaller)
      (implies _ sorted)).mono smaller fewer

/-- The same reader of fewer tokens. -/
theorem smaller (decides : Decides budget size spent sort reader) {size' : Nat}
    (smaller : size' ≤ size) : Decides budget size' spent sort reader :=
  decides.mono smaller (Nat.le_refl _) fun _ sorted => sorted

/-- The same reader, of which it is said that it takes fewer tokens. -/
theorem fewer (decides : Decides budget size spent sort reader) (fewer : spent' ≤ spent) :
    Decides budget size spent' sort reader :=
  decides.mono (Nat.le_refl _) fewer fun _ sorted => sorted

/-- A reader that decides whatever the next token is. -/
theorem sorted (decides : Decides budget size spent anyToken reader) :
    Decides budget size spent sort reader :=
  decides.mono (Nat.le_refl _) (Nat.le_refl _) fun _ _ => trivial

/-- A reader that decides for each next token. -/
theorem ofNext (decides : ∀ token, Decides budget size spent (· = token) reader) :
    Decides budget size spent anyToken reader :=
  fun setting tokens funded ends fits _ => decides _ setting tokens funded ends fits rfl

/-- A reader that goes inward as far as the whole budget allows. -/
theorem whole {within : Nat → Reader α} (decides : Decides budget size spent sort (within budget)) :
    Decides budget size spent sort fun setting tokens => within setting.budget setting tokens := by
  intro setting tokens funded ends fits sorted
  refine (decides setting tokens funded ends fits sorted).congr fun setting' tokens' same _ => ?_
  rw [same, funded]

theorem pure (value : α) : Decides budget size 0 sort (Pure.pure value) :=
  fun _ _ _ _ _ _ => .here value fun _ _ _ _ => rfl

/-- A fault that is found at the next token. -/
theorem fail {token : Token} {fault : SyntaxFault} (found : fault.FoundAt token) :
    Decides budget size spent (· = token) (Reader.fail token.line fault : Reader α) := by
  rintro setting tokens - - - rfl
  exact .error (List.nil_append _).symm found fun _ _ _ _ _ => rfl

/-- A fault that is found at a token after that has been stepped over. -/
theorem failAfter {token : Token} {fault : SyntaxFault} (found : fault.FoundAt token) :
    Decides budget size spent (· = token)
      (Reader.advance >>= fun _ => (Reader.fail token.line fault : Reader α)) := by
  rintro setting tokens - - - rfl
  exact .error (List.nil_append _).symm found fun _ _ _ _ _ => rfl

theorem bind {next : α → Reader β} (first : Decides budget size spent sort reader)
    (second : ∀ value, Decides budget (size - spent) spent' anyToken (next value)) :
    Decides budget size (spent + spent') sort (reader >>= next) := by
  intro setting tokens funded ends fits sorted
  refine (first setting tokens funded ends fits sorted).bind fun value rest taken => ?_
  exact second value setting rest funded ends (by omega) trivial

/-- A reader that takes a token after another reader. -/
theorem andThen {next : α → Reader β} (first : Decides budget size spent sort reader)
    (second : ∀ value, Decides budget (size - spent) 1 anyToken (next value)) :
    Decides budget size 1 sort (reader >>= next) :=
  (first.bind second).fewer (Nat.le_add_left 1 spent)

/-- A reader after which no token need be taken. -/
theorem map {next : α → Reader β} (first : Decides budget size spent sort reader)
    (second : ∀ value, Decides budget (size - spent) 0 anyToken (next value)) :
    Decides budget size spent sort (reader >>= next) :=
  first.bind second

/-- A reader that looks at the next token. -/
theorem peek {next : Token → Reader α}
    (later : ∀ token, sort token → Decides budget size spent (· = token) (next token)) :
    Decides budget size spent sort (Reader.peek >>= next) := by
  intro setting tokens funded ends fits sorted
  refine (later _ sorted setting tokens funded ends fits rfl).congr fun setting' tokens' _ meets => ?_
  rw [peek_bind, meets.headD]

/-- A token that is no end of file is stepped over. -/
theorem taken (inside : ∀ token, sort token → token.kind ≠ .endOfFile) :
    Decides budget size 1 sort Reader.advance := by
  intro setting tokens _ ends _ sorted
  obtain ⟨token, more, rfl⟩ := eq_cons_of_kind_ne ends (inside _ sorted)
  exact .ok () List.singleton_append.symm (Nat.le_refl 1) fun _ _ _ _ _ => rfl

/-- A reader after a token that is taken. -/
theorem take {token : Token} {next : Unit → Reader α} (inside : token.kind ≠ .endOfFile)
    (later : Decides budget (size - 1) 0 anyToken (next ())) :
    Decides budget size 1 (· = token) (Reader.advance >>= next) := by
  refine map (taken ?_) fun _ => later
  rintro _ rfl
  exact inside

theorem advance : Decides budget size 0 sort Reader.advance := by
  intro setting tokens _ _ _ _
  cases tokens with
  | nil =>
      refine .here () fun setting' tokens' _ meets => ?_
      cases meets
      rfl
  | cons token more =>
      exact .ok () List.singleton_append.symm (Nat.zero_le _) fun _ _ _ _ _ => rfl

/-- A reader after a token that is stepped over. -/
theorem step {next : Unit → Reader α} (later : Decides budget size spent anyToken (next ())) :
    Decides budget size spent sort (Reader.advance >>= next) := by
  have both : Decides budget size (0 + spent) sort (Reader.advance >>= next) :=
    advance.bind fun _ => later
  rwa [Nat.zero_add] at both

/-- A token that has to be there is taken. -/
theorem expect {kind : Token.Kind} (inside : kind ≠ .endOfFile) (expectation : String) :
    Decides budget size 1 sort (Reader.expect kind expectation) := by
  refine peek fun token _ => ?_
  split
  · rename_i same
    exact take (same ▸ inside) (.pure token)
  · exact .fail (.missing expectation)

/-- A reader after a token that has to be there. -/
theorem expected {kind : Token.Kind} {expectation : String} {next : Token → Reader α}
    (inside : kind ≠ .endOfFile)
    (later : ∀ token, Decides budget (size - 1) 0 anyToken (next token)) :
    Decides budget size 1 sort (Reader.expect kind expectation >>= next) :=
  (expect inside expectation).map later

/-- A reader after a token that has to be there, of which nothing need be said. -/
theorem closed {kind : Token.Kind} {expectation : String} {next : Token → Reader α}
    (inside : kind ≠ .endOfFile)
    (later : ∀ token, Decides budget (size - 1) 0 anyToken (next token)) :
    Decides budget size 0 sort (Reader.expect kind expectation >>= next) :=
  (expected inside later).fewer (Nat.zero_le 1)

theorem skip (kind : Token.Kind) : Decides budget size 0 sort (skip? kind) := by
  refine peek fun token _ => ?_
  split
  · exact advance.map fun _ => .pure true
  · exact .pure false

section Loops

variable {more : α → Token → Bool} {step : α → Reader α} {turns : Nat} {value : α}

/-- A loop that goes on takes the tokens of a turn first. -/
theorem foldTurns_succ (turn : Decides budget size 1 (more value · = true) (step value))
    (later : ∀ value, Decides budget (size - 1) 0 anyToken
      (Reader.foldTurns more step turns value)) :
    Decides budget size 1 (more value · = true)
      (Reader.foldTurns more step (turns + 1) value) := by
  intro setting tokens funded finishes fits goesOn
  refine ((turn.map later) setting tokens funded finishes fits goesOn).congr ?_
  intro setting' tokens' _ meets
  exact foldTurns_of_turn (by rw [meets.headD, goesOn])

/-- A loop whose turns take tokens looks at each token once more than it takes it. -/
theorem foldTurns (enough : size ≤ turns)
    (turn : ∀ value, Decides budget size 1 (more value · = true) (step value)) :
    Decides budget size 0 anyToken (Reader.foldTurns more step turns value) := by
  induction turns generalizing size value with
  | zero =>
      intro setting tokens _ _ fits
      omega
  | succ turns induction =>
      have later (value : α) : Decides budget (size - 1) 0 anyToken
          (Reader.foldTurns more step turns value) :=
        induction (by omega) fun value => (turn value).smaller (Nat.sub_le _ _)
      intro setting tokens funded finishes fits _
      cases goesOn : more value (tokens.headD setting.finish) with
      | false =>
          refine .here value fun setting' tokens' _ meets => ?_
          exact foldTurns_of_stop (by rw [meets.headD, goesOn])
      | true =>
          have rest := foldTurns_succ (turn value) later setting tokens funded finishes fits goesOn
          exact rest.mono (Nat.le_refl _) (Nat.zero_le 1)

theorem foldWhile (enough : size ≤ budget)
    (turn : ∀ value, Decides budget size 1 (more value · = true) (step value)) :
    Decides budget size 0 anyToken (Reader.foldWhile more step value) :=
  @whole _ _ _ _ _ (Reader.foldTurns more step · value) (foldTurns enough turn)

/-- A loop that makes a turn takes a token. -/
theorem foldWhile_goesOn (enough : size ≤ budget)
    (turn : ∀ value, Decides budget size 1 (more value · = true) (step value)) :
    Decides budget size 1 (more value · = true) (Reader.foldWhile more step value) := by
  refine @whole _ _ _ _ _ (Reader.foldTurns more step · value) ?_
  cases budget with
  | zero =>
      obtain rfl : size = 0 := by omega
      exact .empty
  | succ budget =>
      refine foldTurns_succ (turn value) fun value => foldTurns (by omega) fun value => ?_
      exact (turn value).smaller (Nat.sub_le _ _)

end Loops

section Rows

variable {item : Reader α}

theorem addItem (items : Decides budget size 1 anyToken item) (done : List α) :
    Decides budget size 1 sort (Reader.addItem item done) :=
  items.sorted.map fun value => .pure (value :: done)

theorem itemsUntil {kinds : List Token.Kind} (enough : size ≤ budget)
    (items : Decides budget size 1 anyToken item) :
    Decides budget size 0 anyToken (Reader.itemsUntil kinds item) :=
  map (foldWhile enough (addItem items)) fun done => .pure done.reverse

/-- A row that does not end at once takes a token. -/
theorem itemsUntil_goesOn {kinds : List Token.Kind} (enough : size ≤ budget)
    (items : Decides budget size 1 anyToken item) :
    Decides budget size 1 (·.kind ∉ kinds) (Reader.itemsUntil kinds item) := by
  let more (_ : List α) (token : Token) : Bool := !kinds.contains token.kind
  have row : Decides budget size 1 (more [] · = true)
      (Reader.foldWhile more (Reader.addItem item) []) :=
    foldWhile_goesOn enough fun done => addItem items done
  refine (row.map fun done => .pure done.reverse).mono (Nat.le_refl _) (Nat.le_refl 1) ?_
  intro token other
  simpa [more] using other

theorem addSeparated (items : Decides budget size 1 anyToken item) (done : List α) :
    Decides budget size 1 sort (Reader.addSeparated item done) :=
  step (items.map fun value => .pure (value :: done))

theorem separated (enough : size ≤ budget) (items : Decides budget size 1 anyToken item) :
    Decides budget size 1 anyToken (Reader.separated item) := by
  refine items.map fun first => ?_
  refine map (foldWhile (by omega) ?_) fun done => .pure done.reverse
  exact addSeparated (items.smaller (Nat.sub_le _ _))

end Rows

end Decides

end Reader

end Avenger
