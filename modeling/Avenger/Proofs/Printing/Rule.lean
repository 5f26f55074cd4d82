import Avenger.Proofs.Printing.Shape

/-!
# Rules for reading what is printed

A reader reads slots as a result if it takes any tokens that fill the slots, as long as the
token after them is one that it stops at.  One rule for each way to combine readers; a loop
that joins operands from the left is followed turn by turn.
-/

namespace Avenger.Reader

variable {setting : Setting} {α β : Type} {slots slots' : List Slot}
  {follow between good : Token → Prop} {value value' : α}

/-- A reader reads any tokens that fill some slots as a result, if the next token is of the
kind that may follow. -/
def Reads (setting : Setting) (reader : Reader α) (slots : List Slot)
    (follow : Token → Prop) (value : α) : Prop :=
  ∀ tokens rest, List.Forall₂ Slot.Holds slots tokens → follow (rest.headD setting.finish) →
    reader setting (tokens ++ rest) = .ok (value, rest)

/-- The first token of slots, or the one after them if there are none, is good. -/
def Leads (setting : Setting) (slots : List Slot) (follow good : Token → Prop) : Prop :=
  ∀ tokens rest, List.Forall₂ Slot.Holds slots tokens → follow (rest.headD setting.finish) →
    good ((tokens ++ rest).headD setting.finish)

/-- A loop takes some turns to read slots, and stands at a value after them. -/
def Chains (setting : Setting) (reader : Reader α) (more : α → Token → Bool)
    (step : α → Reader α) (slots : List Slot) (follow : Token → Prop) (value : α) : Prop :=
  ∀ tokens rest, List.Forall₂ Slot.Holds slots tokens → follow (rest.headD setting.finish) →
    ∃ turns, setting.budget ≤ turns + slots.length ∧
      reader setting (tokens ++ rest) = foldTurns more step turns value setting rest

/-- Tokens that fill slots one after the other can be parted. -/
theorem fill_append {tokens : List Token}
    (fill : List.Forall₂ Slot.Holds (slots ++ slots') tokens) :
    ∃ first second, tokens = first ++ second ∧ List.Forall₂ Slot.Holds slots first ∧
      List.Forall₂ Slot.Holds slots' second := by
  induction slots generalizing tokens with
  | nil => exact ⟨[], tokens, rfl, .nil, fill⟩
  | cons slot slots induction =>
      cases fill with
      | cons holds fill =>
          obtain ⟨first, second, rfl, fill, fill'⟩ := induction fill
          exact ⟨_ :: first, second, rfl, .cons holds fill, fill'⟩

theorem finish_kind (tokens : List Token) : (finish tokens).kind = .endOfFile := by
  unfold finish
  cases found : tokens.find? (·.kind == .endOfFile) with
  | none => rfl
  | some token => simpa using List.find?_some found

/-- Going on after a reader that has succeeded. -/
theorem bind_of_ok {first : Reader α} {second : α → Reader β} {tokens rest : List Token}
    (read : first setting tokens = .ok (value, rest)) :
    (first >>= second) setting tokens = second value setting rest := by
  simp only [Bind.bind, read]

theorem bind_of_error {first : Reader α} {second : α → Reader β} {tokens : List Token}
    {stop : Stop} (failed : first setting tokens = .error stop) :
    (first >>= second) setting tokens = .error stop := by
  simp only [Bind.bind, failed]

/-- A token of another kind is not stepped over. -/
theorem skip_apart {kind : Token.Kind} {tokens : List Token}
    (apart : (tokens.headD setting.finish).kind ≠ kind) :
    skip? kind setting tokens = .ok (false, tokens) := by
  have read : peek setting tokens = .ok (tokens.headD setting.finish, tokens) := rfl
  unfold skip?
  rw [bind_of_ok read, if_neg apart]
  rfl

/-- A token of the given kind is taken. -/
theorem expect_same {kind : Token.Kind} {expectation : String} {token : Token}
    {tokens : List Token} (same : token.kind = kind) :
    Reader.expect kind expectation setting (token :: tokens) = .ok (token, tokens) := by
  have read : peek setting (token :: tokens) = .ok (token, token :: tokens) := rfl
  unfold Reader.expect
  rw [bind_of_ok read, if_pos same]
  rfl

/-- A token of the given kind is stepped over. -/
theorem skip_same {kind : Token.Kind} {token : Token} {tokens : List Token}
    (same : token.kind = kind) :
    skip? kind setting (token :: tokens) = .ok (true, tokens) := by
  have read : peek setting (token :: tokens) = .ok (token, token :: tokens) := rfl
  unfold skip?
  rw [bind_of_ok read, if_pos same]
  rfl

namespace Leads

theorem head {slot : Slot} : Leads setting (slot :: slots) follow slot.Holds := by
  intro tokens rest fill _
  cases fill with
  | cons holds _ => exact holds

theorem nil (implies : ∀ token, follow token → good token) :
    Leads setting [] follow good := by
  intro tokens rest fill next
  cases fill
  exact implies _ next

theorem mono (leads : Leads setting slots follow between)
    (implies : ∀ token, between token → good token) : Leads setting slots follow good :=
  fun tokens rest fill next => implies _ (leads tokens rest fill next)

theorem cons {slot : Slot} (implies : ∀ token, slot.Holds token → good token) :
    Leads setting (slot :: slots) follow good :=
  head.mono implies

theorem starts {kinds : List Token.Kind} (starts : Slot.StartsIn kinds slots)
    (implies : ∀ token, token.kind ∈ kinds → good token) :
    Leads setting slots follow good := by
  obtain ⟨slot, rest, rfl, member⟩ := starts
  apply Leads.cons
  intro token holds
  apply implies
  rw [holds.kind]
  exact member

end Leads

namespace Reads

theorem pure (value : α) : Reads setting (Pure.pure value) [] follow value := by
  intro tokens rest fill _
  cases fill
  rfl

theorem mono {reader : Reader α} (reads : Reads setting reader slots between value)
    (implies : ∀ token, follow token → between token) :
    Reads setting reader slots follow value :=
  fun tokens rest fill next => reads tokens rest fill (implies _ next)

theorem bind {first : Reader α} {second : α → Reader β} {result : β}
    (reads : Reads setting first slots between value)
    (leads : Leads setting slots' follow between)
    (later : Reads setting (second value) slots' follow result) :
    Reads setting (first >>= second) (slots ++ slots') follow result := by
  intro tokens rest fill next
  obtain ⟨start, tokens, rfl, fill, fill'⟩ := fill_append fill
  have read := reads start (tokens ++ rest) fill (leads tokens rest fill' next)
  rw [List.append_assoc, bind_of_ok read]
  exact later tokens rest fill' next

/-- A reader after which nothing is read. -/
theorem map {first : Reader α} {second : α → Reader β} {result : β}
    (reads : Reads setting first slots follow value)
    (later : Reads setting (second value) [] follow result) :
    Reads setting (first >>= second) slots follow result := by
  have both := reads.bind (.nil fun _ next => next) later
  rwa [List.append_nil] at both

theorem advance {slot : Slot} {second : Unit → Reader β} {result : β}
    (later : Reads setting (second ()) slots follow result) :
    Reads setting (Reader.advance >>= second) (slot :: slots) follow result := by
  intro tokens rest fill next
  cases fill with
  | cons _ fill => exact later _ rest fill next

theorem peek {second : Token → Reader β} {result : β}
    (leads : Leads setting slots follow good)
    (later : ∀ token, good token → Reads setting (second token) slots follow result) :
    Reads setting (Reader.peek >>= second) slots follow result := by
  intro tokens rest fill next
  exact later _ (leads tokens rest fill next) tokens rest fill next

theorem expect {kind : Token.Kind} {expectation : String} {slot : Slot}
    {second : Token → Reader β} {result : β} (same : slot.kind = kind)
    (later : ∀ token, slot.Holds token →
      Reads setting (second token) slots follow result) :
    Reads setting (Reader.expect kind expectation >>= second) (slot :: slots) follow
      result := by
  intro tokens rest fill next
  cases fill with
  | @cons _ token _ tokens holds fill =>
      rw [List.cons_append, bind_of_ok (expect_same (holds.kind.trans same))]
      exact later token holds tokens rest fill next

/-- A token that is stepped over if it is there. -/
theorem skip {kind : Token.Kind} {slot : Slot} {second : Bool → Reader β} {result : β}
    (same : slot.kind = kind) (later : Reads setting (second true) slots follow result) :
    Reads setting (skip? kind >>= second) (slot :: slots) follow result := by
  intro tokens rest fill next
  cases fill with
  | @cons _ token _ tokens holds fill =>
      rw [List.cons_append, bind_of_ok (skip_same (holds.kind.trans same))]
      exact later tokens rest fill next

/-- A token that is not there is not stepped over. -/
theorem stay {kind : Token.Kind} {second : Bool → Reader β} {result : β}
    (apart : Leads setting slots follow (·.kind ≠ kind))
    (later : Reads setting (second false) slots follow result) :
    Reads setting (skip? kind >>= second) slots follow result := by
  intro tokens rest fill next
  have other := apart tokens rest fill next
  rw [bind_of_ok (skip_apart other)]
  exact later tokens rest fill next

section Loops

variable {more : α → Token → Bool} {step : α → Reader α} {turns : Nat}

/-- A loop ends at a token that it does not go on with. -/
theorem stop (ends : ∀ token, follow token → more value token = false) :
    Reads setting (foldTurns more step turns value) [] follow value := by
  intro tokens rest fill next
  cases fill
  unfold foldTurns
  rw [List.nil_append, ends _ next]
  rfl

theorem loop {result : α}
    (reads : Reads setting (foldTurns more step setting.budget value) slots follow result) :
    Reads setting (foldWhile more step value) slots follow result :=
  reads

/-- A loop makes a turn. -/
theorem turn {result : α} (reads : Reads setting (step value) slots between value')
    (leads : Leads setting slots' follow between)
    (goes : Leads setting slots between (more value · = true))
    (later : Reads setting (foldTurns more step turns value') slots' follow result) :
    Reads setting (foldTurns more step (turns + 1) value) (slots ++ slots') follow result := by
  intro tokens rest fill next
  obtain ⟨start, tokens, rfl, fill, fill'⟩ := fill_append fill
  have next' := leads tokens rest fill' next
  have goes := goes start (tokens ++ rest) fill next'
  have read := reads start (tokens ++ rest) fill next'
  rw [List.append_assoc]
  unfold foldTurns
  rw [if_pos goes]
  dsimp only
  rw [read]
  exact later tokens rest fill' next

/-- A loop makes its last turn. -/
theorem lastTurn (reads : Reads setting (step value) slots follow value')
    (goes : Leads setting slots follow (more value · = true))
    (ends : ∀ token, follow token → more value' token = false) :
    Reads setting (foldTurns more step (turns + 1) value) slots follow value' := by
  have both := reads.turn (.nil fun _ next => next) goes
    (stop ends : Reads setting (foldTurns more step turns value') [] follow value')
  rwa [List.append_nil] at both

end Loops

end Reads

namespace Chains

variable {more : α → Token → Bool} {step : α → Reader α} {reader operand : Reader α}

/-- A loop starts after its first operand. -/
theorem start (reads : Reads setting operand slots follow value) :
    Chains setting (operand >>= foldWhile more step) more step slots follow value := by
  intro tokens rest fill next
  refine ⟨setting.budget, Nat.le_add_right _ _, ?_⟩
  exact bind_of_ok (reads tokens rest fill next)

/-- A loop goes on with one more turn. -/
theorem next (chains : Chains setting reader more step slots between value)
    (leads : Leads setting slots' follow between)
    (goes : Leads setting slots' follow (more value · = true))
    (reads : Reads setting (step value) slots' follow value')
    (fits : slots.length < setting.budget) (some : 1 ≤ slots'.length) :
    Chains setting reader more step (slots ++ slots') follow value' := by
  intro tokens rest fill next
  obtain ⟨start, tokens, rfl, fill, fill'⟩ := fill_append fill
  obtain ⟨turns, enough, chained⟩ :=
    chains start (tokens ++ rest) fill (leads tokens rest fill' next)
  cases turns with
  | zero => omega
  | succ turns =>
      refine ⟨turns, ?_, ?_⟩
      · rw [List.length_append]
        omega
      · have goes := goes tokens rest fill' next
        rw [List.append_assoc, chained]
        conv => lhs; unfold foldTurns
        rw [if_pos goes]
        dsimp only
        rw [reads tokens rest fill' next]

/-- A loop ends at a token that it does not go on with. -/
theorem stop (chains : Chains setting reader more step slots between value)
    (implies : ∀ token, follow token → between token)
    (ends : ∀ token, follow token → more value token = false) :
    Reads setting reader slots follow value := by
  intro tokens rest fill next
  obtain ⟨turns, -, chained⟩ := chains tokens rest fill (implies _ next)
  rw [chained]
  unfold foldTurns
  rw [ends _ next]
  rfl

end Chains

section Lists

variable {item : Reader α} {print : α → List Slot}

/-- Items after the first one, each after a comma. -/
theorem Reads.commas {items done : List α} {turns : Nat}
    (each : ∀ value ∈ items, Reads setting item (print value) between value)
    (comma : ∀ token, (Slot.plain .comma).Holds token → between token)
    (enough : items.length ≤ turns)
    (ends : ∀ token, follow token → between token ∧ token.kind ≠ .comma) :
    Reads setting
      (foldTurns (fun _ token => token.kind = .comma)
        (fun items => do
          Reader.advance
          return (← item) :: items) turns done)
      ((items.map print).flatMap (.plain .comma :: ·)) follow (items.reverse ++ done) := by
  induction items generalizing done turns with
  | nil =>
      apply Reads.stop
      intro token next
      exact decide_eq_false (ends token next).2
  | cons value items induction =>
      cases turns with
      | zero => cases enough
      | succ turns =>
          have step : Reads setting
              (do
                Reader.advance
                return (← item) :: done) (.plain .comma :: print value) between
              (value :: done) :=
            .advance ((each value (.head _)).map (.pure _))
          rw [List.reverse_cons, List.append_assoc]
          refine step.turn ?_ ?_ (induction (fun value member => each value (.tail _ member))
            (Nat.le_of_succ_le_succ enough))
          · cases items with
            | nil => exact .nil fun token next => (ends token next).1
            | cons _ _ => exact .cons comma
          · apply Leads.cons
            intro token holds
            exact decide_eq_true holds.kind

/-- Items with a comma between each two. -/
theorem Reads.separated {first : α} {rest : List α}
    (each : ∀ value ∈ first :: rest, Reads setting item (print value) between value)
    (comma : ∀ token, (Slot.plain .comma).Holds token → between token)
    (enough : rest.length ≤ setting.budget)
    (ends : ∀ token, follow token → between token ∧ token.kind ≠ .comma) :
    Reads setting (Reader.separated item) (Slot.separated ((first :: rest).map print)) follow
      (first :: rest) := by
  rw [List.map_cons, Slot.separated_cons]
  apply (each first (.head _)).bind
  · cases rest with
    | nil => exact .nil fun token next => (ends token next).1
    | cons _ _ => exact .cons comma
  · refine Reads.map (.loop (.commas (fun value member => each value (.tail _ member)) comma
      enough ends)) ?_
    have same : first :: rest = (rest.reverse ++ [first]).reverse := by simp
    rw [same]
    exact .pure _

/-- Items up to a token of one of some kinds. -/
theorem Reads.itemsUntil {stops kinds : List Token.Kind} {items : List α}
    (each : ∀ value ∈ items, Reads setting item (print value) between value)
    (starts : ∀ value ∈ items, Slot.StartsIn kinds (print value))
    (apart : ∀ token : Token, token.kind ∈ kinds → between token ∧ token.kind ∉ stops)
    (enough : (items.flatMap print).length ≤ setting.budget)
    (ends : ∀ token, follow token → between token ∧ token.kind ∈ stops) :
    Reads setting (Reader.itemsUntil stops item) (items.flatMap print) follow items := by
  have loop : ∀ (items done : List α) (turns : Nat),
      (∀ value ∈ items, Reads setting item (print value) between value) →
      (∀ value ∈ items, Slot.StartsIn kinds (print value)) →
      (items.flatMap print).length ≤ turns →
      Reads setting
        (foldTurns (fun _ token => !stops.contains token.kind)
          (fun items => do return (← item) :: items) turns done)
        (items.flatMap print) follow (items.reverse ++ done) := by
    intro items
    induction items with
    | nil =>
        intro done turns _ _ _
        apply Reads.stop
        intro token next
        simpa using (ends token next).2
    | cons value items induction =>
        intro done turns each starts enough
        obtain ⟨slot, rest, same, member⟩ := starts value (.head _)
        rw [List.flatMap_cons, List.length_append, same, List.length_cons] at enough
        cases turns with
        | zero => omega
        | succ turns =>
            rw [List.flatMap_cons, List.reverse_cons, List.append_assoc]
            refine Reads.turn ((each value (.head _)).map (.pure _)) ?_ ?_
              (induction _ _ (fun value member => each value (.tail _ member))
                (fun value member => starts value (.tail _ member)) (by omega))
            · cases items with
              | nil => exact .nil fun token next => (ends token next).1
              | cons next items =>
                  have starts := (starts next (.tail _ (.head _))).append
                    (items.flatMap print)
                  exact .starts starts fun token member => (apart token member).1
            · refine Leads.starts (starts value (.head _)) ?_
              intro token member
              simpa using (apart token member).2
  refine Reads.map (.loop (loop items [] _ each starts enough)) ?_
  rw [List.append_nil, List.reverse_reverse]
  exact .pure _

end Lists

end Avenger.Reader
