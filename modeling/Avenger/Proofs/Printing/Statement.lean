import Avenger.Proofs.Part
import Avenger.Proofs.Printing.Expression

/-!
# Reading printed statements

Each reader of one kind of statement reads what is printed of it, if the reader for the
statements inside reads those.
-/

namespace Avenger

namespace Reader

variable {setting : Setting} {follow between : Token → Prop} {blank : Bool}

/-- A reader reads what is printed of complete statements, up to a number of slots. -/
def ReadsNested (setting : Setting) (blank : Bool) (nested : Reader Stmt) (size : Nat) :
    Prop :=
  ∀ statement : Stmt, statement.Complete → (statement.slots blank).length < size →
    Reads setting nested (statement.slots blank) (·.kind ≠ .otherwise) statement

section Parts

variable {nested : Reader Stmt} {size : Nat}

/-- What is printed of an expression is read by the reader of whole expressions. -/
theorem expression_reads {expression : Expr}
    (fits : expression.slots.length < setting.budget) :
    Reads setting Reader.expression expression.slots (Token.Below 0) expression :=
  inner_reads (fun _ => expression.reads_print) fits (Nat.le_refl _)

theorem semicolon_reads {expectation : String} :
    Reads setting (semicolon expectation) [.plain .semicolon] follow () :=
  .expect rfl fun _ _ => .pure _

theorem condition_reads {construct : String} {slot : Slot} {test : Expr}
    (fits : test.slots.length < setting.budget) :
    Reads setting (condition construct) (slot :: test.conditionSlots) follow test := by
  apply Reads.advance
  refine Reads.expect rfl fun _ _ => ?_
  refine (expression_reads fits).bind (.cons fun _ holds => holds.closing (by decide)) ?_
  exact Reads.expect rfl fun _ _ => .pure _

/-- Whether the values of a team go on with a token. -/
def valuesGoOn (_ : List Expr) (token : Token) : Bool :=
  !([Token.Kind.closeBrace, .endOfFile].contains token.kind)

theorem valuesGoOn_of_first {done : List Expr} {token : Token}
    (member : token.kind ∈ Expr.firstKinds) : valuesGoOn done token = true := by
  unfold valuesGoOn
  simp only [Expr.firstKinds, List.mem_cons, List.not_mem_nil, or_false] at member
  rcases member with kind | kind | kind | kind | kind | kind <;> rw [kind] <;> rfl

theorem valuesGoOn_of_close {done : List Expr} {token : Token}
    (kind : token.kind = .closeBrace) : valuesGoOn done token = false := by
  unfold valuesGoOn
  rw [kind]
  rfl

theorem teamValues_loop {values done : List Expr} {turns : Nat}
    (each : ∀ value ∈ values, value.slots.length < setting.budget)
    (room : values.length ≤ turns) :
    Reads setting
      (foldTurns valuesGoOn (fun values => do return (← teamValue) :: values) turns done)
      (Slot.separated (values.map Expr.slots)) (·.kind = .closeBrace)
      (values.reverse ++ done) := by
  induction values generalizing done turns with
  | nil => exact .stop fun _ kind => valuesGoOn_of_close kind
  | cons value values induction =>
      have read := expression_reads (each value (.head _))
      cases turns with
      | zero => cases room
      | succ turns =>
      cases values with
      | nil =>
          have last : Reads setting Reader.expression value.slots (·.kind = .closeBrace)
              value :=
            read.mono fun token kind => Token.below_of_closing (by rw [kind]; decide)
          have step : Reads setting teamValue value.slots (·.kind = .closeBrace) value := by
            refine last.map (.stay (.nil ?_) (.pure value))
            intro token kind
            rw [kind]
            decide
          have turn : Reads setting (do return (← teamValue) :: done) value.slots
              (·.kind = .closeBrace) (value :: done) :=
            step.map (.pure _)
          exact turn.lastTurn
            (.starts value.slots_start fun _ member => valuesGoOn_of_first member)
            fun _ kind => valuesGoOn_of_close kind
      | cons second rest =>
          have step : Reads setting teamValue (value.slots ++ [.plain .comma])
              (fun _ => True) value :=
            read.bind (.cons fun _ holds => holds.closing (by decide)) (.skip rfl (.pure value))
          have turn : Reads setting (do return (← teamValue) :: done)
              (value.slots ++ [.plain .comma]) (fun _ => True) (value :: done) :=
            step.map (.pure _)
          rw [List.map_cons, List.map_cons, Slot.separated_cons_cons, List.append_cons,
            List.reverse_cons, List.append_assoc (second :: rest).reverse]
          exact turn.turn (fun _ _ _ _ => trivial)
            (.starts (value.slots_start.append _) fun _ member => valuesGoOn_of_first member)
            (induction (fun value member => each value (.tail _ member))
              (Nat.le_of_succ_le_succ room))

/-- The values of a team with a comma between each two. -/
theorem teamValues_read {values : List Expr}
    (fits : (Slot.separated (values.map Expr.slots)).length < setting.budget) :
    Reads setting teamValues (Slot.separated (values.map Expr.slots)) (·.kind = .closeBrace)
      values := by
  have each : ∀ value ∈ values, value.slots.length < setting.budget := by
    intro value member
    exact Nat.lt_of_le_of_lt (Slot.length_le_separated (List.mem_map_of_mem member)) fits
  have room : values.length ≤ setting.budget := by
    cases values with
    | nil => exact Nat.zero_le _
    | cons first rest =>
        have count := Slot.length_separated first.slots (rest.map Expr.slots)
        rw [List.map_cons] at fits
        rw [List.length_map] at count
        rw [List.length_cons]
        omega
  refine Reads.map (.loop (teamValues_loop each room)) ?_
  rw [List.append_nil, List.reverse_reverse]
  exact .pure _

variable (nests : ReadsNested setting blank nested size) (enough : size ≤ setting.budget)

include nests enough

/-- Statements up to a token of one of some kinds. -/
theorem statements_read {stops : List Token.Kind} {statements : List Stmt}
    (complete : Stmt.ListComplete statements)
    (fits : (Stmt.listSlots blank statements).length < size)
    (apart : ∀ kind ∈ Stmt.firstKinds, kind ∉ stops)
    (ends : ∀ token, follow token → token.kind ≠ .otherwise ∧ token.kind ∈ stops) :
    Reads setting (itemsUntil stops nested) (Stmt.listSlots blank statements) follow
      statements := by
  rw [Stmt.listSlots_eq] at fits ⊢
  refine Reads.itemsUntil ?_ (fun statement _ => statement.slots_start) ?_
    (Nat.le_trans (Nat.le_of_lt fits) enough) ends
  · intro statement member
    have part : statement.slots blank ∈ statements.map (Stmt.slots blank) :=
      List.mem_map_of_mem member
    have length := (List.sublist_flatten_of_mem part).length_le
    rw [← List.flatMap_def] at length
    exact nests statement (complete.mem member) (Nat.lt_of_le_of_lt length fits)
  · intro token member
    refine ⟨?_, apart _ member⟩
    intro kind
    rw [kind] at member
    exact absurd member (by decide)

theorem block_reads {construct : String} {body : List Stmt}
    (complete : Stmt.ListComplete body)
    (fits : (Stmt.listSlots blank body).length < size) :
    Reads setting (block nested construct) (Slot.block (Stmt.listSlots blank body)) follow
      body := by
  refine Reads.expect rfl fun _ _ => ?_
  have read : Reads setting (itemsUntil [.closeBrace, .endOfFile] nested)
      (Stmt.listSlots blank body) (·.kind = .closeBrace) body := by
    apply statements_read nests enough complete fits (by decide)
    intro token kind
    rw [kind]
    decide
  refine read.bind (.cons fun _ holds => holds.kind) ?_
  exact Reads.expect rfl fun _ _ => .pure _

theorem guarded_reads {construct : String} {slot : Slot} {test : Expr} {body : List Stmt}
    (complete : Stmt.ListComplete body) (testFits : test.slots.length < size)
    (fits : (Stmt.listSlots blank body).length < size) :
    Reads setting (guarded nested construct)
      (slot :: test.conditionSlots ++ Slot.block (Stmt.listSlots blank body)) follow
      (.mk test body) := by
  have read : Reads setting (condition construct) (slot :: test.conditionSlots)
      (fun _ => True) test :=
    condition_reads (Nat.lt_of_lt_of_le testFits enough)
  refine read.bind (fun _ _ _ _ => trivial) ?_
  exact (block_reads nests enough complete fits).map (.pure _)

theorem caseBody_reads {body : List Stmt} (complete : Stmt.ListComplete body)
    (fits : (Stmt.listSlots blank body).length < size) :
    Reads setting (caseBody nested) (Stmt.listSlots blank body)
      (·.kind ∈ [Token.Kind.madness, .default, .closeBrace]) body := by
  apply statements_read nests enough complete fits (by decide)
  intro token member
  simp only [List.mem_cons, List.not_mem_nil, or_false] at member
  rcases member with kind | kind | kind <;> rw [kind] <;> decide

/-- The body that is left if no condition holds is the last that an `ifWorthy` goes on with. -/
theorem otherwise_reads (done : List Clause) {body : List Stmt}
    (complete : Stmt.ListComplete body) (fits : (Stmt.listSlots blank body).length < size) :
    Reads setting (alternative nested (done, none))
      (.plain .otherwise :: Slot.block (Stmt.listSlots blank body)) follow
      (done, some body) := by
  apply Reads.advance
  refine Reads.peek .head ?_
  intro token holds
  have kind : token.kind = .openBrace := holds.kind
  rw [if_neg (by rw [kind]; decide)]
  exact (block_reads nests enough complete fits).map (.pure _)

theorem alternative_reads (done : List Clause) {test : Expr} {body : List Stmt}
    (complete : Stmt.ListComplete body) (testFits : test.slots.length < size)
    (fits : (Stmt.listSlots blank body).length < size) :
    Reads setting (alternative nested (done, none))
      (.plain .otherwise :: .plain .ifWorthy :: test.conditionSlots ++
        Slot.block (Stmt.listSlots blank body)) follow
      (.mk test body :: done, none) := by
  apply Reads.advance
  refine Reads.peek .head ?_
  intro token holds
  have kind : token.kind = .ifWorthy := holds.kind
  rw [if_pos kind]
  exact (guarded_reads nests enough complete testFits fits).map (.pure _)

/-- The clauses and the last body that an `ifWorthy` goes on with. -/
theorem alternatives_read (done : List Clause) {clauses : List Clause} {otherwise : Option (List Stmt)}
    {turns : Nat} (complete : Clause.ListComplete clauses)
    (otherwiseComplete : Stmt.OptionComplete otherwise)
    (fits : (Clause.alternativeSlots blank clauses ++
      Stmt.otherwiseSlots blank otherwise).length < size)
    (room : clauses.length < turns) :
    Reads setting
      (foldTurns (fun read token => read.2.isNone && token.kind = .otherwise)
        (alternative nested) turns (done, none))
      (Clause.alternativeSlots blank clauses ++ Stmt.otherwiseSlots blank otherwise)
      (·.kind ≠ .otherwise) (clauses.reverse ++ done, otherwise) := by
  have goes (done : List Clause) (token : Token) (holds : (Slot.plain .otherwise).Holds token) :
      ((done, (none : Option (List Stmt))).2.isNone && token.kind = .otherwise) = true := by
    have kind : token.kind = .otherwise := holds.kind
    simp [kind]
  induction clauses generalizing done turns with
  | nil =>
      cases otherwise with
      | none =>
          apply Reads.stop
          intro token apart
          simpa using apart
      | some body =>
          obtain ⟨turns, rfl⟩ : ∃ less, turns = less + 1 := ⟨turns - 1, by omega⟩
          have bodyFits : (Stmt.listSlots blank body).length < size := by
            simp [Clause.alternativeSlots, Stmt.otherwiseSlots] at fits
            omega
          exact (otherwise_reads nests enough done otherwiseComplete bodyFits).lastTurn
            (.cons (goes done)) fun _ _ => rfl
  | cons clause clauses induction =>
      obtain ⟨test, body⟩ := clause
      obtain ⟨turns, rfl⟩ : ∃ less, turns = less + 1 := ⟨turns - 1, by omega⟩
      rw [List.length_cons] at room
      simp only [Clause.alternativeSlots, List.length_append, List.length_cons,
        Expr.conditionSlots_length, Slot.block_length] at fits
      have testFits : test.slots.length < size := by omega
      have bodyFits : (Stmt.listSlots blank body).length < size := by omega
      have step : Reads setting (alternative nested (done, none)) _ (fun _ => True) _ :=
        alternative_reads nests enough done complete.1 testFits bodyFits
      rw [Clause.alternativeSlots, List.append_assoc _ (Clause.alternativeSlots blank clauses),
        List.reverse_cons, List.append_assoc clauses.reverse]
      refine step.turn (fun _ _ _ _ => trivial) (.cons (goes done))
        (induction _ complete.2 ?_ (Nat.lt_of_succ_lt_succ room))
      rw [List.length_append]
      omega

theorem case_reads (done : List Clause) {test : Expr} {body : List Stmt}
    (complete : Stmt.ListComplete body) (testFits : test.slots.length < size)
    (fits : (Stmt.listSlots blank body).length < size) :
    Reads setting (caseOf nested (done, []))
      (.plain .madness :: test.slots ++ .plain .colon :: Stmt.listSlots blank body)
      (·.kind ∈ [Token.Kind.madness, .default, .closeBrace]) (.mk test body :: done, []) := by
  refine Reads.peek .head ?_
  intro token holds
  have kind : token.kind = .madness := holds.kind
  rw [kind]
  apply Reads.advance
  have read := expression_reads (Nat.lt_of_lt_of_le testFits enough)
  refine read.bind (.cons fun _ holds => holds.closing (by decide)) ?_
  refine Reads.expect rfl fun _ _ => ?_
  exact (caseBody_reads nests enough complete fits).map (.pure _)

theorem default_reads (done : List Clause) {fallback : List Stmt}
    (complete : Stmt.ListComplete fallback)
    (fits : (Stmt.listSlots blank fallback).length < size) :
    Reads setting (caseOf nested (done, []))
      (.plain .default :: .plain .colon :: Stmt.listSlots blank fallback)
      (·.kind = .closeBrace) (done, fallback) := by
  refine Reads.peek .head ?_
  intro token holds
  have kind : token.kind = .default := holds.kind
  rw [kind]
  apply Reads.advance
  refine Reads.expect rfl fun _ _ => ?_
  have read := (caseBody_reads nests enough complete fits).mono
    fun token (kind : token.kind = .closeBrace) => by rw [kind]; decide
  exact read.map (.pure _)

/-- The default behind the last case, which is left out if it is empty and that is allowed. -/
theorem fallback_reads (done : List Clause) {fallback : List Stmt} {turns : Nat}
    (complete : Stmt.ListComplete fallback)
    (fits : (Slot.fallback blank (Stmt.listSlots blank fallback)).length < size)
    (room : 0 < turns) :
    Reads setting
      (foldTurns (fun _ token => token.kind != .closeBrace && token.kind != .endOfFile)
        (caseOf nested) turns (done, []))
      (Slot.fallback blank (Stmt.listSlots blank fallback)) (·.kind = .closeBrace)
      (done, fallback) := by
  unfold Slot.fallback at fits ⊢
  by_cases omitted : ((Stmt.listSlots blank fallback).isEmpty && !blank) = true
  · obtain rfl : fallback = [] := by
      cases fallback with
      | nil => rfl
      | cons statement rest =>
          obtain ⟨slot, slots, same, -⟩ : Slot.StartsIn Stmt.firstKinds (statement.slots blank) :=
            statement.slots_start
          simp [Stmt.listSlots, same] at omitted
    rw [if_pos omitted]
    apply Reads.stop
    intro token kind
    rw [kind]
    rfl
  · rw [if_neg omitted] at fits ⊢
    obtain ⟨turns, rfl⟩ : ∃ less, turns = less + 1 := ⟨turns - 1, by omega⟩
    rw [List.length_cons, List.length_cons] at fits
    refine (default_reads nests enough done complete (by omega)).lastTurn ?_ ?_
    · apply Leads.cons
      intro token holds
      have kind : token.kind = .default := holds.kind
      simp [kind]
    · intro token kind
      simp [kind]

omit nests enough in
/-- A case is followed by another one, by the default or by the end. -/
theorem cases_lead (clauses : List Clause) (slots : List Slot) :
    Leads setting (Clause.caseSlots blank clauses ++ Slot.fallback blank slots)
      (·.kind = .closeBrace) (·.kind ∈ [Token.Kind.madness, .default, .closeBrace]) := by
  cases clauses with
  | nil =>
      rw [Clause.caseSlots, List.nil_append]
      unfold Slot.fallback
      split
      · apply Leads.nil
        intro token kind
        rw [kind]
        decide
      · apply Leads.cons
        intro token holds
        rw [holds.kind]
        decide
  | cons later clauses =>
      obtain ⟨test, body⟩ := later
      apply Leads.cons
      intro token holds
      rw [holds.kind]
      decide

/-- The cases of a multiverse and its default. -/
theorem cases_read (done : List Clause) {clauses : List Clause} {fallback : List Stmt} {turns : Nat}
    (complete : Clause.ListComplete clauses) (fallbackComplete : Stmt.ListComplete fallback)
    (fits : (Clause.caseSlots blank clauses ++
      Slot.fallback blank (Stmt.listSlots blank fallback)).length < size)
    (room : clauses.length < turns) :
    Reads setting
      (foldTurns (fun _ token => token.kind != .closeBrace && token.kind != .endOfFile)
        (caseOf nested) turns (done, []))
      (Clause.caseSlots blank clauses ++
        Slot.fallback blank (Stmt.listSlots blank fallback))
      (·.kind = .closeBrace) (clauses.reverse ++ done, fallback) := by
  induction clauses generalizing done turns with
  | nil =>
      rw [Clause.caseSlots, List.nil_append] at fits ⊢
      exact fallback_reads nests enough done fallbackComplete fits room
  | cons clause clauses induction =>
      obtain ⟨test, body⟩ := clause
      obtain ⟨turns, rfl⟩ : ∃ less, turns = less + 1 := ⟨turns - 1, by omega⟩
      rw [List.length_cons] at room
      simp only [Clause.caseSlots, List.length_append, List.length_cons] at fits
      have testFits : test.slots.length < size := by omega
      have bodyFits : (Stmt.listSlots blank body).length < size := by omega
      have step := case_reads nests enough done complete.1 testFits bodyFits
      rw [Clause.caseSlots, List.append_assoc _ (Clause.caseSlots blank clauses),
        List.reverse_cons, List.append_assoc clauses.reverse]
      refine step.turn (cases_lead clauses _) ?_
        (induction _ complete.2 ?_ (Nat.lt_of_succ_lt_succ room))
      · apply Leads.cons
        intro token holds
        have kind : token.kind = .madness := holds.kind
        simp [kind]
      · rw [List.length_append]
        omega

end Parts

end Reader

end Avenger
