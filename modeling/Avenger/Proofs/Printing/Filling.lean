import Avenger.Proofs.Printing.Shape

/-!
# Filling slots

Every slot of a print can be filled, and none asks for an end of file.  Only a number has to
bring a text of its own: there are numbers that no text reads as, such as those below zero,
which a program writes with a `<MINUS>`.
-/

namespace Avenger

namespace Slot

/-- A slot that can be filled on every line, if it is not for a number. -/
structure Free (slot : Slot) : Prop where
  inside : slot.kind ≠ .endOfFile
  reads : slot.kind ≠ .number → ∃ text, slot.reads text
  line : ∀ line, slot.line line

/-- A slot that can be filled on some line, if it is not for a number. -/
structure Fillable (slot : Slot) : Prop where
  inside : slot.kind ≠ .endOfFile
  reads : slot.kind ≠ .number → ∃ text, slot.reads text
  line : ∃ line, slot.line line

theorem Free.fillable {slot : Slot} (free : slot.Free) : slot.Fillable :=
  ⟨free.inside, free.reads, 0, free.line 0⟩

section Tokens

@[simp] theorem free_plain {kind : Token.Kind} :
    (Slot.plain kind).Free ↔ kind ≠ .endOfFile := by
  constructor
  · intro free
    exact free.inside
  · intro inside
    exact ⟨inside, fun _ => ⟨"", trivial⟩, fun _ => trivial⟩

theorem free_word (name : String) : (Slot.word name).Free where
  inside := by simp [Slot.word]
  reads _ := ⟨name, rfl⟩
  line _ := trivial

theorem free_text (value : String) : (Slot.text value).Free where
  inside := by simp [Slot.text]
  reads _ := ⟨value, rfl⟩
  line _ := trivial

theorem free_number (value : Float) : (Slot.number value).Free where
  inside := by simp [Slot.number]
  reads apart := absurd rfl apart
  line _ := trivial

theorem free_arithmetic (operator : Arithmetic) : (Slot.arithmetic operator).Free where
  inside := by simp [Slot.arithmetic]
  reads _ := ⟨operator.symbol, operator.ofSymbol?_symbol⟩
  line _ := trivial

theorem free_comparison (operator : Comparison) : (Slot.comparison operator).Free where
  inside := by simp [Slot.comparison]
  reads _ := ⟨operator.symbol, operator.ofSymbol?_symbol⟩
  line _ := trivial

theorem free_connective (operator : Connective) : (Slot.connective operator).Free where
  inside := by simp [Slot.connective]
  reads _ := ⟨operator.symbol, operator.ofSymbol?_symbol⟩
  line _ := trivial

/-- An operator with an equals sign after it. -/
theorem updateOperator?_symbol (operator : Arithmetic) :
    Reader.updateOperator? (operator.symbol ++ "=") = some operator := by
  cases operator <;> decide

theorem free_update (operator : Arithmetic) : (Slot.update operator).Free where
  inside := by simp [Slot.update]
  reads _ := ⟨operator.symbol ++ "=", updateOperator?_symbol operator⟩
  line _ := trivial

end Tokens

section Lists

theorem free_operand {position level : Nat} {slots : List Slot} :
    (∀ slot ∈ operand position level slots, slot.Free) ↔ ∀ slot ∈ slots, slot.Free := by
  unfold operand
  split
  · simp only [List.cons_append, List.forall_mem_cons, List.forall_mem_append]
    simp
  · rfl

theorem free_separated {items : List (List Slot)}
    (each : ∀ item ∈ items, ∀ slot ∈ item, slot.Free) :
    ∀ slot ∈ separated items, slot.Free := by
  induction items with
  | nil => exact List.forall_mem_nil _
  | cons item rest induction =>
      have later := induction fun item member => each item (.tail _ member)
      cases rest with
      | nil => exact each item (.head _)
      | cons second rest =>
          rw [separated_cons_cons, List.forall_mem_append, List.forall_mem_cons]
          exact ⟨each item (.head _), by simp, later⟩

end Lists

end Slot

mutual

theorem Expr.slots_free (expression : Expr) : ∀ slot ∈ expression.slots, slot.Free := by
  cases expression with
  | number value => exact List.forall_mem_singleton.mpr (Slot.free_number value)
  | text value => exact List.forall_mem_singleton.mpr (Slot.free_text value)
  | null => exact List.forall_mem_singleton.mpr (by simp)
  | name identifier => exact List.forall_mem_singleton.mpr (Slot.free_word identifier)
  | arithmetic operator left right =>
      simp only [Expr.slots, List.forall_mem_append, List.forall_mem_cons, Slot.free_operand]
      exact ⟨left.slots_free, Slot.free_arithmetic operator, right.slots_free⟩
  | comparison operator left right =>
      simp only [Expr.slots, List.forall_mem_append, List.forall_mem_cons, Slot.free_operand]
      exact ⟨left.slots_free, Slot.free_comparison operator, right.slots_free⟩
  | connective operator left right =>
      simp only [Expr.slots, List.forall_mem_append, List.forall_mem_cons, Slot.free_operand]
      exact ⟨left.slots_free, Slot.free_connective operator, right.slots_free⟩
  | not operand =>
      simp only [Expr.slots, List.forall_mem_append, List.forall_mem_cons, Slot.free_operand]
      exact ⟨⟨by simp, by simp, operand.slots_free⟩, by simp⟩
  | minus operand =>
      simp only [Expr.slots, List.forall_mem_cons, Slot.free_operand]
      exact ⟨by simp, operand.slots_free⟩
  | assign target value =>
      simp only [Expr.slots, List.forall_mem_append, List.forall_mem_cons, Slot.free_operand]
      exact ⟨target.slots_free, by simp, value.slots_free⟩
  | update operator target value =>
      simp only [Expr.slots, List.forall_mem_append, List.forall_mem_cons, Slot.free_operand]
      exact ⟨target.slots_free, Slot.free_update operator, value.slots_free⟩
  | member object index =>
      simp only [Expr.slots, List.forall_mem_append, List.forall_mem_cons, Slot.free_operand]
      exact ⟨⟨object.slots_free, by simp, index.slots_free⟩, by simp⟩
  | call callee arguments =>
      simp only [Expr.slots, List.forall_mem_append, List.forall_mem_cons, Slot.free_operand]
      exact ⟨⟨callee.slots_free, by simp,
        Slot.free_separated (Expr.listSlots_free arguments)⟩, by simp⟩

theorem Expr.listSlots_free (expressions : List Expr) :
    ∀ item ∈ Expr.listSlots expressions, ∀ slot ∈ item, slot.Free := by
  cases expressions with
  | nil => exact List.forall_mem_nil _
  | cons expression rest =>
      rw [Expr.listSlots, List.forall_mem_cons]
      exact ⟨expression.slots_free, Expr.listSlots_free rest⟩

end

theorem Expr.slots_fillable (expression : Expr) :
    ∀ slot ∈ expression.slots, slot.Fillable :=
  fun slot member => (expression.slots_free slot member).fillable

namespace Slot

@[simp] theorem fillable_plain {kind : Token.Kind} (inside : kind ≠ .endOfFile) :
    (Slot.plain kind).Fillable :=
  (free_plain.mpr inside).fillable

/-- The first slot can be filled on every line and the others on some line. -/
structure Opens (slots : List Slot) : Prop where
  head : ∀ slot ∈ slots.head?, slot.Free
  each : ∀ slot ∈ slots, slot.Fillable

theorem Opens.of_free {slots : List Slot} (free : ∀ slot ∈ slots, slot.Free) :
    Opens slots where
  head slot member := free slot (List.mem_of_mem_head? member)
  each slot member := (free slot member).fillable

theorem Opens.onLine {slots : List Slot} (opens : Opens slots) (line : Nat) :
    ∀ slot ∈ Slot.onLine line slots, slot.Fillable := by
  cases slots with
  | nil => exact List.forall_mem_nil _
  | cons slot rest =>
      have free := opens.head slot rfl
      rw [Slot.onLine, List.forall_mem_cons]
      refine ⟨⟨free.inside, free.reads, line, free.line line, rfl⟩, ?_⟩
      exact fun slot member => opens.each slot (.tail _ member)

theorem fillable_block {body : List Slot} (each : ∀ slot ∈ body, slot.Fillable) :
    ∀ slot ∈ block body, slot.Fillable := by
  simp only [block, List.forall_mem_append, List.forall_mem_cons]
  exact ⟨⟨by simp, each⟩, by simp⟩

theorem fillable_fallback {blank : Bool} {body : List Slot}
    (each : ∀ slot ∈ body, slot.Fillable) :
    ∀ slot ∈ fallback blank body, slot.Fillable := by
  unfold fallback
  split
  · exact List.forall_mem_nil _
  · simp only [List.forall_mem_cons]
    exact ⟨by simp, by simp, each⟩

end Slot

theorem Expr.conditionSlots_fillable (test : Expr) :
    ∀ slot ∈ test.conditionSlots, slot.Fillable := by
  simp only [Expr.conditionSlots, List.forall_mem_append, List.forall_mem_cons]
  exact ⟨⟨by simp, test.slots_fillable⟩, by simp⟩

theorem Expr.optionSlots_fillable {before : List Slot} (value : Option Expr)
    (each : ∀ slot ∈ before, slot.Fillable) :
    ∀ slot ∈ Expr.optionSlots before value, slot.Fillable := by
  cases value with
  | none => exact List.forall_mem_nil _
  | some value =>
      rw [Expr.optionSlots, List.forall_mem_append]
      exact ⟨each, value.slots_fillable⟩

section Statements

variable {blank : Bool}

mutual

theorem Stmt.slots_fillable (statement : Stmt) :
    ∀ slot ∈ statement.slots blank, slot.Fillable := by
  cases statement with
  | mk line action => exact action.slots_open.onLine line

theorem Action.slots_open (action : Action) : Slot.Opens (action.slots blank) := by
  cases action with
  | expression value =>
      refine .of_free ?_
      rw [Action.slots, List.forall_mem_append]
      exact ⟨value.slots_free, by simp⟩
  | declare name constant value =>
      have given : ∀ slot ∈ Expr.optionSlots [.plain .equals] value, slot.Fillable :=
        Expr.optionSlots_fillable value (by simp)
      constructor
      · cases constant <;> simp [Action.slots]
      · simp only [Action.slots, List.forall_mem_append, List.forall_mem_cons, and_assoc]
        refine ⟨?_, (Slot.free_word name).fillable, given, by simp⟩
        cases constant <;> simp
  | team name size values =>
      have free := Slot.free_separated (Expr.listSlots_free values)
      refine ⟨by simp [Action.slots], ?_⟩
      simp only [Action.slots, List.forall_mem_append, List.forall_mem_cons, and_assoc]
      exact ⟨by simp, (Slot.free_word name).fillable, by simp, size.slots_fillable, by simp,
        by simp, by simp, fun slot member => (free slot member).fillable, by simp⟩
  | branch condition body alternatives otherwise =>
      refine ⟨by simp [Action.slots], ?_⟩
      simp only [Action.slots, List.forall_mem_append, List.forall_mem_cons, and_assoc]
      exact ⟨by simp, condition.conditionSlots_fillable,
        Slot.fillable_block (Stmt.listSlots_fillable body),
        Clause.alternativeSlots_fillable alternatives,
        Stmt.otherwiseSlots_fillable otherwise⟩
  | loopWhile condition body =>
      refine ⟨by simp [Action.slots], ?_⟩
      simp only [Action.slots, List.forall_mem_append, List.forall_mem_cons, and_assoc]
      exact ⟨by simp, condition.conditionSlots_fillable,
        Slot.fillable_block (Stmt.listSlots_fillable body)⟩
  | loopRange iterator start stop step body =>
      have given : ∀ slot ∈ Expr.optionSlots [.plain .stepWord] step, slot.Fillable :=
        Expr.optionSlots_fillable step (by simp)
      refine ⟨by simp [Action.slots], ?_⟩
      simp only [Action.slots, List.forall_mem_append, List.forall_mem_cons, and_assoc]
      exact ⟨by simp, by simp, (Slot.free_word iterator).fillable, by simp,
        start.slots_fillable, by simp, stop.slots_fillable, given, by simp,
        Slot.fillable_block (Stmt.listSlots_fillable body)⟩
  | loopFor header condition modification body =>
      refine ⟨by simp [Action.slots], ?_⟩
      simp only [Action.slots, List.forall_mem_append, List.forall_mem_cons, and_assoc]
      exact ⟨by simp, by simp, header.slots_fillable, condition.slots_fillable, by simp,
        modification.slots_fillable, by simp,
        Slot.fillable_block (Stmt.listSlots_fillable body)⟩
  | multiverse discriminant cases fallback =>
      refine ⟨by simp [Action.slots], ?_⟩
      simp only [Action.slots, List.forall_mem_append, List.forall_mem_cons, and_assoc]
      exact ⟨by simp, discriminant.conditionSlots_fillable, by simp,
        Clause.caseSlots_fillable cases,
        Slot.fillable_fallback (Stmt.listSlots_fillable fallback), by simp⟩
  | assemble name parameters body =>
      have free : ∀ slot ∈ Slot.separated (parameters.map ([Slot.word ·])), slot.Free := by
        apply Slot.free_separated
        intro item member
        obtain ⟨parameter, -, rfl⟩ := List.mem_map.mp member
        exact List.forall_mem_singleton.mpr (Slot.free_word parameter)
      refine ⟨by simp [Action.slots], ?_⟩
      simp only [Action.slots, List.forall_mem_append, List.forall_mem_cons, and_assoc]
      exact ⟨by simp, (Slot.free_word name).fillable, by simp,
        fun slot member => (free slot member).fillable, by simp,
        Slot.fillable_block (Stmt.listSlots_fillable body)⟩
  | snap value =>
      have given : ∀ slot ∈ Expr.optionSlots [] value, slot.Fillable :=
        Expr.optionSlots_fillable value (by simp)
      refine ⟨by simp [Action.slots], ?_⟩
      simp only [Action.slots, List.forall_mem_append, List.forall_mem_cons, and_assoc]
      exact ⟨by simp, given, by simp⟩
  | endGame => exact ⟨by simp [Action.slots], by simp [Action.slots]⟩

theorem Stmt.listSlots_fillable (statements : List Stmt) :
    ∀ slot ∈ Stmt.listSlots blank statements, slot.Fillable := by
  cases statements with
  | nil => exact List.forall_mem_nil _
  | cons statement rest =>
      rw [Stmt.listSlots, List.forall_mem_append]
      exact ⟨statement.slots_fillable, Stmt.listSlots_fillable rest⟩

theorem Clause.alternativeSlots_fillable (clauses : List Clause) :
    ∀ slot ∈ Clause.alternativeSlots blank clauses, slot.Fillable := by
  match clauses with
  | [] => exact List.forall_mem_nil _
  | .mk test body :: rest =>
      simp only [Clause.alternativeSlots, List.forall_mem_append, List.forall_mem_cons,
        and_assoc]
      exact ⟨by simp, by simp, test.conditionSlots_fillable,
        Slot.fillable_block (Stmt.listSlots_fillable body),
        Clause.alternativeSlots_fillable rest⟩

theorem Stmt.otherwiseSlots_fillable (otherwise : Option (List Stmt)) :
    ∀ slot ∈ Stmt.otherwiseSlots blank otherwise, slot.Fillable := by
  cases otherwise with
  | none => exact List.forall_mem_nil _
  | some body =>
      rw [Stmt.otherwiseSlots, List.forall_mem_cons]
      exact ⟨by simp, Slot.fillable_block (Stmt.listSlots_fillable body)⟩

theorem Clause.caseSlots_fillable (clauses : List Clause) :
    ∀ slot ∈ Clause.caseSlots blank clauses, slot.Fillable := by
  match clauses with
  | [] => exact List.forall_mem_nil _
  | .mk test body :: rest =>
      simp only [Clause.caseSlots, List.forall_mem_append, List.forall_mem_cons, and_assoc]
      exact ⟨by simp, test.slots_fillable, by simp, Stmt.listSlots_fillable body,
        Clause.caseSlots_fillable rest⟩

end

end Statements

section Fills

variable {slots : List Slot} {tokens : List Token}

/-- Slots can be filled if those for numbers can. -/
theorem Slot.exists_fill (each : ∀ slot ∈ slots, slot.Fillable)
    (numbers : ∀ slot ∈ slots, slot.kind = .number → ∃ text, slot.reads text) :
    ∃ tokens, List.Forall₂ Slot.Holds slots tokens := by
  induction slots with
  | nil => exact ⟨[], .nil⟩
  | cons slot slots induction =>
      obtain ⟨tokens, fill⟩ := induction (fun slot member => each slot (.tail _ member))
        fun slot member => numbers slot (.tail _ member)
      have fillable := each slot (.head _)
      obtain ⟨line, onLine⟩ := fillable.line
      have readable : ∃ text, slot.reads text := by
        by_cases kind : slot.kind = .number
        · exact numbers slot (.head _) kind
        · exact fillable.reads kind
      obtain ⟨text, reads⟩ := readable
      exact ⟨⟨slot.kind, text, line⟩ :: tokens, .cons ⟨rfl, reads, onLine⟩ fill⟩

theorem Slot.inside_of_fill (each : ∀ slot ∈ slots, slot.Fillable)
    (fill : List.Forall₂ Slot.Holds slots tokens) :
    ∀ token ∈ tokens, token.kind ≠ .endOfFile := by
  induction fill with
  | nil => exact List.forall_mem_nil _
  | cons holds _ induction =>
      rw [List.forall_mem_cons]
      refine ⟨?_, induction fun slot member => each slot (.tail _ member)⟩
      rw [holds.kind]
      exact (each _ (.head _)).inside

end Fills

/-- Every program has a print if its numbers can be written. -/
theorem Program.exists_print {blank : Bool} {program : Program}
    (numbers : ∀ slot ∈ Stmt.listSlots blank program, slot.kind = .number →
      ∃ text, slot.reads text) :
    ∃ tokens, program.Printed blank tokens :=
  Slot.exists_fill (Stmt.listSlots_fillable program) numbers

end Avenger
