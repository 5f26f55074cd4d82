import Avenger.Proofs.Printing.Printer

/-!
# The shape of prints

What prints start with and how long they are.
-/

namespace Avenger

/-- The kinds of tokens that expressions start with. -/
def Expr.firstKinds : List Token.Kind :=
  [.number, .string, .null, .identifier, .openParen, .minus]

/-- The first token of slots is of one of some kinds. -/
def Slot.StartsIn (kinds : List Token.Kind) (slots : List Slot) : Prop :=
  ∃ slot rest, slots = slot :: rest ∧ slot.kind ∈ kinds

theorem Slot.StartsIn.append {kinds : List Token.Kind} {slots : List Slot}
    (starts : Slot.StartsIn kinds slots) (more : List Slot) :
    Slot.StartsIn kinds (slots ++ more) := by
  obtain ⟨slot, rest, rfl, member⟩ := starts
  exact ⟨slot, rest ++ more, rfl, member⟩

theorem Slot.StartsIn.mono {kinds more : List Token.Kind} {slots : List Slot}
    (starts : Slot.StartsIn kinds slots) (subset : kinds ⊆ more) :
    Slot.StartsIn more slots := by
  obtain ⟨slot, rest, same, member⟩ := starts
  exact ⟨slot, rest, same, subset member⟩

theorem Slot.StartsIn.onLine {kinds : List Token.Kind} {slots : List Slot}
    (starts : Slot.StartsIn kinds slots) (line : Nat) :
    Slot.StartsIn kinds (Slot.onLine line slots) := by
  obtain ⟨slot, rest, rfl, member⟩ := starts
  exact ⟨_, rest, rfl, member⟩

theorem Slot.operand_starts {position level : Nat} {slots : List Slot}
    (starts : Slot.StartsIn Expr.firstKinds slots) :
    Slot.StartsIn Expr.firstKinds (Slot.operand position level slots) := by
  unfold Slot.operand
  split
  · exact ⟨_, _, rfl, by decide⟩
  · exact starts

/-- Expressions start with one of a few kinds of tokens. -/
theorem Expr.slots_start (expression : Expr) :
    Slot.StartsIn Expr.firstKinds expression.slots := by
  cases expression with
  | number _ => exact ⟨_, _, rfl, .head _⟩
  | text _ => exact ⟨_, _, rfl, .tail _ (.head _)⟩
  | null => exact ⟨_, _, rfl, by decide⟩
  | name _ => exact ⟨_, _, rfl, .tail _ (.tail _ (.tail _ (.head _)))⟩
  | not _ => exact ⟨_, _, rfl, by decide⟩
  | minus _ => exact ⟨_, _, rfl, by decide⟩
  | arithmetic operator left right =>
      exact (Slot.operand_starts left.slots_start).append _
  | comparison operator left right =>
      exact (Slot.operand_starts left.slots_start).append _
  | connective operator left right =>
      exact (Slot.operand_starts left.slots_start).append _
  | assign target value => exact (Slot.operand_starts target.slots_start).append _
  | update operator target value => exact (Slot.operand_starts target.slots_start).append _
  | member object index =>
      rw [Expr.slots, List.append_assoc]
      exact (Slot.operand_starts object.slots_start).append _
  | call callee arguments =>
      rw [Expr.slots, List.append_assoc]
      exact (Slot.operand_starts callee.slots_start).append _
termination_by sizeOf expression

theorem Expr.listSlots_eq (expressions : List Expr) :
    Expr.listSlots expressions = expressions.map Expr.slots := by
  induction expressions with
  | nil => rfl
  | cons expression rest induction => rw [Expr.listSlots, induction, List.map_cons]

theorem Slot.separated_cons_cons (first second : List Slot) (rest : List (List Slot)) :
    Slot.separated (first :: second :: rest) =
      first ++ .plain .comma :: Slot.separated (second :: rest) := by
  simp [Slot.separated]

theorem Slot.separated_cons (first : List Slot) (rest : List (List Slot)) :
    Slot.separated (first :: rest) =
      first ++ rest.flatMap (.plain .comma :: ·) := by
  induction rest generalizing first with
  | nil => simp [Slot.separated]
  | cons second rest induction =>
      rw [Slot.separated_cons_cons, induction]
      rfl

/-- Every item but the first one has a comma of its own. -/
theorem Slot.length_separated (first : List Slot) (rest : List (List Slot)) :
    rest.length ≤ (Slot.separated (first :: rest)).length := by
  rw [Slot.separated_cons, List.length_append]
  induction rest with
  | nil => exact Nat.zero_le _
  | cons item rest induction =>
      rw [List.flatMap_cons, List.length_append, List.length_cons, List.length_cons]
      omega

theorem Slot.length_le_separated {item : List Slot} {items : List (List Slot)}
    (member : item ∈ items) : item.length ≤ (Slot.separated items).length := by
  cases items with
  | nil => cases member
  | cons first rest =>
      rw [Slot.separated_cons, List.length_append]
      rcases List.mem_cons.mp member with rfl | later
      · exact Nat.le_add_right _ _
      · have part : Slot.plain .comma :: item ∈ rest.map (.plain .comma :: ·) :=
          List.mem_map_of_mem later
        have length := (List.sublist_flatten_of_mem part).length_le
        rw [← List.flatMap_def, List.length_cons] at length
        omega

@[simp] theorem Expr.conditionSlots_length (test : Expr) :
    test.conditionSlots.length = test.slots.length + 2 := by
  simp [Expr.conditionSlots]

@[simp] theorem Slot.block_length (body : List Slot) :
    (Slot.block body).length = body.length + 2 := by
  simp [Slot.block]

theorem Slot.length_onLine (line : Nat) (slots : List Slot) :
    (Slot.onLine line slots).length = slots.length := by
  cases slots with
  | nil => rfl
  | cons _ _ => rfl

/-- The kinds of tokens that statements start with. -/
def Stmt.firstKinds : List Token.Kind :=
  Expr.firstKinds ++ [.newAvenger, .newEternal, .ifWorthy, .fightUntil, .endGame, .team,
    .multiverse, .wakandaForEach, .wakandaFor, .assemble, .snap]

section Statements

variable {blank : Bool}

theorem Action.slots_start (action : Action) :
    Slot.StartsIn Stmt.firstKinds (action.slots blank) := by
  cases action with
  | expression value =>
      exact (value.slots_start.append _).mono (List.subset_append_left _ _)
  | declare name constant value =>
      cases constant with
      | true => exact ⟨_, _, rfl, by decide⟩
      | false => exact ⟨_, _, rfl, by decide⟩
  | team _ _ _ | branch _ _ _ _ | loopWhile _ _ | loopRange _ _ _ _ _ | loopFor _ _ _ _
  | multiverse _ _ _ | assemble _ _ _ | snap _ | endGame =>
      refine ⟨_, _, rfl, ?_⟩
      simp [Stmt.firstKinds, Slot.plain]

/-- Statements start with one of a few kinds of tokens. -/
theorem Stmt.slots_start (statement : Stmt) :
    Slot.StartsIn Stmt.firstKinds (statement.slots blank) := by
  cases statement with
  | mk line action => exact action.slots_start.onLine line

theorem Stmt.listSlots_eq (statements : List Stmt) :
    Stmt.listSlots blank statements = statements.flatMap (Stmt.slots blank) := by
  induction statements with
  | nil => rfl
  | cons statement rest induction =>
      rw [Stmt.listSlots, induction, List.flatMap_cons]

theorem Stmt.ListComplete.mem {statements : List Stmt} {statement : Stmt}
    (complete : Stmt.ListComplete statements) (member : statement ∈ statements) :
    statement.Complete := by
  induction statements with
  | nil => cases member
  | cons first rest induction =>
      rcases List.mem_cons.mp member with rfl | later
      · exact complete.1
      · exact induction complete.2 later

end Statements

theorem Clause.length_le_alternativeSlots (blank : Bool) (clauses : List Clause) :
    clauses.length ≤ (Clause.alternativeSlots blank clauses).length := by
  induction clauses with
  | nil => exact Nat.zero_le _
  | cons clause clauses induction =>
      obtain ⟨test, body⟩ := clause
      simp only [Clause.alternativeSlots, List.length_append, List.length_cons]
      omega

theorem Clause.length_le_caseSlots (blank : Bool) (clauses : List Clause) :
    clauses.length ≤ (Clause.caseSlots blank clauses).length := by
  induction clauses with
  | nil => exact Nat.zero_le _
  | cons clause clauses induction =>
      obtain ⟨test, body⟩ := clause
      simp only [Clause.caseSlots, List.length_append, List.length_cons]
      omega

end Avenger
