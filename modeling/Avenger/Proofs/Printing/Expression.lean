import Avenger.Proofs.Printing.Level

/-!
# Reading printed expressions

By recursion on the expression: what is printed of it is read by the reader of its level, and
the loop of a level can go on after it.
-/

namespace Avenger

namespace Reader

variable {setting : Setting} {follow between : Token → Prop} {budget : Nat}

/-- The reader of a level that goes inward at most `budget` times. -/
abbrev within (budget : Nat) : Nat → Reader Expr :=
  atLevel (expressionWithin budget) (comparisonWithin budget)

/-- What is printed of an expression is read by the reader of its level, and the loop of this
level stands at the expression after it. -/
structure ReadsPrint (setting : Setting) (budget : Nat) (expression : Expr) :
    Prop where
  chains : 1 ≤ expression.level → expression.level ≤ 7 →
    Chains setting (within budget expression.level) (goesOn expression.level)
      (stepAt (expressionWithin budget) (comparisonWithin budget) expression.level)
      expression.slots (Token.Below (expression.level + 1)) expression
  reads : Reads setting (within budget expression.level) expression.slots
    (Token.Below expression.level) expression

namespace ReadsPrint

variable {expression : Expr}

theorem of_chains
    (chains : Chains setting (within budget expression.level) (goesOn expression.level)
      (stepAt (expressionWithin budget) (comparisonWithin budget) expression.level)
      expression.slots (Token.Below (expression.level + 1)) expression) :
    ReadsPrint setting budget expression where
  chains _ _ := chains
  reads := chains.stop (fun _ below => below.mono (Nat.le_succ _))
    fun _ below => decide_eq_false below.apart

theorem of_reads (outside : expression.level = 0 ∨ 7 < expression.level)
    (reads : Reads setting (within budget expression.level) expression.slots
      (Token.Below expression.level) expression) :
    ReadsPrint setting budget expression where
  chains _ _ := by omega
  reads := reads

end ReadsPrint

section Positions

variable {expression : Expr} {position : Nat} {slots : List Slot}

/-- An expression in parentheses. -/
theorem group_reads {inner operand : Reader Expr}
    (reads : Reads setting inner slots (Token.Below 0) expression) :
    Reads setting (primary inner operand)
      (.plain .openParen :: slots ++ [.plain .closeParen]) follow expression := by
  refine Reads.peek .head ?_
  intro token holds
  have kind : token.kind = .openParen := holds.kind
  rw [kind]
  apply Reads.advance
  refine reads.bind (.cons fun _ holds => holds.closing (by decide)) ?_
  exact Reads.expect rfl fun _ _ => .pure _

variable (read : ∀ budget, expression.slots.length ≤ budget → budget < setting.budget →
  ReadsPrint setting budget expression)

include read

/-- An expression as a whole. -/
theorem inner_reads (fits : expression.slots.length < budget)
    (enough : budget ≤ setting.budget) :
    Reads setting (expressionWithin budget) expression.slots (Token.Below 0) expression := by
  cases budget with
  | zero => cases fits
  | succ budget =>
      have reads := (read budget (Nat.le_of_lt_succ fits) enough).reads.mono
        fun _ below => Token.Below.mono below (Nat.zero_le _)
      exact reads.descend (Nat.zero_le _) fun _ below => below

/-- What is printed of an operand is read by the reader for its position. -/
theorem operand_reads (bound : position ≤ 9)
    (fits : (Slot.operand position expression.level expression.slots).length ≤ budget)
    (enough : budget < setting.budget) :
    Reads setting (within budget position)
      (Slot.operand position expression.level expression.slots) (Token.Below position)
      expression := by
  unfold Slot.operand at fits ⊢
  by_cases low : expression.level < position
  · rw [if_pos low] at fits ⊢
    rw [List.length_append, List.length_cons] at fits
    have inner : Reads setting (expressionWithin budget) expression.slots (Token.Below 0)
        expression :=
      inner_reads read (by omega) (Nat.le_of_lt enough)
    have grouped : Reads setting (within budget 9) _ (Token.Below position) expression :=
      group_reads inner
    exact grouped.descend bound fun _ below => below
  · rw [if_neg low] at fits ⊢
    have le := Nat.le_of_not_lt low
    have reads := (read budget fits enough).reads.mono
      fun _ (below : Token.Below position _) => below.mono le
    exact reads.descend le fun _ below => below

/-- The loop of a level stands at an operand of this level after it. -/
theorem operand_chains (first : 1 ≤ position) (last : position ≤ 7)
    (fits : (Slot.operand position expression.level expression.slots).length ≤ budget)
    (enough : budget < setting.budget) :
    Chains setting (within budget position) (goesOn position)
      (stepAt (expressionWithin budget) (comparisonWithin budget) position)
      (Slot.operand position expression.level expression.slots)
      (Token.Below (position + 1)) expression := by
  by_cases same : expression.level = position
  · subst same
    unfold Slot.operand at fits ⊢
    rw [if_neg (Nat.lt_irrefl _)] at fits ⊢
    exact (read budget fits enough).chains first last
  · have next : Slot.operand position expression.level expression.slots =
        Slot.operand (position + 1) expression.level expression.slots := by
      unfold Slot.operand
      by_cases low : expression.level < position
      · rw [if_pos low, if_pos (by omega)]
      · rw [if_neg low, if_neg (by omega)]
    rw [next] at fits ⊢
    unfold within
    rw [atLevel_eq first last]
    exact .start (operand_reads read (by omega) fits enough)

end Positions

/-- An expression that the loop of its level makes of a first operand in one more turn, which
starts at a token of this level. -/
theorem ReadsPrint.of_turn {expression first : Expr} {level : Nat} {slot : Slot}
    {more : List Slot}
    (print : expression.slots = Slot.operand level first.level first.slots ++ slot :: more)
    (stands : expression.level = level) (low : 1 ≤ level) (high : level ≤ 7)
    (fits : expression.slots.length ≤ budget) (enough : budget < setting.budget)
    (read : ∀ budget, first.slots.length ≤ budget → budget < setting.budget →
      ReadsPrint setting budget first)
    (same : ∀ token, slot.Holds token → token.level? = some level)
    (step : more.length < budget →
      Reads setting (stepAt (expressionWithin budget) (comparisonWithin budget) level first)
        (slot :: more) (Token.Below (level + 1)) expression) :
    ReadsPrint setting budget expression := by
  subst stands
  rw [print, List.length_append, List.length_cons] at fits
  have before := operand_chains read low high (by omega) enough
  apply of_chains
  rw [print]
  exact before.next (.cons fun _ holds => Token.below_of_level (same _ holds))
    (.cons fun _ holds => decide_eq_true (same _ holds)) (step (by omega)) (by omega)
    (Nat.le_add_left _ _)

section Steps

variable {slots : List Slot} {left right : Expr}

theorem arithmeticStep_reads {operators : List Arithmetic} {operator : Arithmetic}
    {reader : Reader Expr} (member : operators.contains operator = true)
    (reads : Reads setting reader slots follow right) :
    Reads setting (arithmeticStep operators reader left) (.arithmetic operator :: slots)
      follow (.arithmetic operator left right) := by
  refine Reads.peek .head ?_
  intro token holds
  have kind : token.kind = .arithmetic := holds.kind
  have text : Arithmetic.ofSymbol? token.text = some operator := holds.reads
  have found : arithmeticIn? operators token = some operator := by
    rw [arithmeticIn?, if_pos kind, text, Option.filter_some, if_pos member]
  apply Reads.advance
  refine reads.map ?_
  rw [found]
  exact .pure _

theorem joinedStep_reads {Operator : Type} {operator? : String → Option Operator}
    {join : Operator → Expr → Expr → Expr} {reader : Reader Expr} {operator : Operator}
    {slot : Slot} (reads : ∀ token, slot.Holds token → operator? token.text = some operator)
    (operand : Reads setting reader slots follow right) :
    Reads setting (joinedStep operator? join reader left) (slot :: slots) follow
      (join operator left right) := by
  refine Reads.peek .head ?_
  intro token holds
  apply Reads.advance
  rw [reads token holds]
  exact operand.map (.pure _)

theorem memberStep_reads {inner : Reader Expr} {object index : Expr}
    (reads : Reads setting inner slots (Token.Below 0) index) :
    Reads setting (memberStep inner object)
      (.plain .openBracket :: slots ++ [.plain .closeBracket]) follow
      (.member object index) := by
  apply Reads.advance
  refine reads.bind (.cons fun _ holds => holds.closing (by decide)) ?_
  exact Reads.expect rfl fun _ _ => .pure _

theorem callStep_reads {inner : Reader Expr} {callee : Expr} {arguments : List Expr}
    (reads : ∀ argument ∈ arguments,
      Reads setting inner argument.slots (Token.Below 0) argument)
    (enough : (Slot.separated (arguments.map Expr.slots)).length ≤ setting.budget) :
    Reads setting (callStep inner callee)
      (.plain .openParen :: Slot.separated (Expr.listSlots arguments) ++
        [.plain .closeParen]) follow (.call callee arguments) := by
  apply Reads.advance
  rw [Expr.listSlots_eq]
  have read : Reads setting (Reader.arguments inner)
      (Slot.separated (arguments.map Expr.slots) ++ [.plain .closeParen]) follow
      arguments := by
    cases arguments with
    | nil =>
        refine Reads.peek .head ?_
        intro token holds
        have kind : token.kind = .closeParen := holds.kind
        rw [if_pos kind]
        refine Reads.bind (.pure []) .head ?_
        exact Reads.expect rfl fun _ _ => .pure _
    | cons first rest =>
        have starts : Slot.StartsIn Expr.firstKinds
            (Slot.separated ((first :: rest).map Expr.slots) ++ [.plain .closeParen]) := by
          rw [List.map_cons, Slot.separated_cons, List.append_assoc]
          exact first.slots_start.append _
        refine Reads.peek (.starts starts fun _ member => member) ?_
        intro token member
        have apart : token.kind ≠ .closeParen := by
          intro kind
          rw [kind] at member
          exact absurd member (by decide)
        rw [if_neg apart]
        have separated : Reads setting (Reader.separated inner)
            (Slot.separated ((first :: rest).map Expr.slots))
            (fun token => token.kind = .closeParen) (first :: rest) := by
          have count := Slot.length_separated first.slots (rest.map Expr.slots)
          rw [List.length_map] at count
          refine Reads.separated reads (fun _ holds => holds.closing (by decide))
            (Nat.le_trans count enough) ?_
          intro token kind
          constructor
          · apply Token.below_of_closing
            rw [kind]
            decide
          · rw [kind]
            decide
        refine separated.bind (.cons fun _ holds => holds.kind) ?_
        exact Reads.expect rfl fun _ _ => .pure _
  exact read.map (.pure _)

end Steps

end Reader

open Reader

mutual

/-- What is printed of an expression is read as the expression. -/
theorem Expr.reads_print {setting : Setting} (expression : Expr) {budget : Nat}
    (fits : expression.slots.length ≤ budget) (enough : budget < setting.budget) :
    ReadsPrint setting budget expression := by
  cases expression with
  | number value =>
      apply ReadsPrint.of_reads (.inr (by simp [Expr.level]))
      refine Reads.peek .head ?_
      intro token holds
      have kind : token.kind = .number := holds.kind
      have text : Number.ofText? token.text = some value := holds.reads
      rw [kind]
      apply Reads.advance
      rw [text]
      exact .pure _
  | text value =>
      apply ReadsPrint.of_reads (.inr (by simp [Expr.level]))
      refine Reads.peek .head ?_
      intro token holds
      have kind : token.kind = .string := holds.kind
      have text : token.text = value := holds.reads
      rw [kind, text]
      apply Reads.advance
      exact .pure _
  | null =>
      apply ReadsPrint.of_reads (.inr (by simp [Expr.level]))
      refine Reads.peek .head ?_
      intro token holds
      have kind : token.kind = .null := holds.kind
      rw [kind]
      apply Reads.advance
      exact .pure _
  | name identifier =>
      apply ReadsPrint.of_reads (.inr (by simp [Expr.level]))
      refine Reads.peek .head ?_
      intro token holds
      have kind : token.kind = .identifier := holds.kind
      have text : token.text = identifier := holds.reads
      rw [kind, text]
      apply Reads.advance
      exact .pure _
  | arithmetic operator left right =>
      have range := operator.level_range
      refine ReadsPrint.of_turn rfl rfl (by omega) (by omega) fits enough
        (fun _ => left.reads_print) (fun _ holds => holds.arithmetic_level) fun room => ?_
      have after := operand_reads (fun _ => right.reads_print) (by omega) (Nat.le_of_lt room)
        enough
      cases operator <;> exact arithmeticStep_reads rfl after
  | comparison operator left right =>
      refine ReadsPrint.of_turn rfl rfl (by decide) (by decide) fits enough
        (fun _ => left.reads_print) (fun _ holds => holds.level (by simp [Slot.comparison]))
        fun room => ?_
      exact joinedStep_reads (fun _ holds => holds.reads)
        (operand_reads (fun _ => right.reads_print) (by decide) (Nat.le_of_lt room) enough)
  | connective operator left right =>
      refine ReadsPrint.of_turn rfl rfl (by decide) (by decide) fits enough
        (fun _ => left.reads_print) (fun _ holds => holds.level (by simp [Slot.connective]))
        fun room => ?_
      exact joinedStep_reads (fun _ holds => holds.reads)
        (operand_reads (fun _ => right.reads_print) (by decide) (Nat.le_of_lt room) enough)
  | not operand =>
      simp only [Expr.slots, List.length_append, List.length_cons, List.length_nil] at fits
      apply ReadsPrint.of_reads (.inr (by simp [Expr.level]))
      obtain ⟨budget, rfl⟩ : ∃ less, budget = less + 2 := ⟨budget - 2, by omega⟩
      have operandFits : (Slot.operand 2 operand.level operand.slots).length ≤ budget := by
        omega
      have after := operand_reads (fun _ => operand.reads_print) (by omega) operandFits
        (by omega : budget < setting.budget)
      have negated : Reads setting (within (budget + 1) 9)
          (.plain .not :: Slot.operand 2 operand.level operand.slots) (Token.Below 0)
          (.not operand) := by
        refine Reads.peek .head ?_
        intro token holds
        have kind : token.kind = .not := holds.kind
        rw [kind]
        apply Reads.advance
        have below := after.mono fun _ (below : Token.Below 0 _) =>
          below.mono (Nat.zero_le 2)
        exact below.map (.pure _)
      exact group_reads (negated.descend (Nat.zero_le 9) fun _ below => below)
  | minus operand =>
      simp only [Expr.slots, List.length_cons] at fits
      apply ReadsPrint.of_reads (.inr (by simp [Expr.level]))
      have operandFits : (Slot.operand 9 operand.level operand.slots).length ≤ budget := by
        omega
      have after := operand_reads (fun _ => operand.reads_print) (by omega) operandFits enough
      apply Reads.skip rfl
      have below := after.mono fun _ (below : Token.Below 8 _) => below.mono (Nat.le_succ 8)
      exact below.map (.pure _)
  | assign target value =>
      simp only [Expr.slots, List.length_append, List.length_cons] at fits
      have targetFits : (Slot.operand 1 target.level target.slots).length ≤ budget := by omega
      have before := operand_reads (fun _ => target.reads_print) (by omega) targetFits enough
      have after := inner_reads (fun _ => value.reads_print)
        (by omega : value.slots.length < budget) (Nat.le_of_lt enough)
      apply ReadsPrint.of_reads (.inl rfl)
      refine before.bind (.cons fun _ holds => Token.below_of_level (holds.level (by decide)))
        ?_
      refine Reads.peek .head ?_
      intro token holds
      have kind : token.kind = .equals := holds.kind
      rw [kind]
      apply Reads.advance
      exact after.map (.pure _)
  | update operator target value =>
      simp only [Expr.slots, List.length_append, List.length_cons] at fits
      have targetFits : (Slot.operand 1 target.level target.slots).length ≤ budget := by omega
      have before := operand_reads (fun _ => target.reads_print) (by omega) targetFits enough
      have after := inner_reads (fun _ => value.reads_print)
        (by omega : value.slots.length < budget) (Nat.le_of_lt enough)
      apply ReadsPrint.of_reads (.inl rfl)
      refine before.bind (.cons fun _ holds => Token.below_of_level
        (holds.level (by simp [Slot.update]))) ?_
      refine Reads.peek .head ?_
      intro token holds
      have kind : token.kind = .compoundAssign := holds.kind
      have text : updateOperator? token.text = some operator := holds.reads
      rw [kind]
      apply Reads.advance
      rw [text]
      exact after.map (.pure _)
  | member object index =>
      have print : (Expr.member object index).slots =
          Slot.operand 7 object.level object.slots ++
            .plain .openBracket :: (index.slots ++ [.plain .closeBracket]) :=
        List.append_assoc ..
      refine ReadsPrint.of_turn print rfl (by decide) (by decide) fits enough
        (fun _ => object.reads_print) (fun _ holds => holds.level (by decide)) fun room => ?_
      rw [List.length_append] at room
      exact memberStep_reads (inner_reads (fun _ => index.reads_print)
        (Nat.lt_of_le_of_lt (Nat.le_add_right _ _) room) (Nat.le_of_lt enough))
  | call callee arguments =>
      have print : (Expr.call callee arguments).slots =
          Slot.operand 6 callee.level callee.slots ++
            .plain .openParen ::
              (Slot.separated (Expr.listSlots arguments) ++ [.plain .closeParen]) :=
        List.append_assoc ..
      refine ReadsPrint.of_turn print rfl (by decide) (by decide) fits enough
        (fun _ => callee.reads_print) (fun _ holds => holds.level (by decide)) fun room => ?_
      rw [Expr.listSlots_eq, List.length_append] at room
      have inside : ∀ argument ∈ arguments,
          Reads setting (expressionWithin budget) argument.slots (Token.Below 0) argument := by
        intro argument member
        have part := Slot.length_le_separated (List.mem_map_of_mem member : argument.slots ∈ _)
        exact inner_reads (fun _ => Expr.list_reads_print arguments member)
          (by omega : argument.slots.length < budget) (Nat.le_of_lt enough)
      exact callStep_reads inside (by omega)
termination_by sizeOf expression

/-- List counterpart of `Expr.reads_print`. -/
theorem Expr.list_reads_print {setting : Setting} (expressions : List Expr)
    {expression : Expr} (member : expression ∈ expressions) {budget : Nat}
    (fits : expression.slots.length ≤ budget) (enough : budget < setting.budget) :
    ReadsPrint setting budget expression := by
  cases expressions with
  | nil => cases member
  | cons first rest =>
      rcases List.mem_cons.mp member with rfl | later
      · exact Expr.reads_print _ fits enough
      · exact Expr.list_reads_print rest later fits enough
termination_by sizeOf expressions

end

end Avenger
