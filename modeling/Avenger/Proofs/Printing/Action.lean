import Avenger.Proofs.Printing.Statement

/-!
# Reading printed actions

What is printed of each kind of statement is read as it.  The first token of a statement says
which reader is for it.
-/

namespace Avenger

namespace Reader

variable {setting : Setting} {follow : Token → Prop} {blank : Bool}

section Simple

theorem expressionAction_reads {value : Expr} (fits : value.slots.length < setting.budget) :
    Reads setting expressionAction ((Action.expression value).slots blank) follow
      (.expression value) := by
  refine (expression_reads fits).bind (.cons fun _ holds => holds.closing (by decide)) ?_
  exact semicolon_reads.map (.pure _)

/-- What starts like an expression is read as one. -/
theorem action_expression {nested : Reader Stmt} {first : Token}
    (member : first.kind ∈ Expr.firstKinds) :
    Reader.action nested first = expressionAction := by
  unfold Reader.action
  simp only [Expr.firstKinds, List.mem_cons, List.not_mem_nil, or_false] at member
  rcases member with kind | kind | kind | kind | kind | kind <;> rw [kind]

theorem declaration_reads {constant : Bool} {name : String} {value : Option Expr}
    (complete : constant = true → value.isSome)
    (fits : (Expr.optionSlots [.plain .equals] value).length < setting.budget) :
    Reads setting (declaration constant)
      ((Action.declare name constant value).slots blank) follow
      (.declare name constant value) := by
  rw [Action.slots]
  apply Reads.advance
  refine Reads.expect rfl fun token holds => ?_
  have text : token.text = name := holds.reads
  rw [text]
  cases value with
  | none =>
      obtain rfl : constant = false := by simpa using complete
      refine Reads.peek .head ?_
      intro token holds
      have kind : token.kind = .semicolon := holds.kind
      rw [if_pos kind, if_neg (by decide)]
      exact .advance (.pure _)
  | some value =>
      rw [Expr.optionSlots, List.length_append, List.length_cons] at fits
      refine Reads.peek .head ?_
      intro token holds
      have kind : token.kind = .equals := holds.kind
      rw [if_neg (by rw [kind]; decide)]
      refine Reads.expect rfl fun _ _ => ?_
      refine (expression_reads (by omega)).bind
        (.cons fun _ holds => holds.closing (by decide)) ?_
      exact semicolon_reads.map (.pure _)

theorem team_reads {name : String} {size : Expr} {values : List Expr}
    (fits : ((Action.team name size values).slots blank).length ≤ setting.budget) :
    Reads setting team ((Action.team name size values).slots blank) follow
      (.team name size values) := by
  simp only [Action.slots, Expr.listSlots_eq, List.cons_append, List.append_assoc,
    List.length_append, List.length_cons] at fits ⊢
  apply Reads.advance
  refine Reads.expect rfl fun token holds => ?_
  have text : token.text = name := holds.reads
  rw [text]
  refine Reads.expect rfl fun _ _ => ?_
  refine (expression_reads (by omega)).bind
    (.cons fun _ holds => holds.closing (by decide)) ?_
  refine Reads.expect rfl fun _ _ => ?_
  refine Reads.expect rfl fun _ _ => ?_
  refine Reads.expect rfl fun _ _ => ?_
  refine (teamValues_read (by omega)).bind (.cons fun _ holds => holds.kind) ?_
  refine Reads.expect rfl fun _ _ => ?_
  exact semicolon_reads.map (.pure _)

theorem endGame_reads :
    Reads setting endGame (Action.endGame.slots blank) follow .endGame :=
  .advance (semicolon_reads.map (.pure _))

theorem snap_reads {value : Option Expr}
    (fits : (Expr.optionSlots [] value).length < setting.budget) :
    Reads setting snap ((Action.snap value).slots blank) follow (.snap value) := by
  rw [Action.slots]
  apply Reads.advance
  cases value with
  | none =>
      refine Reads.peek .head ?_
      intro token holds
      have kind : token.kind = .semicolon := holds.kind
      rw [if_pos kind]
      refine Reads.bind (.pure none) .head ?_
      exact semicolon_reads.map (.pure _)
  | some value =>
      refine Reads.peek (.starts (value.slots_start.append _) fun _ member => member) ?_
      intro token member
      have apart : token.kind ≠ .semicolon := by
        intro kind
        rw [kind] at member
        exact absurd member (by decide)
      rw [if_neg apart]
      have read : Reads setting (some <$> expression) value.slots (Token.Below 0)
          (some value) :=
        (expression_reads fits).map (.pure _)
      refine read.bind (.cons fun _ holds => holds.closing (by decide)) ?_
      exact semicolon_reads.map (.pure _)

/-- The step of a range, up to the parenthesis after it. -/
theorem loopStep_reads {step : Option Expr}
    (fits : (Expr.optionSlots [.plain .stepWord] step).length ≤ setting.budget) :
    Reads setting loopStep (Expr.optionSlots [.plain .stepWord] step) (·.kind = .closeParen)
      step := by
  cases step with
  | none =>
      refine .stay (.nil ?_) (.pure none)
      intro token kind
      rw [kind]
      decide
  | some step =>
      refine .skip rfl ?_
      have read := (expression_reads fits).mono fun token (kind : token.kind = .closeParen) =>
        Token.below_of_closing (by rw [kind]; decide)
      exact read.map (.pure _)

end Simple

section Nested

variable {nested : Reader Stmt} {size : Nat} (nests : ReadsNested setting blank nested size)
  (enough : size ≤ setting.budget)

include nests enough

theorem branch_reads {condition : Expr} {body : List Stmt} {alternatives : List Clause}
    {otherwise : Option (List Stmt)}
    (complete : (Action.branch condition body alternatives otherwise).Complete)
    (fits : ((Action.branch condition body alternatives otherwise).slots blank).length
      ≤ size) :
    Reads setting (branch nested)
      ((Action.branch condition body alternatives otherwise).slots blank)
      (·.kind ≠ .otherwise) (.branch condition body alternatives otherwise) := by
  obtain ⟨bodyComplete, alternativesComplete, otherwiseComplete⟩ := complete
  have count := Clause.length_le_alternativeSlots blank alternatives
  rw [Action.slots, List.append_assoc _ (Clause.alternativeSlots blank alternatives)]
    at fits ⊢
  simp only [List.length_append, List.length_cons, Expr.conditionSlots_length,
    Slot.block_length] at fits
  have fitsRest : (Clause.alternativeSlots blank alternatives ++
      Stmt.otherwiseSlots blank otherwise).length < size := by
    rw [List.length_append]
    omega
  have room : alternatives.length < setting.budget := by omega
  have rest := alternatives_read nests enough [] alternativesComplete
    otherwiseComplete fitsRest room
  have first : Reads setting (guarded nested "ifWorthy")
      (.plain .ifWorthy :: condition.conditionSlots ++ Slot.block (Stmt.listSlots blank body))
      (fun _ => True) (.mk condition body) :=
    guarded_reads nests enough bodyComplete (by omega) (by omega)
  refine first.bind (fun _ _ _ _ => trivial) ?_
  refine (Reads.loop rest).map ?_
  rw [List.append_nil, List.reverse_reverse]
  exact .pure _

theorem loopWhile_reads {condition : Expr} {body : List Stmt}
    (complete : Stmt.ListComplete body)
    (fits : ((Action.loopWhile condition body).slots blank).length ≤ size) :
    Reads setting (loopWhile nested) ((Action.loopWhile condition body).slots blank) follow
      (.loopWhile condition body) := by
  simp only [Action.slots, List.length_append, List.length_cons, Expr.conditionSlots_length,
    Slot.block_length] at fits ⊢
  exact (guarded_reads nests enough complete (by omega) (by omega)).map (.pure _)

theorem loopRange_reads {iterator : String} {start stop : Expr} {step : Option Expr}
    {body : List Stmt} (complete : Stmt.ListComplete body)
    (fits : ((Action.loopRange iterator start stop step body).slots blank).length ≤ size) :
    Reads setting (loopRange nested)
      ((Action.loopRange iterator start stop step body).slots blank) follow
      (.loopRange iterator start stop step body) := by
  simp only [Action.slots, List.cons_append, List.append_assoc, List.length_append,
    List.length_cons, Slot.block_length] at fits ⊢
  apply Reads.advance
  refine Reads.expect rfl fun _ _ => ?_
  refine Reads.expect rfl fun token holds => ?_
  have text : token.text = iterator := holds.reads
  rw [text]
  refine Reads.expect rfl fun _ _ => ?_
  refine (expression_reads (by omega)).bind
    (.cons fun _ holds => holds.closing (by decide)) ?_
  refine Reads.expect rfl fun _ _ => ?_
  refine (expression_reads (by omega)).bind ?_ ?_
  · cases step with
    | none => exact .cons fun _ holds => holds.closing (by decide)
    | some _ => exact .cons fun _ holds => holds.closing (by decide)
  refine (loopStep_reads (by omega)).bind (.cons fun _ holds => holds.kind) ?_
  refine Reads.expect rfl fun _ _ => ?_
  exact (block_reads nests enough complete (by omega)).map (.pure _)

theorem loopFor_reads {header : Stmt} {condition modification : Expr} {body : List Stmt}
    (headerComplete : header.Complete) (complete : Stmt.ListComplete body)
    (fits : ((Action.loopFor header condition modification body).slots blank).length ≤ size) :
    Reads setting (loopFor nested)
      ((Action.loopFor header condition modification body).slots blank) follow
      (.loopFor header condition modification body) := by
  simp only [Action.slots, List.cons_append, List.append_assoc, List.length_append,
    List.length_cons, Slot.block_length] at fits ⊢
  apply Reads.advance
  refine Reads.expect rfl fun _ _ => ?_
  refine (nests header headerComplete (by omega)).bind ?_ ?_
  · refine .starts (condition.slots_start.append _) fun token member kind => ?_
    rw [kind] at member
    exact absurd member (by decide)
  refine (expression_reads (by omega)).bind
    (.cons fun _ holds => holds.closing (by decide)) ?_
  have ends : Reads setting (semicolon "expected ';' after condition in 'wakandaFor'")
      [.plain .semicolon] (fun _ => True) () :=
    semicolon_reads
  refine ends.bind (fun _ _ _ _ => trivial) ?_
  refine (expression_reads (by omega)).bind
    (.cons fun _ holds => holds.closing (by decide)) ?_
  refine Reads.expect rfl fun _ _ => ?_
  exact (block_reads nests enough complete (by omega)).map (.pure _)

theorem multiverse_reads {discriminant : Expr} {cases : List Clause} {fallback : List Stmt}
    (casesComplete : Clause.ListComplete cases)
    (fallbackComplete : Stmt.ListComplete fallback)
    (fits : ((Action.multiverse discriminant cases fallback).slots blank).length ≤ size) :
    Reads setting (multiverse nested)
      ((Action.multiverse discriminant cases fallback).slots blank) follow
      (.multiverse discriminant cases fallback) := by
  have count := Clause.length_le_caseSlots blank cases
  simp only [Action.slots, Expr.conditionSlots, List.cons_append, List.append_assoc,
    List.nil_append, List.length_append, List.length_cons] at fits ⊢
  have fitsRest : (Clause.caseSlots blank cases ++
      Slot.fallback blank (Stmt.listSlots blank fallback)).length < size := by
    rw [List.length_append]
    omega
  have room : cases.length < setting.budget := by omega
  have rest := cases_read nests enough [] casesComplete fallbackComplete fitsRest
    room
  apply Reads.advance
  refine Reads.expect rfl fun _ _ => ?_
  refine (expression_reads (by omega)).bind
    (.cons fun _ holds => holds.closing (by decide)) ?_
  refine Reads.expect rfl fun _ _ => ?_
  refine Reads.expect rfl fun _ _ => ?_
  rw [← List.append_assoc]
  refine (Reads.loop rest).bind (.cons fun _ holds => holds.kind) ?_
  refine Reads.expect rfl fun _ _ => ?_
  rw [List.append_nil, List.reverse_reverse]
  exact .pure _

theorem assemble_reads {name : String} {parameters : List String} {body : List Stmt}
    (complete : Stmt.ListComplete body)
    (fits : ((Action.assemble name parameters body).slots blank).length ≤ size) :
    Reads setting (assemble nested) ((Action.assemble name parameters body).slots blank)
      follow (.assemble name parameters body) := by
  simp only [Action.slots, List.cons_append, List.length_append, List.length_cons,
    Slot.block_length] at fits ⊢
  apply Reads.advance
  refine Reads.expect rfl fun token holds => ?_
  have text : token.text = name := holds.reads
  rw [text]
  refine Reads.expect rfl fun _ _ => ?_
  cases parameters with
  | nil =>
      refine Reads.peek .head ?_
      intro token holds
      have kind : token.kind = .closeParen := holds.kind
      rw [if_pos kind]
      refine Reads.bind (.pure []) .head ?_
      refine Reads.expect rfl fun _ _ => ?_
      exact (block_reads nests enough complete (by omega)).map (.pure _)
  | cons first rest =>
      have count := Slot.length_separated [.word first] (rest.map ([.word ·]))
      rw [List.length_map] at count
      have each : ∀ value ∈ first :: rest,
          Reads setting parameter [.word value] (fun _ => True) value := by
        intro value _
        refine Reads.expect rfl fun token holds => ?_
        rw [(holds.reads : token.text = value)]
        exact .pure _
      have names : Reads setting (separated parameter)
          (Slot.separated ((first :: rest).map ([.word ·]))) (·.kind = .closeParen)
          (first :: rest) := by
        refine Reads.separated each (fun _ _ => trivial) ?_ ?_
        · simp only [List.map_cons] at fits
          omega
        · intro token kind
          rw [kind]
          decide
      have starts : Slot.StartsIn [.identifier]
          (Slot.separated ((first :: rest).map ([.word ·]))) := by
        rw [List.map_cons, Slot.separated_cons]
        exact ⟨_, _, rfl, .head _⟩
      refine Reads.peek (.starts (starts.append _) fun _ member => member) ?_
      intro token member
      have kind : token.kind = .identifier := by simpa using member
      rw [if_neg (by rw [kind]; decide)]
      refine names.bind (.cons fun _ holds => holds.kind) ?_
      refine Reads.expect rfl fun _ _ => ?_
      exact (block_reads nests enough complete (by omega)).map (.pure _)

/-- What is printed of a statement without its line is read by the reader that its first token
asks for. -/
theorem action_reads {action : Action} {first : Token} (complete : action.Complete)
    (fits : (action.slots blank).length ≤ size)
    (same : (action.slots blank).head?.map Slot.kind = some first.kind) :
    Reads setting (Reader.action nested first) (action.slots blank) (·.kind ≠ .otherwise)
      action := by
  cases action with
  | expression value =>
      simp only [Action.slots, List.length_append, List.length_cons] at fits
      have member : first.kind ∈ Expr.firstKinds := by
        obtain ⟨slot, rest, start, member⟩ := value.slots_start.append [.plain .semicolon]
        rw [Action.slots, start] at same
        rw [← (Option.some.inj same : slot.kind = first.kind)]
        exact member
      rw [action_expression member]
      exact expressionAction_reads (by omega)
  | declare name constant value =>
      simp only [Action.slots, List.length_append, List.length_cons] at fits
      have read : Reads setting (declaration constant)
          ((Action.declare name constant value).slots blank) (·.kind ≠ .otherwise)
          (.declare name constant value) :=
        declaration_reads complete (by omega)
      cases constant with
      | true =>
          have kind : Token.Kind.newEternal = first.kind := Option.some.inj same
          rw [Reader.action, ← kind]
          exact read
      | false =>
          have kind : Token.Kind.newAvenger = first.kind := Option.some.inj same
          rw [Reader.action, ← kind]
          exact read
  | team name length values =>
      have kind : Token.Kind.team = first.kind := Option.some.inj same
      rw [Reader.action, ← kind]
      exact team_reads (Nat.le_trans fits enough)
  | branch condition body alternatives otherwise =>
      have kind : Token.Kind.ifWorthy = first.kind := Option.some.inj same
      rw [Reader.action, ← kind]
      exact branch_reads nests enough complete fits
  | loopWhile condition body =>
      have kind : Token.Kind.fightUntil = first.kind := Option.some.inj same
      rw [Reader.action, ← kind]
      exact loopWhile_reads nests enough complete fits
  | loopRange iterator start stop step body =>
      have kind : Token.Kind.wakandaForEach = first.kind := Option.some.inj same
      rw [Reader.action, ← kind]
      exact loopRange_reads nests enough complete fits
  | loopFor header condition modification body =>
      have kind : Token.Kind.wakandaFor = first.kind := Option.some.inj same
      rw [Reader.action, ← kind]
      exact loopFor_reads nests enough complete.1 complete.2 fits
  | multiverse discriminant cases fallback =>
      have kind : Token.Kind.multiverse = first.kind := Option.some.inj same
      rw [Reader.action, ← kind]
      exact multiverse_reads nests enough complete.1 complete.2 fits
  | assemble name parameters body =>
      have kind : Token.Kind.assemble = first.kind := Option.some.inj same
      rw [Reader.action, ← kind]
      exact assemble_reads nests enough complete fits
  | snap value =>
      have kind : Token.Kind.snap = first.kind := Option.some.inj same
      rw [Reader.action, ← kind]
      simp only [Action.slots, List.cons_append, List.length_append, List.length_cons] at fits
      exact snap_reads (by omega)
  | endGame =>
      have kind : Token.Kind.endGame = first.kind := Option.some.inj same
      rw [Reader.action, ← kind]
      exact endGame_reads

end Nested

end Reader

end Avenger
