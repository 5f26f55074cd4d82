import Avenger.Proofs.Grammar.Expression

/-!
# What readers of statements take

One lemma for each reader of a kind of statement, for any reader of the statements inside.
-/

namespace Avenger.Reader

open Grammar

variable {setting : Setting} {tokens rest : List Token}

section Forms

variable {statement : Stmt → List Token → Prop} {nested : Reader Stmt}
  (ends : setting.finish.kind = .endOfFile)

section Simple

include ends

theorem semicolon_bind_eq_ok {expectation : String} {β : Type} {second : Unit → Reader β}
    {result : β} (read : (semicolon expectation >>= second) setting tokens = .ok (result, rest)) :
    ∃ token more, tokens = token :: more ∧ token.kind = .semicolon ∧
      second () setting more = .ok (result, rest) := by
  obtain ⟨_, between, readSemicolon, readRest⟩ := bind_eq_ok read
  obtain ⟨token, more, rfl, kind, done⟩ := expect_bind_eq_ok ends readSemicolon (by decide)
  obtain ⟨-, rfl⟩ := pure_eq_ok done
  exact ⟨token, _, rfl, kind, readRest⟩

theorem declaration_taken (constant : Bool) {action : Action}
    (kind : (tokens.headD setting.finish).kind = if constant then .newEternal else .newAvenger)
    (read : declaration constant setting tokens = .ok (action, rest)) :
    Taken (Form statement) tokens action rest := by
  obtain ⟨first, more, rfl, firstKind⟩ := eq_cons_of_kind ends kind (by cases constant <;> decide)
  unfold declaration at read
  rw [advance_bind] at read
  obtain ⟨name, between, rfl, nameKind, readRest⟩ := expect_bind_eq_ok ends read (by decide)
  rw [peek_bind] at readRest
  split at readRest
  · rename_i same
    obtain ⟨token, more, rfl, tokenKind⟩ := eq_cons_of_kind ends same (by decide)
    split at readRest
    · cases readRest
    · rename_i notConstant
      obtain ⟨rfl, rfl⟩ := pure_eq_ok readRest
      rw [if_neg notConstant] at firstKind
      exact ⟨[first, name, token], rfl, .variable firstKind nameKind tokenKind⟩
  · obtain ⟨sign, after, rfl, signKind, readValue⟩ := expect_bind_eq_ok ends readRest (by decide)
    obtain ⟨value, used, after, rfl, derived, readLast⟩ :=
      (expression_accepts ends).bind_eq_ok readValue
    obtain ⟨token, after, rfl, tokenKind, done⟩ := semicolon_bind_eq_ok ends readLast
    obtain ⟨rfl, rfl⟩ := pure_eq_ok done
    exact ⟨first :: name :: sign :: (used ++ [token]), by simp,
      .initialized firstKind nameKind signKind derived tokenKind⟩

theorem teamValues_accepts : Accepts setting teamValues (Sequence (BeforeComma (Expression 0))) := by
  refine itemsUntil_accepts ⟨fun {tokens rest value} read => ?_⟩
  obtain ⟨value, used, more, rfl, derived, readRest⟩ := (expression_accepts ends).bind_eq_ok read
  obtain ⟨skipped, after, readComma, done⟩ := bind_eq_ok readRest
  obtain ⟨rfl, rfl⟩ := pure_eq_ok done
  obtain ⟨-, comma, rfl, kind⟩ | ⟨-, rfl⟩ := skip_eq_ok ends readComma (by decide)
  · exact ⟨used ++ [comma], by simp, .with derived kind⟩
  · exact ⟨used, rfl, .without derived⟩

theorem team_taken {action : Action} (kind : (tokens.headD setting.finish).kind = .team)
    (read : team setting tokens = .ok (action, rest)) :
    Taken (Form statement) tokens action rest := by
  obtain ⟨first, more, rfl, firstKind⟩ := eq_cons_of_kind ends kind (by decide)
  unfold team at read
  rw [advance_bind] at read
  obtain ⟨name, left, rfl, nameKind, read⟩ := expect_bind_eq_ok ends read (by decide)
  obtain ⟨opening, left, rfl, openingKind, read⟩ := expect_bind_eq_ok ends read (by decide)
  obtain ⟨size, used, left, rfl, derived, read⟩ := (expression_accepts ends).bind_eq_ok read
  obtain ⟨closing, left, rfl, closingKind, read⟩ := expect_bind_eq_ok ends read (by decide)
  obtain ⟨sign, left, rfl, signKind, read⟩ := expect_bind_eq_ok ends read (by decide)
  obtain ⟨openBrace, left, rfl, openKind, read⟩ := expect_bind_eq_ok ends read (by decide)
  obtain ⟨values, more, left, rfl, sequence, read⟩ := (teamValues_accepts ends).bind_eq_ok read
  obtain ⟨closeBrace, left, rfl, closeKind, read⟩ := expect_bind_eq_ok ends read (by decide)
  obtain ⟨semicolon, left, rfl, semicolonKind, read⟩ := semicolon_bind_eq_ok ends read
  obtain ⟨rfl, rfl⟩ := pure_eq_ok read
  exact ⟨first :: name :: opening ::
      (used ++ closing :: sign :: openBrace :: (more ++ [closeBrace, semicolon])),
    by simp,
    .team firstKind nameKind openingKind derived closingKind signKind openKind sequence closeKind
      semicolonKind⟩

theorem snap_taken {action : Action} (kind : (tokens.headD setting.finish).kind = .snap)
    (read : snap setting tokens = .ok (action, rest)) :
    Taken (Form statement) tokens action rest := by
  obtain ⟨first, more, rfl, firstKind⟩ := eq_cons_of_kind ends kind (by decide)
  unfold snap at read
  rw [advance_bind, peek_bind] at read
  split at read
  · obtain ⟨semicolon, left, rfl, semicolonKind, read⟩ := semicolon_bind_eq_ok ends read
    obtain ⟨rfl, rfl⟩ := pure_eq_ok read
    exact ⟨[first, semicolon], rfl, .snap firstKind semicolonKind⟩
  · obtain ⟨_, _, readValue, readLast⟩ := bind_eq_ok read
    change (expression >>= fun value => pure (some value)) setting _ = _ at readValue
    obtain ⟨value, used, left, rfl, derived, done⟩ :=
      (expression_accepts ends).bind_eq_ok readValue
    obtain ⟨rfl, rfl⟩ := pure_eq_ok done
    obtain ⟨semicolon, left, rfl, semicolonKind, done⟩ := semicolon_bind_eq_ok ends readLast
    obtain ⟨rfl, rfl⟩ := pure_eq_ok done
    exact ⟨first :: (used ++ [semicolon]), by simp, .snapValue firstKind derived semicolonKind⟩

theorem endGame_taken {action : Action} (kind : (tokens.headD setting.finish).kind = .endGame)
    (read : endGame setting tokens = .ok (action, rest)) :
    Taken (Form statement) tokens action rest := by
  obtain ⟨first, more, rfl, firstKind⟩ := eq_cons_of_kind ends kind (by decide)
  unfold endGame at read
  rw [advance_bind] at read
  obtain ⟨semicolon, left, rfl, semicolonKind, read⟩ := semicolon_bind_eq_ok ends read
  obtain ⟨rfl, rfl⟩ := pure_eq_ok read
  exact ⟨[first, semicolon], rfl, .endGame firstKind semicolonKind⟩

theorem expressionAction_accepts : Accepts setting expressionAction (Form statement) := by
  refine ⟨fun {tokens rest action} read => ?_⟩
  obtain ⟨value, used, left, rfl, derived, read⟩ := (expression_accepts ends).bind_eq_ok read
  obtain ⟨semicolon, left, rfl, semicolonKind, read⟩ := semicolon_bind_eq_ok ends read
  obtain ⟨rfl, rfl⟩ := pure_eq_ok read
  exact ⟨used ++ [semicolon], by simp, .expression derived semicolonKind⟩

end Simple

/-- The tokens of the clauses, held in reverse, and of the last body of an `ifWorthy`. -/
def AlternativesRead (statement : Stmt → List Token → Prop)
    (read : List Clause × Option (List Stmt)) (used : List Token) : Prop :=
  ∃ more last, used = more ++ last ∧ Sequence (Alternative statement) read.1.reverse more ∧
    Otherwise statement read.2 last

/-- The tokens of the sections of a multiverse that gave the cases, held in reverse, and the
default. -/
def SectionsRead (statement : Stmt → List Token → Prop) (read : List Clause × List Stmt)
    (used : List Token) : Prop :=
  ∃ sections, Sequence (Section statement) sections used ∧
    read.1.reverse = sections.filterMap Sum.getLeft? ∧
      read.2 = (sections.filterMap Sum.getRight?).getLastD []

section Nested

variable (accepts : Accepts setting nested statement)
include ends

theorem condition_eq_ok {construct : String} {test : Expr}
    (read : condition construct setting tokens = .ok (test, rest))
    (there : (tokens.headD setting.finish).kind ≠ .endOfFile) :
    ∃ first opening inside closing,
      tokens = first :: opening :: (inside ++ closing :: rest) ∧
        first = tokens.headD setting.finish ∧ opening.kind = .openParen ∧
        Expression 0 test inside ∧ closing.kind = .closeParen := by
  obtain ⟨first, more, rfl⟩ := eq_cons_of_kind_ne ends there
  unfold condition at read
  rw [advance_bind] at read
  obtain ⟨opening, left, rfl, openingKind, read⟩ := expect_bind_eq_ok ends read (by decide)
  obtain ⟨test, inside, left, rfl, derived, read⟩ := (expression_accepts ends).bind_eq_ok read
  obtain ⟨closing, left, rfl, closingKind, read⟩ := expect_bind_eq_ok ends read (by decide)
  obtain ⟨rfl, rfl⟩ := pure_eq_ok read
  exact ⟨first, opening, inside, closing, rfl, rfl, openingKind, derived, closingKind⟩

include accepts

theorem block_accepts (construct : String) :
    Accepts setting (block nested construct) (Block statement) := by
  refine ⟨fun {tokens rest body} read => ?_⟩
  obtain ⟨opening, left, rfl, openingKind, read⟩ := expect_bind_eq_ok ends read (by decide)
  obtain ⟨body, inside, left, rfl, sequence, read⟩ := (itemsUntil_accepts accepts).bind_eq_ok read
  obtain ⟨closing, left, rfl, closingKind, read⟩ := expect_bind_eq_ok ends read (by decide)
  obtain ⟨rfl, rfl⟩ := pure_eq_ok read
  exact ⟨opening :: (inside ++ [closing]), by simp, .mk openingKind sequence closingKind⟩

theorem guarded_taken {construct : String} {word : Token.Kind} {clause : Clause}
    (kind : (tokens.headD setting.finish).kind = word) (inside : word ≠ .endOfFile)
    (read : guarded nested construct setting tokens = .ok (clause, rest)) :
    Taken (Guarded statement word) tokens clause rest := by
  obtain ⟨test, left, readTest, read⟩ := bind_eq_ok read
  obtain ⟨body, block, left, rfl, derivedBody, read⟩ :=
    (block_accepts ends accepts construct).bind_eq_ok read
  obtain ⟨rfl, rfl⟩ := pure_eq_ok read
  obtain ⟨first, opening, inside, closing, split, rfl, openingKind, derived, closingKind⟩ :=
    condition_eq_ok ends readTest (kind ▸ inside)
  exact ⟨_ :: opening :: (inside ++ closing :: block), by simpa using split,
    .mk kind openingKind derived closingKind derivedBody⟩

theorem loopWhile_taken {action : Action}
    (kind : (tokens.headD setting.finish).kind = .fightUntil)
    (read : loopWhile nested setting tokens = .ok (action, rest)) :
    Taken (Form statement) tokens action rest := by
  obtain ⟨⟨test, body⟩, left, readClause, read⟩ := bind_eq_ok read
  obtain ⟨rfl, rfl⟩ := pure_eq_ok read
  obtain ⟨used, split, guarded⟩ := guarded_taken ends accepts kind (by decide) readClause
  exact ⟨used, split, .loopWhile guarded⟩

/-- A turn of an `ifWorthy` that goes on. -/
theorem alternative_extends {read next : List Clause × Option (List Stmt)} {used : List Token}
    (before : AlternativesRead statement read used)
    (goes : (read.2.isNone && (tokens.headD setting.finish).kind = .otherwise) = true)
    (ran : alternative nested read setting tokens = .ok (next, rest)) :
    ∃ added, tokens = added ++ rest ∧ AlternativesRead statement next (used ++ added) := by
  obtain ⟨clauses, otherwise⟩ := read
  obtain ⟨more, last, rfl, sequence, final⟩ := before
  simp only [Bool.and_eq_true, Option.isNone_iff_eq_none, decide_eq_true_eq] at goes
  obtain ⟨rfl, kind⟩ := goes
  cases final
  rw [List.append_nil]
  obtain ⟨first, left, rfl, firstKind⟩ := eq_cons_of_kind ends kind (by decide)
  unfold alternative at ran
  rw [advance_bind, peek_bind] at ran
  split at ran
  · rename_i same
    obtain ⟨clause, left, readClause, done⟩ := bind_eq_ok ran
    obtain ⟨rfl, rfl⟩ := pure_eq_ok done
    obtain ⟨added, split, guarded⟩ := guarded_taken ends accepts same (by decide) readClause
    refine ⟨first :: added, congrArg (first :: ·) split, _, [], (List.append_nil _).symm, ?_, .none⟩
    rw [List.reverse_cons]
    exact sequence.concat (.mk firstKind guarded)
  · obtain ⟨body, left, readBody, done⟩ := bind_eq_ok ran
    obtain ⟨rfl, rfl⟩ := pure_eq_ok done
    obtain ⟨added, split, block⟩ := (block_accepts ends accepts _).taken readBody
    exact ⟨first :: added, congrArg (first :: ·) split, more, first :: added, rfl, sequence,
      .some firstKind block⟩

theorem branch_taken {action : Action} (kind : (tokens.headD setting.finish).kind = .ifWorthy)
    (read : branch nested setting tokens = .ok (action, rest)) :
    Taken (Form statement) tokens action rest := by
  obtain ⟨⟨condition, body⟩, left, readFirst, read⟩ := bind_eq_ok read
  obtain ⟨⟨clauses, otherwise⟩, after, loop, read⟩ := bind_eq_ok read
  obtain ⟨rfl, rfl⟩ := pure_eq_ok read
  obtain ⟨used, rfl, guarded⟩ := guarded_taken ends accepts kind (by decide) readFirst
  have taken := foldWhile_taken (AlternativesRead statement) [] loop
    ⟨[], [], rfl, .none, .none⟩ fun before goes ran =>
      alternative_extends ends accepts before goes ran
  obtain ⟨_, split, more, last, rfl, sequence, final⟩ := taken
  rw [List.nil_append] at split
  exact ⟨used ++ (more ++ last), by simp [split], .branch guarded sequence final⟩

/-- A turn of a multiverse reads one more section. -/
theorem caseOf_extends {read next : List Clause × List Stmt} {used : List Token}
    (before : SectionsRead statement read used)
    (ran : caseOf nested read setting tokens = .ok (next, rest)) :
    ∃ added, tokens = added ++ rest ∧ SectionsRead statement next (used ++ added) := by
  obtain ⟨sections, sequence, cases, fallback⟩ := before
  unfold caseOf at ran
  rw [peek_bind] at ran
  generalize same : (tokens.headD setting.finish).kind = kind at ran
  cases kind
  case madness =>
    obtain ⟨first, left, rfl, firstKind⟩ := eq_cons_of_kind ends same (by decide)
    dsimp only at ran
    rw [advance_bind] at ran
    obtain ⟨test, inside, left, rfl, derived, ran⟩ := (expression_accepts ends).bind_eq_ok ran
    obtain ⟨colon, left, rfl, colonKind, ran⟩ := expect_bind_eq_ok ends ran (by decide)
    obtain ⟨body, more, left, rfl, statements, ran⟩ :=
      (itemsUntil_accepts accepts).bind_eq_ok ran
    obtain ⟨rfl, rfl⟩ := pure_eq_ok ran
    refine ⟨first :: (inside ++ colon :: more), by simp, sections ++ [.inl (.mk test body)],
      sequence.concat (.case firstKind derived colonKind statements), ?_, ?_⟩
    · simp [cases]
    · simpa using fallback
  case default =>
    obtain ⟨first, left, rfl, firstKind⟩ := eq_cons_of_kind ends same (by decide)
    dsimp only at ran
    rw [advance_bind] at ran
    obtain ⟨colon, left, rfl, colonKind, ran⟩ := expect_bind_eq_ok ends ran (by decide)
    obtain ⟨body, more, left, rfl, statements, ran⟩ :=
      (itemsUntil_accepts accepts).bind_eq_ok ran
    obtain ⟨rfl, rfl⟩ := pure_eq_ok ran
    refine ⟨first :: colon :: more, by simp, sections ++ [.inr body],
      sequence.concat (.default firstKind colonKind statements), ?_, ?_⟩
    · simp [cases, List.filterMap_append, Sum.getLeft?]
    · simp [List.filterMap_append, Sum.getRight?]
  all_goals cases ran

theorem multiverse_taken {action : Action}
    (kind : (tokens.headD setting.finish).kind = .multiverse)
    (read : multiverse nested setting tokens = .ok (action, rest)) :
    Taken (Form statement) tokens action rest := by
  obtain ⟨first, left, rfl, firstKind⟩ := eq_cons_of_kind ends kind (by decide)
  unfold multiverse at read
  rw [advance_bind] at read
  obtain ⟨opening, left, rfl, openingKind, read⟩ := expect_bind_eq_ok ends read (by decide)
  obtain ⟨discriminant, used, left, rfl, derived, read⟩ :=
    (expression_accepts ends).bind_eq_ok read
  obtain ⟨closing, left, rfl, closingKind, read⟩ := expect_bind_eq_ok ends read (by decide)
  obtain ⟨openBrace, left, rfl, openKind, read⟩ := expect_bind_eq_ok ends read (by decide)
  obtain ⟨⟨cases, fallback⟩, after, loop, read⟩ := bind_eq_ok read
  obtain ⟨closeBrace, after, rfl, closeKind, read⟩ := expect_bind_eq_ok ends read (by decide)
  obtain ⟨rfl, rfl⟩ := pure_eq_ok read
  have taken := foldWhile_taken (SectionsRead statement) [] loop ⟨[], .none, rfl, rfl⟩
    fun before _ ran => caseOf_extends ends accepts before ran
  obtain ⟨more, split, sections, sequence, casesSplit, fallbackSplit⟩ := taken
  rw [List.nil_append] at split
  dsimp only at casesSplit fallbackSplit
  rw [casesSplit, fallbackSplit]
  exact ⟨first :: opening :: (used ++ closing :: openBrace :: (more ++ [closeBrace])),
    by simp [split],
    .multiverse firstKind openingKind derived closingKind openKind sequence closeKind⟩

omit accepts in
theorem loopStep_accepts : Accepts setting loopStep (Optional .stepWord) := by
  refine ⟨fun {tokens rest step} read => ?_⟩
  obtain ⟨skipped, left, readWord, readStep⟩ := bind_eq_ok read
  obtain ⟨rfl, word, rfl, kind⟩ | ⟨rfl, rfl⟩ := skip_eq_ok ends readWord (by decide)
  · rw [if_pos rfl] at readStep
    obtain ⟨value, used, left, rfl, derived, done⟩ := (expression_accepts ends).bind_eq_ok readStep
    obtain ⟨rfl, rfl⟩ := pure_eq_ok done
    exact ⟨word :: used, rfl, .some kind derived⟩
  · obtain ⟨rfl, rfl⟩ := pure_eq_ok readStep
    exact ⟨[], rfl, .none⟩

theorem loopRange_taken {action : Action}
    (kind : (tokens.headD setting.finish).kind = .wakandaForEach)
    (read : loopRange nested setting tokens = .ok (action, rest)) :
    Taken (Form statement) tokens action rest := by
  obtain ⟨first, left, rfl, firstKind⟩ := eq_cons_of_kind ends kind (by decide)
  unfold loopRange at read
  rw [advance_bind] at read
  obtain ⟨opening, left, rfl, openingKind, read⟩ := expect_bind_eq_ok ends read (by decide)
  obtain ⟨iterator, left, rfl, iteratorKind, read⟩ := expect_bind_eq_ok ends read (by decide)
  obtain ⟨inWord, left, rfl, inKind, read⟩ := expect_bind_eq_ok ends read (by decide)
  obtain ⟨start, used, left, rfl, derivedStart, read⟩ := (expression_accepts ends).bind_eq_ok read
  obtain ⟨toWord, left, rfl, toKind, read⟩ := expect_bind_eq_ok ends read (by decide)
  obtain ⟨stop, more, left, rfl, derivedStop, read⟩ := (expression_accepts ends).bind_eq_ok read
  obtain ⟨step, last, left, rfl, derivedStep, read⟩ := (loopStep_accepts ends).bind_eq_ok read
  obtain ⟨closing, left, rfl, closingKind, read⟩ := expect_bind_eq_ok ends read (by decide)
  obtain ⟨body, block, left, rfl, derivedBody, read⟩ :=
    (block_accepts ends accepts _).bind_eq_ok read
  obtain ⟨rfl, rfl⟩ := pure_eq_ok read
  exact ⟨first :: opening :: iterator :: inWord ::
      (used ++ toWord :: (more ++ (last ++ closing :: block))),
    by simp,
    .loopRange firstKind openingKind iteratorKind inKind derivedStart toKind derivedStop
      derivedStep closingKind derivedBody⟩

theorem loopFor_taken {action : Action}
    (kind : (tokens.headD setting.finish).kind = .wakandaFor)
    (read : loopFor nested setting tokens = .ok (action, rest)) :
    Taken (Form statement) tokens action rest := by
  obtain ⟨first, left, rfl, firstKind⟩ := eq_cons_of_kind ends kind (by decide)
  unfold loopFor at read
  rw [advance_bind] at read
  obtain ⟨opening, left, rfl, openingKind, read⟩ := expect_bind_eq_ok ends read (by decide)
  obtain ⟨header, used, left, rfl, derivedHeader, read⟩ := accepts.bind_eq_ok read
  obtain ⟨condition, more, left, rfl, derived, read⟩ := (expression_accepts ends).bind_eq_ok read
  obtain ⟨semicolon, left, rfl, semicolonKind, read⟩ := semicolon_bind_eq_ok ends read
  obtain ⟨modification, last, left, rfl, derivedLast, read⟩ :=
    (expression_accepts ends).bind_eq_ok read
  obtain ⟨closing, left, rfl, closingKind, read⟩ := expect_bind_eq_ok ends read (by decide)
  obtain ⟨body, block, left, rfl, derivedBody, read⟩ :=
    (block_accepts ends accepts _).bind_eq_ok read
  obtain ⟨rfl, rfl⟩ := pure_eq_ok read
  exact ⟨first :: opening :: (used ++ (more ++ semicolon :: (last ++ closing :: block))),
    by simp,
    .loopFor firstKind openingKind derivedHeader derived semicolonKind derivedLast closingKind
      derivedBody⟩

omit accepts in
theorem parameter_accepts : Accepts setting parameter Parameter := by
  refine ⟨fun {tokens rest name} read => ?_⟩
  obtain ⟨token, left, rfl, kind, read⟩ := expect_bind_eq_ok ends read (by decide)
  obtain ⟨rfl, rfl⟩ := pure_eq_ok read
  exact ⟨[token], rfl, .mk kind⟩

theorem assemble_taken {action : Action} (kind : (tokens.headD setting.finish).kind = .assemble)
    (read : assemble nested setting tokens = .ok (action, rest)) :
    Taken (Form statement) tokens action rest := by
  obtain ⟨first, left, rfl, firstKind⟩ := eq_cons_of_kind ends kind (by decide)
  unfold assemble at read
  rw [advance_bind] at read
  obtain ⟨name, left, rfl, nameKind, read⟩ := expect_bind_eq_ok ends read (by decide)
  obtain ⟨opening, left, rfl, openingKind, read⟩ := expect_bind_eq_ok ends read (by decide)
  rw [peek_bind] at read
  obtain ⟨parameters, left, ⟨used, rfl, separated⟩, readLast⟩ :=
    separated_or_nil ends (parameter_accepts ends) read
  obtain ⟨closing, left, rfl, closingKind, readBody⟩ :=
    expect_bind_eq_ok ends readLast (by decide)
  obtain ⟨body, block, left, rfl, derivedBody, done⟩ :=
    (block_accepts ends accepts _).bind_eq_ok readBody
  obtain ⟨rfl, rfl⟩ := pure_eq_ok done
  exact ⟨first :: name :: opening :: (used ++ closing :: block), by simp,
    .assemble firstKind nameKind openingKind separated closingKind derivedBody⟩

/-- The reader that the first token asks for takes a statement. -/
theorem action_taken {action : Action}
    (read : Reader.action nested (tokens.headD setting.finish) setting tokens = .ok (action, rest)) :
    Taken (Form statement) tokens action rest := by
  unfold Reader.action at read
  generalize kind : (tokens.headD setting.finish).kind = first at read
  cases first
  case newAvenger => exact declaration_taken ends false kind read
  case newEternal => exact declaration_taken ends true kind read
  case ifWorthy => exact branch_taken ends accepts kind read
  case fightUntil => exact loopWhile_taken ends accepts kind read
  case endGame => exact endGame_taken ends kind read
  case team => exact team_taken ends kind read
  case multiverse => exact multiverse_taken ends accepts kind read
  case wakandaForEach => exact loopRange_taken ends accepts kind read
  case wakandaFor => exact loopFor_taken ends accepts kind read
  case assemble => exact assemble_taken ends accepts kind read
  case snap => exact snap_taken ends kind read
  case reserved => cases read
  all_goals exact (expressionAction_accepts ends).taken read

end Nested

end Forms

end Avenger.Reader
