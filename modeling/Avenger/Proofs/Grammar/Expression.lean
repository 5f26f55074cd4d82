import Mathlib.Data.Nat.Init
import Avenger.Proofs.Grammar.Taken
import Avenger.Proofs.Printing.Level

/-!
# What readers of expressions take

The reader of a level takes an expression of this level: one lemma for primaries, one for
each loop that joins operands, and an induction on how far the readers go inward.
-/

namespace Avenger

theorem Arithmetic.eq_symbol {text : String} {operator : Arithmetic}
    (found : Arithmetic.ofSymbol? text = some operator) : text = operator.symbol := by
  have same := List.find?_some found
  exact (eq_of_beq same).symm

theorem Comparison.eq_symbol {text : String} {operator : Comparison}
    (found : Comparison.ofSymbol? text = some operator) : text = operator.symbol := by
  have same := List.find?_some found
  exact (eq_of_beq same).symm

theorem Connective.eq_symbol {text : String} {operator : Connective}
    (found : Connective.ofSymbol? text = some operator) :
    text = operator.symbol ∨ text = operator.word := by
  have same := List.find?_some found
  simp only [Bool.or_eq_true, beq_iff_eq] at same
  exact same.imp Eq.symm Eq.symm

namespace Reader

open Grammar

variable {setting : Setting} {inner operand : Reader Expr} {tokens rest : List Token}

/-- The symbol of an update is that of its operator and equals signs. -/
theorem updateOperator?_eq_some {symbol : String} {operator : Arithmetic}
    (found : updateOperator? symbol = some operator) :
    ∃ signs, symbol.toList = operator.symbol.toList ++ List.replicate signs '=' := by
  have trimmed := congrArg String.toList (Arithmetic.eq_symbol found)
  rw [String.toList_ofList, List.reverse_eq_iff] at trimmed
  have signs : ∀ character ∈ symbol.toList.reverse.takeWhile (· == '='), character = '=' :=
    fun character member =>
      eq_of_beq (List.all_eq_true.mp List.all_takeWhile character member)
  have whole := List.takeWhile_append_dropWhile (p := (· == '=')) (l := symbol.toList.reverse)
  rw [trimmed] at whole
  generalize symbol.toList.reverse.takeWhile (· == '=') = equals at signs whole
  refine ⟨equals.length, ?_⟩
  calc symbol.toList = (equals ++ operator.symbol.toList.reverse).reverse := by
        rw [whole, List.reverse_reverse]
    _ = operator.symbol.toList ++ equals.reverse := by
        rw [List.reverse_append, List.reverse_reverse]
    _ = operator.symbol.toList ++ List.replicate equals.length '=' := by
        rw [List.eq_replicate_of_mem signs, List.reverse_replicate, List.length_replicate]

section Levels

variable (ends : setting.finish.kind = .endOfFile)
  (acceptsInner : Accepts setting inner (Expression 0))
include ends acceptsInner

/-- A whole expression between two tokens. -/
theorem grouped_eq_ok {closing : Token.Kind} {expectation : String} {grouped : Expr}
    (inside : closing ≠ .endOfFile)
    (read : (do
      let grouped ← inner
      let _ ← expect closing expectation
      return grouped : Reader Expr) setting tokens = .ok (grouped, rest)) :
    ∃ used last, tokens = used ++ last :: rest ∧ Expression 0 grouped used ∧
      last.kind = closing := by
  obtain ⟨value, between, readInner, readRest⟩ := bind_eq_ok read
  obtain ⟨last, after, readLast, done⟩ := bind_eq_ok readRest
  obtain ⟨rfl, rfl⟩ := pure_eq_ok done
  obtain ⟨rfl, kind⟩ := expect_eq_ok ends readLast inside
  obtain ⟨used, rfl, derived⟩ := acceptsInner.taken readInner
  exact ⟨used, last, rfl, derived, kind⟩

theorem primary_accepts (acceptsOperand : Accepts setting operand (Expression 2)) :
    Accepts setting (primary inner operand) (Expression 9) := by
  refine ⟨fun {tokens rest value} read => ?_⟩
  unfold primary at read
  rw [peek_bind] at read
  generalize same : (tokens.headD setting.finish).kind = kind at read
  cases kind
  case identifier =>
    obtain ⟨token, more, rfl, kind⟩ := eq_cons_of_kind ends same (by decide)
    obtain ⟨rfl, rfl⟩ := pure_eq_ok read
    exact ⟨[token], rfl, .name kind⟩
  case number =>
    obtain ⟨token, more, rfl, kind⟩ := eq_cons_of_kind ends same (by decide)
    dsimp only [List.headD_cons] at read
    rw [advance_bind] at read
    cases found : Number.ofText? token.text with
    | some value =>
        rw [found] at read
        obtain ⟨rfl, rfl⟩ := pure_eq_ok read
        exact ⟨[token], rfl, .number kind found⟩
    | none =>
        rw [found] at read
        cases read
  case string =>
    obtain ⟨token, more, rfl, kind⟩ := eq_cons_of_kind ends same (by decide)
    obtain ⟨rfl, rfl⟩ := pure_eq_ok read
    exact ⟨[token], rfl, .text kind⟩
  case null =>
    obtain ⟨token, more, rfl, kind⟩ := eq_cons_of_kind ends same (by decide)
    obtain ⟨rfl, rfl⟩ := pure_eq_ok read
    exact ⟨[token], rfl, .null kind⟩
  case openParen =>
    obtain ⟨opening, more, rfl, kind⟩ := eq_cons_of_kind ends same (by decide)
    obtain ⟨used, closing, split, derived, kind'⟩ :=
      grouped_eq_ok ends acceptsInner (by decide) read
    exact ⟨opening :: (used ++ [closing]), by simpa using split, .parentheses kind derived kind'⟩
  case openBrace =>
    obtain ⟨opening, more, rfl, kind⟩ := eq_cons_of_kind ends same (by decide)
    obtain ⟨used, closing, split, derived, kind'⟩ :=
      grouped_eq_ok ends acceptsInner (by decide) read
    exact ⟨opening :: (used ++ [closing]), by simpa using split, .braces kind derived kind'⟩
  case not =>
    obtain ⟨sign, more, rfl, kind⟩ := eq_cons_of_kind ends same (by decide)
    dsimp only at read
    rw [advance_bind] at read
    obtain ⟨value, between, readOperand, done⟩ := bind_eq_ok read
    obtain ⟨rfl, rfl⟩ := pure_eq_ok done
    obtain ⟨used, split, derived⟩ := acceptsOperand.taken readOperand
    exact ⟨sign :: used, congrArg (sign :: ·) split, .not kind derived⟩
  all_goals cases read

theorem unary_accepts (acceptsOperand : Accepts setting operand (Expression 2)) :
    Accepts setting (unary inner operand) (Expression 8) := by
  have acceptsPrimary := primary_accepts ends acceptsInner acceptsOperand
  refine ⟨fun {tokens rest value} read => ?_⟩
  obtain ⟨skipped, between, readSign, readRest⟩ := bind_eq_ok read
  obtain ⟨rfl, sign, rfl, kind⟩ | ⟨rfl, rfl⟩ := skip_eq_ok ends readSign (by decide)
  · rw [if_pos rfl] at readRest
    obtain ⟨value, after, readOperand, done⟩ := bind_eq_ok readRest
    obtain ⟨rfl, rfl⟩ := pure_eq_ok done
    obtain ⟨used, rfl, derived⟩ := acceptsPrimary.taken readOperand
    exact ⟨sign :: used, rfl, .minus kind derived⟩
  · rw [if_neg Bool.false_ne_true] at readRest
    exact (acceptsPrimary.taken readRest).imp fun _ derived => derived.higher

theorem arguments_eq_ok {values : List Expr}
    (read : arguments inner setting tokens = .ok (values, rest)) :
    ∃ used closing, tokens = used ++ closing :: rest ∧
      Separated (Expression 0) values used ∧ closing.kind = .closeParen := by
  unfold arguments at read
  rw [peek_bind] at read
  obtain ⟨values, between, ⟨used, rfl, derived⟩, readLast⟩ :=
    separated_or_nil ends acceptsInner read
  obtain ⟨closing, after, readClosing, done⟩ := bind_eq_ok readLast
  obtain ⟨rfl, rfl⟩ := pure_eq_ok done
  obtain ⟨rfl, kind⟩ := expect_eq_ok ends readClosing (by decide)
  exact ⟨used, closing, rfl, derived, kind⟩

end Levels

/-! ### Loops over operands -/

/-- An operator and its right operand, after a left one. -/
theorem joinedStep_eq_ok {Operator : Type} {operator? : String → Option Operator}
    {join : Operator → Expr → Expr → Expr} {left next : Expr} {level : Nat} {sign : Token}
    {more : List Token} (accepts : Accepts setting operand (Expression level))
    (read : joinedStep operator? join operand left setting (sign :: more) = .ok (next, rest)) :
    ∃ operator right used, more = used ++ rest ∧ operator? sign.text = some operator ∧
      Expression level right used ∧ next = join operator left right := by
  unfold joinedStep at read
  rw [peek_bind, advance_bind] at read
  dsimp only [List.headD_cons] at read
  cases found : operator? sign.text with
  | none =>
      rw [found] at read
      cases read
  | some operator =>
      rw [found] at read
      obtain ⟨right, between, readRight, done⟩ := bind_eq_ok read
      obtain ⟨rfl, rfl⟩ := pure_eq_ok done
      obtain ⟨used, split, derived⟩ := accepts.taken readRight
      exact ⟨operator, right, used, split, rfl, derived, rfl⟩

/-- An operator of arithmetic and its right operand, after a left one. -/
theorem arithmeticStep_extends {operators : List Arithmetic} {left next : Expr} {level : Nat}
    {sign : Token} {more : List Token}
    (accepts : Accepts setting operand (Expression (level + 1)))
    (range : 3 ≤ level ∧ level ≤ 5)
    (members : ∀ operator, operator ∈ operators ↔ operator.level = level)
    (goes : goesOn level left sign = true)
    (read : arithmeticStep operators operand left setting (sign :: more) = .ok (next, rest))
    {used : List Token} (derived : Expression level left used) :
    ∃ added, sign :: more = added ++ rest ∧ Expression level next (used ++ added) := by
  unfold arithmeticStep at read
  rw [peek_bind, advance_bind] at read
  obtain ⟨right, added, between, rfl, derivedRight, done⟩ := accepts.bind_eq_ok read
  rw [← goesOn_arithmetic operators range members] at goes
  obtain ⟨operator, found⟩ := Option.isSome_iff_exists.mp goes
  dsimp only [List.headD_cons] at done
  rw [found] at done
  obtain ⟨rfl, rfl⟩ := pure_eq_ok done
  unfold arithmeticIn? at found
  split at found
  · rename_i kind
    obtain ⟨found, member⟩ := Option.filter_eq_some_iff.mp found
    obtain rfl := (members operator).mp (List.contains_iff_mem.mp member)
    exact ⟨sign :: added, rfl, .arithmetic derived kind (Arithmetic.eq_symbol found) derivedRight⟩
  · cases found

/-- A token that the loop of a level goes on with, outside of arithmetic. -/
theorem kind_of_goesOn {level : Nat} {value : Expr} {token : Token}
    (goes : goesOn level value token = true) (low : level < 3 ∨ 5 < level) :
    token.kind.level? = some level := by
  have same : token.level? = some level := of_decide_eq_true goes
  unfold Token.level? at same
  split at same
  · obtain ⟨operator, -, same⟩ := Option.map_eq_some_iff.mp same
    have range := operator.level_range
    omega
  · exact same

section Turns

variable (ends : setting.finish.kind = .endOfFile)
  (acceptsInner : Accepts setting inner (Expression 0))
  {left next : Expr} {used : List Token}
include ends acceptsInner

theorem callStep_extends (derived : Expression 6 left used)
    (kind : (tokens.headD setting.finish).kind = .openParen)
    (read : callStep inner left setting tokens = .ok (next, rest)) :
    ∃ added, tokens = added ++ rest ∧ Expression 6 next (used ++ added) := by
  obtain ⟨opening, more, rfl, kind⟩ := eq_cons_of_kind ends kind (by decide)
  unfold callStep at read
  rw [advance_bind] at read
  obtain ⟨values, between, readArguments, done⟩ := bind_eq_ok read
  obtain ⟨rfl, rfl⟩ := pure_eq_ok done
  obtain ⟨inside, closing, split, separated, kind'⟩ :=
    arguments_eq_ok ends acceptsInner readArguments
  exact ⟨opening :: (inside ++ [closing]), by simpa using split,
    .call derived kind separated kind'⟩

theorem memberStep_extends (derived : Expression 7 left used)
    (kind : (tokens.headD setting.finish).kind = .openBracket)
    (read : memberStep inner left setting tokens = .ok (next, rest)) :
    ∃ added, tokens = added ++ rest ∧ Expression 7 next (used ++ added) := by
  obtain ⟨opening, more, rfl, kind⟩ := eq_cons_of_kind ends kind (by decide)
  unfold memberStep at read
  rw [advance_bind] at read
  obtain ⟨index, between, readIndex, readRest⟩ := bind_eq_ok read
  obtain ⟨closing, after, readClosing, done⟩ := bind_eq_ok readRest
  obtain ⟨rfl, rfl⟩ := pure_eq_ok done
  obtain ⟨rfl, kind'⟩ := expect_eq_ok ends readClosing (by decide)
  obtain ⟨inside, split, derivedIndex⟩ := acceptsInner.taken readIndex
  exact ⟨opening :: (inside ++ [closing]), by simpa using split,
    .member derived kind derivedIndex kind'⟩

/-- The loop of a level turns an expression of this level into a longer one. -/
theorem stepAt_extends {level : Nat} (first : 1 ≤ level) (last : level ≤ 7)
    (accepts : Accepts setting (atLevel inner operand (level + 1)) (Expression (level + 1)))
    (derived : Expression level left used)
    (goes : goesOn level left (tokens.headD setting.finish) = true)
    (read : stepAt inner operand level left setting tokens = .ok (next, rest)) :
    ∃ added, tokens = added ++ rest ∧ Expression level next (used ++ added) := by
  have there : (tokens.headD setting.finish).kind ≠ .endOfFile := by
    intro kind
    have same : (tokens.headD setting.finish).level? = some level := of_decide_eq_true goes
    rw [Token.level?, kind, if_neg (by decide)] at same
    cases same
  obtain ⟨sign, more, rfl⟩ := eq_cons_of_kind_ne ends there
  obtain rfl | rfl | rfl | rfl | rfl | rfl | rfl : level = 1 ∨ level = 2 ∨ level = 3 ∨
      level = 4 ∨ level = 5 ∨ level = 6 ∨ level = 7 := by
    omega
  · have kind : sign.kind = .logical :=
      Token.Kind.level?_eq_one.mp (kind_of_goesOn goes (by omega))
    obtain ⟨operator, right, added, rfl, found, derivedRight, rfl⟩ :=
      joinedStep_eq_ok accepts read
    exact ⟨sign :: added, rfl, .connective derived kind (Connective.eq_symbol found) derivedRight⟩
  · have kind : sign.kind = .comparison :=
      Token.Kind.level?_eq_two.mp (kind_of_goesOn goes (by omega))
    obtain ⟨operator, right, added, rfl, found, derivedRight, rfl⟩ :=
      joinedStep_eq_ok accepts read
    exact ⟨sign :: added, rfl, .comparison derived kind (Comparison.eq_symbol found) derivedRight⟩
  · exact arithmeticStep_extends accepts (by omega) Arithmetic.mem_sums goes read derived
  · exact arithmeticStep_extends accepts (by omega) Arithmetic.mem_products goes read derived
  · exact arithmeticStep_extends accepts (by omega) Arithmetic.mem_powers goes read derived
  · have kind := Token.Kind.level?_eq_six.mp (kind_of_goesOn goes (by omega))
    exact callStep_extends ends acceptsInner derived kind read
  · have kind := Token.Kind.level?_eq_seven.mp (kind_of_goesOn goes (by omega))
    exact memberStep_extends ends acceptsInner derived kind read

end Turns

section Levels

variable (ends : setting.finish.kind = .endOfFile)
  (acceptsInner : Accepts setting inner (Expression 0))
  (acceptsOperand : Accepts setting operand (Expression 2))
include ends acceptsInner

/-- A level takes an expression of the next level and what its loop adds. -/
theorem loop_accepts {level : Nat} (first : 1 ≤ level) (last : level ≤ 7)
    (accepts : Accepts setting (atLevel inner operand (level + 1)) (Expression (level + 1))) :
    Accepts setting (atLevel inner operand level) (Expression level) := by
  refine ⟨fun {tokens rest value} read => ?_⟩
  rw [atLevel_eq first last] at read
  obtain ⟨left, between, readLeft, loop⟩ := bind_eq_ok read
  obtain ⟨used, rfl, derived⟩ := accepts.taken readLeft
  exact foldWhile_taken (Expression level) used loop derived.higher
    fun derived goes read => stepAt_extends ends acceptsInner first last accepts derived goes read

include acceptsOperand

theorem atLevel_accepts (level : Nat) (first : 1 ≤ level) (last : level ≤ 8) :
    Accepts setting (atLevel inner operand level) (Expression level) := by
  induction last using Nat.decreasingInduction with
  | self => exact unary_accepts ends acceptsInner acceptsOperand
  | of_succ level below induction =>
      exact loop_accepts ends acceptsInner first (Nat.le_of_lt_succ below)
        (induction (Nat.le_succ_of_le first))

theorem assignmentOver_accepts : Accepts setting (assignmentOver inner operand) (Expression 0) := by
  refine ⟨fun {tokens rest value} read => ?_⟩
  obtain ⟨target, between, readTarget, readRest⟩ := bind_eq_ok read
  have accepts := atLevel_accepts ends acceptsInner acceptsOperand 1 (Nat.le_refl 1) (by decide)
  obtain ⟨used, rfl, derived⟩ := accepts.taken readTarget
  rw [peek_bind] at readRest
  generalize same : (between.headD setting.finish).kind = kind at readRest
  cases kind
  case equals =>
    obtain ⟨sign, more, rfl, kind⟩ := eq_cons_of_kind ends same (by decide)
    dsimp only at readRest
    rw [advance_bind] at readRest
    obtain ⟨value, after, readValue, done⟩ := bind_eq_ok readRest
    obtain ⟨rfl, rfl⟩ := pure_eq_ok done
    obtain ⟨added, split, derivedValue⟩ := acceptsInner.taken readValue
    exact ⟨used ++ sign :: added, by simpa using split, .assign derived kind derivedValue⟩
  case compoundAssign =>
    obtain ⟨sign, more, rfl, kind⟩ := eq_cons_of_kind ends same (by decide)
    dsimp only [List.headD_cons] at readRest
    rw [advance_bind] at readRest
    cases found : updateOperator? sign.text with
    | none =>
        rw [found] at readRest
        cases readRest
    | some operator =>
        rw [found] at readRest
        obtain ⟨value, after, readValue, done⟩ := bind_eq_ok readRest
        obtain ⟨rfl, rfl⟩ := pure_eq_ok done
        obtain ⟨added, split, derivedValue⟩ := acceptsInner.taken readValue
        obtain ⟨signs, text⟩ := updateOperator?_eq_some found
        exact ⟨used ++ sign :: added, by simpa using split,
          .update derived kind text derivedValue⟩
  all_goals
    obtain ⟨rfl, rfl⟩ := pure_eq_ok readRest
    exact ⟨used, rfl, derived.higher⟩

end Levels

/-- However far they go inward, the readers of whole expressions and of comparisons take
what they should. -/
theorem within_accepts (ends : setting.finish.kind = .endOfFile) (budget : Nat) :
    Accepts setting (expressionWithin budget) (Expression 0) ∧
      Accepts setting (comparisonWithin budget) (Expression 2) := by
  induction budget with
  | zero => exact ⟨⟨fun read => by cases read⟩, ⟨fun read => by cases read⟩⟩
  | succ budget induction =>
      obtain ⟨acceptsInner, acceptsOperand⟩ := induction
      have whole := assignmentOver_accepts ends acceptsInner acceptsOperand
      have comparison :=
        atLevel_accepts ends acceptsInner acceptsOperand 2 (by decide) (by decide)
      constructor
      · refine ⟨fun read => whole.taken ?_⟩
        rwa [expressionWithin] at read
      · refine ⟨fun read => comparison.taken ?_⟩
        rwa [comparisonWithin] at read

theorem expression_accepts (ends : setting.finish.kind = .endOfFile) :
    Accepts setting expression (Expression 0) :=
  ⟨fun read => (within_accepts ends setting.budget).1.taken read⟩

end Reader

end Avenger
