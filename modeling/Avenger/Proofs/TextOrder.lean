import Avenger.Value.Operator
import Avenger.Proofs.Encoding

/-!
# The order of texts

The six comparisons of texts are those of one strict total order.  The first characters that differ
decide it by their code points, and a text comes before all texts that it is the beginning of.  The
bytes of texts are in the same order.
-/

namespace Avenger.Comparison

/-- That a comparison of two texts is true. -/
def Holds (comparison : Comparison) (left right : String) : Prop :=
  Value.compare comparison (.text left) (.text right) = .boolean true

/-- That a comparison of two texts is false. -/
def Fails (comparison : Comparison) (left right : String) : Prop :=
  Value.compare comparison (.text left) (.text right) = .boolean false

variable {left right : String}

theorem holds_iff (comparison : Comparison) :
    comparison.Holds left right ↔ comparison.onTexts left right = true := by
  simp [Holds, Value.compare]

theorem fails_iff (comparison : Comparison) :
    comparison.Fails left right ↔ ¬ comparison.Holds left right := by
  simp [Fails, Holds, Value.compare]

@[simp] theorem holds_equal : equal.Holds left right ↔ left = right := by
  simp [holds_iff, onTexts]

@[simp] theorem holds_unequal : unequal.Holds left right ↔ left ≠ right := by
  simp [holds_iff, onTexts]

@[simp] theorem holds_less : less.Holds left right ↔ left < right := by
  simp [holds_iff, onTexts]

@[simp] theorem holds_greater : greater.Holds left right ↔ right < left := by
  simp [holds_iff, onTexts]

@[simp] theorem holds_lessOrEqual : lessOrEqual.Holds left right ↔ ¬ right < left := by
  simp only [holds_iff, onTexts, Bool.not_eq_true', decide_eq_false_iff_not]

@[simp] theorem holds_greaterOrEqual : greaterOrEqual.Holds left right ↔ ¬ left < right := by
  simp only [holds_iff, onTexts, Bool.not_eq_true', decide_eq_false_iff_not]

/-- How one text comes before another: it is a proper beginning of the other, or the first
characters that differ are in the order of their code points. -/
inductive Precedes : List Char → List Char → Prop
  | extended (shared : List Char) (next : Char) (rest : List Char) :
      Precedes shared (shared ++ next :: rest)
  | decided (shared : List Char) {character character' : Char}
      (order : character.toNat < character'.toNat) (rest rest' : List Char) :
      Precedes (shared ++ character :: rest) (shared ++ character' :: rest')

theorem Precedes.cons {first second : List Char} (precedes : Precedes first second)
    (character : Char) : Precedes (character :: first) (character :: second) := by
  cases precedes with
  | extended _ next rest => exact .extended (character :: first) next rest
  | decided shared order rest rest' => exact .decided (character :: shared) order rest rest'

theorem precedes_of_lt {first second : List Char} (less : first < second) :
    Precedes first second := by
  induction less with
  | @nil next rest => exact .extended [] next rest
  | @rel character rest character' rest' order => exact .decided [] order rest rest'
  | cons _ induction => exact induction.cons _

theorem Precedes.lt {first second : List Char} (precedes : Precedes first second) :
    first < second := by
  cases precedes with
  | extended _ next rest =>
      have behind : first ++ [] < first ++ next :: rest :=
        List.append_left_lt (List.nil_lt_cons next rest)
      rwa [List.append_nil] at behind
  | @decided shared character character' order rest rest' =>
      apply List.append_left_lt
      exact List.cons_lt_cons_iff.mpr (.inl order)

theorem less_iff_precedes : less.Holds left right ↔ Precedes left.toList right.toList := by
  rw [holds_less, String.lt_iff_toList_lt]
  exact ⟨precedes_of_lt, Precedes.lt⟩

theorem less_iff_bytes :
    less.Holds left right ↔ Text.bytes left.toList < Text.bytes right.toList := by
  rw [holds_less, String.lt_iff_toList_lt, Text.bytes_lt_iff]

/-- The laws of the six comparisons between texts. -/
structure TextLaws (first second third : String) : Prop where
  /-- Every comparison is true or false. -/
  decided : ∀ comparison : Comparison,
    comparison.Holds first second ∨ comparison.Fails first second
  exactlyOne :
    less.Holds first second ∧ equal.Fails first second ∧ greater.Fails first second ∨
      less.Fails first second ∧ equal.Holds first second ∧ greater.Fails first second ∨
      less.Fails first second ∧ equal.Fails first second ∧ greater.Holds first second
  equal_iff : equal.Holds first second ↔ first = second
  unequal_iff : unequal.Holds first second ↔ equal.Fails first second
  lessOrEqual_iff :
    lessOrEqual.Holds first second ↔ less.Holds first second ∨ equal.Holds first second
  greaterOrEqual_iff : greaterOrEqual.Holds first second ↔ lessOrEqual.Holds second first
  greater_iff : greater.Holds first second ↔ less.Holds second first
  transitive : less.Holds first second → less.Holds second third → less.Holds first third
  /-- A text comes before every proper extension of it, and otherwise the first characters that
  differ decide. -/
  less_iff : less.Holds first second ↔ Precedes first.toList second.toList
  /-- The bytes of the texts are in the same order. -/
  bytes_iff : less.Holds first second ↔ Text.bytes first.toList < Text.bytes second.toList

/-- The comparisons of texts are those of one strict total order. -/
theorem texts_totally_ordered (first second third : String) : TextLaws first second third := by
  constructor
  case decided =>
    intro comparison
    rw [fails_iff]
    exact Classical.em _
  case exactlyOne =>
    simp only [fails_iff, holds_less, holds_equal, holds_greater]
    rcases lt_trichotomy first second with before | same | after
    · exact .inl ⟨before, String.ne_of_lt before, String.lt_asymm before⟩
    · subst same
      exact .inr (.inl ⟨String.lt_irrefl _, rfl, String.lt_irrefl _⟩)
    · exact .inr (.inr ⟨String.lt_asymm after, (String.ne_of_lt after).symm, after⟩)
  case equal_iff => exact holds_equal
  case unequal_iff => simp [fails_iff]
  case lessOrEqual_iff =>
    rw [holds_lessOrEqual, holds_less, holds_equal, not_lt, le_iff_lt_or_eq]
  case greaterOrEqual_iff => simp
  case greater_iff => simp
  case transitive =>
    simp only [holds_less]
    exact String.lt_trans
  case less_iff => exact less_iff_precedes
  case bytes_iff => exact less_iff_bytes

/-- The first characters that differ take two and three bytes. -/
example : less.Holds "a\u00e9z" "a\u0969" := by cbv

end Avenger.Comparison
