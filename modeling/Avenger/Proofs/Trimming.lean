import Mathlib.Data.List.TakeWhile
import Avenger.Text.Blank

/-!
# Trimming

Trimming takes away blanks at both ends and nothing else: the blanks around characters do not
count, and characters that neither start nor end with a blank stay as they are.
-/

namespace Avenger.Text

variable {front inner back : List Char}

theorem trimmed_append_left (blank : ∀ character ∈ front, isBlank character = true)
    (characters : List Char) : trimmed (front ++ characters) = trimmed characters := by
  unfold trimmed trimStart
  rw [List.dropWhile_append_of_pos blank]

theorem trimEnd_append (blank : ∀ character ∈ back, isBlank character = true)
    (characters : List Char) : trimEnd (characters ++ back) = trimEnd characters := by
  unfold trimEnd
  rw [List.reverse_append, List.dropWhile_append_of_pos (by simpa using blank)]

theorem trimmed_append_right (blank : ∀ character ∈ back, isBlank character = true)
    (characters : List Char) : trimmed (characters ++ back) = trimmed characters := by
  unfold trimmed trimStart
  rw [List.dropWhile_append]
  split
  · next none =>
      have none : characters.dropWhile isBlank = [] := by simpa using none
      have none' : back.dropWhile isBlank = [] := by simpa using blank
      rw [none, none']
  · exact trimEnd_append blank _

/-- Characters that neither start nor end with a blank stay as they are. -/
theorem trimmed_eq_self (first : ∀ character ∈ inner.head?, isBlank character = false)
    (last : ∀ character ∈ inner.getLast?, isBlank character = false) : trimmed inner = inner := by
  have starts : inner.dropWhile isBlank = inner := by
    cases inner with
    | nil => rfl
    | cons character rest => simp [first character rfl]
  have ends : inner.reverse.dropWhile isBlank = inner.reverse := by
    rw [← List.head?_reverse] at last
    cases reversed : inner.reverse with
    | nil => rfl
    | cons character rest =>
        rw [reversed] at last
        simp [last character rfl]
  unfold trimmed trimStart trimEnd
  rw [starts, ends, List.reverse_reverse]

/-- Only blanks are taken away. -/
theorem exists_blanks (characters : List Char) :
    ∃ front back, characters = front ++ (trimmed characters ++ back) ∧
      ∀ character ∈ front ++ back, isBlank character = true := by
  let rest := characters.dropWhile isBlank
  have split : characters.takeWhile isBlank ++ rest = characters :=
    List.takeWhile_append_dropWhile
  have split' : trimEnd rest ++ (rest.reverse.takeWhile isBlank).reverse = rest := by
    unfold trimEnd
    rw [← List.reverse_append, List.takeWhile_append_dropWhile, List.reverse_reverse]
  refine ⟨characters.takeWhile isBlank, (rest.reverse.takeWhile isBlank).reverse, ?_, ?_⟩
  · unfold trimmed trimStart
    rw [split', split]
  · intro character member
    rw [List.mem_append, List.mem_reverse] at member
    rcases member with before | behind
    · exact List.mem_takeWhile_imp before
    · exact List.mem_takeWhile_imp behind

end Avenger.Text
