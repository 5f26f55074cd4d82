import Avenger.Number.Numeral
import Avenger.Proofs.Digits
import Avenger.Proofs.Lexing.Pattern

/-!
# Decimal digits

What decimal digits denote is the natural that they write in base ten, behind any number of zeros.
-/

namespace Avenger.Number

variable {base digit value : Nat} {character : Char} {characters : List Char} {digits : List Nat}

/-- Digits of a base are those of their value behind zeros. -/
theorem exists_zeros (least : 2 ≤ base) (below : ∀ digit ∈ digits, digit < base) :
    ∃ zeros, List.replicate zeros 0 ++ (Nat.digits base (positional base 0 digits)).reverse =
      digits := by
  induction digits with
  | nil => exact ⟨0, by simp [positional]⟩
  | cons digit digits induction =>
      by_cases zero : digit = 0
      · subst zero
        obtain ⟨zeros, written⟩ := induction fun other member => below other (.tail _ member)
        refine ⟨zeros + 1, ?_⟩
        have value : positional base 0 (0 :: digits) = positional base 0 digits :=
          positional_zeros base 1 digits
        rw [value, List.replicate_succ, List.cons_append, written]
      · have value : positional base 0 (digit :: digits) =
            Nat.ofDigits base (digit :: digits).reverse := by
          unfold positional
          rw [Nat.ofDigits_eq_foldr, List.foldr_reverse]
          simp [Nat.mul_comm, Nat.add_comm]
        refine ⟨0, ?_⟩
        rw [value, Nat.digits_ofDigits base least]
        · simp
        · intro other member
          exact below other (List.mem_reverse.mp member)
        · simpa using zero

theorem Writes.isDigit (writes : Writes digit character) :
    digit < 10 → character.isDigit = true ∧ character.toNat - '0'.toNat = digit :=
  writes.of_table (by decide)

theorem writes_of_isDigit (isDigit : character.isDigit = true) :
    ∃ digit, digit < 10 ∧ Writes digit character := by
  have writes := writes_iff.mp (if_pos isDigit)
  simp only [Char.isDigit, Bool.and_eq_true, decide_eq_true_eq] at isDigit
  have bounds := code_bounds.mp isDigit
  have nine : '9'.toNat = '0'.toNat + 9 := rfl
  exact ⟨_, by omega, writes⟩

theorem exists_digits (isDigit : ∀ character ∈ characters, character.isDigit = true) :
    ∃ digits, List.Forall₂ Writes digits characters ∧ ∀ digit ∈ digits, digit < 10 := by
  induction characters with
  | nil => exact ⟨[], .nil, by simp⟩
  | cons character characters induction =>
      obtain ⟨digits, writes, below⟩ := induction fun other member => isDigit other (.tail _ member)
      obtain ⟨digit, small, first⟩ := writes_of_isDigit (isDigit character (.head _))
      exact ⟨digit :: digits, .cons first writes, List.forall_mem_cons.mpr ⟨small, below⟩⟩

theorem foldl_positional (writes : List.Forall₂ Writes digits characters)
    (below : ∀ digit ∈ digits, digit < 10) (read : Nat) :
    characters.foldl (fun value digit => 10 * value + (digit.toNat - '0'.toNat)) read =
      positional 10 read digits := by
  induction writes generalizing read with
  | nil => rfl
  | @cons digit character digits characters first _ induction =>
      have value := (first.isDigit (below digit (.head _))).2
      rw [List.foldl_cons, value, induction fun other member => below other (.tail _ member),
        Nat.mul_comm]
      rfl

theorem ofDigits_eq (writes : List.Forall₂ Writes digits characters)
    (below : ∀ digit ∈ digits, digit < 10) : ofDigits characters = positional 10 0 digits :=
  foldl_positional writes below 0

/-- Decimal digits write what they denote. -/
theorem written_iff :
    Written 10 value characters ↔ Token.IsDigits characters ∧ ofDigits characters = value := by
  constructor
  · intro written
    obtain ⟨digits, writes, below, same⟩ := written.digits (by decide)
    refine ⟨⟨written.1, ?_⟩, ofDigits_eq writes below ▸ same⟩
    clear same written
    induction writes with
    | nil => simp
    | @cons digit character digits characters first _ induction =>
        have small := below digit (.head _)
        exact List.forall_mem_cons.mpr ⟨(first.isDigit small).1,
          induction fun other member => below other (.tail _ member)⟩
  · rintro ⟨⟨some, isDigit⟩, rfl⟩
    obtain ⟨digits, writes, below⟩ := exists_digits isDigit
    obtain ⟨zeros, split⟩ := exists_zeros (by decide) below
    refine ⟨some, zeros, ?_⟩
    rwa [ofDigits_eq writes below, split]

end Avenger.Number
