import Avenger.Proofs.Positions

/-!
# Whole numbers read back

A natural that is written in a base from 2 to 36, with any number of zeros in front and its letters
in either case, is read back from its digits.
-/

namespace Avenger

namespace Number

/-! ### Digits -/

/-- The digits of base 36, with small letters after nine. -/
def lowerDigits : List Char := "0123456789abcdefghijklmnopqrstuvwxyz".toList

/-- The digits of base 36, with capital letters after nine. -/
def upperDigits : List Char := "0123456789ABCDEFGHIJKLMNOPQRSTUVWXYZ".toList

/-- That a character writes a digit, in either case. -/
def Writes (digit : Nat) (character : Char) : Prop :=
  lowerDigits[digit]? = some character ∨ upperDigits[digit]? = some character

/-- That characters start with a digit of a base. -/
def StartsWithDigit (base : Nat) (characters : List Char) : Prop :=
  ∃ digit first rest, characters = first :: rest ∧ digit < base ∧ Writes digit first

/-- That characters write a natural in a base: its digits, behind any number of zeros, and at least
one digit in all. -/
def Written (base value : Nat) (characters : List Char) : Prop :=
  characters ≠ [] ∧ ∃ zeros,
    List.Forall₂ Writes (List.replicate zeros 0 ++ (Nat.digits base value).reverse) characters

variable {base digit value : Nat} {character : Char} {characters rest : List Char}

/-- What can be checked of each digit and both of its characters holds of all that write digits. -/
@[elab_as_elim]
theorem Writes.of_table {motive : Nat → Char → Prop}
    (table : ∀ entry ∈ lowerDigits.zipIdx ++ upperDigits.zipIdx, motive entry.2 entry.1)
    (writes : Writes digit character) : motive digit character := by
  refine table (character, digit) (List.mem_append.mpr ?_)
  exact writes.imp List.mem_zipIdx_iff_getElem?.mpr List.mem_zipIdx_iff_getElem?.mpr

/-- A run of consecutive characters in a table has a character at its distance from the first. -/
theorem getElem?_of_run {table : List Char} {first skipped count : Nat}
    (run : ∀ distance < count, table[distance + skipped]? = some (Char.ofNat (first + distance)))
    (least : first ≤ character.toNat) (bound : character.toNat < first + count) :
    table[character.toNat - first + skipped]? = some character := by
  have here := run (character.toNat - first) (by omega)
  rwa [Nat.add_sub_cancel' least, Char.ofNat_toNat] at here

theorem code_bounds {least greatest : Char} :
    (character.val ≥ least.val ∧ character.val ≤ greatest.val) ↔
      least.toNat ≤ character.toNat ∧ character.toNat ≤ greatest.toNat := by
  rw [ge_iff_le, UInt32.le_iff_toNat_le, UInt32.le_iff_toNat_le]
  rfl

theorem writes_iff :
    (if character.isDigit then some (character.toNat - '0'.toNat)
      else if character.isLower then some (character.toNat - 'a'.toNat + 10)
      else if character.isUpper then some (character.toNat - 'A'.toNat + 10)
      else none) = some digit ↔ Writes digit character := by
  constructor
  · intro value
    split at value
    · next figure =>
        simp only [Char.isDigit, Bool.and_eq_true, decide_eq_true_eq] at figure
        have bounds := code_bounds.mp figure
        have run : ∀ distance < 10, lowerDigits[distance + 0]? =
            some (Char.ofNat ('0'.toNat + distance)) := by decide
        cases value
        exact .inl (getElem?_of_run run bounds.1 (Nat.lt_succ_of_le bounds.2))
    · split at value
      · next lower =>
          simp only [Char.isLower, Bool.and_eq_true, decide_eq_true_eq] at lower
          have bounds := code_bounds.mp lower
          have run : ∀ distance < 26, lowerDigits[distance + 10]? =
              some (Char.ofNat ('a'.toNat + distance)) := by decide
          cases value
          exact .inl (getElem?_of_run run bounds.1 (Nat.lt_succ_of_le bounds.2))
      · split at value
        · next upper =>
            simp only [Char.isUpper, decide_eq_true_eq] at upper
            have bounds := code_bounds.mp upper
            have run : ∀ distance < 26, upperDigits[distance + 10]? =
                some (Char.ofNat ('A'.toNat + distance)) := by decide
            cases value
            exact .inr (getElem?_of_run run bounds.1 (Nat.lt_succ_of_le bounds.2))
        · cases value
  · exact fun writes => writes.of_table (by decide)

theorem digitIn?_eq_some_iff :
    digitIn? base character = some digit ↔ Writes digit character ∧ digit < base := by
  unfold digitIn?
  dsimp only
  rw [Option.filter_eq_some_iff, writes_iff, decide_eq_true_iff]

theorem Writes.plain (writes : Writes digit character) :
    Text.isBlank character = false ∧ character ≠ '-' ∧ character ≠ '+' :=
  writes.of_table (by decide)

theorem Writes.ne_mark (writes : Writes digit character) :
    digit < 16 → character ≠ 'x' ∧ character ≠ 'X' :=
  writes.of_table (by decide)

theorem startsWithDigit_iff : StartsWithDigit base characters ↔
    ∃ digit first rest, characters = first :: rest ∧ digitIn? base first = some digit := by
  simp only [StartsWithDigit, digitIn?_eq_some_iff, and_comm]

/-! ### Runs of digits -/

theorem leadingDigits_cons {first : Char} (value : digitIn? base first = some digit) :
    leadingDigits base (first :: rest) = digit :: leadingDigits base rest := by
  unfold leadingDigits
  rw [List.takeWhile_cons_of_pos (by rw [value]; rfl), List.filterMap_cons_some value]

theorem leadingDigits_nil (stop : ¬ StartsWithDigit base rest) : leadingDigits base rest = [] := by
  cases rest with
  | nil => rfl
  | cons first rest =>
      have none : ¬ (digitIn? base first).isSome = true := by
        intro some
        obtain ⟨digit, value⟩ := Option.isSome_iff_exists.mp some
        exact stop (startsWithDigit_iff.mpr ⟨digit, first, rest, rfl, value⟩)
      unfold leadingDigits
      rw [List.takeWhile_cons, if_neg none]
      rfl

theorem leadingDigits_eq_nil_iff :
    leadingDigits base characters = [] ↔ ¬ StartsWithDigit base characters := by
  refine ⟨fun none starts => ?_, leadingDigits_nil⟩
  obtain ⟨digit, first, rest, rfl, value⟩ := startsWithDigit_iff.mp starts
  rw [leadingDigits_cons value] at none
  cases none

theorem leadingDigits_lt (below : digit ∈ leadingDigits base characters) : digit < base := by
  obtain ⟨character, -, value⟩ := List.mem_filterMap.mp below
  exact (digitIn?_eq_some_iff.mp value).2

/-- The digits end where a character follows that is none. -/
theorem leadingDigits_append {digits : List Nat} (written : List.Forall₂ Writes digits characters)
    (below : ∀ digit ∈ digits, digit < base) (stop : ¬ StartsWithDigit base rest) :
    leadingDigits base (characters ++ rest) = digits := by
  induction written with
  | nil => exact leadingDigits_nil stop
  | cons writes _ induction =>
      have value := digitIn?_eq_some_iff.mpr ⟨writes, below _ List.mem_cons_self⟩
      rw [List.cons_append, leadingDigits_cons value,
        induction fun digit member => below digit (List.mem_cons_of_mem _ member)]

/-! ### Values of digits -/

/-- The natural that digits denote behind one that has been read. -/
def positional (base : Nat) (read : Nat) (digits : List Nat) : Nat :=
  digits.foldl (fun value digit => value * base + digit) read

theorem le_positional {read : Nat} {digits : List Nat} (positive : 0 < base) :
    read ≤ positional base read digits := by
  induction digits generalizing read with
  | nil => exact Nat.le_refl _
  | cons digit digits induction =>
      calc read ≤ read * base := Nat.le_mul_of_pos_right read positive
        _ ≤ read * base + digit := Nat.le_add_right _ _
        _ ≤ positional base read (digit :: digits) := induction

theorem positional_zeros (base zeros : Nat) (digits : List Nat) :
    positional base 0 (List.replicate zeros 0 ++ digits) = positional base 0 digits := by
  induction zeros with
  | zero => rfl
  | succ zeros induction =>
      have step : positional base 0 (List.replicate (zeros + 1) 0 ++ digits) =
          positional base (0 * base + 0) (List.replicate zeros 0 ++ digits) := rfl
      rw [step, Nat.zero_mul, Nat.add_zero, induction]

theorem positional_digits (base value : Nat) :
    positional base 0 (Nat.digits base value).reverse = value := by
  unfold positional
  rw [List.foldl_reverse]
  calc (Nat.digits base value).foldr (fun digit value => value * base + digit) 0
      = (Nat.digits base value).foldr (fun digit value => digit + base * value) 0 := by
        congr 1
        funext digit value
        rw [Nat.mul_comm, Nat.add_comm]
    _ = Nat.ofDigits base (Nat.digits base value) := (Nat.ofDigits_eq_foldr ..).symm
    _ = value := Nat.ofDigits_digits base value

/-- A fold over doubles that stays small is the fold over naturals. -/
theorem foldl_ofNat {read : Nat} {digits : List Nat} (positive : 0 < base)
    (bound : base < 2 ^ 53) (small : positional base read digits < 2 ^ 53) :
    digits.foldl (fun value digit => value * ofNat base + ofNat digit) (ofNat read) =
      ofNat (positional base read digits) := by
  induction digits generalizing read with
  | nil => rfl
  | cons digit digits induction =>
      -- What has been read only grows, so that the last value bounds all of them.
      have next : read * base + digit < 2 ^ 53 :=
        Nat.lt_of_le_of_lt (le_positional positive) small
      have read' : read < 2 ^ 53 := by
        have grows := Nat.le_mul_of_pos_right read positive
        omega
      have step : ofNat read * ofNat base + ofNat digit = ofNat (read * base + digit) := by
        rw [ofNat_mul read' bound (by omega), ofNat_add next]
      rw [List.foldl_cons, step]
      exact induction small

theorem ofDigitValues_eq {digits : List Nat} (positive : 0 < base) (bound : base < 2 ^ 53)
    (small : positional base 0 digits < 2 ^ 53) :
    ofDigitValues base digits = ofNat (positional base 0 digits) := by
  unfold ofDigitValues
  rw [← ofNat_zero]
  exact foldl_ofNat positive bound small

theorem isNaN_foldl {digits : List Nat} {read : Float} (positive : 0 < base)
    (bound : base < 2 ^ 53) (below : ∀ digit ∈ digits, digit < base)
    (isNumber : read.isNaN = false) :
    (digits.foldl (fun value digit => value * ofNat base + ofNat digit) read).isNaN = false := by
  induction digits generalizing read with
  | nil => exact isNumber
  | cons digit digits induction =>
      have first := below digit List.mem_cons_self
      refine induction (fun digit member => below digit (List.mem_cons_of_mem _ member)) ?_
      rw [isNaN_add_ofNat (by omega), isNaN_mul_ofNat positive bound, isNumber]

/-! ### Written naturals -/

theorem Written.digits (written : Written base value characters) (least : 2 ≤ base) :
    ∃ digits, List.Forall₂ Writes digits characters ∧ (∀ digit ∈ digits, digit < base) ∧
      positional base 0 digits = value := by
  obtain ⟨-, zeros, digits⟩ := written
  refine ⟨_, digits, fun digit member => ?_, ?_⟩
  · rcases List.mem_append.mp member with zero | inside
    · rw [(List.mem_replicate.mp zero).2]
      omega
    · exact Nat.digits_lt_base least (List.mem_reverse.mp inside)
  · rw [positional_zeros, positional_digits]

theorem Written.startsWithDigit (written : Written base value characters) (least : 2 ≤ base)
    (rest : List Char) : StartsWithDigit base (characters ++ rest) := by
  obtain ⟨digits, writes, below, -⟩ := written.digits least
  cases writes with
  | nil => exact absurd rfl written.1
  | cons first others => exact ⟨_, _, _, rfl, below _ List.mem_cons_self, first⟩

end Number

end Avenger
