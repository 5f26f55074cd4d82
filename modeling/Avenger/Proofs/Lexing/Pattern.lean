import Mathlib.Data.List.Nodup
import Mathlib.Data.List.TakeWhile
import Avenger.Token.Lexer

/-!
# Patterns of tokens

What numbers, words and symbols look like, said without the functions that take them off
the front of a text, and the proof that these functions take the longest match.
-/

namespace Avenger.Token

/-- One or more digits. -/
def IsDigits (characters : List Char) : Prop :=
  characters ≠ [] ∧ ∀ character ∈ characters, character.isDigit = true

/-- Nothing, or a point with digits. -/
inductive IsFraction : List Char → Prop where
  | none : IsFraction []
  | digits {digits : List Char} : IsDigits digits → IsFraction ('.' :: digits)

/-- Nothing, or an exponent mark with digits, which may have a sign. -/
inductive IsExponent : List Char → Prop where
  | none : IsExponent []
  | digits {mark : Char} {sign digits : List Char} :
      mark ∈ ['e', 'E'] → sign ∈ [[], ['+'], ['-']] → IsDigits digits →
      IsExponent (mark :: (sign ++ digits))

/-- The pattern of numbers. -/
inductive IsNumber : List Char → Prop where
  | parts {whole fraction exponent : List Char} :
      IsDigits whole → IsFraction fraction → IsExponent exponent →
      IsNumber (whole ++ (fraction ++ exponent))

/-- The pattern of words: letters, underscores and digits, of which a digit is not first. -/
inductive IsWord : List Char → Prop where
  | letters {first : Char} {rest : List Char} :
      (Text.isAlphabetic first = true ∨ first = '_') →
      (∀ character ∈ rest, Text.isAlphabetic character = true ∨ character = '_' ∨
        character.isDigit = true) →
      IsWord (first :: rest)

/-- The spellings of the table of symbols. -/
def IsSymbol (characters : List Char) : Prop :=
  ∃ entry ∈ symbols, entry.1.toList = characters

/-- A text that matches a pattern and is the longest to do so before what stands after it. -/
structure Longest (pattern : List Char → Prop) (text after : List Char) : Prop where
  fits : pattern text
  longest : ∀ other, pattern other → other <+: text ++ after → other.length ≤ text.length

theorem Longest.unique {pattern : List Char → Prop} {text after other rest : List Char}
    (first : Longest pattern text after) (second : Longest pattern other rest)
    (same : text ++ after = other ++ rest) : text = other ∧ after = rest := by
  have shorter : text.length ≤ other.length :=
    second.longest text first.fits ⟨after, same⟩
  have longer : other.length ≤ text.length :=
    first.longest other second.fits ⟨rest, same.symm⟩
  exact List.append_inj same (Nat.le_antisymm shorter longer)

/-- A function that takes the longest match of a pattern off the front of a text, or nothing
if there is no match. -/
structure TakesLongest (pattern : List Char → Prop)
    (take : List Char → List Char × List Char) : Prop where
  append : ∀ characters, (take characters).1 ++ (take characters).2 = characters
  fits : ∀ {characters}, (take characters).1 ≠ [] → pattern (take characters).1
  ne_nil : ∀ {text}, pattern text → text ≠ []
  contains : ∀ {text characters}, pattern text → text <+: characters →
    text <+: (take characters).1

section Takes

variable {pattern : List Char → Prop} {take : List Char → List Char × List Char}

theorem TakesLongest.longest (takes : TakesLongest pattern take) (characters : List Char)
    (nonempty : (take characters).1 ≠ []) :
    Longest pattern (take characters).1 (take characters).2 := by
  refine ⟨takes.fits nonempty, fun other fits starts => ?_⟩
  rw [takes.append] at starts
  exact (takes.contains fits starts).length_le

theorem TakesLongest.eq_nil_iff (takes : TakesLongest pattern take) {characters : List Char} :
    (take characters).1 = [] ↔ ∀ text, pattern text → ¬ text <+: characters := by
  constructor
  · intro empty text fits starts
    have within := takes.contains fits starts
    rw [empty, List.prefix_nil] at within
    exact takes.ne_nil fits within
  · intro apart
    refine Classical.not_not.mp fun nonempty => ?_
    exact apart _ (takes.fits nonempty) ⟨_, takes.append characters⟩

theorem TakesLongest.eq_of_longest (takes : TakesLongest pattern take) {text after : List Char}
    (longest : Longest pattern text after) : take (text ++ after) = (text, after) := by
  have nonempty : (take (text ++ after)).1 ≠ [] := fun empty =>
    takes.eq_nil_iff.mp empty text longest.fits (List.prefix_append _ _)
  exact Prod.ext_iff.mpr ((takes.longest _ nonempty).unique longest (takes.append _))

end Takes

/-! ### Parts of a number -/

theorem IsDigits.prefix_takeWhile {digits characters : List Char} (isDigits : IsDigits digits)
    (starts : digits <+: characters) : digits <+: characters.takeWhile Char.isDigit := by
  obtain ⟨rest, rfl⟩ := starts
  rw [List.takeWhile_append_of_pos isDigits.2]
  exact List.prefix_append _ _

theorem IsDigits.takeWhile_ne_nil {digits characters : List Char} (isDigits : IsDigits digits)
    (starts : digits <+: characters) : characters.takeWhile Char.isDigit ≠ [] := by
  intro empty
  have within := isDigits.prefix_takeWhile starts
  rw [empty, List.prefix_nil] at within
  exact isDigits.1 within

theorem isDigits_takeWhile {characters : List Char}
    (nonempty : characters.takeWhile Char.isDigit ≠ []) :
    IsDigits (characters.takeWhile Char.isDigit) :=
  ⟨nonempty, List.all_eq_true.mp List.all_takeWhile⟩

/-- A match that goes on after a part of a whole, with something that is not in the whole,
goes on after all of it. -/
theorem eq_whole_of_prefix {part whole more rest : List Char} (starts : part <+: whole)
    (fits : part ++ more <+: whole ++ rest) (apart : ∀ character ∈ more.head?, character ∉ whole) :
    more = [] ∨ part = whole := by
  obtain ⟨missing, rfl⟩ := starts
  cases more with
  | nil => exact .inl rfl
  | cons first more =>
      cases missing with
      | nil => exact .inr (List.append_nil part).symm
      | cons next missing =>
          rw [List.append_assoc, List.prefix_append_right_inj] at fits
          have same : first = next := (List.cons_prefix_cons.mp fits).1
          exact absurd (by simp [same]) (apart first rfl)

theorem takeSign_of_mem {sign digits rest : List Char} (isSign : sign ∈ [[], ['+'], ['-']])
    (isDigits : IsDigits digits) :
    takeSign (sign ++ digits ++ rest) = (sign, digits ++ rest) := by
  obtain ⟨nonempty, allDigits⟩ := isDigits
  simp only [List.mem_cons, List.not_mem_nil, or_false] at isSign
  rcases isSign with rfl | rfl | rfl
  · cases digits with
    | nil => contradiction
    | cons first digits =>
        have digit := allDigits first (.head _)
        unfold takeSign
        split
        · simp_all
        · simp_all
        · rfl
  · rfl
  · rfl

theorem takeSign_mem (characters : List Char) :
    (takeSign characters).1 ∈ [[], ['+'], ['-']] := by
  unfold takeSign
  split <;> simp

theorem isExponent_takeExponent (characters : List Char) :
    IsExponent (takeExponent characters).1 := by
  cases characters with
  | nil => exact .none
  | cons mark rest =>
      simp only [takeExponent]
      split
      · rename_i marked
        simp only [Bool.and_eq_true, Bool.or_eq_true, beq_iff_eq, Bool.not_eq_eq_eq_not,
          Bool.not_true, List.isEmpty_eq_false_iff] at marked
        exact .digits (by simpa using marked.1) (takeSign_mem rest)
          (isDigits_takeWhile marked.2)
      · exact .none

theorem IsExponent.prefix_takeExponent {exponent characters : List Char}
    (isExponent : IsExponent exponent) (starts : exponent <+: characters) :
    exponent <+: (takeExponent characters).1 := by
  cases isExponent with
  | none => exact List.nil_prefix
  | @digits mark sign digits marked signed isDigits =>
      obtain ⟨rest, rfl⟩ := starts
      have within : digits <+: (digits ++ rest).takeWhile Char.isDigit :=
        isDigits.prefix_takeWhile (List.prefix_append _ _)
      have nonempty := isDigits.takeWhile_ne_nil (List.prefix_append digits rest)
      simp only [List.mem_cons, List.not_mem_nil, or_false] at marked
      simp only [List.cons_append, takeExponent, takeSign_of_mem signed isDigits]
      rw [if_pos (by simpa [nonempty] using marked)]
      exact List.cons_prefix_cons.mpr
        ⟨rfl, (List.prefix_append_right_inj sign).mpr within⟩

theorem isFraction_takeFraction (characters : List Char) :
    IsFraction (takeFraction characters).1 := by
  cases characters with
  | nil => exact .none
  | cons point rest =>
      simp only [takeFraction]
      split
      · rename_i pointed
        simp only [Bool.and_eq_true, beq_iff_eq, Bool.not_eq_eq_eq_not, Bool.not_true,
          List.isEmpty_eq_false_iff] at pointed
        obtain ⟨rfl, nonempty⟩ := pointed
        exact .digits (isDigits_takeWhile nonempty)
      · exact .none

theorem IsFraction.prefix_takeFraction {fraction characters : List Char}
    (isFraction : IsFraction fraction) (starts : fraction <+: characters) :
    fraction <+: (takeFraction characters).1 := by
  cases isFraction with
  | none => exact List.nil_prefix
  | @digits digits isDigits =>
      obtain ⟨rest, rfl⟩ := starts
      have within : digits <+: (digits ++ rest).takeWhile Char.isDigit :=
        isDigits.prefix_takeWhile (List.prefix_append _ _)
      have nonempty := isDigits.takeWhile_ne_nil (List.prefix_append digits rest)
      simp only [List.cons_append, takeFraction]
      rw [if_pos (by simpa using nonempty)]
      exact List.cons_prefix_cons.mpr ⟨rfl, within⟩

/-! ### The longest number, word and symbol -/

/-- Neither fractions nor exponents start with a digit. -/
theorem not_isDigit_of_mem_head? {fraction exponent : List Char}
    (isFraction : IsFraction fraction) (isExponent : IsExponent exponent) :
    ∀ character ∈ (fraction ++ exponent).head?, character.isDigit = false := by
  intro character first
  cases isFraction with
  | digits _ =>
      obtain rfl : '.' = character := by simpa using first
      rfl
  | none =>
      cases isExponent with
      | none => simp at first
      | @digits mark _ _ marked _ _ =>
          obtain rfl : mark = character := by simpa using first
          simp only [List.mem_cons, List.not_mem_nil, or_false] at marked
          rcases marked with rfl | rfl <;> rfl

/-- No exponent starts with a character of a fraction. -/
theorem not_mem_fraction_of_mem_head? {fraction exponent : List Char}
    (isFraction : IsFraction fraction) (isExponent : IsExponent exponent) :
    ∀ character ∈ exponent.head?, character ∉ fraction := by
  intro character first member
  cases isExponent with
  | none => simp at first
  | @digits mark _ _ marked _ _ =>
      obtain rfl : mark = character := by simpa using first
      simp only [List.mem_cons, List.not_mem_nil, or_false] at marked
      cases isFraction with
      | none => simp at member
      | digits isDigits =>
          rcases List.mem_cons.mp member with rfl | digit
          · simp at marked
          · have := isDigits.2 _ digit
            rcases marked with rfl | rfl <;> simp at this

theorem IsNumber.ne_nil {number : List Char} (isNumber : IsNumber number) : number ≠ [] := by
  cases isNumber with
  | parts isDigits _ _ => simp [isDigits.1]

theorem isNumber_takeNumber {characters : List Char} (nonempty : (takeNumber characters).1 ≠ []) :
    IsNumber (takeNumber characters).1 := by
  simp only [takeNumber] at nonempty ⊢
  split
  · simp_all
  · rename_i digits
    exact .parts (isDigits_takeWhile (by simpa using digits))
      (isFraction_takeFraction _) (isExponent_takeExponent _)

/-- Every number at the front is part of the one that is taken. -/
theorem IsNumber.prefix_takeNumber {number characters : List Char}
    (isNumber : IsNumber number) (starts : number <+: characters) :
    number <+: (takeNumber characters).1 := by
  cases isNumber with
  | @parts whole fraction exponent isDigits isFraction isExponent =>
      have wholeStarts : whole <+: characters.takeWhile Char.isDigit :=
        isDigits.prefix_takeWhile ((List.prefix_append _ _).trans starts)
      have digits : characters.takeWhile Char.isDigit ≠ [] :=
        isDigits.takeWhile_ne_nil ((List.prefix_append _ _).trans starts)
      have allDigits := (isDigits_takeWhile digits).2
      simp only [takeNumber, List.isEmpty_iff, digits, if_false]
      rw [← List.takeWhile_append_dropWhile (p := Char.isDigit) (l := characters)] at starts
      rcases eq_whole_of_prefix wholeStarts starts
        (fun character first member => by
          have notDigit := not_isDigit_of_mem_head? isFraction isExponent character first
          rw [allDigits character member] at notDigit
          contradiction) with none | rfl
      · rw [none, List.append_nil]
        exact wholeStarts.trans (List.prefix_append _ _)
      · rw [List.prefix_append_right_inj] at starts ⊢
        have fractionStarts :=
          isFraction.prefix_takeFraction ((List.prefix_append _ _).trans starts)
        rw [← takeFraction_append (characters.dropWhile Char.isDigit)] at starts
        rcases eq_whole_of_prefix fractionStarts starts
          (not_mem_fraction_of_mem_head? (isFraction_takeFraction _) isExponent) with none | same
        · rw [none, List.append_nil]
          exact fractionStarts.trans (List.prefix_append _ _)
        · rw [same, List.prefix_append_right_inj] at starts ⊢
          exact isExponent.prefix_takeExponent starts

theorem takeNumber_takes : TakesLongest IsNumber takeNumber where
  append := takeNumber_append
  fits := isNumber_takeNumber
  ne_nil := IsNumber.ne_nil
  contains := IsNumber.prefix_takeNumber

theorem IsWord.ne_nil {word : List Char} (isWord : IsWord word) : word ≠ [] := by
  cases isWord with
  | letters _ _ => exact List.cons_ne_nil _ _

theorem isWord_takeWord {characters : List Char} (nonempty : (takeWord characters).1 ≠ []) :
    IsWord (takeWord characters).1 := by
  cases characters with
  | nil => simp [takeWord] at nonempty
  | cons first rest =>
      simp only [takeWord] at nonempty ⊢
      split
      · rename_i starts
        refine .letters (by simpa [startsWord] using starts) fun character member => ?_
        have continues := List.all_eq_true.mp List.all_takeWhile character member
        simpa [continuesWord, startsWord, or_assoc] using continues
      · simp_all

/-- Every word at the front is part of the one that is taken. -/
theorem IsWord.prefix_takeWord {word characters : List Char}
    (isWord : IsWord word) (starts : word <+: characters) :
    word <+: (takeWord characters).1 := by
  cases isWord with
  | @letters first rest letter continues =>
      obtain ⟨after, rfl⟩ := starts
      have all : ∀ character ∈ rest, continuesWord character = true := fun character member => by
        simpa [continuesWord, startsWord, or_assoc] using continues character member
      simp only [List.cons_append, takeWord]
      rw [if_pos (by simpa [startsWord] using letter), List.takeWhile_append_of_pos all]
      exact List.cons_prefix_cons.mpr ⟨rfl, List.prefix_append _ _⟩

theorem takeWord_takes : TakesLongest IsWord takeWord where
  append := takeWord_append
  fits := isWord_takeWord
  ne_nil := IsWord.ne_nil
  contains := IsWord.prefix_takeWord

/-- No symbol starts one that stands after it in the table. -/
theorem symbols_pairwise :
    symbols.Pairwise fun earlier later => ¬ earlier.1.toList <+: later.1.toList := by
  decide +kernel

theorem symbol?_longest {characters : List Char} {entry : String × Kind}
    (found : symbol? characters = some entry) :
    Longest IsSymbol entry.1.toList (characters.drop entry.1.length) := by
  refine ⟨⟨entry, List.mem_of_find?_eq_some found, rfl⟩, ?_⟩
  rintro _ ⟨other, member, rfl⟩ starts
  rw [(symbol?_eq_some found).1] at starts
  obtain ⟨-, earlier, later, split, before⟩ := List.find?_eq_some_iff_append.mp found
  have notBefore : other ∉ earlier := by
    intro isBefore
    have missing := before other isBefore
    rw [List.isPrefixOf_iff_prefix.mpr starts] at missing
    contradiction
  have atFront : entry.1.toList <+: characters := ⟨_, (symbol?_eq_some found).1⟩
  rw [split, List.mem_append, List.mem_cons] at member
  rcases member with isBefore | rfl | isAfter
  · exact absurd isBefore notBefore
  · exact Nat.le_refl _
  · refine Nat.le_of_not_lt fun longer => ?_
    have apart := symbols_pairwise
    rw [split] at apart
    exact (List.pairwise_cons.mp (List.pairwise_append.mp apart).2.1).1 other isAfter
      (List.prefix_of_prefix_length_le atFront starts (Nat.le_of_lt longer))

theorem symbol?_eq_none_iff {characters : List Char} :
    symbol? characters = none ↔ ∀ text, IsSymbol text → ¬ text <+: characters := by
  constructor
  · rintro missing _ ⟨entry, member, rfl⟩ starts
    have absent := List.find?_eq_none.mp missing entry member
    exact absent (List.isPrefixOf_iff_prefix.mpr starts)
  · intro apart
    refine List.find?_eq_none.mpr fun entry member starts => ?_
    exact apart _ ⟨entry, member, rfl⟩ (List.isPrefixOf_iff_prefix.mp starts)

/-- No two entries of the table have the same spelling. -/
theorem symbols_nodup : (symbols.map Prod.fst).Nodup := by decide +kernel

theorem Longest.symbol?_eq {text after : List Char} {kind : Kind}
    (longest : Longest IsSymbol text after) (listed : (String.ofList text, kind) ∈ symbols) :
    symbol? (text ++ after) = some (String.ofList text, kind) := by
  cases found : symbol? (text ++ after) with
  | none =>
      exact absurd (List.prefix_append text after)
        (symbol?_eq_none_iff.mp found text longest.fits)
  | some entry =>
      have same : entry.1.toList = text :=
        ((symbol?_longest found).unique longest (symbol?_eq_some found).1).1
      have spelling : entry.1 = String.ofList text := by rw [← same, String.ofList_toList]
      exact congrArg some (List.inj_on_of_nodup_map symbols_nodup
        (List.mem_of_find?_eq_some found) listed spelling)

/-! ### First characters -/

/-- The characters that separators and strings start with. -/
def marks : List Char := ['\n', ' ', '\t', '\r', '$', '"']

theorem not_mem_marks_of_isDigit {character : Char} (digit : character.isDigit = true) :
    character ∉ marks := by
  intro member
  simp only [marks, List.mem_cons, List.not_mem_nil, or_false] at member
  rcases member with rfl | rfl | rfl | rfl | rfl | rfl <;> contradiction

theorem le_of_startsWord {character : Char} (starts : startsWord character = true) :
    0x41 ≤ character.toNat := by
  simp only [startsWord, Bool.or_eq_true, beq_iff_eq] at starts
  rcases starts with letter | rfl
  · exact Text.le_of_isAlphabetic letter
  · decide

theorem isDigit_eq_false_of_startsWord {character : Char}
    (starts : startsWord character = true) : character.isDigit = false := by
  have code := le_of_startsWord starts
  refine Bool.eq_false_iff.mpr fun digit => ?_
  have most : character.toNat ≤ 57 := of_decide_eq_true ((Bool.and_eq_true _ _).mp digit).2
  omega

theorem not_mem_marks_of_startsWord {character : Char} (starts : startsWord character = true) :
    character ∉ marks := by
  have code := le_of_startsWord starts
  intro member
  simp only [marks, List.mem_cons, List.not_mem_nil, or_false] at member
  rcases member with rfl | rfl | rfl | rfl | rfl | rfl <;> simp at code

/-- Symbols start with none of the characters that everything else starts with. -/
theorem symbols_head : ∀ entry ∈ symbols, ∀ first ∈ entry.1.toList.head?,
    first.isDigit = false ∧ startsWord first = false ∧ first ∉ marks := by
  -- The table of letters is too long to be searched here: of a character of ASCII one can see
  -- without it whether it is a letter.
  have plain : ∀ entry ∈ symbols, entry.1.toList.head?.all (fun first =>
      !first.isDigit && !marks.contains first && first != '_' && !first.isAlpha &&
        decide (first.toNat < 0x80)) = true := by
    decide +kernel
  intro entry member first head
  have checked := (Option.all_eq_true _ _).mp (plain entry member) first head
  simp only [Bool.and_eq_true, Bool.not_eq_true', List.contains_eq_mem, decide_eq_true_eq,
    decide_eq_false_iff_not, bne_iff_ne] at checked
  obtain ⟨⟨⟨⟨digit, mark⟩, underscore⟩, alpha⟩, ascii⟩ := checked
  refine ⟨digit, Bool.eq_false_iff.mpr fun starts => ?_, mark⟩
  simp only [startsWord, Bool.or_eq_true, beq_iff_eq] at starts
  rcases starts with letter | same
  · exact absurd (Text.isAlpha_of_isAlphabetic letter ascii) (Bool.eq_false_iff.mp alpha)
  · exact underscore same

theorem IsNumber.eq_cons {number : List Char} (isNumber : IsNumber number) :
    ∃ first rest, number = first :: rest ∧ first.isDigit = true := by
  cases isNumber with
  | @parts whole fraction exponent isDigits _ _ =>
      cases whole with
      | nil => exact absurd rfl isDigits.1
      | cons first rest => exact ⟨first, _, rfl, isDigits.2 first (.head _)⟩

theorem IsWord.eq_cons {word : List Char} (isWord : IsWord word) :
    ∃ first rest, word = first :: rest ∧ startsWord first = true := by
  cases isWord with
  | letters starts _ => exact ⟨_, _, rfl, by simpa [startsWord] using starts⟩

theorem IsSymbol.eq_cons {symbol : List Char} (isSymbol : IsSymbol symbol) :
    ∃ first rest, symbol = first :: rest ∧ first.isDigit = false ∧ startsWord first = false ∧
      first ∉ marks := by
  obtain ⟨entry, member, rfl⟩ := isSymbol
  cases spelling : entry.1.toList with
  | nil =>
      have positive := symbols_ne_empty entry member
      rw [← String.length_toList, spelling] at positive
      contradiction
  | cons first rest =>
      exact ⟨first, rest, rfl, symbols_head entry member first (by rw [spelling]; rfl)⟩

theorem takeNumber_eq_nil {first : Char} (notDigit : first.isDigit = false) (rest : List Char) :
    takeNumber (first :: rest) = ([], first :: rest) := by
  simp [takeNumber, notDigit]

theorem takeWord_eq_nil {first : Char} (apart : startsWord first = false) (rest : List Char) :
    takeWord (first :: rest) = ([], first :: rest) := by
  simp [takeWord, apart]

end Avenger.Token
