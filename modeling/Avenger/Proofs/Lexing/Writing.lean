import Avenger.Proofs.Lexing

/-!
# Writing tokens out

Tokens are written one after the other, with something that separates each two of them.
Every lexeme ends where a separator starts, whatever it is, so the same tokens are read back.
-/

namespace Avenger.Token

/-! ### Lexemes before a mark -/

theorem IsDigits.not_mem_marks {digits : List Char} (isDigits : IsDigits digits) :
    ∀ character ∈ digits, character ∉ marks :=
  fun character member => not_mem_marks_of_isDigit (isDigits.2 character member)

theorem IsNumber.not_mem_marks {number : List Char} (isNumber : IsNumber number) :
    ∀ character ∈ number, character ∉ marks := by
  obtain @⟨whole, fraction, exponent, isDigits, isFraction, isExponent⟩ := isNumber
  have inFraction : ∀ character ∈ fraction, character ∉ marks := by
    cases isFraction with
    | none => exact List.forall_mem_nil _
    | digits digits => exact List.forall_mem_cons.mpr ⟨by decide, digits.not_mem_marks⟩
  have inExponent : ∀ character ∈ exponent, character ∉ marks := by
    cases isExponent with
    | none => exact List.forall_mem_nil _
    | @digits mark sign _ marked signed digits =>
        have signs : ∀ character ∈ sign, character ∉ marks := by
          revert sign
          simp [marks]
        have letters : ∀ mark ∈ ['e', 'E'], mark ∉ marks := by simp [marks]
        exact List.forall_mem_cons.mpr
          ⟨letters mark marked, List.forall_mem_append.mpr ⟨signs, digits.not_mem_marks⟩⟩
  exact List.forall_mem_append.mpr
    ⟨isDigits.not_mem_marks, List.forall_mem_append.mpr ⟨inFraction, inExponent⟩⟩

theorem IsWord.not_mem_marks {word : List Char} (isWord : IsWord word) :
    ∀ character ∈ word, character ∉ marks := by
  cases isWord with
  | letters first rest =>
      have starts := not_mem_marks_of_startsWord (by simpa [startsWord] using first)
      refine List.forall_mem_cons.mpr ⟨starts, fun character member => ?_⟩
      rcases rest character member with letter | underscore | digit
      · exact not_mem_marks_of_startsWord (by simp [startsWord, letter])
      · exact not_mem_marks_of_startsWord (by simp [startsWord, underscore])
      · exact not_mem_marks_of_isDigit digit

theorem IsSymbol.not_mem_marks {symbol : List Char} (isSymbol : IsSymbol symbol) :
    ∀ character ∈ symbol, character ∉ marks := by
  have checked : (symbols.all fun entry => entry.1.toList.all (!marks.contains ·)) = true := by
    decide +kernel
  have plain : ∀ entry ∈ symbols, ∀ character ∈ entry.1.toList, character ∉ marks := by
    simpa using checked
  obtain ⟨entry, member, rfl⟩ := isSymbol
  exact plain entry member

theorem Longest.alone {pattern : List Char → Prop} {text : List Char} (fits : pattern text) :
    Longest pattern text [] :=
  ⟨fits, fun _ _ starts => by simpa using starts.length_le⟩

/-- A longest match stays the longest one if what follows it goes on with a character that no
match has. -/
theorem Longest.before {pattern : List Char → Prop} {text after : List Char} {stop : Char}
    (longest : Longest pattern text after) (apart : ∀ other, pattern other → stop ∉ other)
    (rest : List Char) : Longest pattern text (after ++ stop :: rest) := by
  refine ⟨longest.fits, fun other fits starts => longest.longest other fits ?_⟩
  rw [← List.append_assoc] at starts
  by_cases within : other.length ≤ (text ++ after).length
  · exact List.prefix_of_prefix_length_le starts (List.prefix_append _ _) within
  · have stopped : (text ++ after) ++ [stop] <+: (text ++ after) ++ stop :: rest :=
      (List.prefix_append_right_inj _).mpr (List.prefix_append [stop] rest)
    have beyond := List.prefix_of_prefix_length_le stopped starts
      (by rw [List.length_append]; exact Nat.lt_of_not_le within)
    exact absurd (beyond.subset (by simp)) (apart other fits)

/-- A lexeme is the same one if a mark comes where the text ended. -/
theorem Lexeme.before {kind : Kind} {text lexeme after : List Char} {stop : Char}
    (isLexeme : Lexeme kind text lexeme after) (mark : stop ∈ marks) (rest : List Char) :
    Lexeme kind text lexeme (after ++ stop :: rest) := by
  cases isLexeme with
  | string absent => exact .string absent
  | number longest =>
      exact .number (longest.before (fun _ fits member => fits.not_mem_marks stop member mark) rest)
  | word longest spelled =>
      refine .word (longest.before ?_ rest) spelled
      exact fun _ fits member => fits.not_mem_marks stop member mark
  | symbol listed longest =>
      refine .symbol listed (longest.before ?_ rest)
      exact fun _ fits member => fits.not_mem_marks stop member mark

/-! ### Pieces -/

/-- Any mix of separators. -/
inductive Gap : List Char → Prop where
  | none : Gap []
  | more {separator rest : List Char} : Separator separator → Gap rest → Gap (separator ++ rest)

/-- `Spells kind text`: a token of the kind can have the text. -/
inductive Spells : Kind → List Char → Prop where
  | number {text : List Char} : IsNumber text → Spells .number text
  | name {text : List Char} :
      IsWord text → String.ofList text ∉ keywords.map Prod.fst → Spells .identifier text
  | string {text : List Char} : '"' ∉ text → Spells .string text
  | listed {kind : Kind} {text : List Char} :
      (String.ofList text, kind) ∈ keywords ++ symbols → Spells kind text

/-- How a token is written: a string between quotes, and all else as its text. -/
def Kind.write (kind : Kind) (text : List Char) : List Char :=
  if kind = .string then '"' :: (text ++ ['"']) else text

/-- A token to be written, with what separates it from the one before. -/
structure Piece where
  gap : List Char
  kind : Kind
  text : List Char

/-- What is written of a piece. -/
def Piece.written (piece : Piece) : List Char := piece.gap ++ piece.kind.write piece.text

/-- What is written of pieces in order. -/
def Piece.writeAll (pieces : List Piece) : List Char := pieces.flatMap Piece.written

/-- The tokens of pieces that are written after the characters `before`. -/
def Piece.tokens (before : List Char) : List Piece → List Token
  | [] => []
  | piece :: pieces =>
      ⟨piece.kind, String.ofList piece.text, 1 + newlines (before ++ piece.gap)⟩ ::
        Piece.tokens (before ++ piece.written) pieces

theorem Separator.eq_cons {separator : List Char} (isSeparator : Separator separator) :
    ∃ first rest, separator = first :: rest ∧ first ∈ marks := by
  cases isSeparator with
  | @blank character member =>
      refine ⟨character, [], rfl, ?_⟩
      revert character
      simp [marks]
  | comment absent => exact ⟨_, _, rfl, by simp [marks]⟩

/-- A gap is empty or starts with a mark. -/
theorem Gap.eq_nil_or_cons {gap : List Char} (isGap : Gap gap) :
    gap = [] ∨ ∃ first rest, gap = first :: rest ∧ first ∈ marks := by
  cases isGap with
  | none => exact .inl rfl
  | more isSeparator _ =>
      obtain ⟨first, rest, rfl, mark⟩ := isSeparator.eq_cons
      exact .inr ⟨first, _, rfl, mark⟩

/-- A gap is skipped. -/
theorem Gap.lexed {gap before rest left : List Char} {tokens : List Token} (isGap : Gap gap)
    (lexed : Lexed (before ++ gap) tokens rest left) : Lexed before tokens (gap ++ rest) left := by
  induction isGap generalizing before with
  | none => rwa [List.append_nil] at lexed
  | more isSeparator _ induction =>
      rw [List.append_assoc]
      exact .skip isSeparator (induction (by rwa [List.append_assoc]))

/-- All keywords are words. -/
theorem isWord_of_keyword : ∀ entry ∈ keywords, IsWord entry.1.toList := by
  have checked : (keywords.all fun entry =>
      !entry.1.toList.isEmpty && entry.1.toList.all (·.isAlpha)) = true := by
    decide +kernel
  have alphas : ∀ entry ∈ keywords, entry.1.toList ≠ [] ∧
      ∀ character ∈ entry.1.toList, character.isAlpha = true := by
    simpa using checked
  intro entry member
  obtain ⟨nonempty, letters⟩ := alphas entry member
  cases spelling : entry.1.toList with
  | nil => exact absurd spelling nonempty
  | cons first rest =>
      rw [spelling, List.forall_mem_cons] at letters
      exact .letters (.inl (Text.isAlphabetic_of_isAlpha letters.1))
        fun character member => .inl (Text.isAlphabetic_of_isAlpha (letters.2 character member))

/-- A text that a kind can have is a lexeme of it where the text ends. -/
theorem Spells.lexeme {kind : Kind} {text : List Char} (spells : Spells kind text) :
    Lexeme kind text (kind.write text) [] := by
  cases spells with
  | number isNumber => exact .number (.alone isNumber)
  | name isWord free =>
      exact .word (.alone isWord)
        ⟨⟨fun ne => absurd rfl ne, fun keyword => absurd keyword free⟩, fun ne => absurd rfl ne⟩
  | string absent => exact .string absent
  | listed listed =>
      have noString : ∀ entry ∈ keywords ++ symbols, entry.2 ≠ .string := by decide
      rw [Kind.write, if_neg (noString _ listed)]
      rcases List.mem_append.mp listed with keyword | symbol
      · have isWord := isWord_of_keyword _ keyword
        rw [String.toList_ofList] at isWord
        exact .word (.alone isWord)
          ⟨⟨fun _ => List.mem_map.mpr ⟨_, keyword, rfl⟩, fun _ => (keywords_kind_ne _ keyword).1⟩,
            fun _ => keyword⟩
      · exact .symbol symbol (.alone ⟨_, symbol, String.toList_ofList⟩)

/-- What follows a piece is nothing or starts with a mark. -/
theorem Piece.eq_nil_or_cons {pieces : List Piece} {last : List Char}
    (gaps : ∀ piece ∈ pieces, Gap piece.gap) (apart : ∀ piece ∈ pieces, piece.gap ≠ [])
    (ends : Gap last) :
    writeAll pieces ++ last = [] ∨
      ∃ first rest, writeAll pieces ++ last = first :: rest ∧ first ∈ marks := by
  cases pieces with
  | nil => exact ends.eq_nil_or_cons
  | cons piece pieces =>
      rcases (gaps piece (.head _)).eq_nil_or_cons with none | ⟨first, rest, same, mark⟩
      · exact absurd none (apart piece (.head _))
      · exact .inr ⟨first, _, by rw [writeAll, List.flatMap_cons, written, same]; rfl, mark⟩

/-- What is written is made up of the lexemes of its tokens. -/
theorem Piece.lexed {pieces : List Piece} {last : List Char} (before : List Char)
    (gaps : ∀ piece ∈ pieces, Gap piece.gap) (apart : ∀ piece ∈ pieces.tail, piece.gap ≠ [])
    (spells : ∀ piece ∈ pieces, Spells piece.kind piece.text) (ends : Gap last) :
    Lexed before (tokens before pieces) (writeAll pieces ++ last) [] := by
  induction pieces generalizing before with
  | nil =>
      have skipped : Lexed before [] (last ++ []) [] := ends.lexed .stop
      rwa [List.append_nil] at skipped
  | cons piece pieces induction =>
      obtain ⟨gap, gaps⟩ := List.forall_mem_cons.mp gaps
      obtain ⟨spell, spells⟩ := List.forall_mem_cons.mp spells
      have rest := induction (before ++ piece.written) gaps
        (fun piece member => apart piece (List.mem_of_mem_tail member)) spells
      have isLexeme : Lexeme piece.kind piece.text (piece.kind.write piece.text)
          (writeAll pieces ++ last) := by
        rcases eq_nil_or_cons gaps apart ends with none | ⟨first, more, same, mark⟩
        · rw [none]
          exact spell.lexeme
        · rw [same]
          exact spell.lexeme.before mark more
      rw [writeAll, List.flatMap_cons, written, List.append_assoc, List.append_assoc]
      refine gap.lexed (.token isLexeme ?_)
      rwa [List.append_assoc]

/-- Tokens that are written out with separators between them are read back, each on the line
that it was written on. -/
theorem lex_written {pieces : List Piece} {last : List Char}
    (gaps : ∀ piece ∈ pieces, Gap piece.gap) (apart : ∀ piece ∈ pieces.tail, piece.gap ≠ [])
    (spells : ∀ piece ∈ pieces, Spells piece.kind piece.text) (ends : Gap last) :
    lex (String.ofList (Piece.writeAll pieces ++ last)) =
      .ok (Piece.tokens [] pieces ++
        [endOfFile (1 + newlines (Piece.writeAll pieces ++ last))]) := by
  have lexed := Piece.lexed [] gaps apart spells ends
  have decomposition := Decomposition.whole lexed .none lexed.kind_ne
  rw [lex, String.toList_ofList]
  exact decomposition.lexFrom_eq

/-- A name, a comment over two lines, a symbol, a string over two lines and a keyword. -/
theorem lex_written_lines :
    lex "x $a\n$ <MINUS>\n\"b$\n\" in " =
      .ok [⟨.identifier, "x", 1⟩, ⟨.minus, "<MINUS>", 2⟩, ⟨.string, "b$\n", 3⟩,
        ⟨.inWord, "in", 4⟩, endOfFile 4] := by
  have blank : Gap [' '] := .more (.blank (by decide)) .none
  have newline : Gap ['\n'] := .more (.blank (by decide)) .none
  have note : Separator ('$' :: (['a', '\n'] ++ ['$'])) := .comment (by decide)
  have comment : Gap [' ', '$', 'a', '\n', '$', ' '] :=
    .more (.blank (by decide)) (.more note blank)
  have letter : Text.isAlphabetic 'x' = true := Text.isAlphabetic_of_isAlpha (by decide)
  let pieces : List Piece :=
    [⟨[], .identifier, ['x']⟩,
      ⟨[' ', '$', 'a', '\n', '$', ' '], .minus, ['<', 'M', 'I', 'N', 'U', 'S', '>']⟩,
      ⟨['\n'], .string, ['b', '$', '\n']⟩, ⟨[' '], .inWord, ['i', 'n']⟩]
  have gaps : ∀ piece ∈ pieces, Gap piece.gap := by
    simpa [pieces] using ⟨Gap.none, comment, newline, blank⟩
  have spells : ∀ piece ∈ pieces, Spells piece.kind piece.text := by
    simp only [pieces, List.forall_mem_cons]
    exact ⟨.name (.letters (.inl letter) (by simp)) (by decide), .listed (by decide),
      .string (by decide), .listed (by decide), List.forall_mem_nil _⟩
  have written := lex_written gaps (by simp [pieces]) spells blank
  have text : Piece.writeAll pieces ++ [' '] = "x $a\n$ <MINUS>\n\"b$\n\" in ".toList := by decide
  rw [text, String.ofList_toList] at written
  exact written

end Avenger.Token
