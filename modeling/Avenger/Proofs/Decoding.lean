import Avenger.Proofs.Lexing.Writing
import Avenger.Proofs.Lookahead
import Avenger.Proofs.Grammar.Expression

/-!
# Tokens that can be decoded

The tables that cut a text into tokens agree with those that read tokens: every number has a
value and every operator stands for one with its symbol, so no reader ever finds a number that
is invalid or an operator that is unknown.
-/

namespace Avenger

namespace Number.Numeral

open Token

/-- Digits are taken up to a character that is none. -/
theorem span_digits {digits rest : List Char} (isDigits : IsDigits digits)
    (apart : ∀ character ∈ rest.head?, character.isDigit = false) :
    (digits ++ rest).span Char.isDigit = (digits, rest) := by
  rw [List.span_eq_takeWhile_dropWhile, List.takeWhile_append_of_pos isDigits.2,
    List.dropWhile_append_of_pos isDigits.2]
  cases rest with
  | nil => simp
  | cons character rest => simp [apart character rfl]

theorem fraction_append {fractional exponent : List Char} (isFraction : IsFraction fractional)
    (isExponent : IsExponent exponent) :
    (fraction (fractional ++ exponent)).2 = exponent := by
  have apart : ∀ character ∈ exponent.head?, character.isDigit = false :=
    not_isDigit_of_mem_head? .none isExponent
  cases isFraction with
  | none =>
      cases isExponent with
      | none => rfl
      | digits marked _ _ =>
          simp only [List.mem_cons, List.not_mem_nil, or_false] at marked
          rcases marked with rfl | rfl <;> rfl
  | digits isDigits =>
      have spanned := span_digits isDigits apart
      rw [List.cons_append, fraction, spanned]

/-- A sign before digits, or none, is split off. -/
theorem sign_append {signed digits : List Char} (isSign : signed ∈ [[], ['+'], ['-']])
    (isDigits : IsDigits digits) : (sign (signed ++ digits)).2 = digits := by
  simp only [List.mem_cons, List.not_mem_nil, or_false] at isSign
  rcases isSign with rfl | rfl | rfl
  · obtain ⟨nonempty, allDigits⟩ := isDigits
    cases digits with
    | nil => contradiction
    | cons first digits =>
        have digit := allDigits first (.head _)
        rw [List.nil_append]
        unfold sign
        split
        · simp_all
        · simp_all
        · rfl
  · rfl
  · rfl

theorem exponent?_isSome {exponent : List Char} (isExponent : IsExponent exponent) :
    (exponent? exponent).isSome = true := by
  cases isExponent with
  | none => rfl
  | @digits mark signed digits marked isSign isDigits =>
      have split := sign_append isSign isDigits
      have all : digits.all Char.isDigit = true := List.all_eq_true.mpr isDigits.2
      simp only [List.mem_cons, List.not_mem_nil, or_false] at marked
      rw [exponent?]
      generalize sign (signed ++ digits) = parts at split
      obtain ⟨negative, rest⟩ := parts
      subst split
      simp [marked, all, isDigits.1]

theorem decimal?_isSome {characters : List Char} (isNumber : IsNumber characters) :
    (decimal? characters).isSome = true := by
  cases isNumber with
  | @parts whole fractional exponent isDigits isFraction isExponent =>
      have apart := not_isDigit_of_mem_head? isFraction isExponent
      have after := fraction_append isFraction isExponent
      have empty : whole.isEmpty = false := by simpa using isDigits.1
      rw [decimal?, span_digits isDigits apart]
      dsimp only
      generalize fraction (fractional ++ exponent) = parts at after
      obtain ⟨digits, left⟩ := parts
      subst after
      simp [empty, exponent?_isSome isExponent]

/-- A text that starts with a digit is no word in lower case that starts behind the digits. -/
theorem lower_ne_of_digit {first : Char} {rest : List Char} {word : String} (letter : Char)
    (digit : first.isDigit = true) (starts : letter ∈ word.toList.head?)
    (behind : 0x39 < letter.toNat) :
    (String.ofList ((first :: rest).map Char.toLower) == word) = false := by
  have most : first.toNat ≤ 0x39 := of_decide_eq_true ((Bool.and_eq_true _ _).mp digit).2
  have small : first.toLower = first := by
    refine dif_neg fun upper => ?_
    have least : 0x41 ≤ first.toNat := upper.1
    omega
  refine beq_eq_false_iff_ne.mpr fun same => ?_
  rw [← same, String.toList_ofList, List.map_cons, small] at starts
  obtain rfl : first = letter := by simpa using starts
  omega

/-- A text that starts with a digit has no sign and is none of the words for infinity and NaN. -/
theorem read?_of_digit {first : Char} {rest : List Char} (digit : first.isDigit = true) :
    read? (first :: rest) = (decimal? (first :: rest)).map (Decimal.toFloat false) := by
  have unsigned : sign (first :: rest) = (false, first :: rest) := by
    unfold sign
    split
    · simp_all
    · simp_all
    · rfl
  have inf : (String.ofList ((first :: rest).map Char.toLower) == "inf") = false :=
    lower_ne_of_digit 'i' digit (by decide) (by decide)
  have infinity : (String.ofList ((first :: rest).map Char.toLower) == "infinity") = false :=
    lower_ne_of_digit 'i' digit (by decide) (by decide)
  have nan : (String.ofList ((first :: rest).map Char.toLower) == "nan") = false :=
    lower_ne_of_digit 'n' digit (by decide) (by decide)
  unfold read?
  rw [unsigned]
  dsimp only
  rw [inf, infinity, nan]
  rfl

end Number.Numeral

/-- Every text with the pattern of numbers has a value. -/
theorem Number.ofText?_of_isNumber {text : String} (isNumber : Token.IsNumber text.toList) :
    ∃ value, Number.ofText? text = some value := by
  obtain ⟨first, rest, split, digit⟩ := isNumber.eq_cons
  rw [← Option.isSome_iff_exists, Number.ofText?, split, Numeral.read?_of_digit digit,
    Option.isSome_map, ← split]
  exact Numeral.decimal?_isSome isNumber

/-- What reading a token by its kind gives: the value of a number, or an operator with the
token's text as its symbol.  A connective may be written as a word, and an update has an equals
sign behind the symbol. -/
structure Token.Decodes (token : Token) : Prop where
  number : token.kind = .number → ∃ value, Number.ofText? token.text = some value
  arithmetic : token.kind = .arithmetic → ∃ operator : Arithmetic, token.text = operator.symbol ∧
    ∀ operators, Reader.arithmeticIn? operators token =
      if operator ∈ operators then some operator else none
  comparison : token.kind = .comparison → ∃ operator : Comparison,
    token.text = operator.symbol ∧ Comparison.ofSymbol? token.text = some operator
  connective : token.kind = .logical → ∃ operator : Connective,
    (token.text = operator.symbol ∨ token.text = operator.word) ∧
      Connective.ofSymbol? token.text = some operator
  update : token.kind = .compoundAssign → ∃ operator : Arithmetic,
    token.text = operator.symbol ++ "=" ∧ Reader.updateOperator? token.text = some operator

namespace Token

/-- The texts in the tables of words and symbols are those of operators. -/
theorem listed_spelled : ∀ entry ∈ keywords ++ symbols, entry.2 ≠ .number ∧
    (entry.2 = .arithmetic → entry.1 ∈ Arithmetic.all.map Arithmetic.symbol) ∧
    (entry.2 = .comparison → entry.1 ∈ Comparison.all.map Comparison.symbol) ∧
    (entry.2 = .logical →
      entry.1 ∈ Connective.all.map Connective.symbol ++ Connective.all.map Connective.word) ∧
    (entry.2 = .compoundAssign → entry.1 ∈ Arithmetic.all.map (·.symbol ++ "=")) := by
  decide +kernel

theorem decodes_of_listed {token : Token} (listed : (token.text, token.kind) ∈ keywords ++ symbols) :
    token.Decodes := by
  obtain ⟨number, arithmetic, comparison, connective, update⟩ := listed_spelled _ listed
  dsimp only at number arithmetic comparison connective update
  refine ⟨fun kind => absurd kind number, fun kind => ?_, fun kind => ?_, fun kind => ?_,
    fun kind => ?_⟩
  · obtain ⟨operator, -, same⟩ := List.mem_map.mp (arithmetic kind)
    refine ⟨operator, same.symm, fun operators => ?_⟩
    rw [Reader.arithmeticIn?, if_pos kind, ← same, operator.ofSymbol?_symbol]
    by_cases member : operator ∈ operators <;> simp [member]
  · obtain ⟨operator, -, same⟩ := List.mem_map.mp (comparison kind)
    exact ⟨operator, same.symm, same ▸ operator.ofSymbol?_symbol⟩
  · rcases List.mem_append.mp (connective kind) with symbol | word
    · obtain ⟨operator, -, same⟩ := List.mem_map.mp symbol
      exact ⟨operator, .inl same.symm, same ▸ operator.ofSymbol?_symbol⟩
    · obtain ⟨operator, -, same⟩ := List.mem_map.mp word
      exact ⟨operator, .inr same.symm, same ▸ operator.ofSymbol?_word⟩
  · obtain ⟨operator, -, same⟩ := List.mem_map.mp (update kind)
    refine ⟨operator, same.symm, same ▸ ?_⟩
    cases operator <;> decide

/-- A token that is neither a number nor an operator has nothing to be decoded. -/
theorem decodes_of_plain {token : Token}
    (plain : token.kind ∉ [Kind.number, .arithmetic, .comparison, .logical, .compoundAssign]) :
    token.Decodes := by
  simp only [List.mem_cons, List.not_mem_nil, or_false, not_or] at plain
  obtain ⟨number, arithmetic, comparison, connective, update⟩ := plain
  exact ⟨fun kind => absurd kind number, fun kind => absurd kind arithmetic,
    fun kind => absurd kind comparison, fun kind => absurd kind connective,
    fun kind => absurd kind update⟩

theorem Lexeme.decodes {kind : Kind} {text lexeme after : List Char}
    (isLexeme : Lexeme kind text lexeme after) (line : Nat) :
    Decodes ⟨kind, String.ofList text, line⟩ := by
  cases isLexeme with
  | string _ => exact decodes_of_plain (by simp)
  | number longest =>
      have isNumber : IsNumber (String.ofList text).toList := by
        rw [String.toList_ofList]
        exact longest.fits
      exact ⟨fun _ => Number.ofText?_of_isNumber isNumber, nofun, nofun, nofun, nofun⟩
  | word _ word =>
      by_cases name : kind = .identifier
      · subst name
        exact decodes_of_plain (by simp)
      · exact decodes_of_listed (List.mem_append_left _ (word.listed name))
  | symbol listed _ => exact decodes_of_listed (List.mem_append_right _ listed)

theorem Lexed.decodes {before characters left : List Char} {tokens : List Token}
    (lexed : Lexed before tokens characters left) : ∀ token ∈ tokens, token.Decodes := by
  induction lexed with
  | stop => exact List.forall_mem_nil _
  | skip _ _ induction => exact induction
  | token isLexeme _ induction =>
      exact List.forall_mem_cons.mpr ⟨isLexeme.decodes _, induction⟩

/-- A text has tokens that can be decoded, or it has a fault that is about no token. -/
theorem Decomposition.decodes {source : List Char} {result : Except SyntaxError (List Token)}
    (decomposition : Decomposition source result) :
    (∀ tokens, result = .ok tokens → ∀ token ∈ tokens, token.Decodes) ∧
      ∀ error, result = .error error →
        ∀ text, error.fault ≠ .invalidNumber text ∧ error.fault ≠ .unknownOperator text := by
  cases decomposition with
  | whole lexed _ _ =>
      refine ⟨?_, fun error failed => by cases failed⟩
      rintro _ ⟨⟩
      have ending (line : Nat) : Decodes (endOfFile line) :=
        decodes_of_plain (by simp [endOfFile])
      exact List.forall_mem_append.mpr
        ⟨lexed.decodes, List.forall_mem_singleton.mpr (ending _)⟩
  | broken _ offends =>
      refine ⟨fun tokens succeeded => (by cases succeeded), ?_⟩
      rintro _ ⟨⟩ text
      cases offends <;> constructor <;> intro same <;> cases same

end Token

/-- A number or an operator that can be decoded is never at fault. -/
theorem SyntaxFault.FoundAt.ne_of_decodes {fault : SyntaxFault} {token : Token}
    (found : fault.FoundAt token) (decodes : token.Decodes) (text : String) :
    fault ≠ .invalidNumber text ∧ fault ≠ .unknownOperator text := by
  cases found with
  | invalidNumber kind unreadable =>
      obtain ⟨value, read⟩ := decodes.number kind
      cases unreadable.symm.trans read
  | unknownComparison kind unknown =>
      obtain ⟨operator, -, read⟩ := decodes.comparison kind
      cases unknown.symm.trans read
  | unknownConnective kind unknown =>
      obtain ⟨operator, -, read⟩ := decodes.connective kind
      cases unknown.symm.trans read
  | unknownUpdate kind unknown =>
      obtain ⟨operator, -, read⟩ := decodes.update kind
      cases unknown.symm.trans read
  | _ => exact ⟨nofun, nofun⟩

/-- Every number and operator in the tokens of a text is decoded to what its text says, and no
text fails to be a program because of a number or an operator. -/
theorem Program.operators_and_numbers_decode (source : String) :
    (∀ tokens, Token.lex source = .ok tokens → ∀ token ∈ tokens, token.Decodes) ∧
      ∀ error, Program.ofSource source = .error error →
        ∀ text, error.fault ≠ .invalidNumber text ∧ error.fault ≠ .unknownOperator text := by
  obtain ⟨result, decomposition⟩ := Token.exists_decomposition source.toList
  have lexed : Token.lex source = result := decomposition.lexFrom_eq
  obtain ⟨decodes, noFault⟩ := decomposition.decodes
  unfold Program.ofSource
  rw [lexed]
  refine ⟨decodes, ?_⟩
  cases result with
  | error error =>
      rintro _ ⟨⟩
      exact noFault _ rfl
  | ok tokens =>
      intro error failed text
      obtain ⟨token, inside, found⟩ := Program.exists_found failed
      refine found.ne_of_decodes ?_ text
      rcases inside with member | ending
      · exact decodes tokens rfl token member
      · exact Token.decodes_of_plain (by simp [ending])

/-- A comparison without an operand on its left, a number, and an update on the next line. -/
theorem Program.operators_and_numbers_decode_row :
    let tokens : List Token :=
      [⟨.comparison, "<=", 1⟩, ⟨.number, "2.5e1", 1⟩, ⟨.compoundAssign, "^=", 2⟩,
        Token.endOfFile 2]
    Token.lex "<= 2.5e1\n^=" = .ok tokens ∧ (∀ token ∈ tokens, token.Decodes) ∧
      Program.ofSource "<= 2.5e1\n^=" = .error ⟨1, .unexpected "<="⟩ ∧
      SyntaxFault.unexpected "<=" ≠ .unknownOperator "<=" := by
  intro tokens
  have blank : Token.Gap [' '] := .more (.blank (by decide)) .none
  have newline : Token.Gap ['\n'] := .more (.blank (by decide)) .none
  have digits (digit : Char) (isDigit : digit.isDigit = true) : Token.IsDigits [digit] :=
    ⟨List.cons_ne_nil _ _, List.forall_mem_singleton.mpr isDigit⟩
  have number : Token.IsNumber ['2', '.', '5', 'e', '1'] :=
    .parts (digits '2' rfl) (.digits (digits '5' rfl))
      (@Token.IsExponent.digits 'e' [] _ (by decide) (by decide) (digits '1' rfl))
  let pieces : List Token.Piece :=
    [⟨[], .comparison, ['<', '=']⟩, ⟨[' '], .number, ['2', '.', '5', 'e', '1']⟩,
      ⟨['\n'], .compoundAssign, ['^', '=']⟩]
  have gaps : ∀ piece ∈ pieces, Token.Gap piece.gap := by
    simpa [pieces] using ⟨Token.Gap.none, blank, newline⟩
  have spells : ∀ piece ∈ pieces, Token.Spells piece.kind piece.text := by
    simp only [pieces, List.forall_mem_cons]
    exact ⟨.listed (by decide), .number number, .listed (by decide), List.forall_mem_nil _⟩
  have row : Token.Lexed [] [⟨.comparison, "<=", 1⟩, ⟨.number, "2.5e1", 1⟩,
      ⟨.compoundAssign, "^=", 2⟩] "<= 2.5e1\n^=".toList [] :=
    @Token.Piece.lexed pieces _ [] gaps (by simp [pieces]) spells .none
  have lexed : Token.lex "<= 2.5e1\n^=" = .ok tokens :=
    (Token.Decomposition.whole row .none row.kind_ne).lexFrom_eq
  have failed : Program.ofSource "<= 2.5e1\n^=" = .error ⟨1, .unexpected "<="⟩ := by
    unfold Program.ofSource
    rw [lexed]
    rfl
  obtain ⟨decodes, noFault⟩ := Program.operators_and_numbers_decode "<= 2.5e1\n^="
  exact ⟨lexed, decodes tokens lexed, failed, (noFault _ failed "<=").2⟩

end Avenger
