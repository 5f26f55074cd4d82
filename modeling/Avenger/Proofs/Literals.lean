import Avenger.Number.Layout
import Avenger.Proofs.Decoding
import Avenger.Proofs.Finite
import Avenger.Proofs.Joining
import Avenger.Proofs.Shortest

/-!
# Printed numbers are literals

A double that is not negative is printed as one token, in each of the forms that depend on its
magnitude, and that token is read as the double.  A negative one has a minus sign in front.
-/

namespace Avenger.Number

open Token

/-! ### Digits -/

theorem isDigits_digits (value : Nat) : IsDigits (Layout.digits value) := by
  constructor
  · exact Nat.toDigits_ne_nil
  · intro character member
    exact Nat.isDigit_of_mem_toDigits (by decide) (by decide) member

theorem ofDigits_digits (value : Nat) : ofDigits (Layout.digits value) = value :=
  Nat.ofDigitChars_ten_toDigits

theorem ofDigits_zeros (count : Nat) (characters : List Char) :
    ofDigits (List.replicate count '0' ++ characters) = ofDigits characters := by
  induction count with
  | zero => rfl
  | succ count induction =>
      rw [List.replicate_succ, List.cons_append]
      exact induction

theorem ofDigits_append_zeros (characters : List Char) (count : Nat) :
    ofDigits (characters ++ List.replicate count '0') = ofDigits characters * 10 ^ count := by
  induction count with
  | zero => simp
  | succ count induction =>
      have last (front : List Char) : ofDigits (front ++ ['0']) = ofDigits front * 10 := by
        simp [ofDigits, Nat.mul_comm]
      rw [List.replicate_succ', ← List.append_assoc, last, induction, Nat.pow_succ, Nat.mul_assoc]

/-! ### Numerals by their parts -/

/-- The digits of a fraction behind a point. -/
def pointed : List Char → List Char
  | [] => []
  | digits => '.' :: digits

theorem pointed_of_ne_nil {digits : List Char} (some : digits ≠ []) :
    pointed digits = '.' :: digits := by
  cases digits with
  | nil => exact absurd rfl some
  | cons first rest => rfl

theorem isFraction_pointed {digits : List Char}
    (isDigit : ∀ character ∈ digits, character.isDigit = true) : IsFraction (pointed digits) := by
  cases digits with
  | nil => exact .none
  | cons first rest => exact .digits ⟨List.cons_ne_nil _ _, isDigit⟩

namespace Numeral

/-- The digits of a fraction are taken up to the exponent. -/
theorem fraction_pointed {digits exponent : List Char}
    (isDigit : ∀ character ∈ digits, character.isDigit = true) (isExponent : IsExponent exponent) :
    fraction (pointed digits ++ exponent) = (digits, exponent) := by
  cases digits with
  | nil =>
      cases isExponent with
      | none => rfl
      | digits marked _ _ =>
          simp only [List.mem_cons, List.not_mem_nil, or_false] at marked
          rcases marked with rfl | rfl <;> rfl
  | cons first rest =>
      have apart : ∀ character ∈ exponent.head?, character.isDigit = false :=
        not_isDigit_of_mem_head? .none isExponent
      exact span_digits ⟨List.cons_ne_nil _ _, isDigit⟩ apart

/-- The decimal that a numeral is read as, by the parts of the numeral. -/
theorem decimal?_parts {whole digits exponent : List Char} {power : Int}
    (isDigits : IsDigits whole) (isDigit : ∀ character ∈ digits, character.isDigit = true)
    (isExponent : IsExponent exponent) (read : exponent? exponent = some power) :
    decimal? (whole ++ (pointed digits ++ exponent)) =
      some ⟨ofDigits (whole ++ digits), power - digits.length⟩ := by
  have apart := not_isDigit_of_mem_head? (isFraction_pointed isDigit) isExponent
  have empty : whole.isEmpty = false := by simpa using isDigits.1
  rw [decimal?, span_digits isDigits apart]
  dsimp only
  rw [fraction_pointed isDigit isExponent]
  simp [empty, read]

theorem exponent?_nil : exponent? [] = some 0 :=
  rfl

/-- A signed exponent is read back. -/
theorem exponent?_digits (power : Int) :
    let sign := if 0 ≤ power then '+' else '-'
    IsExponent ('e' :: sign :: Layout.digits power.natAbs) ∧
      exponent? ('e' :: sign :: Layout.digits power.natAbs) = some power := by
  have isDigits := isDigits_digits power.natAbs
  have all : (Layout.digits power.natAbs).all Char.isDigit = true :=
    List.all_eq_true.mpr isDigits.2
  have some : (Layout.digits power.natAbs).isEmpty = false := by simpa using isDigits.1
  intro sign
  constructor
  · change IsExponent ('e' :: ([sign] ++ Layout.digits power.natAbs))
    refine .digits (by simp) ?_ isDigits
    simp only [sign]
    split <;> simp
  · simp only [sign]
    split
    · next positive =>
        simp [exponent?, Numeral.sign, all, some, ofDigits_digits, abs_of_nonneg positive]
    · next negative =>
        simp [exponent?, Numeral.sign, all, some, ofDigits_digits,
          abs_of_neg (lt_of_not_ge negative)]

end Numeral

/-! ### The forms of a decimal -/

/-- A text that is one number token and is read as a decimal with a value. -/
structure Names (text : List Char) (value : ℚ) : Prop where
  isNumber : IsNumber text
  reads : ∃ decimal, Numeral.decimal? text = some decimal ∧ decimal.value = value

theorem names_parts {whole digits exponent : List Char} {power : Int}
    (isDigits : IsDigits whole) (isDigit : ∀ character ∈ digits, character.isDigit = true)
    (isExponent : IsExponent exponent) (read : Numeral.exponent? exponent = some power) :
    Names (whole ++ (pointed digits ++ exponent))
      (ofDigits (whole ++ digits) * 10 ^ (power - digits.length)) := by
  constructor
  · exact .parts isDigits (isFraction_pointed isDigit) isExponent
  · exact ⟨_, Numeral.decimal?_parts isDigits isDigit isExponent read, rfl⟩

/-- Digits with a point behind some of them. -/
theorem names_split {written exponent : List Char} {power : Int} {places : Nat}
    (isDigits : IsDigits written) (some : places < written.length)
    (isExponent : IsExponent exponent) (read : Numeral.exponent? exponent = .some power) :
    Names (written.take (written.length - places) ++
        (pointed (written.drop (written.length - places)) ++ exponent))
      (ofDigits written * 10 ^ (power - places)) := by
  have length : (written.drop (written.length - places)).length = places := by
    rw [List.length_drop]
    omega
  have before : written.take (written.length - places) ≠ [] := by
    rw [← List.length_pos_iff, List.length_take]
    omega
  have behind : ∀ character ∈ written.drop (written.length - places),
      character.isDigit = true := by
    intro character member
    exact isDigits.2 character (List.mem_of_mem_drop member)
  have named := names_parts
    ⟨before, fun character member => isDigits.2 character (List.mem_of_mem_take member)⟩
    behind isExponent read
  rwa [List.take_append_drop, length] at named

theorem isDigit_zeros (count : Nat) :
    ∀ character ∈ List.replicate count '0', character.isDigit = true := by
  simp +contextual

/-- Digits with zeros behind them. -/
theorem names_zeros {written : List Char} (isDigits : IsDigits written) (zeros : Nat) :
    Names (written ++ List.replicate zeros '0') (ofDigits written * 10 ^ zeros) := by
  have whole : IsDigits (written ++ List.replicate zeros '0') :=
    ⟨by simp [isDigits.1], List.forall_mem_append.mpr ⟨isDigits.2, isDigit_zeros zeros⟩⟩
  have named := names_parts whole (List.forall_mem_nil _) .none Numeral.exponent?_nil
  simpa [pointed, ofDigits_append_zeros] using named

/-- Digits behind a point, and behind zeros if there are fewer digits than places. -/
theorem names_point {written : List Char} {places : Nat} (isDigits : IsDigits written)
    (many : written.length ≤ places) :
    Names ('0' :: '.' :: (List.replicate (places - written.length) '0' ++ written))
      (ofDigits written * 10 ^ (-(places : Int))) := by
  have fraction := List.forall_mem_append.mpr
    ⟨isDigit_zeros (places - written.length), isDigits.2⟩
  have length : (List.replicate (places - written.length) '0' ++ written).length = places := by
    rw [List.length_append, List.length_replicate]
    omega
  have behind : List.replicate (places - written.length) '0' ++ written ≠ [] := by
    simp [isDigits.1]
  have zero : IsDigits ['0'] := ⟨List.cons_ne_nil _ _, List.forall_mem_singleton.mpr rfl⟩
  have named := names_parts zero fraction .none Numeral.exponent?_nil
  have value : ofDigits (['0'] ++ (List.replicate (places - written.length) '0' ++ written)) =
      ofDigits written := by
    rw [← List.append_assoc, List.singleton_append, ← List.replicate_succ, ofDigits_zeros]
  rwa [value, length, Int.zero_sub, List.append_nil, pointed_of_ne_nil behind] at named

namespace Layout

/-- A decimal is written by position in one of three forms, which all name it. -/
theorem names_positionalText (decimal : Decimal) :
    Names (positionalText decimal) decimal.value := by
  have isDigits := isDigits_digits decimal.coefficient
  have value := ofDigits_digits decimal.coefficient
  unfold positionalText Decimal.value
  dsimp only
  generalize digits decimal.coefficient = written at isDigits value ⊢
  rw [← value]
  split
  · next whole =>
      rw [zpow_of_not_neg 10 (by omega)]
      exact names_zeros isDigits decimal.exponent.toNat
  · next fractional =>
      have unit : decimal.exponent = -((-decimal.exponent).toNat : Int) := by omega
      generalize (-decimal.exponent).toNat = places at unit ⊢
      rw [unit]
      split
      · next few =>
          have behind : written.drop (written.length - places) ≠ [] := by
            rw [← List.length_pos_iff, List.length_drop]
            omega
          have named := names_split isDigits few .none Numeral.exponent?_nil
          rwa [Int.zero_sub, List.append_nil, pointed_of_ne_nil behind] at named
      · next many => exact names_point isDigits (Nat.le_of_not_lt many)

/-- A decimal is written with an exponent for its leading digit, and that names it. -/
theorem names_exponentText (decimal : Decimal) : Names (exponentText decimal) decimal.value := by
  obtain ⟨isExponent, read⟩ := Numeral.exponent?_digits (leadingExponent decimal)
  have isDigits := isDigits_digits decimal.coefficient
  have value := ofDigits_digits decimal.coefficient
  have some : 0 < (digits decimal.coefficient).length := List.length_pos_iff.mpr isDigits.1
  have unit : leadingExponent decimal - ((digits decimal.coefficient).length - 1 : Nat) =
      decimal.exponent := by
    unfold leadingExponent
    omega
  have one : (digits decimal.coefficient).length - ((digits decimal.coefficient).length - 1) =
      1 := by
    omega
  have named := names_split isDigits (Nat.sub_lt some one_pos) isExponent read
  rw [one, value, unit, ← List.append_assoc] at named
  exact named

theorem names_decimalText (layout : Layout) (decimal : Decimal) :
    Names (layout.decimalText decimal) decimal.value := by
  unfold decimalText
  split
  · exact names_positionalText decimal
  · dsimp only
    split
    · exact names_positionalText decimal
    · exact names_exponentText decimal

end Layout

/-! ### Printed doubles -/

/-- A text that names a decimal which rounds to a double is read as the double. -/
theorem ofText?_of_names {text : List Char} {value : ℚ} {significand : Nat} {exponent : Int}
    (names : Names text value) (canonical : Canonical significand exponent)
    (rounds : RoundsTo significand exponent value) :
    ofText? (String.ofList text) =
      some (ofMagnitude false ((exponent - leastExponent).toNat * 2 ^ 52 + significand)) := by
  obtain ⟨decimal, read, rfl⟩ := names.reads
  obtain ⟨first, rest, split, digit⟩ := names.isNumber.eq_cons
  rw [ofText?, String.toList_ofList, split, Numeral.read?_of_digit digit, ← split, read,
    Option.map_some, Decimal.toFloat_of_roundsTo false canonical rounds]

/-- What is printed of a finite double. -/
theorem characters_of_decode {number : Float} {negative : Bool} {significand : Nat}
    {exponent : Int} (decoded : decode number = .finite negative significand exponent) :
    Layout.script.characters number =
      if significand = 0 then ['0']
      else (if negative then ['-'] else []) ++
        Layout.script.decimalText (Decimal.shortest significand exponent) := by
  unfold Layout.characters
  rw [decoded]
  cases significand with
  | zero => simp [Layout.script]
  | succ significand => cases negative <;> simp

/-- The text of a double that is not negative is one number, which is read as the double. -/
theorem scriptText_reads {number : Float} (finite : number.isFinite = true) (least : 0 ≤ number) :
    IsNumber (scriptText number).toList ∧
      ofText? (scriptText number) = some (if number == 0 then 0 else number) := by
  obtain ⟨negative, significand, exponent, decoded⟩ := decode_of_isFinite finite
  rw [beq_zero_eq decoded, scriptText, Layout.text, characters_of_decode decoded,
    String.toList_ofList]
  by_cases zero : significand = 0
  · have digit : IsDigits ['0'] := ⟨List.cons_ne_nil _ _, List.forall_mem_singleton.mpr rfl⟩
    simp only [zero, if_true, decide_true]
    constructor
    · exact (.parts digit .none .none : IsNumber (['0'] ++ ([] ++ [])))
    · rfl
  · obtain rfl := ((zero_le_iff decoded).mp least).resolve_left zero
    have canonical := canonical_of_decode decoded (Nat.pos_of_ne_zero zero)
    have names := Layout.script.names_decimalText (Decimal.shortest significand exponent)
    have read := ofText?_of_names names canonical (Decimal.shortest_roundsTo canonical)
    rw [← eq_ofMagnitude decoded] at read
    simpa [zero] using ⟨names.isNumber, read⟩

/-- The text of a negative double is that of its absolute value behind a minus sign. -/
theorem scriptText_of_lt {number : Float} (finite : number.isFinite = true) (less : number < 0) :
    scriptText number = "-" ++ scriptText number.abs := by
  obtain ⟨negative, significand, exponent, decoded⟩ := decode_of_isFinite finite
  obtain ⟨some, rfl⟩ := (lt_zero_iff decoded).mp less
  rw [scriptText, scriptText, Layout.text, Layout.text, characters_of_decode decoded,
    characters_of_decode (decode_abs decoded), if_neg some, if_neg some]
  simp

end Avenger.Number

namespace Avenger

namespace Token

variable {text : List Char}

theorem IsNumber.digit_or_mem (isNumber : IsNumber text) :
    ∀ character ∈ text, character.isDigit = true ∨ character ∈ ['.', 'e', 'E', '+', '-'] := by
  obtain @⟨whole, fraction, exponent, isDigits, isFraction, isExponent⟩ := isNumber
  have inFraction : ∀ character ∈ fraction,
      character.isDigit = true ∨ character ∈ ['.', 'e', 'E', '+', '-'] := by
    cases isFraction with
    | none => exact List.forall_mem_nil _
    | digits digits =>
        exact List.forall_mem_cons.mpr
          ⟨.inr (by decide), fun character member => .inl (digits.2 character member)⟩
  have inExponent : ∀ character ∈ exponent,
      character.isDigit = true ∨ character ∈ ['.', 'e', 'E', '+', '-'] := by
    cases isExponent with
    | none => exact List.forall_mem_nil _
    | @digits mark sign _ marked signed digits =>
        have signs : ∀ character ∈ sign, character ∈ ['.', 'e', 'E', '+', '-'] := by
          revert sign
          simp
        have letters : mark ∈ ['.', 'e', 'E', '+', '-'] := by
          revert mark
          simp
        refine List.forall_mem_cons.mpr ⟨.inr letters, List.forall_mem_append.mpr ⟨?_, ?_⟩⟩
        · exact fun character member => .inr (signs character member)
        · exact fun character member => .inl (digits.2 character member)
  refine List.forall_mem_append.mpr ⟨?_, List.forall_mem_append.mpr ⟨inFraction, inExponent⟩⟩
  exact fun character member => .inl (isDigits.2 character member)

theorem IsNumber.newlines_eq (isNumber : IsNumber text) : newlines text = 0 :=
  List.count_eq_zero.mpr fun member => isNumber.not_mem_marks '\n' member (by decide)

/-- A number alone is one token. -/
theorem IsNumber.lex_eq (isNumber : IsNumber text) :
    lex (String.ofList text) = .ok [⟨.number, String.ofList text, 1⟩, endOfFile 1] := by
  have lexeme : Lexeme .number text text [] := .number (.alone isNumber)
  have lexed : Lexed [] [⟨.number, String.ofList text, 1⟩] (text ++ []) [] := .token lexeme .stop
  rw [List.append_nil, ← String.toList_ofList (l := text)] at lexed
  have whole := lexed.lex_eq
  rwa [String.toList_ofList, isNumber.newlines_eq] at whole

/-- A number before a semicolon is one token, and the semicolon another one. -/
theorem IsNumber.lex_semicolon (isNumber : IsNumber text) :
    lex (String.ofList text ++ ";") =
      .ok [⟨.number, String.ofList text, 1⟩, ⟨.semicolon, ";", 1⟩, endOfFile 1] := by
  have apart : ∀ other, IsNumber other → ';' ∉ other := by
    intro other fits member
    exact absurd (fits.digit_or_mem ';' member) (by decide)
  have first : Lexeme .number text text ([] ++ ';' :: []) :=
    .number ((Longest.alone isNumber).before apart [])
  have second : Lexeme .semicolon [';'] [';'] [] :=
    .symbol (by decide) (.alone ⟨(";", .semicolon), by decide, rfl⟩)
  have behind : Lexed text [⟨.semicolon, ";", 1 + newlines text⟩] ([';'] ++ []) [] :=
    .token second .stop
  have lexed : Lexed [] [⟨.number, String.ofList text, 1⟩, ⟨.semicolon, ";", 1 + newlines text⟩]
      (text ++ [';']) [] :=
    .token first behind
  have source : text ++ [';'] = (String.ofList text ++ ";").toList := by simp
  have lines : newlines (text ++ [';']) = newlines text := by
    rw [newlines_append]
    rfl
  rw [source] at lexed
  have whole := lexed.lex_eq
  rwa [← source, lines, isNumber.newlines_eq] at whole

end Token

/-- A number token is read as the double that its text names. -/
theorem Reader.primary_number {inner operand : Reader Expr} {setting : Setting}
    {text : String} {value : Float} (read : Number.ofText? text = some value) (line : Nat)
    (rest : List Token) :
    primary inner operand setting (⟨.number, text, line⟩ :: rest) = .ok (.number value, rest) := by
  unfold primary
  rw [peek_bind]
  dsimp only [List.headD_cons]
  rw [advance_bind, read]
  rfl

/-- A number before a semicolon is a program. -/
theorem Program.ofTokens_number {text : String} {value : Float}
    (read : Number.ofText? text = some value) :
    Program.ofTokens [⟨.number, text, 1⟩, ⟨.semicolon, ";", 1⟩, Token.endOfFile 1] =
      .ok [.mk 1 (.expression (.number value))] := by
  let program : Program := [.mk 1 (.expression (.number value))]
  have printed : program.Printed false [⟨.number, text, 1⟩, ⟨.semicolon, ";", 1⟩] :=
    .cons ⟨rfl, read, trivial, rfl⟩ (.cons ⟨rfl, trivial, trivial⟩ .nil)
  have complete : Stmt.ListComplete program := ⟨trivial, trivial⟩
  have ends : ∀ token ∈ [Token.endOfFile 1].head?, token.kind = .endOfFile := by
    simp [Token.endOfFile]
  have ran := Reader.run_printed complete printed ends
  simp only [List.cons_append, List.nil_append] at ran
  unfold Program.ofTokens
  rw [ran]

namespace Number

variable {number : Float}

/-- A finite double that is not negative is printed as one token, which the readers take for
that double, with one zero for both zeros; before a semicolon it is a program.  A negative one
is printed with a minus sign before its absolute value. -/
theorem printed_numbers_read_back (finite : number.isFinite = true) :
    (0 ≤ number →
      let text := scriptText number
      let value := if number == 0 then 0 else number
      Token.lex text = .ok [⟨.number, text, 1⟩, Token.endOfFile 1] ∧
      (∀ (inner operand : Reader Expr) (setting : Reader.Setting) (line : Nat)
        (rest : List Token),
        Reader.primary inner operand setting (⟨.number, text, line⟩ :: rest) =
          .ok (.number value, rest)) ∧
      Program.ofSource (text ++ ";") = .ok [.mk 1 (.expression (.number value))]) ∧
    (number < 0 → scriptText number = "-" ++ scriptText number.abs) := by
  constructor
  · intro least text value
    obtain ⟨isNumber, read⟩ := scriptText_reads finite least
    have whole := isNumber.lex_eq
    have ended := isNumber.lex_semicolon
    rw [String.ofList_toList] at whole ended
    refine ⟨whole, ?_, ?_⟩
    · intro inner operand setting line rest
      exact Reader.primary_number read line rest
    · unfold Program.ofSource
      rw [ended]
      exact Program.ofTokens_number read
  · exact scriptText_of_lt finite

/-- The first double with an exponent, and a small one below zero. -/
theorem printed_numbers_read_back_exponents :
    (scriptText 1e21 = "1e+21" ∧ scriptText (-1.5e-7) = "-1.5e-7") ∧
      Token.lex "1e+21" = .ok [⟨.number, "1e+21", 1⟩, Token.endOfFile 1] ∧
      Program.ofSource "1e+21;" = .ok [.mk 1 (.expression (.number 1e21))] ∧
      scriptText (-1.5e-7) = "-" ++ scriptText (-1.5e-7 : Float).abs := by
  have large : scriptText 1e21 = "1e+21" := by decide +kernel
  have small : scriptText (-1.5e-7) = "-1.5e-7" := by decide +kernel
  have other : ((1e21 : Float) == 0) = false := by decide +kernel
  have finite : (1e21 : Float).isFinite = true := rfl
  have positive : (0 : Float) ≤ 1e21 := by decide +kernel
  have finite' : (-1.5e-7 : Float).isFinite = true := rfl
  have negative : (-1.5e-7 : Float) < 0 := by decide +kernel
  obtain ⟨lexed, -, read⟩ := (printed_numbers_read_back finite).1 positive
  have signed := (printed_numbers_read_back finite').2 negative
  rw [large] at lexed read
  rw [other] at read
  exact ⟨⟨large, small⟩, lexed, read, signed⟩

end Number

end Avenger
