import Avenger.SyntaxError
import Avenger.Text.Letter

/-!
# From characters to tokens

`Token.lex` reads a text from left to right.  At each place `Token.cut` takes the longest
gap, string, number, word or symbol off the front, whose rest is always shorter, so the
reading ends.  Every token is labelled with the number of newlines before it plus one.
-/

namespace Avenger.Token

/-- A sign, if there is one, and what stands after it. -/
def takeSign : List Char → List Char × List Char
  | '+' :: rest => (['+'], rest)
  | '-' :: rest => (['-'], rest)
  | characters => ([], characters)

/-- An exponent mark with its digits, if there are any. -/
def takeExponent : List Char → List Char × List Char
  | [] => ([], [])
  | mark :: rest =>
      let signed := takeSign rest
      let digits := signed.2.takeWhile Char.isDigit
      if (mark == 'e' || mark == 'E') && !digits.isEmpty then
        (mark :: (signed.1 ++ digits), signed.2.dropWhile Char.isDigit)
      else ([], mark :: rest)

/-- A point and the digits after it, if there are any. -/
def takeFraction : List Char → List Char × List Char
  | [] => ([], [])
  | point :: rest =>
      let digits := rest.takeWhile Char.isDigit
      if point == '.' && !digits.isEmpty then (point :: digits, rest.dropWhile Char.isDigit)
      else ([], point :: rest)

/-- The longest number at the front: digits, a point with digits, and an exponent, of which
only the first digits are required. -/
def takeNumber (characters : List Char) : List Char × List Char :=
  let whole := characters.takeWhile Char.isDigit
  if whole.isEmpty then ([], characters)
  else
    let fraction := takeFraction (characters.dropWhile Char.isDigit)
    let exponent := takeExponent fraction.2
    (whole ++ (fraction.1 ++ exponent.1), exponent.2)

/-- Whether a word can start with the character. -/
def startsWord (character : Char) : Bool := Text.isAlphabetic character || character == '_'

/-- Whether a word can go on with the character. -/
def continuesWord (character : Char) : Bool := startsWord character || character.isDigit

/-- The longest word at the front. -/
def takeWord : List Char → List Char × List Char
  | [] => ([], [])
  | first :: rest =>
      if startsWord first then
        (first :: rest.takeWhile continuesWord, rest.dropWhile continuesWord)
      else ([], first :: rest)

/-- The first symbol of the table that the characters start with. -/
def symbol? (characters : List Char) : Option (String × Kind) :=
  symbols.find? fun entry => entry.1.toList.isPrefixOf characters

/-- What stands at the front of a text. -/
inductive Cut where
  /-- Nothing: the text is empty. -/
  | finished
  /-- Characters that separate tokens. -/
  | gap (skipped rest : List Char)
  /-- A token, whose text may have newlines in it. -/
  | token (kind : Kind) (text rest : List Char)
  /-- Nothing that can stand there. -/
  | fault (fault : SyntaxFault)

/-- A comment after its opening sign; it goes on to the end if it is not closed. -/
def cutComment (afterSign : List Char) : Cut :=
  let text := afterSign.takeWhile (· != '$')
  match afterSign.dropWhile (· != '$') with
  | [] => .gap ('$' :: text) []
  | close :: rest => .gap ('$' :: (text ++ [close])) rest

/-- A string after its opening quote. -/
def cutString (afterQuote : List Char) : Cut :=
  match afterQuote.dropWhile (· != '"') with
  | [] => .fault .unterminatedString
  | _ :: rest => .token .string (afterQuote.takeWhile (· != '"')) rest

/-- A number, word or symbol; `first` is the first of the characters. -/
def cutLexeme (first : Char) (characters : List Char) : Cut :=
  match takeNumber characters with
  | (text@(_ :: _), rest) => .token .number text rest
  | ([], _) =>
      match takeWord characters with
      | (text@(_ :: _), rest) => .token (kindOfWord (String.ofList text)) text rest
      | ([], _) =>
          match symbol? characters with
          | some (text, kind) => .token kind text.toList (characters.drop text.length)
          | none => .fault (.unrecognized first)

/-- Takes the next gap or token off the front. -/
def cut : List Char → Cut
  | [] => .finished
  | first :: rest =>
      if first == '\n' || first == ' ' || first == '\t' || first == '\r' then .gap [first] rest
      else if first == '$' then cutComment rest
      else if first == '"' then cutString rest
      else cutLexeme first (first :: rest)

/-- The number of newlines in a text. -/
def newlines (characters : List Char) : Nat := characters.count '\n'

/-- What a cut leaves, if it leaves anything to go on with. -/
def Cut.rest? : Cut → Option (List Char)
  | .gap _ rest => some rest
  | .token _ _ rest => some rest
  | _ => none

/-- A sign and what stands after it make up the characters. -/
theorem takeSign_append (characters : List Char) :
    (takeSign characters).1 ++ (takeSign characters).2 = characters := by
  unfold takeSign
  split <;> rfl

/-- An exponent and what stands after it make up the characters. -/
theorem takeExponent_append (characters : List Char) :
    (takeExponent characters).1 ++ (takeExponent characters).2 = characters := by
  cases characters with
  | nil => rfl
  | cons mark rest =>
      simp only [takeExponent]
      split
      · simp [takeSign_append]
      · rfl

/-- A fraction and what stands after it make up the characters. -/
theorem takeFraction_append (characters : List Char) :
    (takeFraction characters).1 ++ (takeFraction characters).2 = characters := by
  cases characters with
  | nil => rfl
  | cons point rest =>
      simp only [takeFraction]
      split
      · simp
      · rfl

/-- A number and what stands after it make up the characters. -/
theorem takeNumber_append (characters : List Char) :
    (takeNumber characters).1 ++ (takeNumber characters).2 = characters := by
  simp only [takeNumber]
  split
  · rfl
  · simp [takeExponent_append, takeFraction_append]

/-- A word and what stands after it make up the characters. -/
theorem takeWord_append (characters : List Char) :
    (takeWord characters).1 ++ (takeWord characters).2 = characters := by
  cases characters with
  | nil => rfl
  | cons first rest =>
      simp only [takeWord]
      split
      · simp
      · rfl

/-- No symbol is empty. -/
theorem symbols_ne_empty : ∀ entry ∈ symbols, 0 < entry.1.length := by decide

/-- A symbol that is found stands at the front and has characters. -/
theorem symbol?_eq_some {characters : List Char} {entry : String × Kind}
    (found : symbol? characters = some entry) :
    entry.1.toList ++ characters.drop entry.1.length = characters ∧ 0 < entry.1.length := by
  have atFront := List.find?_some found
  simp only [List.isPrefixOf_iff_prefix] at atFront
  obtain ⟨rest, whole⟩ := atFront
  refine ⟨?_, symbols_ne_empty entry (List.mem_of_find?_eq_some found)⟩
  rw [← whole, ← String.length_toList, List.drop_left]

/-- Every lexeme that is taken off the front has characters. -/
theorem cutLexeme_rest_length {first : Char} {characters rest : List Char}
    (left : (cutLexeme first characters).rest? = some rest) :
    rest.length < characters.length := by
  unfold cutLexeme at left
  split at left
  · rename_i number
    have whole := congrArg List.length (takeNumber_append characters)
    simp only [number] at whole
    simp only [Cut.rest?, Option.some.injEq] at left
    simp_all
    omega
  · split at left
    · rename_i word
      have whole := congrArg List.length (takeWord_append characters)
      simp only [word] at whole
      simp only [Cut.rest?, Option.some.injEq] at left
      simp_all
      omega
    · split at left
      · rename_i symbol
        obtain ⟨whole, positive⟩ := symbol?_eq_some symbol
        have present := congrArg List.length whole
        simp only [Cut.rest?, Option.some.injEq] at left
        subst left
        simp only [List.length_append, String.length_toList, List.length_drop] at present positive ⊢
        omega
      · simp [Cut.rest?] at left

/-- What a cut leaves is shorter than what it was taken from. -/
theorem cut_rest_length {characters rest : List Char}
    (left : (cut characters).rest? = some rest) : rest.length < characters.length := by
  cases characters with
  | nil => simp [cut, Cut.rest?] at left
  | cons first after =>
      have drops (test : Char → Bool) : (after.dropWhile test).length ≤ after.length :=
        (List.dropWhile_suffix test).length_le
      simp only [cut] at left
      split at left
      · simp_all [Cut.rest?]
      · split at left
        · simp only [cutComment] at left
          split at left
          · simp_all [Cut.rest?]
          · rename_i remaining
            have shorter := drops (· != '$')
            simp_all [Cut.rest?]
            omega
        · split at left
          · simp only [cutString] at left
            split at left
            · simp [Cut.rest?] at left
            · rename_i remaining
              have shorter := drops (· != '"')
              simp_all [Cut.rest?]
              omega
          · exact cutLexeme_rest_length left

/-- Reads tokens from the front of a text that starts on the given line; `done` holds the
tokens read before, the last one first. -/
def lexFrom (line : Nat) (done : List Token) (characters : List Char) :
    Except SyntaxError (List Token) :=
  match _taken : cut characters with
  | .finished => .ok (endOfFile line :: done).reverse
  | .gap skipped rest => lexFrom (line + newlines skipped) done rest
  | .token kind text rest =>
      lexFrom (line + newlines text) (⟨kind, String.ofList text, line⟩ :: done) rest
  | .fault fault => .error ⟨line, fault⟩
termination_by characters.length
decreasing_by
  · exact cut_rest_length (by rw [_taken]; rfl)
  · exact cut_rest_length (by rw [_taken]; rfl)

/-- Splits a text into tokens.  The last token, and only that, is an end of file. -/
def lex (source : String) : Except SyntaxError (List Token) := lexFrom 1 [] source.toList

end Avenger.Token
