import Mathlib.Data.List.Nodup
import Avenger.Proofs.Lexing.Pattern

/-!
# What the tokens of a text are

A text is a row of lexemes with separators between them.  `Decomposition` says this without
the functions that cut a text, for texts that have tokens and for texts that do not;
`lex_eq_iff` states that reading a text finds its only decomposition.
-/

namespace Avenger.Token

/-- What can stand between tokens: single blanks and comments that are closed. -/
inductive Separator : List Char → Prop where
  | blank {character : Char} :
      character ∈ ['\n', ' ', '\t', '\r'] → Separator [character]
  | comment {text : List Char} : '$' ∉ text → Separator ('$' :: (text ++ ['$']))

/-- A comment that is not closed, or nothing. -/
inductive Unclosed : List Char → Prop where
  | none : Unclosed []
  | comment {text : List Char} : '$' ∉ text → Unclosed ('$' :: text)

/-- A word has a kind of its own exactly when the table of keywords gives it that kind. -/
structure KeywordOrName (word : String) (kind : Kind) : Prop where
  keyword_iff : kind ≠ .identifier ↔ word ∈ keywords.map Prod.fst
  listed : kind ≠ .identifier → (word, kind) ∈ keywords

/-- `Lexeme kind text lexeme after`: before the characters `after`, the lexeme is that of a
token of the kind with the text. -/
inductive Lexeme : Kind → List Char → List Char → List Char → Prop where
  | string {text after : List Char} :
      '"' ∉ text → Lexeme .string text ('"' :: (text ++ ['"'])) after
  | number {text after : List Char} :
      Longest IsNumber text after → Lexeme .number text text after
  | word {kind : Kind} {text after : List Char} :
      Longest IsWord text after → KeywordOrName (String.ofList text) kind →
      Lexeme kind text text after
  | symbol {kind : Kind} {text after : List Char} :
      (String.ofList text, kind) ∈ symbols → Longest IsSymbol text after →
      Lexeme kind text text after

/-- `Lexed before tokens characters left`: the characters, which follow `before`, are the
lexemes of the tokens in order with separators around them, up to the characters `left`. -/
inductive Lexed : List Char → List Token → List Char → List Char → Prop where
  | stop {before left : List Char} : Lexed before [] left left
  | skip {before separator rest left : List Char} {tokens : List Token} :
      Separator separator → Lexed (before ++ separator) tokens rest left →
      Lexed before tokens (separator ++ rest) left
  | token {before text lexeme after left : List Char} {kind : Kind} {tokens : List Token} :
      Lexeme kind text lexeme after → Lexed (before ++ lexeme) tokens after left →
      Lexed before (⟨kind, String.ofList text, 1 + newlines before⟩ :: tokens)
        (lexeme ++ after) left

/-- Why nothing can be read at a character with the characters `after` it: a quote that has
no partner, or nothing that can stand there. -/
inductive Offends : SyntaxFault → Char → List Char → Prop where
  | quote {after : List Char} : '"' ∉ after → Offends .unterminatedString '"' after
  | stray {character : Char} {after : List Char} :
      character ∉ marks →
      (∀ text, IsNumber text ∨ IsWord text ∨ IsSymbol text → ¬ text <+: character :: after) →
      Offends (.unrecognized character) character after

/-- How a text is made up: of the lexemes of all its tokens, with an end of file on the last
line, or of lexemes up to a character that offends. -/
inductive Decomposition : List Char → Except SyntaxError (List Token) → Prop where
  | whole {source left : List Char} {tokens : List Token} :
      Lexed [] tokens source left → Unclosed left → (∀ token ∈ tokens, token.kind ≠ .endOfFile) →
      Decomposition source (.ok (tokens ++ [endOfFile (1 + newlines source)]))
  | broken {before after : List Char} {offending : Char} {tokens : List Token}
      {fault : SyntaxFault} :
      Lexed [] tokens (before ++ offending :: after) (offending :: after) →
      Offends fault offending after →
      Decomposition (before ++ offending :: after) (.error ⟨1 + newlines before, fault⟩)

/-! ### One cut -/

theorem newlines_append (first second : List Char) :
    newlines (first ++ second) = newlines first + newlines second :=
  List.count_append

theorem keywords_kind_ne : ∀ entry ∈ keywords, entry.2 ≠ .identifier ∧ entry.2 ≠ .endOfFile := by
  decide

theorem symbols_kind_ne : ∀ entry ∈ symbols, entry.2 ≠ .endOfFile := by
  decide

theorem keywordOrName_kindOfWord (word : String) : KeywordOrName word (kindOfWord word) := by
  unfold kindOfWord
  cases found : keywords.lookup word with
  | none =>
      refine ⟨⟨fun ne => absurd rfl ne, fun member => ?_⟩, fun ne => absurd rfl ne⟩
      obtain ⟨entry, listed, rfl⟩ := List.mem_map.mp member
      have := List.lookup_eq_none_iff.mp found entry listed
      simp at this
  | some kind =>
      obtain ⟨earlier, later, split, -⟩ := List.lookup_eq_some_iff.mp found
      have listed : (word, kind) ∈ keywords := by
        rw [split]
        exact List.mem_append_right _ (.head _)
      exact ⟨⟨fun _ => List.mem_map.mpr ⟨_, listed, rfl⟩,
        fun _ => (keywords_kind_ne _ listed).1⟩, fun _ => listed⟩

/-- No word stands in the table of keywords twice. -/
theorem keywords_nodup : (keywords.map Prod.fst).Nodup := by decide +kernel

theorem KeywordOrName.eq_kindOfWord {word : String} {kind : Kind}
    (spelled : KeywordOrName word kind) : kind = kindOfWord word := by
  have other := keywordOrName_kindOfWord word
  by_cases name : kind = .identifier
  · have notKeyword := mt spelled.keyword_iff.mpr (not_not_intro name)
    exact name.trans (not_not.mp (mt other.keyword_iff.mp notKeyword)).symm
  · have listed := spelled.listed name
    have otherListed := other.listed (other.keyword_iff.mpr (spelled.keyword_iff.mp name))
    exact congrArg Prod.snd
      (List.inj_on_of_nodup_map keywords_nodup listed otherListed rfl)

/-- `Cut.Fits characters cut`: what the cut says stands at the front does stand there. -/
inductive Cut.Fits : List Char → Cut → Prop where
  | finished : Fits [] .finished
  | gap {skipped rest : List Char} : Separator skipped → Fits (skipped ++ rest) (.gap skipped rest)
  | unclosed {text : List Char} : '$' ∉ text → Fits ('$' :: text) (.gap ('$' :: text) [])
  | token {kind : Kind} {text lexeme after : List Char} :
      Lexeme kind text lexeme after → Fits (lexeme ++ after) (.token kind text after)
  | fault {fault : SyntaxFault} {offending : Char} {after : List Char} :
      Offends fault offending after → Fits (offending :: after) (.fault fault)

/-- What is taken up to a character that stops it. -/
theorem takeWhile_stop {stop : Char} {text : List Char} (absent : stop ∉ text)
    (rest : List Char) : (text ++ stop :: rest).takeWhile (· != stop) = text := by
  rw [List.takeWhile_append_of_pos (by grind)]
  simp

theorem dropWhile_stop {stop : Char} {text : List Char} (absent : stop ∉ text)
    (rest : List Char) : (text ++ stop :: rest).dropWhile (· != stop) = stop :: rest := by
  rw [List.dropWhile_append_of_pos (by grind)]
  simp

theorem dropWhile_absent {stop : Char} {text : List Char} (absent : stop ∉ text) :
    text.dropWhile (· != stop) = [] :=
  List.dropWhile_eq_nil_iff.mpr (by grind)

theorem cutComment_closed {text : List Char} (absent : '$' ∉ text) (rest : List Char) :
    cutComment (text ++ '$' :: rest) = .gap ('$' :: (text ++ ['$'])) rest := by
  simp only [cutComment, takeWhile_stop absent, dropWhile_stop absent]

theorem cutComment_unclosed {text : List Char} (absent : '$' ∉ text) :
    cutComment text = .gap ('$' :: text) [] := by
  have all : text.takeWhile (· != '$') = text := List.takeWhile_eq_self_iff.mpr (by grind)
  simp only [cutComment, dropWhile_absent absent, all]

theorem cutString_closed {text : List Char} (absent : '"' ∉ text) (rest : List Char) :
    cutString (text ++ '"' :: rest) = .token .string text rest := by
  simp only [cutString, takeWhile_stop absent, dropWhile_stop absent]

theorem cutString_unclosed {text : List Char} (absent : '"' ∉ text) :
    cutString text = .fault .unterminatedString := by
  simp only [cutString, dropWhile_absent absent]

theorem cut_plain {first : Char} (plain : first ∉ marks)
    (rest : List Char) : cut (first :: rest) = cutLexeme first (first :: rest) := by
  simp only [marks, List.mem_cons, List.not_mem_nil, or_false, not_or] at plain
  simp [cut, plain]

/-- A number, word or symbol that is cut off stands at the front. -/
theorem cutLexeme_fits {first : Char} (plain : first ∉ marks) (rest : List Char) :
    Cut.Fits (first :: rest) (cutLexeme first (first :: rest)) := by
  unfold cutLexeme
  split
  · rename_i number
    have longest := takeNumber_takes.longest (first :: rest) (by simp [number])
    have whole := takeNumber_append (first :: rest)
    rw [number] at longest whole
    rw [← whole]
    exact .token (.number longest)
  · rename_i noNumber
    split
    · rename_i word
      have longest := takeWord_takes.longest (first :: rest) (by simp [word])
      have whole := takeWord_append (first :: rest)
      rw [word] at longest whole
      rw [← whole]
      exact .token (.word longest (keywordOrName_kindOfWord _))
    · rename_i noWord
      split
      · rename_i symbol kind found
        have longest := symbol?_longest found
        have listed : (String.ofList symbol.toList, kind) ∈ symbols := by
          rw [String.ofList_toList]
          exact List.mem_of_find?_eq_some found
        have fits := Cut.Fits.token (.symbol listed longest)
        rwa [(symbol?_eq_some found).1] at fits
      · rename_i noSymbol
        refine .fault (.stray plain ?_)
        rintro text (isNumber | isWord | isSymbol)
        · exact takeNumber_takes.eq_nil_iff.mp (congrArg Prod.fst noNumber) text isNumber
        · exact takeWord_takes.eq_nil_iff.mp (congrArg Prod.fst noWord) text isWord
        · exact symbol?_eq_none_iff.mp noSymbol text isSymbol

theorem blank_fits {character : Char} (blank : character ∈ ['\n', ' ', '\t', '\r'])
    (rest : List Char) : Cut.Fits (character :: rest) (.gap [character] rest) :=
  .gap (.blank blank)

theorem cutComment_fits (rest : List Char) : Cut.Fits ('$' :: rest) (cutComment rest) := by
  by_cases closed : '$' ∈ rest
  · obtain ⟨text, after, rfl, absent⟩ := List.eq_append_cons_of_mem closed
    rw [cutComment_closed absent]
    have fits : Cut.Fits _ (.gap _ after) := .gap (.comment absent)
    rwa [List.cons_append, List.append_assoc, List.singleton_append] at fits
  · rw [cutComment_unclosed closed]
    exact .unclosed closed

theorem cutString_fits (rest : List Char) : Cut.Fits ('"' :: rest) (cutString rest) := by
  by_cases closed : '"' ∈ rest
  · obtain ⟨text, after, rfl, absent⟩ := List.eq_append_cons_of_mem closed
    rw [cutString_closed absent]
    have fits : Cut.Fits _ (.token .string text after) := .token (.string absent)
    rwa [List.cons_append, List.append_assoc, List.singleton_append] at fits
  · rw [cutString_unclosed closed]
    exact .fault (.quote closed)

theorem cut_fits (characters : List Char) : Cut.Fits characters (cut characters) := by
  cases characters with
  | nil => exact .finished
  | cons first rest =>
      by_cases plain : first ∉ marks
      · rw [cut_plain plain]
        exact cutLexeme_fits plain rest
      · simp only [marks, List.mem_cons, List.not_mem_nil, or_false, Decidable.not_not] at plain
        rcases plain with rfl | rfl | rfl | rfl | rfl | rfl
        · exact blank_fits (by simp) rest
        · exact blank_fits (by simp) rest
        · exact blank_fits (by simp) rest
        · exact blank_fits (by simp) rest
        · exact cutComment_fits rest
        · exact cutString_fits rest

theorem Lexeme.cut_eq {kind : Kind} {text lexeme after : List Char}
    (isLexeme : Lexeme kind text lexeme after) :
    cut (lexeme ++ after) = .token kind text after := by
  cases isLexeme with
  | string absent =>
      rw [List.cons_append, List.append_assoc, List.singleton_append]
      exact cutString_closed absent after
  | number longest =>
      obtain ⟨first, rest, rfl, digit⟩ := longest.fits.eq_cons
      have taken := takeNumber_takes.eq_of_longest longest
      rw [List.cons_append] at taken ⊢
      rw [cut_plain (not_mem_marks_of_isDigit digit), cutLexeme, taken]
  | word longest spelled =>
      obtain ⟨first, rest, rfl, starts⟩ := longest.fits.eq_cons
      have taken := takeWord_takes.eq_of_longest longest
      have noNumber := takeNumber_eq_nil (isDigit_eq_false_of_startsWord starts) (rest ++ after)
      rw [List.cons_append] at taken ⊢
      rw [cut_plain (not_mem_marks_of_startsWord starts), cutLexeme, noNumber, taken,
        spelled.eq_kindOfWord]
  | symbol listed longest =>
      obtain ⟨first, rest, rfl, notDigit, notWord, plain⟩ := longest.fits.eq_cons
      have taken := longest.symbol?_eq listed
      have noNumber := takeNumber_eq_nil notDigit (rest ++ after)
      have noWord := takeWord_eq_nil notWord (rest ++ after)
      rw [List.cons_append] at taken ⊢
      have left : ((first :: rest) ++ after).drop (first :: rest).length = after := List.drop_left
      rw [cut_plain plain, cutLexeme, noNumber, noWord, taken]
      simp only [String.toList_ofList, String.length_ofList]
      exact congrArg _ left

theorem Offends.cut_eq {fault : SyntaxFault} {offending : Char} {after : List Char}
    (offends : Offends fault offending after) : cut (offending :: after) = .fault fault := by
  cases offends with
  | quote absent => exact cutString_unclosed absent
  | stray plain apart =>
      have noNumber : (takeNumber (offending :: after)).1 = [] :=
        takeNumber_takes.eq_nil_iff.mpr fun text isNumber => apart text (.inl isNumber)
      have noWord : (takeWord (offending :: after)).1 = [] :=
        takeWord_takes.eq_nil_iff.mpr fun text isWord => apart text (.inr (.inl isWord))
      have noSymbol : symbol? (offending :: after) = none :=
        symbol?_eq_none_iff.mpr fun text isSymbol => apart text (.inr (.inr isSymbol))
      rw [cut_plain plain, cutLexeme]
      split
      · simp_all
      · split
        · simp_all
        · rw [noSymbol]

/-- Only one cut fits. -/
theorem Cut.Fits.cut_eq {characters : List Char} {taken : Cut} (fits : Cut.Fits characters taken) :
    cut characters = taken := by
  cases fits with
  | finished => rfl
  | gap separator =>
      cases separator with
      | blank member =>
          simp only [List.mem_cons, List.not_mem_nil, or_false] at member
          rcases member with rfl | rfl | rfl | rfl <;> rfl
      | comment absent =>
          rw [List.cons_append, List.append_assoc, List.singleton_append]
          exact cutComment_closed absent _
  | unclosed absent => exact cutComment_unclosed absent
  | token lexeme => exact lexeme.cut_eq
  | fault offends => exact offends.cut_eq

/-! ### All cuts -/

theorem lexFrom_finished (line : Nat) (done : List Token) :
    lexFrom line done [] = .ok (done.reverse ++ [endOfFile line]) := by
  rw [lexFrom.eq_def]
  simp [cut]

theorem Separator.lexFrom_eq {separator : List Char} (isSeparator : Separator separator)
    (line : Nat) (done : List Token) (rest : List Char) :
    lexFrom line done (separator ++ rest) = lexFrom (line + newlines separator) done rest := by
  rw [lexFrom.eq_def, (Cut.Fits.gap isSeparator).cut_eq]

theorem Lexeme.lexFrom_eq {kind : Kind} {text lexeme after : List Char}
    (isLexeme : Lexeme kind text lexeme after) (line : Nat) (done : List Token) :
    lexFrom line done (lexeme ++ after) =
      lexFrom (line + newlines text) (⟨kind, String.ofList text, line⟩ :: done) after := by
  rw [lexFrom.eq_def, isLexeme.cut_eq]

theorem Lexeme.newlines_eq {kind : Kind} {text lexeme after : List Char}
    (isLexeme : Lexeme kind text lexeme after) : newlines lexeme = newlines text := by
  cases isLexeme with
  | string _ => simp [newlines]
  | number _ => rfl
  | word _ _ => rfl
  | symbol _ _ => rfl

theorem Lexeme.kind_ne {kind : Kind} {text lexeme after : List Char}
    (isLexeme : Lexeme kind text lexeme after) : kind ≠ .endOfFile := by
  cases isLexeme with
  | string _ => decide
  | number _ => decide
  | word _ spelled =>
      by_cases name : kind = .identifier
      · rw [name]
        decide
      · exact (keywords_kind_ne _ (spelled.listed name)).2
  | symbol listed _ => exact symbols_kind_ne _ listed

theorem Lexed.kind_ne {before characters left : List Char} {tokens : List Token}
    (lexed : Lexed before tokens characters left) : ∀ token ∈ tokens, token.kind ≠ .endOfFile := by
  induction lexed with
  | stop => simp
  | skip _ _ induction => exact induction
  | token isLexeme _ induction => exact List.forall_mem_cons.mpr ⟨isLexeme.kind_ne, induction⟩

/-- Reading goes over what has been decomposed. -/
theorem Lexed.lexFrom_eq {before characters left : List Char} {tokens : List Token}
    (lexed : Lexed before tokens characters left) (done : List Token) :
    ∃ read, characters = read ++ left ∧ lexFrom (1 + newlines before) done characters =
      lexFrom (1 + newlines (before ++ read)) (tokens.reverse ++ done) left := by
  induction lexed generalizing done with
  | stop => exact ⟨[], rfl, by rw [List.append_nil]; rfl⟩
  | @skip before separator rest left tokens isSeparator _ induction =>
      obtain ⟨read, rfl, same⟩ := induction done
      refine ⟨separator ++ read, (List.append_assoc _ _ _).symm, ?_⟩
      rw [isSeparator.lexFrom_eq, Nat.add_assoc, ← newlines_append, same, List.append_assoc]
  | @token before text lexeme after left kind tokens isLexeme _ induction =>
      obtain ⟨read, rfl, same⟩ :=
        induction (⟨kind, String.ofList text, 1 + newlines before⟩ :: done)
      refine ⟨lexeme ++ read, (List.append_assoc _ _ _).symm, ?_⟩
      rw [isLexeme.lexFrom_eq, ← isLexeme.newlines_eq, Nat.add_assoc, ← newlines_append, same,
        List.append_assoc, List.reverse_cons, List.append_assoc, List.singleton_append]

theorem Unclosed.lexFrom_eq {left : List Char} (unclosed : Unclosed left) (line : Nat)
    (done : List Token) :
    lexFrom line done left = .ok (done.reverse ++ [endOfFile (line + newlines left)]) := by
  cases unclosed with
  | none => exact lexFrom_finished line done
  | comment absent =>
      rw [lexFrom.eq_def, (Cut.Fits.unclosed absent).cut_eq]
      exact lexFrom_finished _ done

theorem Offends.lexFrom_eq {fault : SyntaxFault} {offending : Char} {after : List Char}
    (offends : Offends fault offending after) (line : Nat) (done : List Token) :
    lexFrom line done (offending :: after) = .error ⟨line, fault⟩ := by
  rw [lexFrom.eq_def, offends.cut_eq]

/-- Whatever can be read is read. -/
theorem Decomposition.lexFrom_eq {source : List Char} {result : Except SyntaxError (List Token)}
    (decomposition : Decomposition source result) : lexFrom 1 [] source = result := by
  cases decomposition with
  | whole lexed unclosed _ =>
      obtain ⟨read, rfl, same⟩ := lexed.lexFrom_eq []
      refine same.trans ?_
      rw [unclosed.lexFrom_eq, Nat.add_assoc, ← newlines_append, List.append_nil,
        List.reverse_reverse, List.nil_append]
  | broken lexed offends =>
      obtain ⟨read, split, same⟩ := lexed.lexFrom_eq []
      obtain rfl := List.append_cancel_right split
      exact same.trans (offends.lexFrom_eq _ _)

/-- Every text has lexemes up to its end or to a character that offends. -/
theorem exists_lexed (before characters : List Char) :
    ∃ tokens left, Lexed before tokens characters left ∧
      (Unclosed left ∨
        ∃ fault offending after, left = offending :: after ∧ Offends fault offending after) := by
  cases taken : cut characters with
  | finished =>
      have fits := cut_fits characters
      rw [taken] at fits
      cases fits
      exact ⟨[], [], .stop, .inl .none⟩
  | gap skipped rest =>
      have shorter : rest.length < characters.length := cut_rest_length (by rw [taken]; rfl)
      obtain ⟨tokens, left, lexed, ends⟩ := exists_lexed (before ++ skipped) rest
      have fits := cut_fits characters
      rw [taken] at fits
      cases fits with
      | gap separator => exact ⟨tokens, left, .skip separator lexed, ends⟩
      | unclosed absent => exact ⟨[], _, .stop, .inl (.comment absent)⟩
  | token kind text rest =>
      have shorter : rest.length < characters.length := cut_rest_length (by rw [taken]; rfl)
      have induction (lexeme : List Char) := exists_lexed (before ++ lexeme) rest
      have fits := cut_fits characters
      rw [taken] at fits
      cases fits with
      | @token _ _ lexeme _ isLexeme =>
          obtain ⟨tokens, left, lexed, ends⟩ := induction lexeme
          exact ⟨_, left, .token isLexeme lexed, ends⟩
  | fault fault =>
      have fits := cut_fits characters
      rw [taken] at fits
      cases fits with
      | fault offends => exact ⟨[], _, .stop, .inr ⟨_, _, _, rfl, offends⟩⟩
termination_by characters.length

theorem exists_decomposition (source : List Char) : ∃ result, Decomposition source result := by
  obtain ⟨tokens, left, lexed, unclosed | ⟨fault, offending, after, rfl, offends⟩⟩ :=
    exists_lexed [] source
  · exact ⟨_, .whole lexed unclosed lexed.kind_ne⟩
  · obtain ⟨before, rfl, -⟩ := lexed.lexFrom_eq []
    exact ⟨_, .broken lexed offends⟩

/-- Reading a text finds its decomposition, and there is no other one: every character is
part of a lexeme or stands between two of them, every line is counted, and a text without
tokens is read up to the first character that offends. -/
theorem lex_eq_iff (source : String) (result : Except SyntaxError (List Token)) :
    lex source = result ↔ Decomposition source.toList result := by
  constructor
  · rintro rfl
    obtain ⟨result, decomposition⟩ := exists_decomposition source.toList
    have same : lex source = result := decomposition.lexFrom_eq
    rwa [same]
  · exact Decomposition.lexFrom_eq

end Avenger.Token
