import Avenger.Limits
import Avenger.Proofs.DecimalDigits
import Avenger.Proofs.Trimming

/-!
# Limits as they are written

A limit is written with decimal digits, perhaps behind a plus sign and zeros, and with any blanks
around.  The limits read are those written, a limit without a text has its default, and of the texts
that write no limit the first one is reported as it stands.
-/

namespace Avenger.Limits

variable {text : String} {value : Nat} {iterations callDepth : Option String}

/-- That a text denotes a limit: digits of a natural from one to the greatest of sixty-four bits,
perhaps behind a plus sign, with blanks around. -/
def Denotes (text : String) (value : Nat) : Prop :=
  ∃ front sign digits back : List Char, text.toList = front ++ (sign ++ digits ++ back) ∧
    (∀ character ∈ front ++ back, Text.isBlank character = true) ∧ sign ∈ [[], ['+']] ∧
    Number.Written 10 value digits ∧ 1 ≤ value ∧ value ≤ 2 ^ 64 - 1

/-- The digits behind a plus sign, or behind none. -/
def unsigned : List Char → List Char
  | '+' :: rest => rest
  | characters => characters

theorem ofText?_eq (text : String) :
    ofText? text =
      let digits := unsigned (Text.trimmed text.toList)
      if digits.isEmpty || !digits.all Char.isDigit then none
      else if 1 ≤ Number.ofDigits digits ∧ Number.ofDigits digits ≤ greatest then
        some (Number.ofDigits digits)
      else none := rfl

theorem isDigits_iff {digits : List Char} :
    (digits.isEmpty || !digits.all Char.isDigit) = false ↔ Token.IsDigits digits := by
  simp [Token.IsDigits]

theorem ofText?_eq_some_iff_unsigned :
    ofText? text = some value ↔
      Number.Written 10 value (unsigned (Text.trimmed text.toList)) ∧
        1 ≤ value ∧ value ≤ 2 ^ 64 - 1 := by
  rw [ofText?_eq, Number.written_iff, ← isDigits_iff]
  dsimp only
  generalize unsigned (Text.trimmed text.toList) = digits
  have bound : greatest = 2 ^ 64 - 1 := rfl
  rw [bound]
  split_ifs with wrong within
  · simp [wrong]
  · simp only [wrong, Option.some.injEq]
    constructor
    · rintro rfl
      exact ⟨⟨by simp, rfl⟩, within⟩
    · exact fun both => both.1.2
  · simp only [wrong, false_iff]
    rintro ⟨⟨-, rfl⟩, within'⟩
    exact within within'

theorem plain_of_isDigit {character : Char} (isDigit : character.isDigit = true) :
    Text.isBlank character = false ∧ character ≠ '+' := by
  obtain ⟨digit, -, writes⟩ := Number.writes_of_isDigit isDigit
  exact ⟨writes.plain.1, writes.plain.2.2⟩

theorem unsigned_append {sign digits : List Char} (isSign : sign ∈ [[], ['+']])
    (isDigits : Token.IsDigits digits) : unsigned (sign ++ digits) = digits := by
  simp only [List.mem_cons, List.not_mem_nil, or_false] at isSign
  rcases isSign with rfl | rfl
  · obtain ⟨first, rest, rfl⟩ := List.exists_cons_of_ne_nil isDigits.1
    have other := (plain_of_isDigit (isDigits.2 first (.head _))).2
    rw [List.nil_append]
    unfold unsigned
    split
    · next same => exact absurd (List.cons.inj same).1 other
    · rfl
  · rfl

theorem exists_sign (characters : List Char) :
    ∃ sign, sign ∈ [[], ['+']] ∧ characters = sign ++ unsigned characters := by
  unfold unsigned
  split
  · exact ⟨['+'], by simp, rfl⟩
  · exact ⟨[], by simp, rfl⟩

/-- A sign and digits have no blanks at their ends. -/
theorem trimmed_signed {sign digits : List Char} (isSign : sign ∈ [[], ['+']])
    (isDigits : Token.IsDigits digits) : Text.trimmed (sign ++ digits) = sign ++ digits := by
  have plain : ∀ character ∈ digits, Text.isBlank character = false := by
    intro character member
    exact (plain_of_isDigit (isDigits.2 character member)).1
  have plain' : ∀ character ∈ sign, Text.isBlank character = false := by
    simp only [List.mem_cons, List.not_mem_nil, or_false] at isSign
    rcases isSign with rfl | rfl
    · simp
    · simp only [List.mem_singleton, forall_eq]
      decide
  have all : ∀ character ∈ sign ++ digits, Text.isBlank character = false := by
    intro character member
    rcases List.mem_append.mp member with inSign | inDigits
    · exact plain' character inSign
    · exact plain character inDigits
  apply Text.trimmed_eq_self
  · intro character first
    exact all character (List.mem_of_mem_head? first)
  · intro character last
    exact all character (List.mem_of_getLast? last)

/-- A text is read as the limit that it denotes. -/
theorem ofText?_eq_some_iff : ofText? text = some value ↔ Denotes text value := by
  rw [ofText?_eq_some_iff_unsigned]
  constructor
  · rintro ⟨written, bounds⟩
    obtain ⟨front, back, split, blank⟩ := Text.exists_blanks text.toList
    obtain ⟨sign, isSign, signed⟩ := exists_sign (Text.trimmed text.toList)
    refine ⟨front, sign, _, back, ?_, blank, isSign, written, bounds⟩
    rw [← signed]
    exact split
  · rintro ⟨front, sign, digits, back, split, blank, isSign, written, bounds⟩
    have isDigits := (Number.written_iff.mp written).1
    have inner : Text.trimmed text.toList = sign ++ digits := by
      rw [split, Text.trimmed_append_left fun character member =>
          blank character (List.mem_append_left _ member),
        Text.trimmed_append_right fun character member =>
          blank character (List.mem_append_right _ member),
        trimmed_signed isSign isDigits]
    rw [inner, unsigned_append isSign isDigits]
    exact ⟨written, bounds⟩

theorem ofText?_eq_none_iff : ofText? text = none ↔ ∀ value, ¬ Denotes text value := by
  simp [Option.eq_none_iff_forall_ne_some, ofText?_eq_some_iff]

/-- What a variable sets a limit to: without a text its default, and otherwise what the text
denotes. -/
inductive Sets (default : Nat) : Option String → Nat → Prop
  | absent : Sets default none default
  | denoted {text : String} {value : Nat} (denotes : Denotes text value) :
      Sets default (some text) value

/-- The first of two texts that denotes no limit. -/
inductive Offends (iterations callDepth : Option String) : Invalid → Prop
  | iterations {text : String} (given : iterations = some text)
      (wrong : ∀ value, ¬ Denotes text value) : Offends iterations callDepth ⟨.iterations, text⟩
  | callDepth {text : String}
      (before : ∀ text, iterations = some text → ∃ value, Denotes text value)
      (given : callDepth = some text) (wrong : ∀ value, ¬ Denotes text value) :
      Offends iterations callDepth ⟨.callDepth, text⟩

section Read

variable {setting : Setting} {default : Nat} {text? : Option String}

theorem read_eq_ok_iff : read setting default text? = .ok value ↔ Sets default text? value := by
  constructor
  · intro is
    cases text? with
    | none =>
        cases is
        exact .absent
    | some text =>
        cases denoted : ofText? text with
        | none => simp [read, denoted] at is
        | some value =>
            simp only [read, denoted, Except.ok.injEq] at is
            subst is
            exact .denoted (ofText?_eq_some_iff.mp denoted)
  · intro sets
    cases sets with
    | absent => rfl
    | denoted denotes => simp [read, ofText?_eq_some_iff.mpr denotes]

theorem read_eq_error_iff {invalid : Invalid} : read setting default text? = .error invalid ↔
    ∃ text, text? = some text ∧ (∀ value, ¬ Denotes text value) ∧ invalid = ⟨setting, text⟩ := by
  cases text? with
  | none => simp [read]
  | some text =>
      simp only [Option.some.injEq, exists_eq_left', ← ofText?_eq_none_iff]
      cases denoted : ofText? text with
      | none => simp [read, denoted, eq_comm]
      | some value => simp [read, denoted]

theorem exists_sets_iff :
    (∃ value, Sets default text? value) ↔
      ∀ text, text? = some text → ∃ value, Denotes text value := by
  cases text? with
  | none => simpa using ⟨default, Sets.absent⟩
  | some text =>
      simp only [Option.some.injEq, forall_eq']
      constructor
      · rintro ⟨value, sets⟩
        cases sets with
        | denoted denotes => exact ⟨value, denotes⟩
      · rintro ⟨value, denotes⟩
        exact ⟨value, .denoted denotes⟩

end Read

theorem ofEnvironment_eq_ok_iff {limits : Limits} :
    ofEnvironment iterations callDepth = .ok limits ↔
      read .iterations standard.iterations iterations = .ok limits.iterations ∧
        read .callDepth standard.callDepth callDepth = .ok limits.callDepth := by
  unfold ofEnvironment
  cases read .iterations standard.iterations iterations with
  | error invalid => simp [bind, Except.bind]
  | ok value =>
      cases read .callDepth standard.callDepth callDepth with
      | error invalid => simp [bind, Except.bind]
      | ok value' =>
          obtain ⟨limit, limit'⟩ := limits
          simp [bind, Except.bind, pure, Except.pure]

theorem ofEnvironment_eq_error_iff {invalid : Invalid} :
    ofEnvironment iterations callDepth = .error invalid ↔
      read .iterations standard.iterations iterations = .error invalid ∨
        (∃ value, read .iterations standard.iterations iterations = .ok value) ∧
          read .callDepth standard.callDepth callDepth = .error invalid := by
  unfold ofEnvironment
  cases read .iterations standard.iterations iterations with
  | error invalid => simp [bind, Except.bind]
  | ok value =>
      cases read .callDepth standard.callDepth callDepth with
      | error invalid => simp [bind, Except.bind]
      | ok value' => simp [bind, Except.bind, pure, Except.pure]

theorem ofEnvironment_sets_iff {limits : Limits} :
    ofEnvironment iterations callDepth = .ok limits ↔
      Sets standard.iterations iterations limits.iterations ∧
        Sets standard.callDepth callDepth limits.callDepth := by
  rw [ofEnvironment_eq_ok_iff, read_eq_ok_iff, read_eq_ok_iff]

theorem ofEnvironment_offends_iff {invalid : Invalid} :
    ofEnvironment iterations callDepth = .error invalid ↔ Offends iterations callDepth invalid := by
  simp only [ofEnvironment_eq_error_iff, read_eq_error_iff, read_eq_ok_iff, exists_sets_iff]
  constructor
  · rintro (⟨text, given, wrong, rfl⟩ | ⟨before, text, given, wrong, rfl⟩)
    · exact .iterations given wrong
    · exact .callDepth before given wrong
  · intro offends
    cases offends with
    | iterations given wrong => exact .inl ⟨_, given, wrong, rfl⟩
    | callDepth before given wrong => exact .inr ⟨before, _, given, wrong, rfl⟩

/-- Limits are read exactly: they are those that their texts denote, with defaults for texts that
are absent; there are limits just if every text denotes one, and else the first that does not is
reported as it stands. -/
theorem limits_read_exactly (iterations callDepth : Option String) :
    (∀ limits, ofEnvironment iterations callDepth = .ok limits ↔
      Sets standard.iterations iterations limits.iterations ∧
        Sets standard.callDepth callDepth limits.callDepth) ∧
      ((∃ limits, ofEnvironment iterations callDepth = .ok limits) ↔
        ∀ text, iterations = some text ∨ callDepth = some text → ∃ value, Denotes text value) ∧
      ∀ invalid, ofEnvironment iterations callDepth = .error invalid ↔
        Offends iterations callDepth invalid := by
  refine ⟨fun limits => ofEnvironment_sets_iff, ?_, fun invalid => ofEnvironment_offends_iff⟩
  have parts : (∃ limits, ofEnvironment iterations callDepth = .ok limits) ↔
      (∃ value, Sets standard.iterations iterations value) ∧
        ∃ value, Sets standard.callDepth callDepth value := by
    constructor
    · rintro ⟨limits, read⟩
      obtain ⟨sets, sets'⟩ := ofEnvironment_sets_iff.mp read
      exact ⟨⟨_, sets⟩, _, sets'⟩
    · rintro ⟨⟨value, sets⟩, value', sets'⟩
      exact ⟨⟨value, value'⟩, ofEnvironment_sets_iff.mpr ⟨sets, sets'⟩⟩
  rw [parts, exists_sets_iff, exists_sets_iff]
  constructor
  · rintro ⟨first, second⟩ text (given | given)
    · exact first text given
    · exact second text given
  · intro every
    exact ⟨fun text given => every text (.inl given), fun text given => every text (.inr given)⟩

/-- The greatest limit, behind a sign and zeros and between blanks. -/
example : ofText? "\u00a0+0018446744073709551615\n" = some 18446744073709551615 := by
  decide +kernel

end Avenger.Limits
