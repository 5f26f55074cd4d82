import Avenger.Proofs.Digits

/-!
# Whole numbers read from texts

The radix of a whole number is from 2 to 36, or leaves the base open.  In front of the number stand
blanks and a sign, and behind it any text that does not go on with a digit.  With some radixes a
`0x` before the digits makes the base sixteen, which hides a single zero before an `x`.
-/

namespace Avenger

namespace Number

variable {base value : Nat} {text characters rest body region : List Char}
  {radix? : Option Float} {minus : Bool}

/-! ### Signs and bases -/

/-- Characters as blanks, at most one sign, and what follows; the truth value tells a minus. -/
inductive Signed : List Char → Bool → List Char → Prop
  | blank {text : List Char} {minus : Bool} {body : List Char} (character : Char)
      (blank : Text.isBlank character = true) (rest : Signed text minus body) :
      Signed (character :: text) minus body
  | minus (body : List Char) : Signed ('-' :: body) true body
  | plus (body : List Char) : Signed ('+' :: body) false body
  | bare (body : List Char)
      (other : ∀ first ∈ body.head?, Text.isBlank first = false ∧ first ≠ '-' ∧ first ≠ '+') :
      Signed body false body

theorem exists_signed (text : List Char) : ∃ minus body, Signed text minus body := by
  induction text with
  | nil => exact ⟨false, [], .bare [] nofun⟩
  | cons first rest induction =>
      by_cases blank : Text.isBlank first = true
      · obtain ⟨minus, body, signed⟩ := induction
        exact ⟨minus, body, .blank first blank signed⟩
      by_cases minus : first = '-'
      · exact ⟨true, rest, minus ▸ .minus rest⟩
      by_cases plus : first = '+'
      · exact ⟨false, rest, plus ▸ .plus rest⟩
      refine ⟨false, first :: rest, .bare _ fun character head => ?_⟩
      cases head
      exact ⟨Bool.eq_false_iff.mpr blank, minus, plus⟩

/-- The radixes that leave the base open: none at all, zero, and a NaN. -/
inductive OpenRadix : Option Float → Prop
  | absent : OpenRadix none
  | zero {radix : Float} (whole : integerPart? radix = some 0) : OpenRadix (some radix)
  | nan {radix : Float} (isNaN : radix.isNaN = true) : OpenRadix (some radix)

/-- That numbers are read in a base with a radix; an open one is ten. -/
inductive Reads : Option Float → Nat → Prop
  | unsaid {radix? : Option Float} (unsaid : OpenRadix radix?) : Reads radix? 10
  | given {radix : Float} {base : Nat} (least : 2 ≤ base) (greatest : base ≤ 36)
      (whole : integerPart? radix = some (base : Int)) : Reads (some radix) base

/-- The radixes with which a `0x` in front of the digits is skipped. -/
inductive SkipsMark : Option Float → Prop
  | unsaid {radix? : Option Float} (unsaid : OpenRadix radix?) : SkipsMark radix?
  | sixteen {radix : Float} (whole : integerPart? radix = some 16) : SkipsMark (some radix)

/-- That characters start with a `0x`, in either case, and go on with a rest. -/
def Marks (characters rest : List Char) : Prop :=
  characters = '0' :: 'x' :: rest ∨ characters = '0' :: 'X' :: rest

/-- That a radix is given and, without its fraction, neither zero nor from 2 to 36. -/
def Outside (radix? : Option Float) : Prop :=
  ∃ radix, radix? = some radix ∧ radix.isNaN = false ∧ ∀ whole, integerPart? radix = some whole →
    whole ≠ 0 ∧ ¬(2 ≤ whole ∧ whole ≤ 36)

/-- That characters behind a sign are read in a base with a radix, and from where on. -/
inductive ReadsFrom (radix? : Option Float) (body : List Char) : Nat → List Char → Prop
  | marked {rest : List Char} (skips : SkipsMark radix?) (marks : Marks body rest) :
      ReadsFrom radix? body 16 rest
  | plain {base : Nat} (reads : Reads radix? base)
      (unmarked : SkipsMark radix? → ∀ rest, ¬ Marks body rest) : ReadsFrom radix? body base body

/-- A radix without its fraction, where none and a NaN count as zero. -/
def wholeRadix? : Option Float → Option Int
  | none => some 0
  | some radix => if radix.isNaN then some 0 else integerPart? radix

theorem wholeRadix?_some (radix : Float) :
    wholeRadix? (some radix) = if radix.isNaN then some 0 else integerPart? radix := rfl

theorem wholeRadix?_eq (radix? : Option Float) :
    (if (radix?.getD 0).isNaN then some 0 else integerPart? (radix?.getD 0)) =
      wholeRadix? radix? := by
  cases radix? with
  | none =>
      have zero : integerPart? 0 = some 0 := by
        rw [← ofNat_zero]
        exact integerPart?_of_whole? (whole?_ofNat (by decide))
      show (if (0 : Float).isNaN then some 0 else integerPart? 0) = some 0
      rw [zero, ite_self]
  | some radix => rfl

theorem wholeRadix?_of_integerPart? {radix : Float} {whole : Int}
    (integer : integerPart? radix = some whole) : wholeRadix? (some radix) = some whole := by
  rw [wholeRadix?_some, isNaN_of_integerPart? integer]
  exact integer

theorem openRadix_iff : OpenRadix radix? ↔ wholeRadix? radix? = some 0 := by
  constructor
  · intro unsaid
    cases unsaid with
    | absent => rfl
    | zero whole => exact wholeRadix?_of_integerPart? whole
    | nan isNaN => exact if_pos isNaN
  · intro whole
    cases radix? with
    | none => exact .absent
    | some radix =>
        rw [wholeRadix?_some] at whole
        split at whole
        · next isNaN => exact .nan isNaN
        · exact .zero whole

theorem integerPart?_of_wholeRadix? {whole : Int} (is : wholeRadix? radix? = some whole)
    (some : whole ≠ 0) : ∃ radix, radix? = Option.some radix ∧ integerPart? radix = whole := by
  cases radix? with
  | none =>
      cases is
      exact absurd rfl some
  | some radix =>
      rw [wholeRadix?_some] at is
      split at is
      · cases is
        exact absurd rfl some
      · exact ⟨radix, rfl, is⟩

theorem skipsMark_iff :
    SkipsMark radix? ↔ wholeRadix? radix? = some 0 ∨ wholeRadix? radix? = some 16 := by
  constructor
  · intro skips
    cases skips with
    | unsaid unsaid => exact .inl (openRadix_iff.mp unsaid)
    | sixteen whole => exact .inr (wholeRadix?_of_integerPart? whole)
  · rintro (zero | sixteen)
    · exact .unsaid (openRadix_iff.mpr zero)
    · obtain ⟨radix, rfl, whole⟩ := integerPart?_of_wholeRadix? sixteen (by decide)
      exact .sixteen whole

theorem reads_iff : Reads radix? base ↔ wholeRadix? radix? = some 0 ∧ base = 10 ∨
    wholeRadix? radix? = some (base : Int) ∧ 2 ≤ base ∧ base ≤ 36 := by
  constructor
  · intro reads
    cases reads with
    | unsaid unsaid => exact .inl ⟨openRadix_iff.mp unsaid, rfl⟩
    | given least greatest whole =>
        exact .inr ⟨wholeRadix?_of_integerPart? whole, least, greatest⟩
  · rintro (⟨zero, rfl⟩ | ⟨is, least, greatest⟩)
    · exact .unsaid (openRadix_iff.mpr zero)
    · obtain ⟨radix, rfl, whole⟩ := integerPart?_of_wholeRadix? is (by omega)
      exact .given least greatest whole

theorem outside_iff : Outside radix? ↔ ∀ whole, wholeRadix? radix? = some whole →
    whole ≠ 0 ∧ ¬(2 ≤ whole ∧ whole ≤ 36) := by
  constructor
  · rintro ⟨radix, rfl, isNumber, outside⟩ whole is
    rw [wholeRadix?_some, isNumber] at is
    exact outside whole is
  · intro outside
    cases radix? with
    | none => exact absurd rfl (outside 0 rfl).1
    | some radix =>
        have isNumber : radix.isNaN = false := by
          by_contra isNaN
          exact (outside 0 (if_pos (Bool.eq_true_of_not_eq_false isNaN))).1 rfl
        refine ⟨radix, rfl, isNumber, fun whole is => outside whole ?_⟩
        rw [wholeRadix?_some, isNumber]
        exact is

theorem hexMark?_eq_some_iff : hexMark? characters = some rest ↔ Marks characters rest := by
  constructor
  · intro mark
    unfold hexMark? at mark
    split at mark
    · cases mark
      exact .inl rfl
    · cases mark
      exact .inr rfl
    · cases mark
  · rintro (rfl | rfl) <;> rfl

theorem baseOf?_eq (radix? : Option Float) (body : List Char) :
    baseOf? (radix?.getD 0) body = (wholeRadix? radix?).bind fun whole =>
      if whole = 0 ∨ whole = 16 then
        match hexMark? body with
        | some rest => some (16, rest)
        | none => some (if whole = 0 then 10 else 16, body)
      else if 2 ≤ whole ∧ whole ≤ 36 then some (whole.toNat, body)
      else none := by
  unfold baseOf?
  rw [wholeRadix?_eq]
  cases wholeRadix? radix? <;> rfl

theorem baseOf?_of_readsFrom (reads : ReadsFrom radix? body base region) :
    baseOf? (radix?.getD 0) body = some (base, region) := by
  rw [baseOf?_eq]
  cases reads with
  | marked skips marks =>
      have mark := hexMark?_eq_some_iff.mpr marks
      rcases skipsMark_iff.mp skips with is | is
      · rw [is, Option.bind_some, if_pos (.inl rfl), mark]
      · rw [is, Option.bind_some, if_pos (.inr rfl), mark]
  | plain reads unmarked =>
      have none (skips : SkipsMark radix?) : hexMark? body = none := by
        rw [Option.eq_none_iff_forall_not_mem]
        exact fun rest mark => unmarked skips rest (hexMark?_eq_some_iff.mp mark)
      rcases reads_iff.mp reads with ⟨is, rfl⟩ | ⟨is, least, greatest⟩
      · rw [is, Option.bind_some, if_pos (.inl rfl), none (skipsMark_iff.mpr (.inl is))]
        rfl
      · rw [is, Option.bind_some]
        by_cases sixteen : base = 16
        · subst sixteen
          rw [if_pos (.inr rfl), none (skipsMark_iff.mpr (.inr is))]
          rfl
        · rw [if_neg (by omega), if_pos (by omega), Int.toNat_natCast]

theorem readsFrom_of_baseOf? (found : baseOf? (radix?.getD 0) body = some (base, region)) :
    ReadsFrom radix? body base region := by
  rw [baseOf?_eq] at found
  obtain ⟨whole, is, found⟩ := Option.bind_eq_some_iff.mp found
  split at found
  · next special =>
      split at found
      · next rest mark =>
          cases found
          have skips : SkipsMark radix? := by
            rcases special with rfl | rfl
            · exact skipsMark_iff.mpr (.inl is)
            · exact skipsMark_iff.mpr (.inr is)
          exact .marked skips (hexMark?_eq_some_iff.mp mark)
      · next unmarked =>
          have bare (rest : List Char) : ¬ Marks body rest := by
            intro marks
            rw [hexMark?_eq_some_iff.mpr marks] at unmarked
            cases unmarked
          rcases special with rfl | rfl
          · cases found
            exact .plain (reads_iff.mpr (.inl ⟨is, rfl⟩)) fun _ => bare
          · cases found
            exact .plain (reads_iff.mpr (.inr ⟨is, by decide, by decide⟩)) fun _ => bare
  · next other =>
      split at found
      · next within =>
          cases found
          refine .plain (reads_iff.mpr (.inr ⟨?_, by omega, by omega⟩)) fun skips => ?_
          · rw [is, Int.toNat_of_nonneg (by omega)]
          · rcases skipsMark_iff.mp skips with zero | sixteen
            · rw [is] at zero
              exact absurd (.inl (Option.some.inj zero)) other
            · rw [is] at sixteen
              exact absurd (.inr (Option.some.inj sixteen)) other
      · cases found

theorem baseOf?_eq_none_iff : baseOf? (radix?.getD 0) body = none ↔ Outside radix? := by
  rw [baseOf?_eq, outside_iff, Option.bind_eq_none_iff]
  refine forall_congr' fun whole => imp_congr_right fun is => ?_
  split
  · next special =>
      refine iff_of_false ?_ (by omega)
      split <;> exact Option.some_ne_none _
  · next other =>
      split
      · next within => exact iff_of_false (Option.some_ne_none _) (by omega)
      · exact iff_of_true rfl (by omega)

theorem ReadsFrom.bounds (reads : ReadsFrom radix? body base region) : 2 ≤ base ∧ base ≤ 36 := by
  cases reads with
  | marked => exact ⟨by decide, by decide⟩
  | plain reads =>
      rcases reads_iff.mp reads with ⟨-, rfl⟩ | ⟨-, bounds⟩
      · exact ⟨by decide, by decide⟩
      · exact bounds

/-! ### Texts -/

/-- The factor that a sign stands for. -/
def unit (minus : Bool) : Float := if minus then -1 else 1

/-- A natural with a sign. -/
def withSign (minus : Bool) (value : Nat) : Float := if minus then -ofNat value else ofNat value

theorem unit_mul_ofNat (minus : Bool) (small : value < 2 ^ 53) :
    unit minus * ofNat value = withSign minus value := by
  unfold unit withSign
  split
  · exact neg_one_mul_ofNat small
  · exact one_mul_ofNat small

theorem isNaN_unit_mul (minus : Bool) (number : Float) :
    (unit minus * number).isNaN = number.isNaN := by
  unfold unit
  split
  · exact isNaN_exactly_mul Nat.one_pos unpack_neg_one
  · exact isNaN_exactly_mul Nat.one_pos unpack_one

theorem leadingInteger_eq (signed : Signed text minus body) (radix : Float) :
    leadingInteger text radix =
      match baseOf? radix body with
      | none => 0 / 0
      | some (base, characters) =>
          match leadingDigits base characters with
          | [] => 0 / 0
          | digits => unit minus * ofDigitValues base digits := by
  induction signed with
  | blank character blank _ induction =>
      have trimmed : ∀ text, Text.trimStart (character :: text) = Text.trimStart text :=
        fun _ => List.dropWhile_cons_of_pos blank
      rw [← induction]
      unfold leadingInteger
      rw [trimmed]
  | minus body =>
      have trimmed : Text.trimStart ('-' :: body) = '-' :: body :=
        List.dropWhile_cons_of_neg (by decide)
      unfold leadingInteger
      rw [trimmed]
      rfl
  | plus body =>
      have trimmed : Text.trimStart ('+' :: body) = '+' :: body :=
        List.dropWhile_cons_of_neg (by decide)
      unfold leadingInteger
      rw [trimmed]
      rfl
  | bare body other =>
      cases body with
      | nil => rfl
      | cons first rest =>
          obtain ⟨dark, notMinus, notPlus⟩ := other first rfl
          have trimmed : Text.trimStart (first :: rest) = first :: rest :=
            List.dropWhile_cons_of_neg (by rw [dark]; decide)
          unfold leadingInteger
          rw [trimmed]
          split
          next sign unsigned split =>
            split at split
            · next same => cases same; exact absurd rfl notMinus
            · next same => cases same; exact absurd rfl notPlus
            · cases split
              rfl

theorem leadingInteger_of_reads (signed : Signed text minus body)
    (reads : ReadsFrom radix? body base region) (starts : StartsWithDigit base region) :
    leadingInteger text (radix?.getD 0) =
      unit minus * ofDigitValues base (leadingDigits base region) := by
  rw [leadingInteger_eq signed, baseOf?_of_readsFrom reads]
  dsimp only
  split
  · next none => exact absurd starts (leadingDigits_eq_nil_iff.mp none)
  · rfl

theorem leadingInteger_of_written (signed : Signed text minus body)
    (reads : ReadsFrom radix? body base (characters ++ rest)) (small : value < 2 ^ 53)
    (written : Written base value characters) (stop : ¬ StartsWithDigit base rest) :
    leadingInteger text (radix?.getD 0) = withSign minus value := by
  have bounds := reads.bounds
  have starts := written.startsWithDigit bounds.1 rest
  obtain ⟨digits, writes, below, rfl⟩ := written.digits bounds.1
  rw [leadingInteger_of_reads signed reads starts, leadingDigits_append writes below stop,
    ofDigitValues_eq (by omega) (by omega) small, unit_mul_ofNat minus small]

theorem isNaN_zero_div_zero : ((0 : Float) / 0).isNaN = true := by rfl

theorem isNaN_of_reads (signed : Signed text minus body)
    (reads : ReadsFrom radix? body base region) :
    (leadingInteger text (radix?.getD 0)).isNaN = true ↔ ¬ StartsWithDigit base region := by
  have bounds := reads.bounds
  constructor
  · intro isNaN starts
    have isNumber : (ofDigitValues base (leadingDigits base region)).isNaN = false :=
      isNaN_foldl (by omega) (by omega) (fun _ => leadingDigits_lt) (by rfl)
    rw [leadingInteger_of_reads signed reads starts, isNaN_unit_mul, isNumber] at isNaN
    cases isNaN
  · intro stop
    rw [leadingInteger_eq signed, baseOf?_of_readsFrom reads]
    dsimp only
    rw [leadingDigits_nil stop]
    exact isNaN_zero_div_zero

/-- Reading gives a NaN just with a radix outside or where no digit follows. -/
theorem isNaN_leadingInteger (signed : Signed text minus body) :
    (leadingInteger text (radix?.getD 0)).isNaN = true ↔ Outside radix? ∨
      ∃ base region, ReadsFrom radix? body base region ∧ ¬ StartsWithDigit base region := by
  cases found : baseOf? (radix?.getD 0) body with
  | none =>
      have none : (leadingInteger text (radix?.getD 0)).isNaN = true := by
        rw [leadingInteger_eq signed, found]
        exact isNaN_zero_div_zero
      exact iff_of_true none (.inl (baseOf?_eq_none_iff.mp found))
  | some from? =>
      obtain ⟨base, region⟩ := from?
      have reads := readsFrom_of_baseOf? found
      rw [isNaN_of_reads signed reads]
      constructor
      · exact fun stop => .inr ⟨base, region, reads, stop⟩
      · rintro (outside | ⟨other, from', reads', stop⟩)
        · rw [baseOf?_eq_none_iff.mpr outside] at found
          cases found
        · rw [baseOf?_of_readsFrom reads'] at found
          cases found
          exact stop

/-- The characters of a sign, if there is one. -/
inductive SignText : List Char → Bool → Prop
  | none : SignText [] false
  | plus : SignText ['+'] false
  | minus : SignText ['-'] true

/-- Blanks, a sign and characters that start with a digit. -/
theorem signed_of_digit {blanks sign : List Char}
    (blank : ∀ character ∈ blanks, Text.isBlank character = true) (is : SignText sign minus)
    (starts : StartsWithDigit base body) : Signed (blanks ++ sign ++ body) minus body := by
  induction blanks with
  | nil =>
      cases is with
      | none =>
          obtain ⟨digit, first, rest, rfl, -, writes⟩ := starts
          refine .bare _ fun character head => ?_
          cases head
          exact writes.plain
      | plus => exact .plus body
      | minus => exact .minus body
  | cons first blanks induction =>
      exact .blank first (blank first List.mem_cons_self)
        (induction fun character member => blank character (List.mem_cons_of_mem _ member))

theorem le_of_skips (reads : Reads radix? base) (skips : SkipsMark radix?) : base ≤ 16 := by
  rcases reads_iff.mp reads with ⟨-, rfl⟩ | ⟨is, least, -⟩
  · decide
  · rcases skipsMark_iff.mp skips with zero | sixteen
    · have same := Option.some.inj (is.symm.trans zero)
      omega
    · have same := Option.some.inj (is.symm.trans sixteen)
      omega

/-- Digits that are no single zero before an `x` are no `0x`. -/
theorem Written.not_marks (written : Written base value characters) (least : 2 ≤ base)
    (greatest : base ≤ 16)
    (apart : ¬(characters = ['0'] ∧ ∃ tail, rest = 'x' :: tail ∨ rest = 'X' :: tail))
    (behind : List Char) : ¬ Marks (characters ++ rest) behind := by
  obtain ⟨digits, writes, below, -⟩ := written.digits least
  intro marks
  cases writes with
  | nil => exact absurd rfl written.1
  | cons first others =>
      cases others with
      | nil =>
          rcases marks with mark | mark
          · cases mark
            exact apart ⟨rfl, _, .inl rfl⟩
          · cases mark
            exact apart ⟨rfl, _, .inr rfl⟩
      | @cons digit _ _ _ second others =>
          have few : digit < base := below digit (List.mem_cons_of_mem _ List.mem_cons_self)
          have digitOnly := second.ne_mark (Nat.lt_of_lt_of_le few greatest)
          rcases marks with mark | mark
          · cases mark
            exact digitOnly.1 rfl
          · cases mark
            exact digitOnly.2 rfl

end Number

open Native (Returns)
open Number

namespace Native

theorem parseInt_returns (text : String) (radix? : Option Float) :
    Returns parseInt (.text text :: radix?.toList.map .number)
      (.number (leadingInteger text.toList (radix?.getD 0))) := by
  cases radix? with
  | none => exact fun _ => rfl
  | some radix => exact fun _ => rfl

/-- That a natural below two to the fifty-third is read back behind blanks and a sign, up to a
character that is no digit, except from a single zero before an `x` with the given radixes. -/
def ReadsBack (skips : Option Float → Prop) : Prop :=
  ∀ (radix? : Option Float) (base value : Nat) (minus : Bool)
    (blanks sign characters rest : List Char), Reads radix? base → value < 2 ^ 53 →
    (∀ blank ∈ blanks, Text.isBlank blank = true) → SignText sign minus →
    Written base value characters → ¬ StartsWithDigit base rest →
    ¬(skips radix? ∧ characters = ['0'] ∧ ∃ tail, rest = 'x' :: tail ∨ rest = 'X' :: tail) →
    Returns parseInt
      (.text (String.ofList (blanks ++ sign ++ characters ++ rest)) :: radix?.toList.map .number)
      (.number (withSign minus value))

/-- That a mark `0x` before digits of base sixteen is skipped with the given radixes. -/
def SkipsMarks (skips : Option Float → Prop) : Prop :=
  ∀ (radix? : Option Float) (value : Nat) (minus : Bool) (mark : Char)
    (blanks sign characters rest : List Char), skips radix? → value < 2 ^ 53 →
    (∀ blank ∈ blanks, Text.isBlank blank = true) → SignText sign minus → mark = 'x' ∨ mark = 'X' →
    Written 16 value characters → ¬ StartsWithDigit 16 rest →
    Returns parseInt
      (.text (String.ofList (blanks ++ sign ++ ('0' :: mark :: (characters ++ rest)))) ::
        radix?.toList.map .number)
      (.number (withSign minus value))

theorem readsBack : ReadsBack SkipsMark := by
  intro radix? base value minus blanks sign characters rest reads small blank is written stop apart
  have least : 2 ≤ base := by
    rcases reads_iff.mp reads with ⟨-, rfl⟩ | ⟨-, bounds⟩
    · decide
    · exact bounds.1
  have unmarked : SkipsMark radix? → ∀ behind, ¬ Marks (characters ++ rest) behind := by
    intro skips behind
    have greatest := le_of_skips reads skips
    exact written.not_marks least greatest (fun single => apart ⟨skips, single⟩) behind
  have signed := signed_of_digit blank is (written.startsWithDigit least rest)
  rw [← List.append_assoc] at signed
  have returns := parseInt_returns (String.ofList (blanks ++ sign ++ characters ++ rest)) radix?
  rwa [String.toList_ofList,
    leadingInteger_of_written signed (.plain reads unmarked) small written stop] at returns

theorem skipsMarks : SkipsMarks SkipsMark := by
  intro radix? value minus mark blanks sign characters rest skips small blank is cased written stop
  have zero : StartsWithDigit 16 ('0' :: mark :: (characters ++ rest)) :=
    ⟨0, '0', _, rfl, by decide, .inl rfl⟩
  have marks : Marks ('0' :: mark :: (characters ++ rest)) (characters ++ rest) := by
    rcases cased with rfl | rfl
    · exact .inl rfl
    · exact .inr rfl
  have signed := signed_of_digit blank is zero
  have returns := parseInt_returns
    (String.ofList (blanks ++ sign ++ ('0' :: mark :: (characters ++ rest)))) radix?
  rwa [String.toList_ofList,
    leadingInteger_of_written signed (.marked skips marks) small written stop] at returns

/-- That whole numbers are read back from texts. -/
structure ReadsWholeNumbers : Prop where
  radixes : ∀ base, 2 ≤ base → base ≤ 36 → Reads (some (Number.ofNat base)) base
  unmarked : ReadsBack SkipsMark
  marked : SkipsMarks SkipsMark
  signed : ∀ text, ∃ minus body, Signed text minus body
  /-- The result is a NaN just if the radix is outside or no digit follows the sign. -/
  nan : ∀ (text : String) (radix? : Option Float) (minus : Bool) (body : List Char),
    Signed text.toList minus body → ∃ value,
      Returns parseInt (.text text :: radix?.toList.map .number) (.number value) ∧
      (value.isNaN = true ↔ Outside radix? ∨
        ∃ base region, ReadsFrom radix? body base region ∧ ¬ StartsWithDigit base region)

end Native

theorem parseInt_reads_whole_numbers : Native.ReadsWholeNumbers where
  radixes base least greatest := by
    have whole : whole? (Number.ofNat base) = some base := whole?_ofNat (by omega)
    exact .given least greatest (integerPart?_of_whole? whole)
  unmarked := Native.readsBack
  marked := Native.skipsMarks
  signed := exists_signed
  nan text radix? _ _ signed :=
    ⟨_, Native.parseInt_returns text radix?, isNaN_leadingInteger signed⟩

/-- The radixes that a mark has been said to be skipped with, which leave out a NaN. -/
def Number.SaidToSkip (radix? : Option Float) : Prop :=
  radix? = none ∨ ∃ radix whole, radix? = some radix ∧ integerPart? radix = some whole ∧
    (whole = 0 ∨ whole = 16)

theorem not_saidToSkip_nan : ¬ Number.SaidToSkip (some (0 / 0)) := by
  rintro (none | ⟨radix, whole, same, integer, -⟩)
  · cases none
  · cases same
    have isNumber := isNaN_of_integerPart? integer
    rw [isNaN_zero_div_zero] at isNumber
    cases isNumber

/-- A mark is skipped with a NaN as well, so the zero before it is not read back. -/
theorem mark_skipped_for_nan :
    Returns .parseInt [.text "0x1A", .number (0 / 0)] (.number (Number.ofNat 26)) ∧
      ¬ Native.ReadsBack Number.SaidToSkip := by
  have nan : OpenRadix (some (0 / 0)) := .nan isNaN_zero_div_zero
  have marked : Returns .parseInt [.text "0x1A", .number (0 / 0)] (.number (Number.ofNat 26)) := by
    have digits : (Nat.digits 16 26).reverse = [1, 10] := by norm_num
    have written : Written 16 26 ['1', 'A'] := by
      refine ⟨by decide, 0, ?_⟩
      rw [digits]
      exact .cons (.inl rfl) (.cons (.inr rfl) .nil)
    exact Native.skipsMarks (some (0 / 0)) 26 false 'x' [] [] ['1', 'A'] [] (.unsaid nan)
      (by decide) nofun .none (.inl rfl) written nofun
  refine ⟨marked, fun law => ?_⟩
  have zero : Written 10 0 ['0'] := ⟨by decide, 1, .cons (.inl rfl) .nil⟩
  have stop : ¬ StartsWithDigit 10 ['x', '1', 'A'] := by
    rintro ⟨digit, first, rest, same, below, writes⟩
    cases same
    exact (writes.ne_mark (by omega)).1 rfl
  have unmarked := law (some (0 / 0)) 10 0 false [] [] ['0'] ['x', '1', 'A'] (.unsaid nan)
    (by decide) nofun .none zero stop fun said => not_saidToSkip_nan said.1
  have world : World := .initial ⟨fun _ => 0, fun _ => 0⟩ .keep
  have same : Number.ofNat 0 = Number.ofNat 26 := by
    have results := (unmarked world).symm.trans (marked world)
    injection results with values
    injection values
  have read := (whole?_ofNat (by decide)).symm.trans ((congrArg whole? same).trans
    (whole?_ofNat (by decide)))
  cases read

end Avenger
