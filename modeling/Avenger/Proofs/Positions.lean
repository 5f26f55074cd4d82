import Avenger.Eval.Element
import Avenger.Native.Apply
import Avenger.Proofs.Naturals

/-!
# Positions in texts

Searching, slicing and reading single characters count positions alike, in characters.  A search
finds the first position from its start on where the slice as long as the part is the part.  Slices
join up, in whatever order their ends are given, and the slices of one character are the
characters that are read.
-/

namespace Avenger

namespace Text

variable {characters part : List Char} {position : Nat}

/-! ### Slices -/

theorem slice_length {start stop : Nat} (within : stop ≤ characters.length) :
    (slice characters start stop).length = stop - start := by
  unfold slice
  rw [List.length_take, List.length_drop]
  omega

theorem slice_append {first second third : Nat} (le : first ≤ second) (le' : second ≤ third) :
    slice characters first second ++ slice characters second third =
      slice characters first third := by
  unfold slice
  have lengths : third - first = second - first + (third - second) := by omega
  have rest : characters.drop second = (characters.drop first).drop (second - first) := by
    rw [List.drop_drop]
    congr 1
    omega
  rw [lengths, List.take_add, rest]

theorem slice_all : slice characters 0 characters.length = characters := List.take_length

theorem slice_single {character : Char} (here : characters[position]? = some character) :
    slice characters position (position + 1) = [character] := by
  obtain ⟨within, rfl⟩ := List.getElem?_eq_some_iff.mp here
  unfold slice
  rw [List.drop_eq_getElem_cons within, Nat.add_sub_cancel_left]
  rfl

/-! ### Searches -/

/-- That a part stands in a text at a position: it is the slice of its length there. -/
def StandsAt (characters part : List Char) (position : Nat) : Prop :=
  slice characters position (position + part.length) = part

theorem standsAt_iff : StandsAt characters part position ↔ part <+: characters.drop position := by
  unfold StandsAt slice
  rw [Nat.add_sub_cancel_left, List.prefix_iff_eq_take, eq_comm]

theorem standsAt_nil (position : Nat) : StandsAt characters [] position :=
  standsAt_iff.mpr List.nil_prefix

theorem findFrom_some {found : Nat} (search : findFrom part position characters = some found) :
    ∃ offset, found = position + offset ∧ part <+: characters.drop offset ∧
      ∀ earlier, part <+: characters.drop earlier → offset ≤ earlier := by
  induction characters generalizing position with
  | nil =>
      unfold findFrom at search
      split at search
      · next here =>
          cases search
          exact ⟨0, rfl, List.isPrefixOf_iff_prefix.mp here, fun _ _ => Nat.zero_le _⟩
      · cases search
  | cons character rest induction =>
      unfold findFrom at search
      split at search
      · next here =>
          cases search
          exact ⟨0, rfl, List.isPrefixOf_iff_prefix.mp here, fun _ _ => Nat.zero_le _⟩
      · next elsewhere =>
          obtain ⟨offset, rfl, here, first⟩ := induction search
          refine ⟨offset + 1, by omega, here, fun earlier stands => ?_⟩
          cases earlier with
          | zero => exact absurd (List.isPrefixOf_iff_prefix.mpr stands) elsewhere
          | succ earlier => exact Nat.succ_le_succ (first earlier stands)

theorem findFrom_none (search : findFrom part position characters = none) (offset : Nat) :
    ¬ part <+: characters.drop offset := by
  induction characters generalizing position offset with
  | nil =>
      unfold findFrom at search
      split at search
      · cases search
      · next elsewhere =>
          rw [List.drop_nil]
          exact fun here => elsewhere (List.isPrefixOf_iff_prefix.mpr here)
  | cons character rest induction =>
      unfold findFrom at search
      split at search
      · cases search
      · next elsewhere =>
          cases offset with
          | zero => exact fun here => elsewhere (List.isPrefixOf_iff_prefix.mpr here)
          | succ offset => exact induction search offset

/-- A search finds the first position from its start on where the part stands. -/
theorem find?_some {start : Nat} (search : find? characters part start = some position) :
    IsLeast {position | start ≤ position ∧ StandsAt characters part position} position := by
  obtain ⟨offset, rfl, here, first⟩ := findFrom_some search
  rw [List.drop_drop] at here
  refine ⟨⟨Nat.le_add_right _ _, standsAt_iff.mpr here⟩, ?_⟩
  rintro other ⟨after, stands⟩
  have inside : part <+: (characters.drop start).drop (other - start) := by
    rw [List.drop_drop, Nat.add_sub_cancel' after]
    exact standsAt_iff.mp stands
  have before := first _ inside
  omega

theorem find?_nil (characters : List Char) (start : Nat) :
    find? characters [] start = some start := by
  unfold find? findFrom
  rfl

theorem find?_none {start : Nat} (search : find? characters part start = none)
    (after : start ≤ position) : ¬ StandsAt characters part position := by
  have nowhere := findFrom_none search (position - start)
  rw [List.drop_drop, Nat.add_sub_cancel' after] at nowhere
  exact fun stands => nowhere (standsAt_iff.mp stands)

/-- Matches may overlap. -/
example : find? "ababa".toList "aba".toList 1 = some 2 := by decide

/-! ### Bytes

No character has the bytes of another one in front, and only the first byte of a character can
start one.  So the bytes of a part stand in the bytes of a text just where the part stands. -/

/-- The bytes of characters. -/
def bytes (characters : List Char) : List UInt8 := characters.flatMap String.utf8EncodeChar

/-- The place of a position among the bytes. -/
def offset (characters : List Char) (position : Nat) : Nat :=
  (bytes (characters.take position)).length

theorem encodeChar_prefix {character character' : Char} {rest rest' : List UInt8}
    (same : String.utf8EncodeChar character ++ rest = String.utf8EncodeChar character' ++ rest') :
    character = character' := by
  have arrays := congrArg List.toByteArray same
  rw [List.toByteArray_append, List.toByteArray_append] at arrays
  have decoded := congrArg (fun array => ByteArray.utf8DecodeChar? array 0) arrays
  simpa [ByteArray.utf8DecodeChar?_utf8EncodeChar_append] using decoded

theorem prefix_of_bytes (here : bytes part <+: bytes characters) : part <+: characters := by
  induction part generalizing characters with
  | nil => exact List.nil_prefix
  | cons character part induction =>
      obtain ⟨rest, same⟩ := here
      cases characters with
      | nil =>
          have none := (List.append_eq_nil_iff.mp same).1
          exact absurd (List.append_eq_nil_iff.mp none).1 String.utf8EncodeChar_ne_nil
      | cons character' characters =>
          have split : String.utf8EncodeChar character ++ (bytes part ++ rest) =
              String.utf8EncodeChar character' ++ bytes characters := by
            rw [← List.append_assoc]
            exact same
          obtain rfl := encodeChar_prefix split
          exact List.cons_prefix_cons.mpr
            ⟨rfl, induction ⟨rest, List.append_cancel_left split⟩⟩

theorem bytes_drop (characters : List Char) (position : Nat) :
    (bytes characters).drop (offset characters position) = bytes (characters.drop position) := by
  have split : bytes characters =
      bytes (characters.take position) ++ bytes (characters.drop position) := by
    unfold bytes
    rw [← List.flatMap_append, List.take_append_drop]
  rw [split]
  exact List.drop_left

/-- The bytes of a character do not start within those of another one. -/
theorem startsAt_zero {first character : Char} {place : Nat}
    (inside : place < (String.utf8EncodeChar character).length)
    (here : bytes (first :: part) <+: (bytes (character :: characters)).drop place) :
    place = 0 := by
  have some : 0 < (String.utf8EncodeChar first).length := by
    rw [String.length_utf8EncodeChar]
    exact Char.utf8Size_pos first
  have same : (String.utf8EncodeChar character)[place] = (String.utf8EncodeChar first)[0] := by
    obtain ⟨behind, joined⟩ := here
    have heads : (String.utf8EncodeChar first ++ bytes part ++ behind)[0]? =
        ((String.utf8EncodeChar character ++ bytes characters).drop place)[0]? :=
      congrArg (·[0]?) joined
    rw [List.append_assoc, List.getElem?_append_left some, List.getElem?_drop, Nat.add_zero,
      List.getElem?_append_left inside, List.getElem?_eq_getElem some,
      List.getElem?_eq_getElem inside] at heads
    exact (Option.some.inj heads).symm
  have starts : (String.utf8EncodeChar character)[place].IsUTF8FirstByte := by
    rw [same, UInt8.isUTF8FirstByte_getElem_utf8EncodeChar]
  exact UInt8.isUTF8FirstByte_getElem_utf8EncodeChar.mp starts

/-- The bytes of a part that is not empty stand only where characters start. -/
theorem exists_position {place : Nat} (some : part ≠ [])
    (here : bytes part <+: (bytes characters).drop place) :
    ∃ position, position ≤ characters.length ∧ place = offset characters position ∧
      part <+: characters.drop position := by
  obtain ⟨first, part, rfl⟩ := List.exists_cons_of_ne_nil some
  induction characters generalizing place with
  | nil =>
      have none : bytes (first :: part) = [] := by
        rw [show bytes [] = [] from rfl, List.drop_nil] at here
        exact List.prefix_nil.mp here
      exact absurd (List.append_eq_nil_iff.mp none).1 String.utf8EncodeChar_ne_nil
  | cons character rest induction =>
      have front : bytes (character :: rest) = String.utf8EncodeChar character ++ bytes rest := rfl
      rcases Nat.lt_or_ge place (String.utf8EncodeChar character).length with inside | behind
      · have starts := startsAt_zero inside here
        subst starts
        exact ⟨0, Nat.zero_le _, rfl, prefix_of_bytes here⟩
      · rw [front, List.drop_append, List.drop_of_length_le behind, List.nil_append] at here
        obtain ⟨position, within, place', stands⟩ := induction here
        refine ⟨position + 1, Nat.succ_le_succ within, ?_, stands⟩
        have longer : offset (character :: rest) (position + 1) =
            (String.utf8EncodeChar character).length + offset rest position :=
          List.length_append
        omega

/-- Later positions have later places. -/
theorem offset_le {first second : Nat} (le : first ≤ second) :
    offset characters first ≤ offset characters second := by
  unfold offset bytes
  exact ((List.take_prefix_take_left le).flatMap _).length_le

theorem offset_lt {first second : Nat} (lt : first < second) (within : second ≤ characters.length) :
    offset characters first < offset characters second := by
  refine Nat.lt_of_lt_of_le ?_ (offset_le lt)
  have next : characters.take (first + 1) = characters.take first ++ [characters[first]] := by
    rw [List.take_succ_eq_append_getElem]
  unfold offset bytes
  rw [next, List.flatMap_append, List.length_append, List.flatMap_singleton,
    String.length_utf8EncodeChar]
  have some := Char.utf8Size_pos characters[first]
  omega

theorem isLeast_offset {start : Nat} (within : start ≤ characters.length)
    (least : IsLeast {position | start ≤ position ∧ StandsAt characters part position} position) :
    IsLeast {place | offset characters start ≤ place ∧
      bytes part <+: (bytes characters).drop place} (offset characters position) := by
  obtain ⟨⟨after, here⟩, first⟩ := least
  refine ⟨⟨offset_le after, ?_⟩, ?_⟩
  · rw [bytes_drop]
    exact (standsAt_iff.mp here).flatMap _
  · rintro place ⟨after', here'⟩
    -- The empty part stands between the bytes of a character as well.
    by_cases none : part = []
    · subst none
      have earliest : position ≤ start :=
        first ⟨Nat.le_refl _, standsAt_nil start⟩
      exact (offset_le earliest).trans after'
    · obtain ⟨other, within', rfl, stands⟩ := exists_position none here'
      have follows : start ≤ other := by
        by_contra before
        exact absurd after' (Nat.not_le_of_lt (offset_lt (by omega) within))
      exact offset_le (first ⟨follows, standsAt_iff.mpr stands⟩)

theorem not_bytes_prefix {start place : Nat} (within : start ≤ characters.length)
    (nowhere : ∀ position, start ≤ position → ¬ StandsAt characters part position)
    (after : offset characters start ≤ place) :
    ¬ bytes part <+: (bytes characters).drop place := by
  intro here
  have some : part ≠ [] := by
    rintro rfl
    exact nowhere start (Nat.le_refl _) (standsAt_nil start)
  obtain ⟨position, within', rfl, stands⟩ := exists_position some here
  refine nowhere position ?_ (standsAt_iff.mpr stands)
  by_contra before
  exact absurd after (Nat.not_le_of_lt (offset_lt (by omega) within))

end Text

namespace Native

/-- That a call of a native function gives a value in every world, and leaves the world as it
is. -/
def Returns (function : Native) (arguments : List Value) (value : Value) : Prop :=
  ∀ world : World, function.apply arguments world = .ok value world

variable (text part : String) (first second : Float)

theorem indexOf_returns (start? : Option Float) :
    Returns indexOf (.text text :: .text part :: start?.toList.map .number)
      (.number (indexIn text part (start?.getD 0))) := by
  cases start? with
  | none => exact fun _ => rfl
  | some start => exact fun _ => rfl

theorem subStr_returns :
    Returns subStr [.text text, .number first, .number second]
      (.text (between text first second)) :=
  fun _ => rfl

theorem charAt_returns :
    Returns charAt [.text text, .number first] (.text (characterAt text first)) :=
  fun _ => rfl

theorem len_returns : Returns len [.text text] (.number (Number.ofNat text.length)) :=
  fun _ => rfl

theorem between_comm : between text second first = between text first second := by
  unfold between
  dsimp only
  congr 2
  · exact Nat.min_comm _ _
  · exact Nat.max_comm _ _

variable {text part first second}

theorem toList_between {start stop : Nat} (starts : Number.clamp first text.length = start)
    (stops : Number.clamp second text.length = stop) (le : start ≤ stop) :
    (between text first second).toList = Text.slice text.toList start stop := by
  rw [← String.length_toList] at starts stops
  unfold between
  dsimp only
  rw [String.toList_ofList, starts, stops]
  congr 1
  · exact Nat.min_eq_left le
  · exact Nat.max_eq_right le

theorem length_between {start stop : Nat} (starts : Number.clamp first text.length = start)
    (stops : Number.clamp second text.length = stop) (le : start ≤ stop) :
    (between text first second).length = stop - start := by
  have within : stop ≤ text.toList.length := by
    rw [String.length_toList, ← stops]
    exact Number.clamp_le second _
  rw [← String.length_toList, toList_between starts stops le, Text.slice_length within]

theorem between_append {third : Float}
    (le : Number.clamp first text.length ≤ Number.clamp second text.length)
    (le' : Number.clamp second text.length ≤ Number.clamp third text.length) :
    between text first second ++ between text second third = between text first third := by
  rw [← String.toList_inj, String.toList_append, toList_between rfl rfl le,
    toList_between rfl rfl le', toList_between rfl rfl (le.trans le'), Text.slice_append le le']

theorem between_all (text : String) : between text 0 (Number.ofNat text.length) = text := by
  rw [← String.toList_inj, toList_between (Number.clamp_zero _) (Number.clamp_ofNat_self _)
    (Nat.zero_le _), ← String.length_toList, Text.slice_all]

theorem between_single {position : Nat} {character : Char}
    (here : text.toList[position]? = some character)
    (starts : Number.clamp first text.length = position)
    (next : Number.clamp second text.length = position + 1) :
    between text first second = character.toString := by
  rw [← String.toList_inj, toList_between starts next (Nat.le_succ _), Text.slice_single here,
    Char.toString_eq_singleton, String.toList_singleton]

theorem indexIn_of_some {position : Nat}
    (found : Text.find? text.toList part.toList (Number.clamp first text.length) =
      some position) :
    indexIn text part first = Number.ofNat position := by
  rw [← String.length_toList] at found
  unfold indexIn
  dsimp only
  rw [found]

theorem indexIn_of_none
    (missing : Text.find? text.toList part.toList (Number.clamp first text.length) = none) :
    indexIn text part first = -1 := by
  rw [← String.length_toList] at missing
  unfold indexIn
  dsimp only
  rw [missing]

theorem characterAt_eq {position : Nat} {character : Char}
    (whole : Number.whole? first = some position)
    (here : text.toList[position]? = some character) :
    characterAt text first = character.toString := by
  have integer := Number.integerPart?_of_whole? whole
  unfold characterAt
  rw [Number.isNaN_of_integerPart? integer, integer]
  show ((text.toList[position]?).map Char.toString).getD "" = _
  rw [here]
  rfl

end Native

theorem Heap.member_text {heap : Heap} {text : String} {index : Float} {position : Nat}
    {character : Char} (whole : Number.whole? index = some position)
    (here : text.toList[position]? = some character) :
    heap.member (.text text) (.number index) = .ok (.text character.toString) := by
  have within : position < text.toList.length := (List.getElem?_eq_some_iff.mp here).1
  have placed : (Value.number index).position .text text.toList.length = .ok position := by
    unfold Value.position
    dsimp only
    rw [whole]
    exact if_pos within
  have read : heap.member (.text text) (.number index) =
      ((Value.number index).position .text text.toList.length >>= fun position =>
        .ok (.text ((text.toList[position]?.map Char.toString).getD ""))) := rfl
  rw [read, placed]
  show Except.ok (Value.text ((text.toList[position]?.map Char.toString).getD "")) = _
  rw [here]
  rfl

/-! ### Positions -/

open Native (Returns)

/-- That searching, slicing and reading characters of a text agree on positions.  A start or an end
may be any number: it is moved to a position of the text first.  Every position is one that its own
number is moved to. -/
structure Text.PositionsAgree (text : String) : Prop where
  within : ∀ number, Number.clamp number text.length ≤ text.length
  origin : Number.clamp 0 text.length = 0
  reached : ∀ position, position ≤ text.length → text.length < 2 ^ 53 →
    Number.whole? (Number.ofNat position) = some position ∧
      Number.clamp (Number.ofNat position) text.length = position
  /-- A search gives the first position where the part stands, and minus one exactly if there is
  none; without a start it starts at zero. -/
  searched : ∀ (part : String) (start? : Option Float) (start : Nat),
    Number.clamp (start?.getD 0) text.length = start → ∃ result,
      Returns .indexOf (.text text :: .text part :: start?.toList.map .number) (.number result) ∧
      (result = -1 ↔ ∀ position, start ≤ position → ¬ StandsAt text.toList part.toList position) ∧
      (result ≠ -1 → ∃ position, result = Number.ofNat position ∧
        IsLeast {position | start ≤ position ∧ StandsAt text.toList part.toList position} position)
  /-- A search of the bytes, from the place of the start on, ends at the place of the position that
  is found, and nowhere if there is none. -/
  encoded : ∀ (part : String) (start : Nat), start ≤ text.length →
    (∀ position,
      IsLeast {position | start ≤ position ∧ StandsAt text.toList part.toList position} position →
      IsLeast {place | offset text.toList start ≤ place ∧
        bytes part.toList <+: (bytes text.toList).drop place} (offset text.toList position)) ∧
    ((∀ position, start ≤ position → ¬ StandsAt text.toList part.toList position) →
      ∀ place, offset text.toList start ≤ place →
        ¬ bytes part.toList <+: (bytes text.toList).drop place)
  /-- The empty text is found where the search starts. -/
  empty : ∀ number, Returns .indexOf [.text text, .text "", .number number]
    (.number (Number.ofNat (Number.clamp number text.length)))
  /-- A slice has the characters between its ends, which may come in either order. -/
  sliced : ∀ first second start stop, Number.clamp first text.length = start →
    Number.clamp second text.length = stop → start ≤ stop → ∃ part : String,
      Returns .subStr [.text text, .number first, .number second] (.text part) ∧
      Returns .subStr [.text text, .number second, .number first] (.text part) ∧
      part.toList = slice text.toList start stop ∧ part.length = stop - start
  joined : ∀ first second third, Number.clamp first text.length ≤ Number.clamp second text.length →
    Number.clamp second text.length ≤ Number.clamp third text.length → ∃ left right : String,
      Returns .subStr [.text text, .number first, .number second] (.text left) ∧
      Returns .subStr [.text text, .number second, .number third] (.text right) ∧
      Returns .subStr [.text text, .number first, .number third] (.text (left ++ right))
  /-- The slice up to the length is the text. -/
  whole : ∃ length, Returns .len [.text text] (.number length) ∧
    length = Number.ofNat text.length ∧
    Returns .subStr [.text text, .number 0, .number length] (.text text)
  /-- The slices of one character are the characters that are read. -/
  single : ∀ first second position, Number.whole? first = some position →
    position < text.length → Number.clamp first text.length = position →
    Number.clamp second text.length = position + 1 →
    ∃ character : Char, text.toList[position]? = some character ∧
      Returns .subStr [.text text, .number first, .number second] (.text character.toString) ∧
      Returns .charAt [.text text, .number first] (.text character.toString) ∧
      ∀ heap : Heap,
        heap.member (.text text) (.number first) = .ok (.text character.toString)

theorem text_positions_agree (text : String) : Text.PositionsAgree text where
  within number := Number.clamp_le number _
  origin := Number.clamp_zero _
  reached position le small :=
    ⟨Number.whole?_ofNat (by omega), Number.clamp_ofNat le small⟩
  searched part start? start clamped := by
    subst clamped
    refine ⟨_, Native.indexOf_returns text part start?, ?_⟩
    cases search : Text.find? text.toList part.toList
        (Number.clamp (start?.getD 0) text.length) with
    | none =>
        have missing := Native.indexIn_of_none search
        exact ⟨iff_of_true missing fun position after => Text.find?_none search after,
          fun found => absurd missing found⟩
    | some position =>
        have least := Text.find?_some search
        rw [Native.indexIn_of_some search]
        exact ⟨iff_of_false (Number.ofNat_ne_neg_one position) fun nowhere =>
          nowhere position least.1.1 least.1.2, fun _ => ⟨position, rfl, least⟩⟩
  encoded part start le := by
    rw [← String.length_toList] at le
    exact ⟨fun _ least => Text.isLeast_offset le least,
      fun nowhere _ after => Text.not_bytes_prefix le nowhere after⟩
  empty number := by
    have returns := Native.indexOf_returns text "" (some number)
    rwa [Option.getD_some, Native.indexIn_of_some (Text.find?_nil _ _)] at returns
  sliced first second start stop starts stops le := by
    have reversed := Native.subStr_returns text second first
    rw [Native.between_comm] at reversed
    exact ⟨_, Native.subStr_returns text first second, reversed,
      Native.toList_between starts stops le, Native.length_between starts stops le⟩
  joined first second third le le' := by
    have all := Native.subStr_returns text first third
    rw [← Native.between_append le le'] at all
    exact ⟨_, _, Native.subStr_returns text first second, Native.subStr_returns text second third,
      all⟩
  whole := by
    have returns := Native.subStr_returns text 0 (Number.ofNat text.length)
    rw [Native.between_all] at returns
    exact ⟨_, Native.len_returns text, rfl, returns⟩
  single first second position stands below starts next := by
    have within : position < text.toList.length := by rwa [String.length_toList]
    have here : text.toList[position]? = some text.toList[position] :=
      List.getElem?_eq_getElem within
    have sliced := Native.subStr_returns text first second
    rw [Native.between_single here starts next] at sliced
    have read := Native.charAt_returns text first
    rw [Native.characterAt_eq stands here] at read
    exact ⟨_, here, sliced, read, fun heap => Heap.member_text stands here⟩

end Avenger
