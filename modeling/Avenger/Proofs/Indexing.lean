import Avenger.Proofs.Characters
import Avenger.Proofs.Teams
import Avenger.Proofs.Wholes

/-!
# Indexes

An index passes its check if it is a natural below the length of the container, and only then, and
it passes as that natural.  Three tests with doubles decide this before a cast that saturates.  So
members are read and slots are written inside the team or the text, and a text that is written to
keeps all that it has before and behind the slot.
-/

namespace Avenger

namespace Value

/-- The position that an index stands for, by three tests with doubles and a cast. -/
def testedPosition (container : Container) (length : Nat) : Value → Except Fault Nat
  | number index =>
      if index < 0 ∨ (Number.fraction index != 0) = true ∨ Number.ofNat length ≤ index then
        .error (.outOfRange index length)
      else .ok index.toUInt64.toNat
  | value => .error (.indexKind container value.kind)

variable {container : Container} {length position : Nat} {index : Float}

theorem position_of_whole {whole : Nat} (rational : Number.value? index = some (whole : ℚ)) :
    (number index).position container length =
      if whole < length then .ok whole else .error (.outOfRange index length) := by
  have found : Number.whole? index = some whole := Number.whole?_eq_some_iff.mpr rational
  unfold Value.position
  dsimp only
  rw [found]

theorem position_of_not_whole
    (fractional : ∀ whole : Nat, Number.value? index ≠ some (whole : ℚ)) :
    (number index).position container length = .error (.outOfRange index length) := by
  have none : Number.whole? index = none := by
    rw [Option.eq_none_iff_forall_ne_some]
    exact fun whole found => fractional whole (Number.whole?_eq_some_iff.mp found)
  unfold Value.position
  dsimp only
  rw [none]

/-- An index passes as the natural that it is if that is below the length, and is refused if it is
no such natural. -/
theorem position_cases (container : Container) (length : Nat) (index : Float) :
    (∃ position < length, Number.value? index = some (position : ℚ) ∧
      (number index).position container length = .ok position) ∨
    (∀ position < length, Number.value? index ≠ some (position : ℚ)) ∧
      (number index).position container length = .error (.outOfRange index length) := by
  by_cases whole : ∃ whole : Nat, Number.value? index = some (whole : ℚ)
  · obtain ⟨whole, rational⟩ := whole
    have placed := @position_of_whole container length index whole rational
    by_cases within : whole < length
    · exact .inl ⟨whole, within, rational, placed.trans (if_pos within)⟩
    · refine .inr ⟨fun position within' rational' => ?_, placed.trans (if_neg within)⟩
      have same : (whole : ℚ) = position := Option.some.inj (rational.symm.trans rational')
      exact within (Nat.cast_injective same ▸ within')
  · exact .inr ⟨fun position _ rational => whole ⟨position, rational⟩,
      position_of_not_whole fun position rational => whole ⟨position, rational⟩⟩

/-- A rational is no natural below a length if it is negative, has a fraction or is too great. -/
theorem not_natural_iff {value : ℚ} :
    (∀ position < length, value ≠ (position : ℚ)) ↔
      value < 0 ∨ Int.fract value ≠ 0 ∨ (length : ℚ) ≤ value := by
  constructor
  · intro other
    by_contra passes
    simp only [not_or, not_lt, not_not, not_le] at passes
    obtain ⟨least, whole, within⟩ := passes
    exact other ⌊value⌋₊ ((Nat.floor_lt least).mpr within) (Number.floor_of_fract least whole).symm
  · rintro (below | fractional | above) position within rfl
    · exact absurd below (Nat.cast_nonneg position).not_gt
    · exact fractional (Int.fract_natCast position)
    · exact absurd within (Nat.cast_le.mp above).not_gt

/-- The three tests refuse what is no natural below the length. -/
theorem tests_iff (small : length < 2 ^ 53) (index : Float) :
    (index < 0 ∨ (Number.fraction index != 0) = true ∨ Number.ofNat length ≤ index) ↔
      ∀ position < length, Number.value? index ≠ some (position : ℚ) := by
  cases rational : Number.value? index with
  | none =>
      have fractional : (Number.fraction index != 0) = true := by
        rw [bne, Number.fraction_beq_zero_of_none rational, Bool.not_false]
      exact iff_of_true (.inr (.inl fractional)) fun _ _ same => nomatch same
  | some value =>
      have negative := Number.lt_zero_iff_value rational
      simp only [ne_eq, Option.some.injEq]
      refine Iff.trans ?_ not_natural_iff.symm
      by_cases below : value < 0
      · exact iff_of_true (.inl (negative.mpr below)) (.inl below)
      · have least := not_lt.mp below
        have exact := Number.beq_zero_iff_value (Number.value?_fraction rational least)
        have fractional : (Number.fraction index != 0) = true ↔ Int.fract value ≠ 0 := by
          rw [bne, Bool.not_eq_true', Bool.eq_false_iff, ne_eq, exact]
        rw [negative, fractional, Number.ofNat_le_iff small rational least]

/-- Three tests with doubles and a cast decide the same where the length is not rounded. -/
theorem testedPosition_eq (small : length < 2 ^ 53) (index : Value) :
    index.testedPosition container length = index.position container length := by
  cases index with
  | number index =>
      rcases position_cases container length index with
        ⟨position, within, rational, placed⟩ | ⟨other, refused⟩
      · have passes := mt (tests_iff small index).mp fun other => other position within rational
        have fits : (position : ℚ) < 2 ^ 64 := by
          have fits : position < 2 ^ 64 := by omega
          exact_mod_cast fits
        have cast := Number.toUInt64_toNat rational (Nat.cast_nonneg position) fits
        rw [Nat.floor_natCast] at cast
        rw [placed, ← cast]
        exact if_neg passes
      · rw [refused]
        exact if_pos ((tests_iff small index).mpr other)
  | text | boolean | null | team | routine | native | stopped => rfl

end Value

/-- What the check of an index makes of it in a container of the given length. -/
structure Value.PositionLaws (container : Container) (length : Nat) : Prop where
  passes : ∀ index position, (number index).position container length = .ok position ↔
    position < length ∧ Number.value? index = some (position : ℚ)
  refuses : ∀ index, (∀ position < length, Number.value? index ≠ some (position : ℚ)) →
    (number index).position container length = .error (.outOfRange index length)
  tested : length < 2 ^ 53 → ∀ index : Value,
    index.testedPosition container length = index.position container length

theorem Value.positionLaws (container : Container) (length : Nat) :
    Value.PositionLaws container length where
  passes index position := by
    rcases position_cases container length index with
      ⟨position', within, rational, placed⟩ | ⟨other, refused⟩
    · rw [placed, rational, Except.ok.injEq, Option.some.injEq, Nat.cast_inj]
      exact ⟨fun same => ⟨same ▸ within, same⟩, And.right⟩
    · rw [refused]
      refine iff_of_false (fun placed => nomatch placed) ?_
      rintro ⟨within, rational⟩
      exact other position within rational
  refuses index other := by
    rcases position_cases container length index with
      ⟨position, within, rational, -⟩ | ⟨-, refused⟩
    · exact absurd rational (other position within)
    · exact refused
  tested small index := testedPosition_eq small index

/-! ### Members -/

namespace Heap

/-- The member of a value at an index: an element of a team or a character of a text. -/
inductive MemberRead (heap : Heap) : Value → Value → Value → Prop where
  | element {id : TeamId} {index : Value} {position : Nat}
      (placed : index.position .team (heap.elements id).size = .ok position)
      (within : position < (heap.elements id).size) :
      MemberRead heap (.team id) index (heap.elements id)[position]
  | character {text : String} {index : Value} {position : Nat}
      (placed : index.position .text text.toList.length = .ok position)
      (within : position < text.toList.length) :
      MemberRead heap (.text text) index (.text text.toList[position].toString)

variable {heap : Heap} {object index value : Value}

theorem member_text_eq (heap : Heap) (text : String) (index : Value) :
    heap.member (.text text) index =
      (index.position .text text.toList.length).map fun position =>
        Value.text ((text.toList[position]?.map Char.toString).getD "") := by
  show (do
    let position ← index.position .text text.toList.length
    return Value.text ((text.toList[position]?.map Char.toString).getD "")) = _
  cases index.position .text text.toList.length <;> rfl

theorem map_position_eq_ok_iff {container : Container} {length : Nat} {read : Nat → Value} :
    (index.position container length).map read = .ok value ↔
      ∃ position < length, index.position container length = .ok position ∧
        read position = value := by
  cases placed : index.position container length with
  | error fault => simp [Except.map]
  | ok position =>
      have within := Value.position_lt placed
      simp [Except.map, within]

/-- What is read instead of a member that is missing is never read. -/
theorem member_eq_ok_iff :
    heap.member object index = .ok value ↔ heap.MemberRead object index value := by
  constructor
  · intro read
    cases object with
    | team id =>
        rw [member_team, map_position_eq_ok_iff] at read
        obtain ⟨position, within, placed, rfl⟩ := read
        rw [Array.getElem?_eq_getElem within]
        exact .element placed within
    | text text =>
        rw [member_text_eq, map_position_eq_ok_iff] at read
        obtain ⟨position, within, placed, rfl⟩ := read
        rw [List.getElem?_eq_getElem within]
        exact .character placed within
    | number | boolean | null | routine | native | stopped => cases read
  · intro read
    cases read with
    | @element id index position placed within =>
        rw [member_team, map_position_eq_ok_iff]
        refine ⟨position, within, placed, ?_⟩
        rw [Array.getElem?_eq_getElem within]
        rfl
    | @character text index position placed within =>
        rw [member_text_eq, map_position_eq_ok_iff]
        refine ⟨position, within, placed, ?_⟩
        rw [List.getElem?_eq_getElem within]
        rfl

end Heap

/-! ### Slots -/

/-- What an assignment to a slot has done when its operands have been evaluated: it has replaced
an element of a team, or given a variable a text with one character replaced. -/
inductive World.SlotReplaced (between later : World) (scope : ScopeId) (value : Value) :
    Expr → Value → Value → Prop where
  | element {object : Expr} {id : TeamId} {index : Value} {position : Nat}
      (placed : index.position .team (between.heap.elements id).size = .ok position)
      (within : position < (between.heap.elements id).size)
      (here : later.heap.elements id = (between.heap.elements id).set position value)
      (elsewhere : ∀ other, other ≠ id →
        later.heap.elements other = between.heap.elements other) :
      SlotReplaced between later scope value object (.team id) index
  | character {name text : String} {index : Value} {before after replacement : List Char}
      {character : Char} (split : text.toList = before ++ character :: after)
      (placed : index.position .text text.toList.length = .ok before.length)
      (replaced : value.replacement between.heap = .ok replacement)
      (rebound : later.heap.lookup scope name =
        .ok (.text (String.ofList (before ++ (replacement ++ after))))) :
      SlotReplaced between later scope value (.name name) (.text text) index

/-- A text is what is before a character, the character and what is behind it. -/
theorem Text.split_at {characters : List Char} {position : Nat}
    (within : position < characters.length) :
    ∃ before character after,
      characters = before ++ character :: after ∧ before.length = position := by
  refine ⟨characters.take position, characters[position], characters.drop (position + 1), ?_, ?_⟩
  · rw [← List.drop_eq_getElem_cons within, List.take_append_drop]
  · rw [List.length_take]
    omega

theorem Text.splice_split (before replacement after : List Char) (character : Char) :
    splice (before ++ character :: after) before.length replacement =
      before ++ (replacement ++ after) := by
  simp [splice]

theorem Eval.storeSlot_replaced {scope : ScopeId} {object : Expr}
    {base index value result : Value} {world later : World}
    (done : Eval.storeSlot scope object base index value world = .ok result later) :
    result = value ∧ world.SlotReplaced later scope value object base index := by
  unfold Eval.storeSlot at done
  split at done
  · next id _ =>
      rw [Eval.writeElement_apply] at done
      split at done
      · next position placed =>
          cases done
          have stored := (World.slotWritten (Value.position_lt placed) value).stored
          obtain ⟨within, here⟩ := stored.elements_here
          exact ⟨rfl, .element placed within here fun _ => stored.elements_elsewhere⟩
      · cases done
  · next text name =>
      obtain ⟨same, position, replacement, written⟩ := World.characterWritten done
      obtain ⟨before, character, after, split, rfl⟩ :=
        Text.split_at (Value.position_lt written.placed)
      have rebound := written.rebound
      rw [split, Text.splice_split] at rebound
      exact ⟨same, .character split written.placed written.replaced rebound⟩
  · cases done
  · cases done

/-! ### Indexing -/

theorem Expr.eval_member_eq_ok {invoke : Invoke} {scope : ScopeId} {object index : Expr}
    {world later : World} {value : Value}
    (read : (Expr.member object index).eval invoke scope world = .ok value later) :
    ∃ base place, Expr.evalList invoke scope [object, index] world = .ok [base, place] later ∧
      later.heap.member base place = .ok value := by
  have steps := read
  rw [Expr.eval] at steps
  obtain ⟨base, reached, first, steps⟩ := Eval.bind_eq_ok_iff.mp steps
  obtain ⟨place, between, second, -⟩ := Eval.bind_eq_ok_iff.mp steps
  have operands : Expr.evalList invoke scope [object, index] world = .ok [base, place] between :=
    evalList_cons_of_ok first (evalList_cons_of_ok second rfl)
  rw [eval_member_of_ok operands] at read
  obtain ⟨found, rfl⟩ := Eval.ofExcept_eq_ok_iff.mp read
  exact ⟨base, place, operands, found⟩

/-- That an index reaches a member or a slot just if it is a natural below the length, and that
none outside is reached. -/
structure Indexing (invoke : Invoke) : Prop where
  checks : ∀ container length, Value.PositionLaws container length
  members : ∀ (heap : Heap) (object index value : Value),
    heap.member object index = .ok value ↔ heap.MemberRead object index value
  reads : ∀ (scope : ScopeId) (object index : Expr) (world later : World) (value : Value),
    (Expr.member object index).eval invoke scope world = .ok value later →
      ∃ base place,
        Expr.evalList invoke scope [object, index] world = .ok [base, place] later ∧
          later.heap.MemberRead base place value
  writes : ∀ (scope : ScopeId) (object index value : Expr) (world later : World)
    (result : Value),
    (Expr.assign (.member object index) value).eval invoke scope world = .ok result later →
      ∃ base place between,
        Expr.evalList invoke scope [object, index, value] world =
            .ok [base, place, result] between ∧
          between.SlotReplaced later scope result object base place

theorem indexing_exact (invoke : Invoke) : Indexing invoke where
  checks := Value.positionLaws
  members _ _ _ _ := Heap.member_eq_ok_iff
  reads scope object index world later value read := by
    obtain ⟨base, place, operands, read⟩ := Expr.eval_member_eq_ok read
    exact ⟨base, place, operands, Heap.member_eq_ok_iff.mp read⟩
  writes scope object index value world later result done := by
    rcases Expr.eval_slot_cases object index value world with
      ⟨base, place, given, between, operands, rest⟩ | ⟨stop, last, -, failed⟩
    · rw [rest] at done
      obtain ⟨rfl, replaced⟩ := Eval.storeSlot_replaced done
      exact ⟨base, place, between, operands, replaced⟩
    · cases failed.symm.trans done

end Avenger
