import Avenger.Text.Utf8
import Avenger.Proofs.Positions

/-!
# The bytes of characters

A character is encoded by one to four bytes, which `Encodes` lists by the size of its code point.
Reading the bytes of characters gives the characters back, and the order of the bytes is the order
of the code points.
-/

namespace Avenger.Text

/-- The bytes of a code point, by its size.  Every byte behind the first one carries six bits. -/
inductive Encodes (code : Nat) : List UInt8 → Prop
  | one {byte : UInt8} (bound : code < 0x80) (is : byte.toNat = code) : Encodes code [byte]
  | two {first second : UInt8} (least : 0x80 ≤ code) (bound : code < 0x800)
      (leads : first.toNat = 0xC0 + code / 64) (ends : second.toNat = 0x80 + code % 64) :
      Encodes code [first, second]
  | three {first second third : UInt8} (least : 0x800 ≤ code) (bound : code < 0x10000)
      (leads : first.toNat = 0xE0 + code / 4096) (follows : second.toNat = 0x80 + code / 64 % 64)
      (ends : third.toNat = 0x80 + code % 64) : Encodes code [first, second, third]
  | four {first second third fourth : UInt8} (least : 0x10000 ≤ code) (bound : code < 0x110000)
      (leads : first.toNat = 0xF0 + code / 262144)
      (follows : second.toNat = 0x80 + code / 4096 % 64)
      (follows' : third.toNat = 0x80 + code / 64 % 64) (ends : fourth.toNat = 0x80 + code % 64) :
      Encodes code [first, second, third, fourth]

theorem toNat_bounds (character : Char) : character.toNat < 0xD800 ∨
    0xDFFF < character.toNat ∧ character.toNat < 0x110000 :=
  character.valid

theorem encodes_encodeChar (character : Char) :
    Encodes character.toNat (String.utf8EncodeChar character) := by
  have bounds := toNat_bounds character
  have code : character.val.toNat = character.toNat := rfl
  have toNat (byte : Nat) (bound : byte < 256) : (UInt8.ofNat byte).toNat = byte :=
    UInt8.toNat_ofNat_of_lt' bound
  unfold String.utf8EncodeChar
  rw [code]
  dsimp only
  split
  · apply Encodes.one
    · omega
    · exact toNat _ (by omega)
  · split
    · apply Encodes.two
      · omega
      · omega
      · rw [toNat] <;> omega
      · rw [toNat] <;> omega
    · split
      · apply Encodes.three
        · omega
        · omega
        · rw [toNat] <;> omega
        · rw [toNat] <;> omega
        · rw [toNat] <;> omega
      · apply Encodes.four
        · omega
        · omega
        · rw [toNat] <;> omega
        · rw [toNat] <;> omega
        · rw [toNat] <;> omega
        · rw [toNat] <;> omega

/-! ### Reading bytes -/

namespace Utf8

section Lead

variable {byte : Nat}

theorem lead?_two (least : 0xC2 ≤ byte) (bound : byte < 0xE0) :
    lead? byte = some ⟨byte - 0xC0, 0x80, 0xBF, 1⟩ := by
  unfold lead?
  rw [if_neg (by omega), if_neg (by omega), if_pos bound]

theorem lead?_three (least : 0xE0 ≤ byte) (bound : byte < 0xF0) :
    lead? byte = some ⟨byte - 0xE0, if byte = 0xE0 then 0xA0 else 0x80,
      if byte = 0xED then 0x9F else 0xBF, 2⟩ := by
  unfold lead?
  rw [if_neg (by omega), if_neg (by omega), if_neg (by omega), if_pos bound]

theorem lead?_four (least : 0xF0 ≤ byte) (bound : byte < 0xF5) :
    lead? byte = some ⟨byte - 0xF0, if byte = 0xF0 then 0x90 else 0x80,
      if byte = 0xF4 then 0x8F else 0xBF, 3⟩ := by
  unfold lead?
  rw [if_neg (by omega), if_neg (by omega), if_neg (by omega), if_neg (by omega), if_pos bound]

end Lead

theorem follow_cons {code read least greatest following : Nat} {byte : UInt8} {bytes : List UInt8}
    (above : least ≤ byte.toNat) (below : byte.toNat ≤ greatest) :
    follow code read least greatest (following + 1) (byte :: bytes) =
      follow (code * 64 + (byte.toNat - 0x80)) (read + 1) 0x80 0xBF following bytes := by
  rw [follow, if_pos ⟨above, below⟩]

/-- What is read when the first byte and those behind it are those of a code point. -/
theorem character_of_follow {byte : UInt8} {bytes rest : List UInt8} {lead : Lead}
    {character : Char} (leads : lead? byte.toNat = some lead)
    (follows : follow lead.payload 1 lead.least lead.greatest lead.following bytes =
      .ok (character.toNat, rest)) :
    Utf8.character (byte :: bytes) = .ok (character, lead.following + 1, rest) := by
  simp [Utf8.character, leads, follows]

end Utf8

/-- A byte behind the first one carries six bits. -/
theorem continuation_bounds {byte : UInt8} {bits : Nat} (is : byte.toNat = 0x80 + bits % 64) :
    0x80 ≤ byte.toNat ∧ byte.toNat ≤ 0xBF := by
  omega

/-- A character is read from its bytes, whatever bytes follow. -/
theorem character_encodeChar (character : Char) (rest : List UInt8) :
    Utf8.character (String.utf8EncodeChar character ++ rest) =
      .ok (character, (String.utf8EncodeChar character).length, rest) := by
  have bounds := toNat_bounds character
  have encodes := encodes_encodeChar character
  generalize String.utf8EncodeChar character = bytes at encodes
  cases encodes with
  | @one byte bound is =>
      have leads : Utf8.lead? byte.toNat = some ⟨byte.toNat, 0, 0, 0⟩ := if_pos (by omega)
      rw [List.cons_append, List.nil_append]
      apply Utf8.character_of_follow leads
      simp [Utf8.follow, is]
  | @two first second least bound leads ends =>
      have second := continuation_bounds ends
      simp only [List.cons_append, List.nil_append]
      apply Utf8.character_of_follow (Utf8.lead?_two (by omega) (by omega))
      dsimp only
      rw [Utf8.follow_cons second.1 second.2, Utf8.follow]
      simp only [Except.ok.injEq, Prod.mk.injEq, and_true]
      omega
  | @three first second third least bound leads follows ends =>
      -- The range of the second byte leaves out forms that are too long, and surrogates.
      have above : (if first.toNat = 0xE0 then 0xA0 else 0x80) ≤ second.toNat := by
        split <;> omega
      have below : second.toNat ≤ (if first.toNat = 0xED then 0x9F else 0xBF) := by
        split <;> omega
      have third := continuation_bounds ends
      simp only [List.cons_append, List.nil_append]
      apply Utf8.character_of_follow (Utf8.lead?_three (by omega) (by omega))
      dsimp only
      rw [Utf8.follow_cons above below, Utf8.follow_cons third.1 third.2, Utf8.follow]
      simp only [Except.ok.injEq, Prod.mk.injEq, and_true]
      omega
  | @four first second third fourth least bound leads follows follows' ends =>
      have above : (if first.toNat = 0xF0 then 0x90 else 0x80) ≤ second.toNat := by
        split <;> omega
      have below : second.toNat ≤ (if first.toNat = 0xF4 then 0x8F else 0xBF) := by
        split <;> omega
      have third := continuation_bounds follows'
      have fourth := continuation_bounds ends
      simp only [List.cons_append, List.nil_append]
      apply Utf8.character_of_follow (Utf8.lead?_four (by omega) (by omega))
      dsimp only
      rw [Utf8.follow_cons above below, Utf8.follow_cons third.1 third.2,
        Utf8.follow_cons fourth.1 fourth.2, Utf8.follow]
      simp only [Except.ok.injEq, Prod.mk.injEq, and_true]
      omega

theorem characters_bytes (done : List Char) (index turns : Nat) (characters : List Char)
    (enough : (bytes characters).length ≤ turns) :
    Utf8.characters done index turns (bytes characters) = .ok (done.reverse ++ characters) := by
  induction characters generalizing done index turns with
  | nil => simp [bytes, Utf8.characters]
  | cons character characters induction =>
      have split : bytes (character :: characters) =
          String.utf8EncodeChar character ++ bytes characters := rfl
      have length : (String.utf8EncodeChar character).length = character.utf8Size :=
        String.length_utf8EncodeChar character
      have some := Char.utf8Size_pos character
      rw [split, List.length_append] at enough
      obtain ⟨turns, rfl⟩ : ∃ fewer, turns = fewer + 1 := ⟨turns - 1, by omega⟩
      have step : Utf8.characters done index (turns + 1) (bytes (character :: characters)) =
          Utf8.characters (character :: done)
            (index + (String.utf8EncodeChar character).length) turns (bytes characters) := by
        rw [split]
        obtain ⟨byte, behind, front⟩ :=
          List.exists_cons_of_ne_nil (String.utf8EncodeChar_ne_nil (c := character))
        have read := character_encodeChar character (bytes characters)
        rw [front] at read ⊢
        rw [List.cons_append] at read ⊢
        simp [Utf8.characters, read]
      rw [step, induction _ _ _ (by omega), List.reverse_cons, List.append_assoc]
      rfl

/-- The text that its own bytes encode. -/
theorem decode_bytes (characters : List Char) :
    Utf8.decode (bytes characters) = .ok (String.ofList characters) := by
  unfold Utf8.decode
  rw [characters_bytes [] 0 _ characters (Nat.le_refl _)]
  rfl

/-! ### The order of bytes -/

/-- The bytes of the smaller of two characters are smaller, whatever bytes follow. -/
theorem encodeChar_lt {character character' : Char} (less : character < character')
    (rest rest' : List UInt8) :
    String.utf8EncodeChar character ++ rest < String.utf8EncodeChar character' ++ rest' := by
  have order : character.toNat < character'.toNat := less
  have encodes := encodes_encodeChar character
  have encodes' := encodes_encodeChar character'
  generalize String.utf8EncodeChar character = bytes at encodes
  generalize String.utf8EncodeChar character' = bytes' at encodes'
  cases encodes <;> cases encodes' <;>
    simp only [List.cons_append, List.nil_append, List.cons_lt_cons_iff,
      UInt8.lt_iff_toNat_lt, ← UInt8.toNat_inj] <;>
    omega

theorem bytes_lt {first second : List Char} (less : first < second) :
    bytes first < bytes second := by
  induction less with
  | @nil character characters =>
      obtain ⟨byte, behind, front⟩ :=
        List.exists_cons_of_ne_nil (String.utf8EncodeChar_ne_nil (c := character))
      have split : bytes (character :: characters) = byte :: (behind ++ bytes characters) := by
        simp [bytes, front]
      rw [split]
      exact List.nil_lt_cons _ _
  | rel less => exact encodeChar_lt less _ _
  | cons _ induction => exact List.append_left_lt induction

/-- Texts are in the order of their bytes. -/
theorem bytes_lt_iff {first second : List Char} :
    bytes first < bytes second ↔ first < second := by
  refine ⟨fun less => ?_, bytes_lt⟩
  rcases lt_trichotomy first second with before | same | after
  · exact before
  · rw [same] at less
    exact absurd less (List.lt_irrefl _)
  · exact absurd less (List.lt_asymm (bytes_lt after))

end Avenger.Text
