import Mathlib.Data.List.Forall2
import Avenger.CommandLine
import Avenger.Proofs.Encoding
import Avenger.Proofs.Trimming

/-!
# The lines of standard input

Standard input is split into lines while it is still bytes.  If it is a text, that gives the bytes
of the lines of the text: the byte of a line break is part of no other character, and a line break
at the end of a line is a blank.
-/

namespace Avenger.CommandLine

/-- The lines of a text: what stands between its line breaks.  Nothing behind the last one is no
line. -/
def textLines (characters : List Char) : List (List Char) :=
  let pieces := characters.splitOn '\n'
  if pieces.getLast? = some [] then pieces.dropLast else pieces

/-- Bytes that are a text, which is a source once the blanks at its ends are taken away. -/
def ReadsAs (line : List UInt8) (source : String) : Prop :=
  ∃ text, Text.Utf8.decode line = .ok text ∧ Text.trim text = source

section TextLines

variable {line : List Char}

theorem textLines_nil : textLines [] = [] := by
  simp [textLines]

theorem textLines_of_not_mem (some : line ≠ []) (unbroken : '\n' ∉ line) :
    textLines line = [line] := by
  simp [textLines, List.splitOn_eq_singleton unbroken, some]

theorem textLines_append (unbroken : '\n' ∉ line) (rest : List Char) :
    textLines (line ++ '\n' :: rest) = line :: textLines rest := by
  have split : (line ++ '\n' :: rest).splitOn '\n' = line :: rest.splitOn '\n' := by
    rw [List.splitOn_append_cons_self, List.splitOn_eq_singleton unbroken]
    rfl
  unfold textLines
  rw [split]
  obtain ⟨piece, pieces, front⟩ := List.exists_cons_of_ne_nil (List.splitOn_ne_nil '\n' rest)
  rw [front]
  simp only [List.getLast?_cons_cons, List.dropLast_cons_of_ne_nil (List.cons_ne_nil piece pieces)]
  split <;> rfl

end TextLines

section Bytes

variable {line bytes : List UInt8} {done : List (List UInt8)}

theorem linesFrom_done (line : List UInt8) (done : List (List UInt8)) (bytes : List UInt8) :
    linesFrom line done bytes = done.reverse ++ linesFrom line [] bytes := by
  induction bytes generalizing line done with
  | nil =>
      unfold linesFrom
      split <;> simp
  | cons byte rest induction =>
      unfold linesFrom
      split
      · rw [induction [] _, induction [] [_]]
        simp
      · exact induction _ _

theorem linesFrom_append (unbroken : 10 ∉ bytes) (rest : List UInt8) :
    linesFrom line done (bytes ++ rest) = linesFrom (bytes.reverse ++ line) done rest := by
  induction bytes generalizing line with
  | nil => rfl
  | cons byte bytes induction =>
      rw [List.mem_cons, not_or] at unbroken
      obtain ⟨other, unbroken⟩ := unbroken
      rw [List.cons_append, linesFrom, if_neg (by simpa using Ne.symm other), induction unbroken]
      simp

theorem lines_of_not_mem (some : bytes ≠ []) (unbroken : 10 ∉ bytes) : lines bytes = [bytes] := by
  have whole : linesFrom [] [] (bytes ++ []) = linesFrom (bytes.reverse ++ []) [] [] :=
    linesFrom_append unbroken []
  rw [List.append_nil, List.append_nil] at whole
  unfold lines
  rw [whole, linesFrom]
  simp [some]

theorem lines_append (unbroken : 10 ∉ bytes) (rest : List UInt8) :
    lines (bytes ++ 10 :: rest) = (bytes ++ [10]) :: lines rest := by
  unfold lines
  rw [linesFrom_append unbroken, linesFrom]
  simp [linesFrom_done [] [_]]

/-- The byte of a line break is part of no other character. -/
theorem not_mem_encodeChar {character : Char} (other : character ≠ '\n') :
    10 ∉ String.utf8EncodeChar character := by
  have code : character.toNat ≠ 10 := fun same => other (Char.toNat_inj.mp same)
  have encodes := Text.encodes_encodeChar character
  generalize String.utf8EncodeChar character = bytes at encodes
  cases encodes <;> simp only [List.mem_cons, List.not_mem_nil, ← UInt8.toNat_inj] <;> simp <;>
    omega

theorem not_mem_bytes {characters : List Char} (unbroken : '\n' ∉ characters) :
    10 ∉ Text.bytes characters := by
  intro member
  obtain ⟨character, inside, part⟩ := List.mem_flatMap.mp member
  apply not_mem_encodeChar _ part
  rintro rfl
  exact unbroken inside

end Bytes

theorem bytes_readsAs (characters : List Char) :
    ReadsAs (Text.bytes characters) (Text.trim (String.ofList characters)) :=
  ⟨_, Text.decode_bytes characters, rfl⟩

/-- A line break behind a line is trimmed away. -/
theorem bytes_newline_readsAs (characters : List Char) :
    ReadsAs (Text.bytes characters ++ [10]) (Text.trim (String.ofList characters)) := by
  have encoded : Text.bytes characters ++ [10] = Text.bytes (characters ++ ['\n']) := by
    simp [Text.bytes, String.utf8EncodeChar]
  have blank : ∀ character ∈ ['\n'], Text.isBlank character = true :=
    List.forall_mem_singleton.mpr (Text.isBlank_of_isWhitespace rfl)
  rw [encoded]
  refine ⟨_, Text.decode_bytes _, ?_⟩
  simp [Text.trim, Text.trimmed_append_right blank]

/-- The lines of the bytes of a text read as the lines of the text. -/
theorem lines_readAs (characters : List Char) :
    List.Forall₂ ReadsAs (lines (Text.bytes characters))
      ((textLines characters).map fun line => Text.trim (String.ofList line)) := by
  by_cases broken : '\n' ∈ characters
  · obtain ⟨line, rest, split, unbroken⟩ := List.eq_append_cons_of_mem broken
    have shorter : rest.length < characters.length := by
      rw [split, List.length_append, List.length_cons]
      omega
    have encoded : Text.bytes (line ++ '\n' :: rest) =
        Text.bytes line ++ 10 :: Text.bytes rest := by
      simp [Text.bytes, String.utf8EncodeChar]
    rw [split, encoded, lines_append (not_mem_bytes unbroken), textLines_append unbroken]
    exact .cons (bytes_newline_readsAs line) (lines_readAs rest)
  · cases characters with
    | nil =>
        rw [textLines_nil]
        exact .nil
    | cons character rest =>
        have some : Text.bytes (character :: rest) ≠ [] := by
          simp [Text.bytes, String.utf8EncodeChar_ne_nil]
        rw [lines_of_not_mem some (not_mem_bytes broken),
          textLines_of_not_mem (List.cons_ne_nil _ _) broken]
        exact .cons (bytes_readsAs _) .nil
termination_by characters.length

end Avenger.CommandLine
