/-!
# UTF-8

Bytes become characters by their first byte, which fixes how many bytes follow, and the
range of the second byte, which rules out forms that are too long, surrogates and code
points beyond the last.  A defect is located by the index of the first byte of the
character and by how many bytes were well formed up to it; at the end of the bytes a
character may instead be incomplete.
-/

namespace Avenger.Text.Utf8

/-- Where bytes stop being characters.  `length` counts the bytes to skip, and is absent
if the bytes end within a character. -/
structure Defect where
  index : Nat
  length : Option Nat
  deriving DecidableEq

/-- The text of a defect. -/
def Defect.message (defect : Defect) : String :=
  match defect.length with
  | some length =>
      "invalid utf-8 sequence of " ++ toString length ++ " bytes from index " ++
        toString defect.index
  | none => "incomplete utf-8 byte sequence from index " ++ toString defect.index

/-- The form of a character as its first byte fixes it: the payload of that byte, the range
of the second byte, and how many bytes follow. -/
structure Lead where
  payload : Nat
  least : Nat
  greatest : Nat
  following : Nat

/-- The form that a first byte fixes, if it can be one. -/
def lead? (byte : Nat) : Option Lead :=
  if byte < 0x80 then some ⟨byte, 0, 0, 0⟩
  else if byte < 0xC2 then none
  else if byte < 0xE0 then some ⟨byte - 0xC0, 0x80, 0xBF, 1⟩
  else if byte < 0xF0 then
    let least := if byte = 0xE0 then 0xA0 else 0x80
    let greatest := if byte = 0xED then 0x9F else 0xBF
    some ⟨byte - 0xE0, least, greatest, 2⟩
  else if byte < 0xF5 then
    let least := if byte = 0xF0 then 0x90 else 0x80
    let greatest := if byte = 0xF4 then 0x8F else 0xBF
    some ⟨byte - 0xF0, least, greatest, 3⟩
  else none

/-- Reads the bytes that follow a first byte: the code point and the rest.  An error counts
the well-formed bytes, or is `none` if there are too few bytes. -/
def follow (code read least greatest : Nat) :
    Nat → List UInt8 → Except (Option Nat) (Nat × List UInt8)
  | 0, bytes => .ok (code, bytes)
  | _ + 1, [] => .error none
  | following + 1, byte :: bytes =>
      if least ≤ byte.toNat ∧ byte.toNat ≤ greatest then
        follow (code * 64 + (byte.toNat - 0x80)) (read + 1) 0x80 0xBF following bytes
      else .error (some read)

/-- Reads one character: the character, how many bytes it took, and the rest. -/
def character : List UInt8 → Except (Option Nat) (Char × Nat × List UInt8)
  | [] => .error none
  | byte :: bytes =>
      match lead? byte.toNat with
      | none => .error (some 1)
      | some lead =>
          match follow lead.payload 1 lead.least lead.greatest lead.following bytes with
          | .ok (code, rest) => .ok (Char.ofNat code, lead.following + 1, rest)
          | .error length => .error length

/-- Reads characters as long as there are bytes.  Every character takes a byte, so as many
turns as there are bytes suffice. -/
def characters (done : List Char) (index : Nat) :
    Nat → List UInt8 → Except Defect (List Char)
  | _, [] => .ok done.reverse
  | 0, _ :: _ => .error ⟨index, none⟩
  | turns + 1, bytes =>
      match character bytes with
      | .ok (next, width, rest) => characters (next :: done) (index + width) turns rest
      | .error length => .error ⟨index, length⟩

/-- The text that bytes encode. -/
def decode (bytes : List UInt8) : Except Defect String :=
  (characters [] 0 bytes.length bytes).map String.ofList

end Avenger.Text.Utf8
