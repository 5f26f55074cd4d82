import Avenger.Text.Ranges

/-!
# Blanks at the ends of a text

The characters with the Unicode property White_Space, and trimming them.
-/

namespace Avenger.Text

/-- The ranges of code points with the property White_Space, in order. -/
def whiteSpace : List (Nat × Nat) :=
  [(0x9, 0xD), (0x20, 0x20), (0x85, 0x85), (0xA0, 0xA0), (0x1680, 0x1680), (0x2000, 0x200A),
   (0x2028, 0x2029), (0x202F, 0x202F), (0x205F, 0x205F), (0x3000, 0x3000)]

/-- Whether a character has the property White_Space. -/
def isBlank (character : Char) : Bool := inRanges whiteSpace character.toNat

/-- Every blank of ASCII is one. -/
theorem isBlank_of_isWhitespace {character : Char}
    (white : character.isWhitespace = true) : isBlank character = true := by
  simp only [Char.isWhitespace, Bool.or_eq_true, decide_eq_true_eq] at white
  rcases white with ((rfl | rfl) | rfl) | rfl <;> decide

/-- Characters without the blanks at their start. -/
def trimStart (characters : List Char) : List Char := characters.dropWhile isBlank

/-- Characters without the blanks at their end. -/
def trimEnd (characters : List Char) : List Char :=
  (characters.reverse.dropWhile isBlank).reverse

/-- Characters without the blanks at both ends. -/
def trimmed (characters : List Char) : List Char := trimEnd (trimStart characters)

/-- A text without the blanks at both ends. -/
def trim (text : String) : String := String.ofList (trimmed text.toList)

end Avenger.Text
