/-!
# Ranges of code points

A character class is a list of ranges of code points in ascending order.
-/

namespace Avenger.Text

/-- Whether one of the ascending ranges has the code point.  The first range that ends
above the code point decides. -/
def inRanges : List (Nat × Nat) → Nat → Bool
  | [], _ => false
  | (first, last) :: rest, code =>
      if last < code then inRanges rest code else decide (first ≤ code)

end Avenger.Text
