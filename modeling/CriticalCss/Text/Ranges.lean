/-!
# Sets of characters given by ranges

A character class with more than a handful of members is a table: an ascending list of ranges of
code points.
-/

namespace CriticalCss.Text

/-- Whether a code point lies in one of the ranges, which are in ascending order. -/
def within : List (Nat × Nat) → Nat → Bool
  | [], _ => false
  | (low, high) :: rest, code => decide (low ≤ code) && (decide (code ≤ high) || within rest code)

end CriticalCss.Text
