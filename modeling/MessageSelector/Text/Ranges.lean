/-! Sets of characters written as closed ranges of code points in ascending order. -/

namespace MessageSelector

/-- Closed ranges of code points, each starting above the end of the one before it. -/
abbrev CodeRanges := List (Nat × Nat)

namespace CodeRanges

/-- A code point is in the set when one of the ranges holds it. -/
def contains (code : Nat) : CodeRanges → Bool
  | [] => false
  -- The ranges ascend, so a code point below the next one is in none of those that follow.
  | (first, last) :: rest => decide (first ≤ code) && (decide (code ≤ last) || contains code rest)

/-- A character is in the set when its code point is. -/
def has (ranges : CodeRanges) (c : Char) : Bool :=
  contains c.toNat ranges

end CodeRanges

end MessageSelector
