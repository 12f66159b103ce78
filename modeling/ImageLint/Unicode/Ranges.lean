-- Sets of characters written as intervals of code points, the form in
-- which the character classes of this library are tabulated.

namespace ImageLint

/-- A set of code points: the union of closed intervals. -/
abbrev CodeRanges := List (Nat × Nat)

def CodeRanges.has (ranges : CodeRanges) (code : Nat) : Bool :=
  ranges.any fun range => range.1 ≤ code && code ≤ range.2

/-- The code point of `c` lies in one of the intervals. -/
def CodeRanges.hasChar (ranges : CodeRanges) (c : Char) : Bool :=
  ranges.has c.toNat

end ImageLint
