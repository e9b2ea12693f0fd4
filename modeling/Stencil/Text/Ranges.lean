/-!
# Sets of code points given by ranges
-/

namespace Stencil.Text

/-- Whether a character lies in one of the ranges of a table, both ends included. -/
def inRanges (ranges : List (Nat × Nat)) (c : Char) : Bool :=
  ranges.any fun range => decide (range.1 ≤ c.toNat) && decide (c.toNat ≤ range.2)

end Stencil.Text
