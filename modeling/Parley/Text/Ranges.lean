/-!
# Parley.Text.Ranges

Character classes as lists of closed ranges of code points, ascending and apart.
-/

namespace Parley.Text

/-- The code point lies in one of the ranges. -/
def inRanges (ranges : List (Nat × Nat)) (point : Nat) : Bool :=
  ranges.any fun range => range.1 ≤ point && point ≤ range.2

end Parley.Text
