/-!
# Character ranges

Classes of characters as lists of closed ranges of code points.
-/

namespace TokenSplit.Text

/-- Whether a code point lies in one of the ranges. -/
def inRanges (ranges : List (Nat × Nat)) (n : Nat) : Bool :=
  ranges.any fun r => r.1 ≤ n && n ≤ r.2

end TokenSplit.Text
