/-!
# Sets of code points as ranges

A property of characters is a list of closed ranges of code points.
-/

namespace BuildQueue.Text.Ranges

/-- Whether a code point lies in one of the ranges. -/
def contains (ranges : List (Nat × Nat)) (n : Nat) : Bool :=
  ranges.any fun r => r.1 ≤ n && n ≤ r.2

end BuildQueue.Text.Ranges
