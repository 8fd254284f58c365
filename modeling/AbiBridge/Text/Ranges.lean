/-!
# Sets of code points

A character class is a list of closed ranges of code points. Membership is a
plain search, so a class is compared with another one range by range.
-/

namespace AbiBridge.Text

/-- The code point `n` lies in one of the closed ranges. -/
def inRanges (ranges : List (Nat × Nat)) (n : Nat) : Bool :=
  ranges.any fun (low, high) => low ≤ n && n ≤ high

end AbiBridge.Text
