/-!
# Sets of code points

A set of code points given by ranges, both ends included.
-/

namespace Mandate.Text

/-- Ranges of code points. -/
abbrev Ranges := List (Nat × Nat)

/-- Whether one of the ranges contains a code point. -/
def Ranges.holds (ranges : Ranges) (n : Nat) : Bool :=
  ranges.any fun (low, high) => low ≤ n && n ≤ high

end Mandate.Text
