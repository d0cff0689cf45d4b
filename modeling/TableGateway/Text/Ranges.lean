/-!
# Ranges of characters

A class of characters is given by the ranges of its code points.
-/

namespace TableGateway.Text

/-- Whether a code point lies in one of the ranges. -/
def inRanges (ranges : List (Nat × Nat)) (n : Nat) : Bool :=
  ranges.any fun (first, last) => first ≤ n && n ≤ last

end TableGateway.Text
