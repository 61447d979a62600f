/-!
# Ranges of code points

A property of characters is a list of ranges of code points, in order and apart
from one another, with both ends included.
-/

namespace Lifeline.Text

abbrev Ranges := List (Nat × Nat)

def inRanges (ranges : Ranges) (code : Nat) : Bool :=
  ranges.any fun range => decide (range.1 ≤ code) && decide (code ≤ range.2)

end Lifeline.Text
