/-!
# Ranges of code points

A property of characters is kept as the ranges of the code points that have it, each range by its
first and last. The properties are those of Unicode 17.
-/

namespace TurtleScript

namespace Text

/-- Whether a code point lies in one of some ranges. -/
def inRanges (ranges : List (Nat × Nat)) (codePoint : Nat) : Bool :=
  ranges.any fun range ↦ range.1 ≤ codePoint && codePoint ≤ range.2

end Text

end TurtleScript
