/-!
Sets of characters as ordered lists of code point ranges.
-/

namespace Harvest.Text

/-- A character is in a set when one of the ranges contains its code point. -/
def inRanges (ranges : List (Nat × Nat)) (character : Char) : Bool :=
  ranges.any fun range => range.1 ≤ character.toNat && character.toNat ≤ range.2

end Harvest.Text
