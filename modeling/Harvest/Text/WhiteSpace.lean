import Harvest.Text.Ranges

/-!
The white space of Unicode.
-/

namespace Harvest.Text

/-- The ranges of white space. -/
def whiteSpaceRanges : List (Nat × Nat) :=
  [(0x9, 0xd), (0x20, 0x20), (0x85, 0x85), (0xa0, 0xa0), (0x1680, 0x1680), (0x2000, 0x200a),
    (0x2028, 0x2029), (0x202f, 0x202f), (0x205f, 0x205f), (0x3000, 0x3000)]

/-- A character of white space. -/
def isWhiteSpace (character : Char) : Bool :=
  inRanges whiteSpaceRanges character

/-- What follows the white space at the head of a text. -/
def trimStart (characters : List Char) : List Char :=
  characters.dropWhile isWhiteSpace

/-- A text without the white space around it. -/
def trim (characters : List Char) : List Char :=
  (trimStart (trimStart characters).reverse).reverse

end Harvest.Text
