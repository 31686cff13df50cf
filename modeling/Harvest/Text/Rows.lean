/-!
Tables that give successive characters a text each.
-/

namespace Harvest.Text

/-- Texts for the characters from the first one on. -/
structure Row where
  first : Nat
  texts : Array (List Char)

/-- The row of the words between spaces. -/
def Row.ofWords (row : Nat × String) : Row :=
  ⟨row.1, (row.2.toList.splitOn ' ').toArray⟩

/-- The text that the first fitting row has for a character. -/
def textInRows? (rows : List Row) (character : Char) : Option (List Char) :=
  rows.findSome? fun row =>
    if row.first ≤ character.toNat then row.texts[character.toNat - row.first]? else none

end Harvest.Text
