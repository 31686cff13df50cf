import Harvest.Text.LowerCase
import Harvest.Text.WordCharacter

/-!
The names in a caption. A name follows a sigil, and the sigil follows the start of the text or a
character that leads it in. Reading goes from left to right, and a character that ended one name
does not lead in the next.
-/

namespace Harvest.Caption

/-- The characters that may stand before a sigil, the sigil, and the name after it. -/
structure Pattern where
  leads : Char → Bool
  sigil : Char
  name : List Char → List Char

/-- The name behind a sigil at the head of a text. -/
def Pattern.nameAt? (pattern : Pattern) : List Char → Option (List Char)
  | [] => none
  | head :: rest =>
    if head = pattern.sigil then
      let name := pattern.name rest
      if name.isEmpty then none else some name
    else none

/-- The next name when it stands at the head of the text, or behind one leading character there,
with the number of characters up to its end. -/
def Pattern.next? (pattern : Pattern) (atStart : Bool) (characters : List Char) :
    Option (List Char × Nat) :=
  match if atStart then pattern.nameAt? characters else none with
  | some name => some (name, name.length + 1)
  | none =>
    match characters with
    | [] => none
    | head :: rest =>
      if pattern.leads head then
        (pattern.nameAt? rest).map fun name => (name, name.length + 2)
      else none

/-- The names of a text in order. -/
def Pattern.namesFrom (pattern : Pattern) (atStart : Bool) : List Char → List (List Char)
  | [] => []
  | head :: rest =>
    match pattern.next? atStart (head :: rest) with
    | some (name, width) => name :: pattern.namesFrom false (rest.drop (width - 1))
    | none => pattern.namesFrom false rest
termination_by characters => characters.length
decreasing_by
  · simp only [List.length_cons, List.length_drop]
    omega
  · simp

/-- The names of a text in lower case. -/
def Pattern.names (pattern : Pattern) (contents : String) : List String :=
  (pattern.namesFrom true contents.toList).map fun name => Text.lower (String.ofList name)

/-- A hashtag is a run of word characters. An ampersand does not lead it in. -/
def hashtag : Pattern where
  leads := fun character => character != '&'
  sigil := '#'
  name := List.takeWhile Text.isWord

/-- An account name starts and ends in a word character, has dots within and at most thirty
characters. -/
def accountName (characters : List Char) : List Char :=
  if (characters.head?.map Text.isWord).getD false then
    let run := (characters.take 30).takeWhile fun character =>
      Text.isWord character || character == '.'
    (run.reverse.dropWhile fun character => !Text.isWord character).reverse
  else []

/-- A mention is an account name. A word character does not lead it in. -/
def mention : Pattern where
  leads := fun character => !Text.isWord character
  sigil := '@'
  name := accountName

end Harvest.Caption
