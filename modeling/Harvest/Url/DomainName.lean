import Harvest.Text.Composition
import Harvest.Text.Direction
import Harvest.Url.DomainName.Folding
import Harvest.Url.Punycode

/-!
Domain names in ASCII. A name is folded and composed, and then each of its labels has to obey the
rules for marks, for signs that join letters and for the direction of writing. A label in ASCII
that announces an encoded one has to encode such a label.
-/

namespace Harvest.DomainName

/-- Characters that no name holds. -/
def isForbidden (character : Char) : Bool :=
  character.toNat ≤ 0x20 || character.toNat == 0x7f ||
    "#%/:<>?@[\\]^|".toList.contains character

/-- An ASCII character. -/
def isAscii (character : Char) : Bool :=
  character.toNat < 0x80

/-- A label with what it says and how it is written in ASCII. -/
structure Label where
  text : List Char
  ascii : List Char

namespace Label

/-- What stands before an encoded label. -/
def announcement : List Char :=
  "xn--".toList

/-- The most characters that an encoded label has behind its announcement. -/
def mostEncoded : Nat := 2000

/-- The most characters of a label beyond ASCII. -/
def mostCharacters : Nat := 1000

/-- Whether letters join across a place. The characters before it are in reverse order. -/
def joinsAcross (before rest : List Char) : Bool :=
  (before.dropWhile Text.isTransparent).head?.any Text.joinsForward &&
    (rest.dropWhile Text.isTransparent).head?.any Text.joinsBackward

/-- Both signs for joins may stand behind a virama, and the one that keeps letters apart where
they join. The characters before are in reverse order. -/
def joinControlsFit (before : List Char) : List Char → Bool
  | [] => true
  | character :: rest =>
    (!Text.isJoinControl character ||
      before.head?.any (fun last => Text.combiningClass last == Text.viramaClass) ||
      (character == Text.nonJoiner && joinsAcross before rest)) &&
    joinControlsFit (character :: before) rest

/-- A label beyond ASCII starts with a letter. -/
def isSound (text : List Char) : Bool :=
  !text.head?.any Text.isMark && joinControlsFit [] text && text.length ≤ mostCharacters

/-- Folded characters that may stand in a name. -/
def isSettled (character : Char) : Bool :=
  fold? character = some [character] && !isForbidden character && character != '.'

/-- The label that a text in ASCII encodes. -/
def ofEncoded? (characters : List Char) : Option Label := do
  let encoded := characters.drop announcement.length
  guard (characters.all isAscii ∧ !encoded.isEmpty ∧ encoded.length ≤ mostEncoded ∧
    encoded.getLast? ≠ some '-')
  let text ← Punycode.decode? encoded
  guard (text.all isSettled ∧ Text.compose text = text ∧ isSound text)
  return ⟨text, characters⟩

/-- The label of composed characters. -/
def ofComposed? (characters : List Char) : Option Label := do
  guard (!characters.any isForbidden)
  if announcement.isPrefixOf characters then ofEncoded? characters
  else if characters.all isAscii then return ⟨characters, characters⟩
  else
    guard (isSound characters)
    return ⟨characters, announcement ++ Punycode.encode characters⟩

/-- A label that needs care for its direction. -/
def isBidirectional (label : Label) : Bool :=
  label.text.any fun character =>
    Text.direction character == .leftward || Text.direction character == .arabicNumber

/-- A label goes in the direction of its first letter and ends in a letter or a number. Going
leftward it has numbers of one kind. -/
def keepsDirection (label : Label) : Bool :=
  match label.text.map Text.direction with
  | [] => true
  | first :: rest =>
    let behind := rest.reverse.dropWhile (· == .mark)
    match first with
    | .rightward =>
      behind.all (fun direction => direction != .leftward && direction != .arabicNumber) &&
        behind.head?.all fun last => last == .rightward || last == .europeanNumber
    | .leftward =>
      behind.all (· != .rightward) &&
        !(behind.contains .europeanNumber && behind.contains .arabicNumber) &&
        behind.head?.all fun last => last != .neutral
    | _ => false

end Label

/-- A name in ASCII. If one label needs care for its direction, all labels keep theirs. -/
def toAscii? (characters : List Char) : Option (List Char) := do
  let folded ← characters.mapM fold?
  let labels ← ((Text.compose folded.flatten).splitOn '.').mapM Label.ofComposed?
  guard (!labels.any Label.isBidirectional || labels.all Label.keepsDirection)
  return ['.'].intercalate (labels.map Label.ascii)

end Harvest.DomainName
