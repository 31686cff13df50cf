import Harvest.Json.Number

/-!
Reading documents. A text is a document when one value, with blanks around it, uses it up.
-/

namespace Harvest.Json

/-- Space, line feed, carriage return and tab separate tokens. -/
def isBlank (character : Char) : Bool :=
  character == ' ' || character == '\n' || character == '\r' || character == '\t'

/-- What follows the blanks at the head of a text. -/
def skipBlanks (characters : List Char) : List Char :=
  characters.dropWhile isBlank

/-- A piece of quoted text: a character or a sixteen-bit unit written in hexadecimal. -/
inductive Piece where
  | plain (character : Char)
  | escaped (codeUnit : Nat)

/-- The character a single-letter escape stands for. -/
def escapeCharacter? : Char → Option Char
  | '"' => some '"'
  | '\\' => some '\\'
  | '/' => some '/'
  | 'b' => some '\x08'
  | 'f' => some '\x0c'
  | 'n' => some '\n'
  | 'r' => some '\r'
  | 't' => some '\t'
  | _ => none

/-- The pieces up to the closing quote and what follows it. -/
def readPieces : List Char → Option (List Piece × List Char)
  | [] => none
  | '"' :: rest => some ([], rest)
  | '\\' :: 'u' :: first :: second :: third :: fourth :: rest => do
    let codeUnit := 4096 * (← Digits.valueOf? first) + 256 * (← Digits.valueOf? second) +
      16 * (← Digits.valueOf? third) + (← Digits.valueOf? fourth)
    let (pieces, rest) ← readPieces rest
    return (.escaped codeUnit :: pieces, rest)
  | '\\' :: letter :: rest => do
    let character ← escapeCharacter? letter
    let (pieces, rest) ← readPieces rest
    return (.plain character :: pieces, rest)
  | character :: rest => do
    guard (character ≠ '\\' ∧ 0x20 ≤ character.toNat)
    let (pieces, rest) ← readPieces rest
    return (.plain character :: pieces, rest)

/-- Escaped units form characters, a high surrogate only together with a low one. -/
def joinPieces : List Piece → Option (List Char)
  | [] => some []
  | .plain character :: rest => do return character :: (← joinPieces rest)
  | .escaped high :: .escaped low :: rest =>
    if 0xd800 ≤ high ∧ high < 0xdc00 then do
      guard (0xdc00 ≤ low ∧ low < 0xe000)
      let character := Char.ofNat (0x10000 + (high - 0xd800) * 0x400 + (low - 0xdc00))
      return character :: (← joinPieces rest)
    else do
      guard (high < 0xd800 ∨ 0xe000 ≤ high)
      return Char.ofNat high :: (← joinPieces (.escaped low :: rest))
  | .escaped codeUnit :: rest => do
    guard (codeUnit < 0xd800 ∨ 0xe000 ≤ codeUnit)
    return Char.ofNat codeUnit :: (← joinPieces rest)

/-- Quoted text after its opening quote; the text is missing when its surrogates do not pair. -/
def readText (characters : List Char) : Option (Option String × List Char) := do
  let (pieces, rest) ← readPieces characters
  return ((joinPieces pieces).map String.ofList, rest)

/-- A fixed word at the head of a text. -/
def readWord (word : String) (value : Json) (characters : List Char) : Option (Json × List Char) :=
  if word.toList.isPrefixOf characters then some (value, characters.drop word.length) else none

/-- An object is unreadable when one of its keys is. -/
def objectOf (members : List (Option String × Json)) : Json :=
  match members.mapM fun entry => entry.1.map fun key => (key, entry.2) with
  | some readable => .object readable
  | none => .unreadable

mutual

/-- A value at the head of a text and what follows it; `fuel` bounds the nesting. -/
def readValue (fuel : Nat) (characters : List Char) : Option (Json × List Char) :=
  match fuel with
  | 0 => none
  | fuel + 1 =>
    match skipBlanks characters with
    | [] => none
    | '"' :: rest => do
      let (contents, rest) ← readText rest
      return (contents.elim .unreadable .text, rest)
    | '[' :: rest =>
      match skipBlanks rest with
      | ']' :: rest => some (.list [], rest)
      | rest => do
        let (items, rest) ← readItems fuel rest
        return (.list items, rest)
    | '{' :: rest =>
      match skipBlanks rest with
      | '}' :: rest => some (.object [], rest)
      | rest => do
        let (members, rest) ← readMembers fuel rest
        return (objectOf members, rest)
    | 't' :: rest => readWord "true" (.bool true) ('t' :: rest)
    | 'f' :: rest => readWord "false" (.bool false) ('f' :: rest)
    | 'n' :: rest => readWord "null" .null ('n' :: rest)
    | rest => Number.read rest

/-- The items of a list up to its closing bracket. -/
def readItems (fuel : Nat) (characters : List Char) : Option (List Json × List Char) :=
  match fuel with
  | 0 => none
  | fuel + 1 => do
    let (item, rest) ← readValue fuel characters
    match skipBlanks rest with
    | ']' :: rest => return ([item], rest)
    | ',' :: rest =>
      let (items, rest) ← readItems fuel rest
      return (item :: items, rest)
    | _ => none

/-- The members of an object up to its closing brace. -/
def readMembers (fuel : Nat) (characters : List Char) :
    Option (List (Option String × Json) × List Char) :=
  match fuel with
  | 0 => none
  | fuel + 1 =>
    match skipBlanks characters with
    | '"' :: rest => do
      let (key, rest) ← readText rest
      match skipBlanks rest with
      | ':' :: rest =>
        let (value, rest) ← readValue fuel rest
        match skipBlanks rest with
        | '}' :: rest => return ([(key, value)], rest)
        | ',' :: rest =>
          let (members, rest) ← readMembers fuel rest
          return ((key, value) :: members, rest)
        | _ => none
      | _ => none
    | _ => none

end

/-- The document a text holds. Each step into a document uses up a character. -/
def ofText? (source : String) : Option Json := do
  let (document, rest) ← readValue (2 * source.length + 2) source.toList
  guard (skipBlanks rest).isEmpty
  return document

/-- The value a text holds. -/
def valueOfText? (source : String) : Option Json := do
  settle nestingLimit (← ofText? source)

end Harvest.Json
