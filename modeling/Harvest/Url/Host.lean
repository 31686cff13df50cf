import Harvest.Url.DomainName
import Harvest.Url.Percent

/-!
Hosts: names and addresses. A host that ends in a number has to be an address.
-/

namespace Harvest

/-- A host by name or by address. -/
inductive Host where
  | name (text : String)
  | ipv4 (address : Nat)
  | ipv6 (pieces : List Nat)
  deriving DecidableEq

namespace Host

/-! ## Addresses of four bytes -/

/-- A number of an address in octal, decimal or hexadecimal, with its text as digits. -/
def readNumber? : List Char → Option Nat
  | [] => none
  | '0' :: 'x' :: digits => Digits.read? 16 digits
  | '0' :: 'X' :: digits => Digits.read? 16 digits
  | '0' :: first :: digits => Digits.read? 8 (first :: digits)
  | digits => Digits.read? 10 digits

/-- The parts of a name between its dots; a dot at the end counts for nothing. -/
def addressParts (characters : List Char) : List (List Char) :=
  let parts := characters.splitOn '.'
  if 1 < parts.length ∧ parts.getLast? = some [] then parts.dropLast else parts

/-- Whether the last part of a name is a number. -/
def endsInNumber (characters : List Char) : Bool :=
  match (addressParts characters).getLast? with
  | none => false
  | some part => (!part.isEmpty && part.all Char.isDigit) || (readNumber? part).isSome

/-- An address of four bytes. The last of fewer than four numbers takes the remaining bytes. -/
def readIpv4? (characters : List Char) : Option Nat := do
  let parts := addressParts characters
  guard (parts.length ≤ 4)
  let numbers ← parts.mapM readNumber?
  let last ← numbers.getLast?
  let leading := numbers.dropLast
  let remaining := 8 * (4 - leading.length)
  guard (leading.all (· ≤ 255) ∧ last < 1 <<< remaining)
  return (leading.foldl (fun address byte => 256 * address + byte) 0 <<< remaining) + last

/-- Four bytes between dots. -/
def ipv4Text (address : Nat) : String :=
  ".".intercalate ([24, 16, 8, 0].map fun place => toString ((address >>> place) % 256))

/-! ## Addresses of eight pieces -/

/-- A piece of one to four hexadecimal digits. -/
def readPiece? (part : List Char) : Option Nat := do
  guard (1 ≤ part.length ∧ part.length ≤ 4)
  Digits.read? 16 part

/-- A byte in decimal without leading zeros. -/
def readByte? (part : List Char) : Option Nat := do
  guard (!part.isEmpty ∧ part.all Char.isDigit ∧ (part.length = 1 ∨ part.head? ≠ some '0'))
  let value := Digits.decimal part
  guard (value ≤ 255)
  return value

/-- The pieces of a part; four bytes with dots are two pieces. -/
def readPieces? (isLast : Bool) (part : List Char) : Option (List Nat) :=
  if isLast && part.contains '.' then do
    match ← (part.splitOn '.').mapM readByte? with
    | [first, second, third, fourth] => return [first * 256 + second, third * 256 + fourth]
    | _ => none
  else (readPiece? part).map fun piece => [piece]

/-- The pieces between colons; nothing has no pieces. -/
def readRun? (endsAddress : Bool) (characters : List Char) : Option (List Nat) :=
  if characters.isEmpty then some []
  else do
    let parts := characters.splitOn ':'
    let marked := parts.zip ((List.range parts.length).map fun index => index + 1 == parts.length)
    return (← marked.mapM fun entry => readPieces? (endsAddress && entry.2) entry.1).flatten

/-- A text before and after its first double colon. -/
def splitAtGap (before : List Char) : List Char → Option (List Char × List Char)
  | ':' :: ':' :: rest => some (before.reverse, rest)
  | character :: rest => splitAtGap (character :: before) rest
  | [] => none

/-- An address of eight pieces; a double colon stands for missing zeros. -/
def readIpv6? (characters : List Char) : Option (List Nat) :=
  match splitAtGap [] characters with
  | none => do
    let pieces ← readRun? true characters
    guard (pieces.length = 8)
    return pieces
  | some (front, back) => do
    let leading ← readRun? false front
    let trailing ← readRun? true back
    guard (leading.length + trailing.length ≤ 7)
    return leading ++ List.replicate (8 - leading.length - trailing.length) 0 ++ trailing

/-- The number of zeros at the head of a list. -/
def zerosAhead (pieces : List Nat) : Nat :=
  (pieces.takeWhile (· == 0)).length

/-- Where the first of the longest runs of zeros starts, and its length. -/
def longestGap (pieces : List Nat) : Nat × Nat :=
  (List.range pieces.length).foldl (fun best index =>
    let length := zerosAhead (pieces.drop index)
    if best.2 < length then (index, length) else best) (0, 0)

/-- A piece in hexadecimal. -/
def pieceText (piece : Nat) : String :=
  String.ofList (Nat.toDigits 16 piece)

/-- Pieces between colons. A run of at least two zeros becomes a double colon. -/
def ipv6Text (pieces : List Nat) : String :=
  let (start, length) := longestGap pieces
  if length < 2 then ":".intercalate (pieces.map pieceText)
  else
    ":".intercalate ((pieces.take start).map pieceText) ++ "::" ++
      ":".intercalate ((pieces.drop (start + length)).map pieceText)

/-! ## Hosts -/

/-- A host as it is written in a URL. -/
def text : Host → String
  | .name text => text
  | .ipv4 address => ipv4Text address
  | .ipv6 pieces => "[" ++ ipv6Text pieces ++ "]"

/-- An address in brackets. -/
def readBracketed? (characters : List Char) : Option Host := do
  guard (characters.getLast? = some ']')
  return .ipv6 (← readIpv6? (characters.drop 1).dropLast)

/-- The host of a special scheme. -/
def readSpecial? (characters : List Char) : Option Host :=
  if characters.head? = some '[' then readBracketed? characters
  else do
    let decoded ← String.fromUTF8? ⟨(Percent.decode characters).toArray⟩
    let name ← DomainName.toAscii? decoded.toList
    guard (!name.isEmpty)
    if endsInNumber name then return .ipv4 (← readIpv4? name)
    else return .name (String.ofList name)

/-- The host of any other scheme. -/
def readOther? (characters : List Char) : Option Host :=
  if characters.head? = some '[' then readBracketed? characters
  else do
    guard (!characters.any fun character =>
      "\x00\t\n\r #/:<>?@[\\]^|".toList.contains character)
    return .name (String.ofList (Percent.encode Percent.isPrintable characters))

end Host

end Harvest
