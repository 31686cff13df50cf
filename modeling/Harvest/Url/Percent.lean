import Harvest.Number.Digits

/-!
Percent escapes. A byte is written as a percent sign and two upper-case hexadecimal digits.
-/

namespace Harvest.Percent

/-- An upper-case hexadecimal digit. -/
def hexDigit (value : Nat) : Char :=
  (Nat.digitChar value).toUpper

/-- The escape of a byte. -/
def encodeByte (byte : UInt8) : List Char :=
  ['%', hexDigit (byte.toNat / 16), hexDigit (byte.toNat % 16)]

/-- The escapes of the bytes of a character. -/
def encodeCharacter (character : Char) : List Char :=
  (String.utf8EncodeChar character).flatMap encodeByte

/-- A text in which only some characters stand for themselves. -/
def encode (isPlain : Char → Bool) (characters : List Char) : List Char :=
  characters.flatMap fun character =>
    if isPlain character then [character] else encodeCharacter character

/-- Letters, digits, hyphen, underscore, dot and tilde never need an escape. -/
def isUnreserved (character : Char) : Bool :=
  character.isAlphanum || character == '-' || character == '_' || character == '.' ||
    character == '~'

/-- A name as one segment of a path. -/
def segment (name : String) : String :=
  String.ofList (encode isUnreserved name.toList)

/-- A printable ASCII character, the space included. -/
def isPrintable (character : Char) : Bool :=
  0x20 ≤ character.toNat && character.toNat ≤ 0x7e

/-- A printable character outside a list. -/
def isPrintableExcept (excluded : String) (character : Char) : Bool :=
  isPrintable character && !excluded.toList.contains character

/-- What stands for itself in a fragment. -/
def isPlainInFragment : Char → Bool :=
  isPrintableExcept " \"<>`"

/-- What stands for itself in a path. -/
def isPlainInPath : Char → Bool :=
  isPrintableExcept " \"<>`#?{}"

/-- What stands for itself in a user name or a password. -/
def isPlainInUserinfo : Char → Bool :=
  isPrintableExcept " \"<>`#?{}/:;=@[\\]^|"

/-- What stands for itself in a query. -/
def isPlainInQuery : Char → Bool :=
  isPrintableExcept " \"#<>"

/-- What stands for itself in the query of a special scheme. -/
def isPlainInSpecialQuery : Char → Bool :=
  isPrintableExcept " \"#<>'"

/-- The bytes of a text whose escapes are read. A percent sign without two digits stands for
itself. -/
def decode : List Char → List UInt8
  | '%' :: first :: second :: rest =>
    match Digits.valueOf? first, Digits.valueOf? second with
    | some high, some low => UInt8.ofNat (16 * high + low) :: decode rest
    | _, _ => String.utf8EncodeChar '%' ++ decode (first :: second :: rest)
  | character :: rest => String.utf8EncodeChar character ++ decode rest
  | [] => []

end Harvest.Percent
