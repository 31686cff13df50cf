import Harvest.Json.Basic
import Harvest.Number.Shortest

/-!
Writing documents without blanks. Quotes, backslashes and control characters are escaped and every
other character stands for itself.
-/

namespace Harvest.Json

/-- How one character is written inside quotes. -/
def writeCharacter (character : Char) : List Char :=
  match character with
  | '"' => ['\\', '"']
  | '\\' => ['\\', '\\']
  | '\x08' => ['\\', 'b']
  | '\x0c' => ['\\', 'f']
  | '\n' => ['\\', 'n']
  | '\r' => ['\\', 'r']
  | '\t' => ['\\', 't']
  | _ =>
    if character.toNat < 0x20 then
      ['\\', 'u', '0', '0', Nat.digitChar (character.toNat / 16),
        Nat.digitChar (character.toNat % 16)]
    else [character]

/-- Text in quotes. -/
def writeText (contents : String) : List Char :=
  '"' :: (contents.toList.flatMap writeCharacter ++ ['"'])

/-- A decimal with a point from `1e-5` below `1e16`, and with an exponent beyond. -/
def writeDecimal (decimal : Shortest.Decimal) : String :=
  let digits := Nat.toDigits 10 decimal.digits
  let trimmed := (digits.reverse.dropWhile (· == '0')).reverse
  let point : Int := decimal.exponent + digits.length
  if 0 < point ∧ point ≤ 16 then
    let place := point.toNat
    let whole := trimmed.take place ++ List.replicate (place - trimmed.length) '0'
    let fraction := trimmed.drop place
    String.ofList (whole ++ '.' :: (if fraction.isEmpty then ['0'] else fraction))
  else if -5 < point ∧ point ≤ 0 then
    String.ofList ('0' :: '.' :: (List.replicate point.natAbs '0' ++ trimmed))
  else
    let fraction := trimmed.drop 1
    let body := trimmed.take 1 ++ (if fraction.isEmpty then [] else '.' :: fraction)
    String.ofList body ++ "e" ++ toString (point - 1)

/-- A finite number has a point or an exponent, and any other is null. -/
def writeFloat (number : Float) : String :=
  match Binary64.read number.toBits with
  | .finite negative significand exponent =>
    let body :=
      if significand = 0 then "0.0" else writeDecimal (Shortest.decimal significand exponent)
    if negative then "-" ++ body else body
  | _ => "null"

mutual

/-- The characters of a document. -/
def write : Json → List Char
  | .null | .unreadable => "null".toList
  | .bool flag => (if flag then "true" else "false").toList
  | .int number => (toString number).toList
  | .float number => (writeFloat number).toList
  | .text contents => writeText contents
  | .list items => '[' :: (writeItems items ++ [']'])
  | .object members => '{' :: (writeMembers members ++ ['}'])

/-- Items stand between commas. -/
def writeItems : List Json → List Char
  | [] => []
  | [item] => write item
  | item :: rest => write item ++ ',' :: writeItems rest

/-- Members stand between commas, each key before a colon. -/
def writeMembers : List (String × Json) → List Char
  | [] => []
  | [(key, value)] => writeText key ++ ':' :: write value
  | (key, value) :: rest => writeText key ++ ':' :: (write value ++ ',' :: writeMembers rest)

end

/-- The text of a document. -/
def toText (document : Json) : String :=
  String.ofList (write document)

end Harvest.Json
