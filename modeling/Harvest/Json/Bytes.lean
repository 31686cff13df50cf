import Harvest.Json.Read
import Harvest.Text.Contents

/-!
Documents in bytes that may be no text. A byte that belongs to no character is allowed in quoted
text that nobody reads, so it stands there as an escape that forms no character either.
-/

namespace Harvest.Json

/-- An escape that forms no character, whatever stands around it: two high surrogates. -/
def brokenEscape : List Char := "\\ud800\\ud800".toList

/-- The characters of bytes from an offset on. A byte that belongs to no character becomes a
broken escape; behind an open backslash it becomes a character that no escape allows. -/
def salvageFrom (raw : ByteArray) (fuel offset : Nat) (escaping : Bool) : List Char :=
  match fuel with
  | 0 => []
  | fuel + 1 =>
    if offset < raw.size then
      match raw.utf8DecodeChar? offset with
      | some character =>
        character :: salvageFrom raw fuel (offset + character.utf8Size)
          (character == '\\' && !escaping)
      | none =>
        (if escaping then ['\x00'] else brokenEscape) ++ salvageFrom raw fuel (offset + 1) false
    else []

/-- The characters of bytes; each step uses up a byte. -/
def salvage (raw : ByteArray) : String :=
  String.ofList (salvageFrom raw raw.size 0 false)

/-- The document that bytes hold. -/
def ofBytes? (raw : ByteArray) : Option Json :=
  ofText? (salvage raw)

/-- The document that contents hold. -/
def ofContents? : Contents → Option Json
  | .text characters => ofText? characters
  | .bytes raw => ofBytes? raw

end Harvest.Json
