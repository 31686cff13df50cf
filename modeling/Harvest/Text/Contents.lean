/-!
What files and messages hold: text, or bytes that are no text.
-/

namespace Harvest

/-- What a file or a message holds. -/
inductive Contents where
  | text (characters : String)
  | bytes (raw : ByteArray)

/-- The contents that bytes are. -/
def Contents.ofBytes (raw : ByteArray) : Contents :=
  match String.fromUTF8? raw with
  | some characters => .text characters
  | none => .bytes raw

end Harvest
