import Harvest.Text.Escaped

/-!
Text in double quotes. Quotes, backslashes, tabs, line ends and the null character have short
escapes, and other characters that do not show are written by number.
-/

namespace Harvest.Text

/-- A code point in lower-case hexadecimal digits between braces. -/
def escapeByNumber (character : Char) : List Char :=
  '\\' :: 'u' :: '\x7b' :: (Nat.toDigits 16 character.toNat ++ ['\x7d'])

/-- How one character is written inside quotes. -/
def quoteCharacter : Char → List Char
  | '\x00' => ['\\', '0']
  | '\t' => ['\\', 't']
  | '\n' => ['\\', 'n']
  | '\r' => ['\\', 'r']
  | '"' => ['\\', '"']
  | '\\' => ['\\', '\\']
  | character => if isEscaped character then escapeByNumber character else [character]

/-- The characters of a text in quotes. -/
def quoteCharacters (characters : List Char) : List Char :=
  '"' :: (characters.flatMap quoteCharacter ++ ['"'])

/-- A text in quotes. -/
def quote (contents : String) : String :=
  String.ofList (quoteCharacters contents.toList)

end Harvest.Text
