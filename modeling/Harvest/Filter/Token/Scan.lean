import Harvest.Filter.Error
import Harvest.Number.Binary64
import Harvest.Number.Word

/-!
Splitting a text into tokens. A lexeme is read at the head of the text together with the number
of its characters, and the rest is read from where it ends.
-/

namespace Harvest.Filter

/-- Space, tab, line feed, form feed and carriage return separate tokens. -/
def isBlank (character : Char) : Bool :=
  character == ' ' || character == '\t' || character == '\n' || character == '\x0c' ||
    character == '\r'

/-- A word starts with an ASCII letter or an underscore. -/
def isWordStart (character : Char) : Bool :=
  character.isAlpha || character == '_'

/-- A word continues with ASCII letters, digits and underscores. -/
def isWordPart (character : Char) : Bool :=
  character.isAlphanum || character == '_'

/-- The number of bytes of a run of characters. -/
def byteLength : List Char → Nat
  | [] => 0
  | character :: rest => character.utf8Size + byteLength rest

/-- A word is a keyword or else a name. -/
def Lexeme.ofWord (spelling : String) : Lexeme :=
  match Keyword.ofWord? spelling with
  | some found => .keyword found
  | none => .name spelling

/-- The character after a backslash stands for itself or for a control character. -/
def unescape : Char → Char
  | 'n' => '\n'
  | 't' => '\t'
  | 'r' => '\r'
  | '0' => '\x00'
  | other => other

/-- The contents of quoted text after its opening quote, and the characters up to the closing one. -/
def quotedText? (quote : Char) : List Char → Option (List Char × Nat)
  | [] => none
  | '\\' :: escaped :: rest =>
    (quotedText? quote rest).map fun (contents, width) => (unescape escaped :: contents, width + 2)
  | character :: rest =>
    if character = '\\' then none
    else if character = quote then some ([], 1)
    else (quotedText? quote rest).map fun (contents, width) => (character :: contents, width + 1)

/-- The operator at the head of a text and its width; a longer spelling goes before a shorter. -/
def operator? : List Char → Option (Lexeme × Nat)
  | '/' :: '/' :: '=' :: _ => some (.binding .floorDivide, 3)
  | '=' :: '=' :: _ => some (.mark .equal, 2)
  | '!' :: '=' :: _ => some (.mark .notEqual, 2)
  | '<' :: '=' :: _ => some (.mark .lessEqual, 2)
  | '>' :: '=' :: _ => some (.mark .greaterEqual, 2)
  | '/' :: '/' :: _ => some (.mark .doubleSlash, 2)
  | ':' :: '=' :: _ => some (.binding .walrus, 2)
  | '+' :: '=' :: _ => some (.binding .add, 2)
  | '-' :: '=' :: _ => some (.binding .subtract, 2)
  | '*' :: '=' :: _ => some (.binding .multiply, 2)
  | '/' :: '=' :: _ => some (.binding .divide, 2)
  | '%' :: '=' :: _ => some (.binding .modulo, 2)
  | '(' :: _ => some (.mark .openParen, 1)
  | ')' :: _ => some (.mark .closeParen, 1)
  | '[' :: _ => some (.mark .openBracket, 1)
  | ']' :: _ => some (.mark .closeBracket, 1)
  | ',' :: _ => some (.mark .comma, 1)
  | '.' :: _ => some (.mark .dot, 1)
  | '+' :: _ => some (.mark .plus, 1)
  | '-' :: _ => some (.mark .minus, 1)
  | '*' :: _ => some (.mark .star, 1)
  | '/' :: _ => some (.mark .slash, 1)
  | '%' :: _ => some (.mark .percent, 1)
  | '<' :: _ => some (.mark .less, 1)
  | '>' :: _ => some (.mark .greater, 1)
  | '=' :: _ => some (.binding .plain, 1)
  | _ => none

/-- A decimal point counts as part of a number when a digit follows it. -/
def fractionDigits : List Char → List Char
  | '.' :: rest => rest.takeWhile Char.isDigit
  | _ => []

/-- The number at the head of a text: digits, and a fraction if a point and a digit follow. -/
def numberAt (offset : Nat) (characters : List Char) : Except Fault (Lexeme × Nat) :=
  let whole := characters.takeWhile Char.isDigit
  let rest := characters.dropWhile Char.isDigit
  let fraction := fractionDigits rest
  if !fraction.isEmpty then
    .ok (.float (Binary64.ofDecimal false (Digits.decimal (whole ++ fraction)) (-fraction.length)),
      whole.length + 1 + fraction.length)
  else if (rest.head?.map isWordStart).getD false then
    .error (.atOffset (offset + whole.length) .gluedNumber)
  else
    match Word.ofInt? (Digits.decimal whole) with
    | some number => .ok (.int number, whole.length)
    | none => .error (.atOffset offset (.integerOutOfRange (String.ofList whole)))

/-- The lexeme that starts with `head`, and the number of its characters. -/
def lexemeAt (offset : Nat) (head : Char) (rest : List Char) : Except Fault (Lexeme × Nat) :=
  if isWordStart head then
    let spelling := head :: rest.takeWhile isWordPart
    .ok (.ofWord (String.ofList spelling), spelling.length)
  else if head.isDigit then numberAt offset (head :: rest)
  else if head = '"' ∨ head = '\'' then
    match quotedText? head rest with
    | some (contents, width) => .ok (.text (String.ofList contents), width + 1)
    | none => .error (.atOffset offset .unterminatedText)
  else
    match operator? (head :: rest) with
    | some found => .ok found
    | none => .error (.atOffset offset (.unexpectedCharacter head))

/-- The tokens of a text that starts at a byte offset. -/
def tokensFrom (offset : Nat) : List Char → Except Fault (List Token)
  | [] => .ok [⟨.finish, offset⟩]
  | head :: rest =>
    if isBlank head then tokensFrom (offset + 1) rest
    else do
      let (lexeme, width) ← lexemeAt offset head rest
      let following ← tokensFrom (offset + byteLength ((head :: rest).take width))
        (rest.drop (width - 1))
      return ⟨lexeme, offset⟩ :: following
termination_by characters => characters.length
decreasing_by
  · simp
  · simp only [List.length_cons, List.length_drop]
    omega

/-- The tokens of an expression. -/
def tokenize (expression : String) : Except FilterError (List Token) :=
  (tokensFrom 0 expression.toList).mapError (FilterError.ofFault expression)

end Harvest.Filter
