import Harvest.Filter.Token
import Harvest.Item.Kind

/-!
Why a text is no filter. A fault names its cause, and its message names the place and the text.
-/

namespace Harvest.Filter

/-- What is wrong at one place of an expression. -/
inductive SyntaxFault where
  | unterminatedText
  | gluedNumber
  | integerOutOfRange (digits : String)
  | unexpectedCharacter (character : Char)
  | emptyExpression
  | unexpected (found : Lexeme)
  | expected (what : String) (found : Lexeme)
  | nestedTooDeeply
  | memberNameExpected
  | unsupportedMember (name : String)
  | datetimeNotCalled
  | notCallable (name : String)
  | unknownKeyword (keyword : String)
  | positionalAfterKeyword
  | repeatedArgument (keyword : String)
  | argumentCount (given : Nat)

/-- The wording of a syntax fault. -/
def SyntaxFault.message : SyntaxFault → String
  | .unterminatedText => "unterminated string"
  | .gluedNumber => "invalid number literal"
  | .integerOutOfRange digits => s!"integer {digits} out of range"
  | .unexpectedCharacter character => s!"unexpected character '{character}'"
  | .emptyExpression => "empty expression"
  | .unexpected found => s!"unexpected {found.describe}"
  | .expected what found => s!"expected {what}, found {found.describe}"
  | .nestedTooDeeply => "expression nested too deeply"
  | .memberNameExpected => "expected member name after '.'"
  | .unsupportedMember name => s!"unsupported member '{name}'"
  | .datetimeNotCalled => "datetime must be called, e.g. datetime(2020, 1, 31)"
  | .notCallable name => s!"attribute '{name}' is not callable"
  | .unknownKeyword keyword => s!"datetime got an unexpected keyword argument '{keyword}'"
  | .positionalAfterKeyword => "positional argument follows keyword argument"
  | .repeatedArgument keyword => s!"datetime got multiple values for '{keyword}'"
  | .argumentCount given => s!"datetime takes 3 to 6 arguments ({given} given)"

/-- A fault of an expression, apart from the text it was found in. -/
inductive Fault where
  | atOffset (offset : Nat) (fault : SyntaxFault)
  | unknownName (name : String) (kind : ItemKind)
  | assignment (name : String)

/-- Why a text was refused as a filter. -/
inductive FilterError where
  | syntaxFault (expression : String) (offset : Nat) (fault : SyntaxFault)
  | unknownName (name : String) (kind : ItemKind)
  | assignment (name : String)

/-- A fault together with the text it was found in. -/
def FilterError.ofFault (expression : String) : Fault → FilterError
  | .atOffset offset fault => .syntaxFault expression offset fault
  | .unknownName name kind => .unknownName name kind
  | .assignment name => .assignment name

/-- The message of a refused filter. -/
def FilterError.message : FilterError → String
  | .syntaxFault expression offset fault =>
    s!"Invalid filter: {fault.message} at offset {offset} in '{expression}'"
  | .unknownName name kind => s!"Invalid filter: {name} not a {kind.name} attribute."
  | .assignment name => s!"Invalid filter: Modifying variables ({name}) not allowed."

end Harvest.Filter
