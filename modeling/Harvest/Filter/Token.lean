import Harvest.Number.Shortest

/-!
The words of a filter expression. A token is a lexeme with the byte offset where it starts, and
a token list ends with `finish`.
-/

namespace Harvest.Filter

/-- These words are never names. -/
inductive Keyword where
  | true
  | false
  | none
  | and
  | or
  | not
  | in
  | is
  | del
  deriving DecidableEq, Repr

namespace Keyword

/-- The spelling of a keyword. -/
def word : Keyword → String
  | .true => "True"
  | .false => "False"
  | .none => "None"
  | .and => "and"
  | .or => "or"
  | .not => "not"
  | .in => "in"
  | .is => "is"
  | .del => "del"

/-- Every keyword. -/
def all : List Keyword := [.true, .false, .none, .and, .or, .not, .in, .is, .del]

/-- The keyword with a spelling. -/
def ofWord? (spelling : String) : Option Keyword :=
  all.find? fun keyword => keyword.word == spelling

end Keyword

/-- Brackets, separators and the operators that bind nothing. -/
inductive Mark where
  | openParen
  | closeParen
  | openBracket
  | closeBracket
  | comma
  | dot
  | plus
  | minus
  | star
  | slash
  | doubleSlash
  | percent
  | equal
  | notEqual
  | less
  | lessEqual
  | greater
  | greaterEqual
  deriving DecidableEq, Repr

/-- The spelling of a mark. -/
def Mark.spelling : Mark → String
  | .openParen => "("
  | .closeParen => ")"
  | .openBracket => "["
  | .closeBracket => "]"
  | .comma => ","
  | .dot => "."
  | .plus => "+"
  | .minus => "-"
  | .star => "*"
  | .slash => "/"
  | .doubleSlash => "//"
  | .percent => "%"
  | .equal => "=="
  | .notEqual => "!="
  | .less => "<"
  | .lessEqual => "<="
  | .greater => ">"
  | .greaterEqual => ">="

/-- The operators that bind or rebind a name. -/
inductive Binding where
  | plain
  | walrus
  | add
  | subtract
  | multiply
  | divide
  | floorDivide
  | modulo
  deriving DecidableEq, Repr

/-- The spelling of a binding operator. -/
def Binding.spelling : Binding → String
  | .plain => "="
  | .walrus => ":="
  | .add => "+="
  | .subtract => "-="
  | .multiply => "*="
  | .divide => "/="
  | .floorDivide => "//="
  | .modulo => "%="

/-- What a token says. -/
inductive Lexeme where
  | name (word : String)
  | int (number : Int64)
  | float (number : Float)
  | text (contents : String)
  | keyword (word : Keyword)
  | mark (mark : Mark)
  | binding (operator : Binding)
  | finish

/-- A lexeme as error messages show it. -/
def Lexeme.describe : Lexeme → String
  | .name word => s!"name '{word}'"
  | .int number => s!"number {number}"
  | .float number => "number " ++ Shortest.text number
  | .text _ => "string literal"
  | .keyword word => s!"'{word.word}'"
  | .mark symbol => s!"'{symbol.spelling}'"
  | .binding operator => s!"'{operator.spelling}'"
  | .finish => "end of expression"

/-- A lexeme and the byte offset of its first character. -/
structure Token where
  lexeme : Lexeme
  offset : Nat

end Harvest.Filter
