import Harvest.Filter.Value

/-!
Filter expressions.
-/

namespace Harvest.Filter

/-- The parts of a moment, in the order of the arguments of `datetime`. -/
inductive MomentPart where
  | year
  | month
  | day
  | hour
  | minute
  | second
  deriving DecidableEq, Repr

namespace MomentPart

/-- Every part. -/
def all : List MomentPart := [.year, .month, .day, .hour, .minute, .second]

/-- The name of a part. -/
def name : MomentPart → String
  | .year => "year"
  | .month => "month"
  | .day => "day"
  | .hour => "hour"
  | .minute => "minute"
  | .second => "second"

/-- The part with a name. -/
def ofName? (name : String) : Option MomentPart :=
  all.find? fun part => part.name == name

end MomentPart

/-- Operators before one operand. -/
inductive UnaryOperator where
  | minus
  | plus
  | not
  deriving DecidableEq, Repr

/-- Arithmetic between two operands. -/
inductive BinaryOperator where
  | add
  | subtract
  | multiply
  | divide
  | floorDivide
  | modulo
  deriving DecidableEq, Repr

/-- The spelling of an arithmetic operator. -/
def BinaryOperator.spelling : BinaryOperator → String
  | .add => "+"
  | .subtract => "-"
  | .multiply => "*"
  | .divide => "/"
  | .floorDivide => "//"
  | .modulo => "%"

/-- Comparisons between two operands. -/
inductive Comparison where
  | equal
  | notEqual
  | less
  | lessEqual
  | greater
  | greaterEqual
  | within
  | notWithin
  | same
  | notSame
  deriving DecidableEq, Repr

/-- The spelling of a comparison. -/
def Comparison.spelling : Comparison → String
  | .equal => "=="
  | .notEqual => "!="
  | .less => "<"
  | .lessEqual => "<="
  | .greater => ">"
  | .greaterEqual => ">="
  | .within => "in"
  | .notWithin => "not in"
  | .same => "is"
  | .notSame => "is not"

/-- The tree of a filter. Names stand for attributes of the item under test. -/
inductive Expression where
  | literal (value : Value)
  | read (name : String)
  | datetime (arguments : List Expression)
  | list (items : List Expression)
  | part (target : Expression) (part : MomentPart)
  | unary (operator : UnaryOperator) (operand : Expression)
  | binary (operator : BinaryOperator) (left right : Expression)
  | chain (first : Expression) (links : List (Comparison × Expression))
  | both (left right : Expression)
  | either (left right : Expression)
  deriving Inhabited

end Harvest.Filter
