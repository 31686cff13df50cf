import Harvest.Filter.Expression
import Harvest.Filter.Subject
import Harvest.Number.Word

/-!
The value of an expression for one item. Evaluation only reads attributes, goes from left to
right, and stops at the first fault.
-/

namespace Harvest.Filter

/-- Why an expression has no value for an item. -/
inductive EvalError where
  | typeMismatch (operation left right : String)
  | badOperand (operation operand : String)
  | divisionByZero
  | overflow (operation : String)
  | invalidDatetime (arguments : String)
  | noMember (typeName member : String)
  | kindMismatch (expected actual : ItemKind)
  | missingAttribute (kind : ItemKind) (name : String)
  deriving DecidableEq

/-- The wording of an evaluation fault. -/
def EvalError.message : EvalError → String
  | .typeMismatch operation left right =>
    s!"unsupported operand types for {operation}: '{left}' and '{right}'"
  | .badOperand operation operand => s!"bad operand type for unary {operation}: '{operand}'"
  | .divisionByZero => "division by zero"
  | .overflow operation => s!"integer overflow in {operation}"
  | .invalidDatetime arguments => s!"invalid datetime({arguments})"
  | .noMember typeName member => s!"'{typeName}' object has no attribute '{member}'"
  | .kindMismatch expected actual => s!"filter for {expected.name} applied to {actual.name}"
  | .missingAttribute kind name => s!"{kind.name} has no value for attribute '{name}'"

/-- An integer result, or an overflow where there is none. -/
def intOrOverflow (operation : String) : Option Int64 → Except EvalError Value
  | some number => .ok (.int number)
  | none => .error (.overflow operation)

/-- Arithmetic on integers. Quotients go to the floor, and a remainder needs the quotient toward
zero to fit as well. -/
def arithmeticOnInts (operator : BinaryOperator) (left right : Int64) : Except EvalError Value :=
  let integer := intOrOverflow operator.spelling
  match operator with
  | .add => integer (Word.add? left right)
  | .subtract => integer (Word.subtract? left right)
  | .multiply => integer (Word.multiply? left right)
  | .divide =>
    if right = 0 then .error .divisionByZero
    else .ok (.float (Binary64.ofInt left.toInt / Binary64.ofInt right.toInt))
  | .floorDivide =>
    if right = 0 then .error .divisionByZero else integer (Word.floorDivide? left right)
  | .modulo =>
    if right = 0 then .error .divisionByZero else integer (Word.floorRemainder? left right)

/-- Arithmetic on floating numbers. -/
def arithmeticOnFloats (operator : BinaryOperator) (left right : Float) : Except EvalError Value :=
  match operator with
  | .add => .ok (.float (left + right))
  | .subtract => .ok (.float (left - right))
  | .multiply => .ok (.float (left * right))
  | .divide => if right == 0 then .error .divisionByZero else .ok (.float (left / right))
  | .floorDivide =>
    if right == 0 then .error .divisionByZero else .ok (.float (left / right).floor)
  | .modulo =>
    if right == 0 then .error .divisionByZero
    else .ok (.float (left - right * (left / right).floor))

/-- Texts and lists add up to their concatenation, and numbers compute; one floating operand
makes both floating. -/
def applyBinary (operator : BinaryOperator) (left right : Value) : Except EvalError Value :=
  match operator, left, right with
  | .add, .text first, .text second => .ok (.text (first ++ second))
  | .add, .list first, .list second => .ok (.list (first ++ second))
  | operator, left, right =>
    match left.asInt?, right.asInt? with
    | some first, some second => arithmeticOnInts operator first second
    | _, _ =>
      match left.asFloat?, right.asFloat? with
      | some first, some second => arithmeticOnFloats operator first second
      | _, _ => .error (.typeMismatch operator.spelling left.typeName right.typeName)

/-- Every value has a truth; only numbers have a sign. -/
def applyUnary (operator : UnaryOperator) (operand : Value) : Except EvalError Value :=
  match operator with
  | .not => .ok (.bool !operand.isTrue)
  | .minus =>
    match operand with
    | .float number => .ok (.float (-number))
    | operand =>
      match operand.asInt? with
      | some number => intOrOverflow "-" (Word.negate? number)
      | none => .error (.badOperand "-" operand.typeName)
  | .plus =>
    match operand with
    | .float number => .ok (.float number)
    | operand =>
      match operand.asInt? with
      | some number => .ok (.int number)
      | none => .error (.badOperand "+" operand.typeName)

/-- Whether an order holds between two values that compare. -/
def Comparison.admits : Comparison → Ordering → Bool
  | .less, ordering => ordering.isLT
  | .lessEqual, ordering => ordering.isLE
  | .greater, ordering => ordering.isGT
  | .greaterEqual, ordering => ordering.isGE
  | _, _ => false

/-- The outcome of one comparison. -/
def applyComparison (comparison : Comparison) (left right : Value) : Except EvalError Bool :=
  let mismatch := EvalError.typeMismatch comparison.spelling left.typeName right.typeName
  match comparison with
  | .equal => .ok (left.equal right)
  | .notEqual => .ok !(left.equal right)
  | .same => .ok (left.isSame right)
  | .notSame => .ok !(left.isSame right)
  | .within =>
    match right.holds? left with
    | some found => .ok found
    | none => .error mismatch
  | .notWithin =>
    match right.holds? left with
    | some found => .ok !found
    | none => .error mismatch
  | comparison =>
    match left.compare? right with
    | some ordering => .ok (comparison.admits ordering)
    | none => .error mismatch

/-- The parts of a moment as integers; the parts after the given ones are zero. -/
def momentOfParts? (parts : List Int) : Option DateTime := do
  let part (index : Nat) (missing : Int) := (parts[index]?).getD missing
  let natural? (number : Int) := if 0 ≤ number then some number.toNat else none
  let date ← Date.of? (part 0 0) (← natural? (part 1 1)) (← natural? (part 2 1))
  let time ← TimeOfDay.of? (← natural? (part 3 0)) (← natural? (part 4 0))
    (← natural? (part 5 0)) 0
  return ⟨date, time⟩

/-- The integers that arguments of `datetime` stand for. -/
def integerParts : List Value → Except EvalError (List Int)
  | [] => .ok []
  | value :: rest =>
    match value.asInt? with
    | some number => do return number.toInt :: (← integerParts rest)
    | none => .error (.typeMismatch "datetime" "int" value.typeName)

/-- The moment that arguments of `datetime` name. -/
def buildMoment (arguments : List Value) : Except EvalError Value := do
  match momentOfParts? (← integerParts arguments) with
  | some stamp => return .moment stamp
  | none => throw (.invalidDatetime (Value.displayItems arguments))

/-- A part of a moment as an integer. -/
def MomentPart.ofMoment (stamp : DateTime) : MomentPart → Int
  | .year => stamp.date.year
  | .month => stamp.date.month
  | .day => stamp.date.day
  | .hour => stamp.time.hour
  | .minute => stamp.time.minute
  | .second => stamp.time.second

/-- Only moments have members. -/
def readPart (target : Value) (part : MomentPart) : Except EvalError Value :=
  match target with
  | .moment stamp => .ok (.int (Int64.ofInt (part.ofMoment stamp)))
  | target => .error (.noMember target.typeName part.name)

/-- The value of an attribute. -/
def Subject.read (subject : Subject) (name : String) : Except EvalError Value :=
  match subject.read? name with
  | some value => .ok value
  | none => .error (.missingAttribute subject.kind name)

mutual

/-- The value of an expression for an item. -/
def evaluate (subject : Subject) : Expression → Except EvalError Value
  | .literal value => .ok value
  | .read name => subject.read name
  | .datetime arguments => do buildMoment (← evaluateAll subject arguments)
  | .list items => do return .list (← evaluateAll subject items)
  | .part target part => do readPart (← evaluate subject target) part
  | .unary operator operand => do applyUnary operator (← evaluate subject operand)
  | .binary operator left right => do
    let first ← evaluate subject left
    let second ← evaluate subject right
    applyBinary operator first second
  | .chain first following => do
    return .bool (← evaluateLinks subject (← evaluate subject first) following)
  | .both left right => do
    let first ← evaluate subject left
    if first.isTrue then evaluate subject right else return first
  | .either left right => do
    let first ← evaluate subject left
    if first.isTrue then return first else evaluate subject right

/-- The values of expressions in order. -/
def evaluateAll (subject : Subject) : List Expression → Except EvalError (List Value)
  | [] => .ok []
  | expression :: rest => do
    let value ← evaluate subject expression
    return value :: (← evaluateAll subject rest)

/-- Whether every link of a chain holds; nothing after a false link is evaluated. -/
def evaluateLinks (subject : Subject) (left : Value) :
    List (Comparison × Expression) → Except EvalError Bool
  | [] => .ok true
  | (comparison, operand) :: rest => do
    let right ← evaluate subject operand
    if ← applyComparison comparison left right then evaluateLinks subject right rest
    else return false

end

end Harvest.Filter
