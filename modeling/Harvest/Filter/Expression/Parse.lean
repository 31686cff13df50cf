import Harvest.Filter.Expression
import Harvest.Filter.Mutation
import Harvest.Filter.Token.Scan
import Harvest.Item.Attribute

/-!
Reading expressions from tokens. Every level of precedence is a parser made from the next one, and
parentheses, prefix operators, lists and arguments go one step deeper into a nesting budget.
-/

namespace Harvest.Filter

/-- A parser takes a result off the head of a token list. -/
abbrev Parser (α : Type) := List Token → Except Fault (α × List Token)

/-- The next lexeme; past the last token there is only the end. -/
def nextLexeme : List Token → Lexeme
  | [] => .finish
  | token :: _ => token.lexeme

/-- The offset of the next token. -/
def nextOffset : List Token → Nat
  | [] => 0
  | token :: _ => token.offset

/-- A fault at the next token. -/
def faultAt (tokens : List Token) (fault : SyntaxFault) : Fault :=
  .atOffset (nextOffset tokens) fault

/-- The next token fits nothing. -/
def unexpected (tokens : List Token) : Fault :=
  faultAt tokens (.unexpected (nextLexeme tokens))

/-- The token list without a leading mark. -/
def eat? (mark : Mark) : List Token → Option (List Token)
  | ⟨.mark found, _⟩ :: rest => if found = mark then some rest else none
  | _ => none

/-- The token list without a leading keyword. -/
def eatKeyword? (keyword : Keyword) : List Token → Option (List Token)
  | ⟨.keyword found, _⟩ :: rest => if found = keyword then some rest else none
  | _ => none

/-- A required mark. -/
def expect (mark : Mark) (what : String) (tokens : List Token) : Except Fault (List Token) :=
  match eat? mark tokens with
  | some rest => .ok rest
  | none => .error (faultAt tokens (.expected what (nextLexeme tokens)))

/-- Operators and right operands, as far as they follow; `room` bounds their number. -/
def links {α : Type} (operand : Parser Expression) (operator? : List Token → Option (α × List Token)) :
    Nat → Parser (List (α × Expression))
  | 0, tokens => .ok ([], tokens)
  | room + 1, tokens =>
    match operator? tokens with
    | none => .ok ([], tokens)
    | some (operator, rest) => do
      let (right, rest) ← operand rest
      let (following, rest) ← links operand operator? room rest
      return ((operator, right) :: following, rest)

/-- A first operand with the operators and operands after it. -/
def operands {α : Type} (operand : Parser Expression)
    (operator? : List Token → Option (α × List Token)) :
    Parser (Expression × List (α × Expression)) := fun tokens => do
  let (first, rest) ← operand tokens
  let (following, rest) ← links operand operator? rest.length rest
  return ((first, following), rest)

/-- Operators of one level group to the left. -/
def groupLeft {α : Type} (combine : α → Expression → Expression → Expression)
    (first : Expression) (following : List (α × Expression)) : Expression :=
  following.foldl (fun left link => combine link.1 left link.2) first

/-- A level of operators that group to the left. -/
def leftLevel {α : Type} (operand : Parser Expression)
    (operator? : List Token → Option (α × List Token))
    (combine : α → Expression → Expression → Expression) : Parser Expression := fun tokens => do
  let ((first, following), rest) ← operands operand operator? tokens
  return (groupLeft combine first following, rest)

/-- The parsers one step deeper in the nesting. -/
structure Nested where
  expression : Parser Expression
  negated : Parser Expression
  signed : Parser Expression
  items : Parser (List Expression)

/-- The nesting budget of an expression. -/
def nestingLimit : Nat := 64

/-- No step goes beyond the budget. -/
def tooDeep {α : Type} : Parser α := fun tokens =>
  .error (faultAt tokens .nestedTooDeeply)

/-- The members read from a target, as far as they follow; `room` bounds their number. -/
def members (target : Expression) : Nat → Parser Expression
  | 0, tokens => .ok (target, tokens)
  | room + 1, tokens =>
    match eat? .dot tokens with
    | none => .ok (target, tokens)
    | some rest =>
      match rest with
      | ⟨.name word, offset⟩ :: rest =>
        match MomentPart.ofName? word with
        | some part => members (.part target part) room rest
        | none => .error (.atOffset offset (.unsupportedMember word))
      | rest => .error (faultAt rest .memberNameExpected)

/-- The items of a list up to its closing bracket, after at least one more item. -/
def itemsFrom (expression : Parser Expression) : Nat → Parser (List Expression)
  | 0, tokens => .error (unexpected tokens)
  | room + 1, tokens => do
    let (item, rest) ← expression tokens
    match eat? .closeBracket rest with
    | some rest => return ([item], rest)
    | none =>
      let rest ← expect .comma "',' or ']'" rest
      match eat? .closeBracket rest with
      | some rest => return ([item], rest)
      | none =>
        let (items, rest) ← itemsFrom expression room rest
        return (item :: items, rest)

/-- The items of a list after its opening bracket. -/
def listItems (expression : Parser Expression) : Parser (List Expression) := fun tokens =>
  match eat? .closeBracket tokens with
  | some rest => .ok ([], rest)
  | none => itemsFrom expression (tokens.length + 1) tokens

/-- The arguments of a call so far: a value for each slot, and how they were given. -/
structure Arguments where
  slots : MomentPart → Option Expression
  positional : Nat
  keywordSeen : Bool
  given : Nat

namespace Arguments

/-- No argument is given yet. -/
def empty : Arguments := ⟨fun _ => none, 0, false, 0⟩

/-- The slot of the next argument, which a keyword names or else its position. -/
def slot (arguments : Arguments) (tokens : List Token) :
    Except Fault (Option MomentPart × Arguments × List Token) :=
  match tokens with
  | ⟨.name keyword, offset⟩ :: ⟨.binding .plain, _⟩ :: rest =>
    match MomentPart.ofName? keyword with
    | some part => .ok (some part, { arguments with keywordSeen := true }, rest)
    | none => .error (.atOffset offset (.unknownKeyword keyword))
  | tokens =>
    if arguments.keywordSeen then .error (faultAt tokens .positionalAfterKeyword)
    else
      .ok (MomentPart.all[arguments.positional]?,
        { arguments with positional := arguments.positional + 1 }, tokens)

/-- A value goes into an empty slot. -/
def put (arguments : Arguments) (callOffset offset : Nat) (slot : Option MomentPart)
    (value : Expression) : Except Fault Arguments :=
  let given := arguments.given + 1
  match slot with
  | none => .error (.atOffset callOffset (.argumentCount given))
  | some part =>
    if (arguments.slots part).isSome then
      .error (.atOffset offset (.repeatedArgument part.name))
    else
      .ok { arguments with
        slots := fun other => if other = part then some value else arguments.slots other
        given := given }

/-- Zero fills a skipped slot. -/
def filled (arguments : Arguments) (part : MomentPart) : Expression :=
  (arguments.slots part).getD (.literal (.int 0))

/-- The slots up to the last one given; year, month and day are required. -/
def finish (arguments : Arguments) (callOffset : Nat) : Except Fault (List Expression) :=
  if [MomentPart.year, .month, .day].any fun part => (arguments.slots part).isNone then
    .error (.atOffset callOffset (.argumentCount arguments.given))
  else
    let used := (MomentPart.all.reverse.dropWhile fun part => (arguments.slots part).isNone).reverse
    .ok (used.map arguments.filled)

end Arguments

/-- The arguments of a call up to its closing parenthesis; `room` bounds their number. -/
def argumentsFrom (expression : Parser Expression) (callOffset : Nat) (arguments : Arguments) :
    Nat → Parser Arguments
  | 0, tokens => .error (unexpected tokens)
  | room + 1, tokens =>
    match eat? .closeParen tokens with
    | some rest => .ok (arguments, rest)
    | none => do
      let (slot, arguments, rest) ← arguments.slot tokens
      let (value, rest) ← expression rest
      let arguments ← arguments.put callOffset (nextOffset tokens) slot value
      match eat? .comma rest with
      | some rest => argumentsFrom expression callOffset arguments room rest
      | none =>
        let rest ← expect .closeParen "',' or ')'" rest
        return (arguments, rest)

/-- A name calls `datetime` or reads a declared attribute. -/
def namedAtom (kind : ItemKind) (expression : Parser Expression) (word : String) (offset : Nat) :
    Parser Expression := fun tokens =>
  if word = datetimeName then
    match eat? .openParen tokens with
    | none => .error (.atOffset offset .datetimeNotCalled)
    | some rest => do
      let (arguments, rest) ←
        argumentsFrom expression offset Arguments.empty (rest.length + 1) rest
      return (.datetime (← arguments.finish offset), rest)
  else if !kind.declares word then .error (.unknownName word kind)
  else if (eat? .openParen tokens).isSome then .error (faultAt tokens (.notCallable word))
  else .ok (.read word, tokens)

/-- A literal, a name, a parenthesised expression or a list. -/
def atom (kind : ItemKind) (deeper : Nested) : Parser Expression := fun tokens =>
  match tokens with
  | ⟨.int number, _⟩ :: rest => .ok (.literal (.int number), rest)
  | ⟨.float number, _⟩ :: rest => .ok (.literal (.float number), rest)
  | ⟨.text contents, _⟩ :: rest => .ok (.literal (.text contents), rest)
  | ⟨.keyword .true, _⟩ :: rest => .ok (.literal (.bool true), rest)
  | ⟨.keyword .false, _⟩ :: rest => .ok (.literal (.bool false), rest)
  | ⟨.keyword .none, _⟩ :: rest => .ok (.literal .none, rest)
  | ⟨.name word, offset⟩ :: rest => namedAtom kind deeper.expression word offset rest
  | ⟨.mark .openParen, _⟩ :: rest => do
    let (inner, rest) ← deeper.expression rest
    let rest ← expect .closeParen "')'" rest
    return (inner, rest)
  | ⟨.mark .openBracket, _⟩ :: rest => do
    let (items, rest) ← deeper.items rest
    return (.list items, rest)
  | tokens => .error (unexpected tokens)

/-- An atom and the members read from it. -/
def memberAccess (kind : ItemKind) (deeper : Nested) : Parser Expression := fun tokens => do
  let (target, rest) ← atom kind deeper tokens
  members target rest.length rest

/-- An operand with its signs. -/
def signedOperand (kind : ItemKind) (deeper : Nested) : Parser Expression := fun tokens =>
  match tokens with
  | ⟨.mark .minus, _⟩ :: rest => do
    let (operand, rest) ← deeper.signed rest
    return (.unary .minus operand, rest)
  | ⟨.mark .plus, _⟩ :: rest => do
    let (operand, rest) ← deeper.signed rest
    return (.unary .plus operand, rest)
  | tokens => memberAccess kind deeper tokens

/-- The operators of products. -/
def productOperator? : List Token → Option (BinaryOperator × List Token)
  | ⟨.mark .star, _⟩ :: rest => some (.multiply, rest)
  | ⟨.mark .slash, _⟩ :: rest => some (.divide, rest)
  | ⟨.mark .doubleSlash, _⟩ :: rest => some (.floorDivide, rest)
  | ⟨.mark .percent, _⟩ :: rest => some (.modulo, rest)
  | _ => none

/-- The operators of sums. -/
def sumOperator? : List Token → Option (BinaryOperator × List Token)
  | ⟨.mark .plus, _⟩ :: rest => some (.add, rest)
  | ⟨.mark .minus, _⟩ :: rest => some (.subtract, rest)
  | _ => none

/-- The comparisons; `not in` and `is not` are two words. -/
def comparison? : List Token → Option (Comparison × List Token)
  | ⟨.mark .equal, _⟩ :: rest => some (.equal, rest)
  | ⟨.mark .notEqual, _⟩ :: rest => some (.notEqual, rest)
  | ⟨.mark .less, _⟩ :: rest => some (.less, rest)
  | ⟨.mark .lessEqual, _⟩ :: rest => some (.lessEqual, rest)
  | ⟨.mark .greater, _⟩ :: rest => some (.greater, rest)
  | ⟨.mark .greaterEqual, _⟩ :: rest => some (.greaterEqual, rest)
  | ⟨.keyword .in, _⟩ :: rest => some (.within, rest)
  | ⟨.keyword .not, _⟩ :: ⟨.keyword .in, _⟩ :: rest => some (.notWithin, rest)
  | ⟨.keyword .is, _⟩ :: ⟨.keyword .not, _⟩ :: rest => some (.notSame, rest)
  | ⟨.keyword .is, _⟩ :: rest => some (.same, rest)
  | _ => none

/-- The word between conjuncts. -/
def andOperator? (tokens : List Token) : Option (Unit × List Token) :=
  (eatKeyword? .and tokens).map fun rest => ((), rest)

/-- The word between disjuncts. -/
def orOperator? (tokens : List Token) : Option (Unit × List Token) :=
  (eatKeyword? .or tokens).map fun rest => ((), rest)

/-- Products of signed operands. -/
def product (kind : ItemKind) (deeper : Nested) : Parser Expression :=
  leftLevel (signedOperand kind deeper) productOperator? .binary

/-- Sums of products. -/
def sum (kind : ItemKind) (deeper : Nested) : Parser Expression :=
  leftLevel (product kind deeper) sumOperator? .binary

/-- A chain of comparisons, or a sum on its own. -/
def comparisonChain (kind : ItemKind) (deeper : Nested) : Parser Expression := fun tokens => do
  let ((first, following), rest) ← operands (sum kind deeper) comparison? tokens
  return (if following.isEmpty then first else .chain first following, rest)

/-- A negation or a comparison. -/
def negation (kind : ItemKind) (deeper : Nested) : Parser Expression := fun tokens =>
  match eatKeyword? .not tokens with
  | some rest => do
    let (operand, rest) ← deeper.negated rest
    return (.unary .not operand, rest)
  | none => comparisonChain kind deeper tokens

/-- Conjunctions of negations. -/
def conjunction (kind : ItemKind) (deeper : Nested) : Parser Expression :=
  leftLevel (negation kind deeper) andOperator? fun _ => .both

/-- Disjunctions of conjunctions. -/
def disjunction (kind : ItemKind) (deeper : Nested) : Parser Expression :=
  leftLevel (conjunction kind deeper) orOperator? fun _ => .either

/-- The parsers that take one of the remaining steps into the nesting. -/
def nested (kind : ItemKind) : Nat → Nested
  | 0 => ⟨tooDeep, tooDeep, tooDeep, tooDeep⟩
  | steps + 1 =>
    let deeper := nested kind steps
    { expression := disjunction kind deeper
      negated := negation kind deeper
      signed := signedOperand kind deeper
      items := listItems deeper.expression }

/-- The expression that a whole token list spells. -/
def Expression.ofTokens (kind : ItemKind) (tokens : List Token) : Except Fault Expression := do
  match mutation? tokens with
  | some name => throw (.assignment name)
  | none =>
    match nextLexeme tokens with
    | .finish => throw (.atOffset 0 .emptyExpression)
    | _ =>
      let (expression, rest) ← (nested kind nestingLimit).expression tokens
      match nextLexeme rest with
      | .finish => return expression
      | _ => throw (unexpected rest)

/-- The expression of a filter text for one kind of item. -/
def Expression.parse (source : String) (kind : ItemKind) : Except FilterError Expression := do
  let tokens ← tokenize source
  (Expression.ofTokens kind tokens).mapError (FilterError.ofFault source)

end Harvest.Filter
