import Harvest.Proofs.Filter.Completeness

/-!
Reading with a cursor. Routines go over one token list: they move a position, count how deep they
are, and put the count back when they come out of a nesting. They may call each other without end,
so each has only some time. What they come to when the time is enough is told by the parsers,
which take tokens off a list and get their budget as an argument.
-/

namespace Harvest.Filter

/-- The next token of a list, and how deep its reader is in the nesting. -/
structure Cursor where
  position : Nat
  depth : Nat

/-- A routine moves a cursor and comes to a result or a fault, or to nothing when its time is
over. -/
abbrev Routine (α : Type) := ExceptT Fault (StateT Cursor Option) α

namespace Routine

section Steps

variable {α : Type} (tokens : List Token)

/-- Time is over. -/
def timeout : Routine α := ExceptT.mk fun _ => none

/-- The tokens from the cursor on. -/
def ahead : Routine (List Token) := do
  return tokens.drop (← get).position

/-- The cursor goes over some tokens. -/
def move (count : Nat) : Routine Unit :=
  modify fun cursor => { cursor with position := cursor.position + count }

/-- The cursor goes over the next token, and not past the last. -/
def advance : Routine (List Token) := do
  let place ← ahead tokens
  if place.isEmpty then return place
  move 1
  return place

/-- The cursor goes back to the token before it. -/
def stepBack : Routine Unit :=
  modify fun cursor => { cursor with position := cursor.position - 1 }

/-- The cursor goes over a mark if it comes next. -/
def eat (mark : Mark) : Routine Bool := do
  match eat? mark (← ahead tokens) with
  | some _ =>
    move 1
    return true
  | none => return false

/-- The cursor goes over a mark that has to come next. -/
def expect (mark : Mark) (what : String) : Routine Unit := do
  if ← eat tokens mark then return
  let place ← ahead tokens
  throw (faultAt place (.expected what (nextLexeme place)))

/-- One step into the nesting. -/
def enter : Routine Unit := do
  modify fun cursor => { cursor with depth := cursor.depth + 1 }
  if nestingLimit < (← get).depth then throw (faultAt (← ahead tokens) .nestedTooDeeply)

/-- One step out of the nesting. -/
def leave : Routine Unit :=
  modify fun cursor => { cursor with depth := cursor.depth - 1 }

/-- A routine one step deeper. The step is taken back before a fault of the routine goes on. -/
def deeper (routine : Routine α) : Routine α := do
  enter tokens
  let outcome ← (ExceptT.lift routine.run : Routine (Except Fault α))
  leave
  liftExcept outcome

/-- Operators and right operands behind a left operand, as far as they follow. -/
def joined (operand : Routine Expression) (operator? : List Token → Option (α × List Token))
    (combine : α → Expression → Expression → Expression) : Nat → Expression → Routine Expression
  | 0, _ => timeout
  | time + 1, left => do
    match operator? (← ahead tokens) with
    | none => return left
    | some (operator, _) =>
      move 1
      let right ← operand
      joined operand operator? combine time (combine operator left right)

/-- Comparisons and their right operands, as far as they follow. -/
def comparisons (operand : Routine Expression) : Nat → Routine (List (Comparison × Expression))
  | 0 => timeout
  | time + 1 => do
    match comparison? (← ahead tokens) with
    | none => return []
    | some (comparison, _) =>
      move comparison.lexemes.length
      let right ← operand
      return (comparison, right) :: (← comparisons operand time)

/-- The members read from a target, as far as they follow. -/
def members : Nat → Expression → Routine Expression
  | 0, _ => timeout
  | time + 1, target => do
    if ← eat tokens .dot then
      match ← advance tokens with
      | ⟨.name word, offset⟩ :: _ =>
        match MomentPart.ofName? word with
        | some part => members time (.part target part)
        | none => throw (.atOffset offset (.unsupportedMember word))
      | place => throw (faultAt place .memberNameExpected)
    else return target

/-- The items of a list up to its closing bracket, after at least one more item. -/
def itemsFrom (expression : Routine Expression) : Nat → Routine (List Expression)
  | 0 => timeout
  | time + 1 => do
    let item ← expression
    if ← eat tokens .closeBracket then return [item]
    expect tokens .comma "',' or ']'"
    if ← eat tokens .closeBracket then return [item]
    return item :: (← itemsFrom expression time)

/-- The items of a list after its opening bracket. -/
def listItems (expression : Routine Expression) (time : Nat) : Routine (List Expression) := do
  if ← eat tokens .closeBracket then return []
  itemsFrom tokens expression time

/-- The slot of the next argument. The cursor goes over its keyword. -/
def slot (arguments : Arguments) : Routine (Option MomentPart × Arguments) := do
  let place ← ahead tokens
  let (slot, arguments, _) ← liftExcept (arguments.slot place)
  if startsWithKeyword place then move 2
  return (slot, arguments)

/-- The arguments of a call up to its closing parenthesis. -/
def argumentsFrom (expression : Routine Expression) (callOffset : Nat) :
    Nat → Arguments → Routine Arguments
  | 0, _ => timeout
  | time + 1, arguments => do
    if ← eat tokens .closeParen then return arguments
    let place ← ahead tokens
    let (slot, arguments) ← slot tokens arguments
    let value ← expression
    let arguments ← liftExcept (arguments.put callOffset (nextOffset place) slot value)
    if ← eat tokens .comma then argumentsFrom expression callOffset time arguments
    else
      expect tokens .closeParen "',' or ')'"
      return arguments

/-- The slots of a call after its opening parenthesis. -/
def callSlots (expression : Routine Expression) (callOffset time : Nat) :
    Routine (List Expression) := do
  let arguments ← argumentsFrom tokens expression callOffset time Arguments.empty
  liftExcept (arguments.finish callOffset)

end Steps

section Phrases

variable (kind : ItemKind) (tokens : List Token)

/-- A name calls `datetime` or reads a declared attribute. -/
def namedAtom (expression : Routine Expression) (time : Nat) (word : String) (offset : Nat) :
    Routine Expression := do
  if word = datetimeName then
    if ← eat tokens .openParen then
      return .datetime (← callSlots tokens expression offset time)
    else throw (.atOffset offset .datetimeNotCalled)
  else if !kind.declares word then throw (.unknownName word kind)
  else
    let place ← ahead tokens
    if (eat? .openParen place).isSome then throw (faultAt place (.notCallable word))
    return .read word

/-- A literal, a name, a parenthesised expression or a list. Any other token is left where it
is. -/
def atom (expression : Routine Expression) (time : Nat) : Routine Expression := do
  match ← advance tokens with
  | ⟨.int number, _⟩ :: _ => return .literal (.int number)
  | ⟨.float number, _⟩ :: _ => return .literal (.float number)
  | ⟨.text contents, _⟩ :: _ => return .literal (.text contents)
  | ⟨.keyword .true, _⟩ :: _ => return .literal (.bool true)
  | ⟨.keyword .false, _⟩ :: _ => return .literal (.bool false)
  | ⟨.keyword .none, _⟩ :: _ => return .literal .none
  | ⟨.name word, offset⟩ :: _ => namedAtom kind tokens expression time word offset
  | ⟨.mark .openParen, _⟩ :: _ =>
    let inner ← expression
    expect tokens .closeParen "')'"
    return inner
  | ⟨.mark .openBracket, _⟩ :: _ =>
    return .list (← deeper tokens (listItems tokens expression time))
  | _ =>
    stepBack
    throw (unexpected (← ahead tokens))

/-- A phrase of a level. -/
def phrase : Nat → Level → Routine Expression
  | 0, _ => timeout
  | time + 1, .disjunction => do
    let operand := phrase time .conjunction
    joined tokens operand orOperator? (fun _ => .either) time (← operand)
  | time + 1, .conjunction => do
    let operand := phrase time .negation
    joined tokens operand andOperator? (fun _ => .both) time (← operand)
  | time + 1, .negation => do
    match eatKeyword? .not (← ahead tokens) with
    | some _ =>
      move 1
      return .unary .not (← deeper tokens (phrase time .negation))
    | none => phrase time .comparison
  | time + 1, .comparison => do
    let operand := phrase time .sum
    let first ← operand
    let following ← comparisons tokens operand time
    return if following.isEmpty then first else .chain first following
  | time + 1, .sum => do
    let operand := phrase time .product
    joined tokens operand sumOperator? .binary time (← operand)
  | time + 1, .product => do
    let operand := phrase time .signed
    joined tokens operand productOperator? .binary time (← operand)
  | time + 1, .signed => do
    match ← ahead tokens with
    | ⟨.mark .minus, _⟩ :: _ =>
      move 1
      return .unary .minus (← deeper tokens (phrase time .signed))
    | ⟨.mark .plus, _⟩ :: _ =>
      move 1
      return .unary .plus (← deeper tokens (phrase time .signed))
    | _ => phrase time .member
  | time + 1, .member => do
    members tokens time (← phrase time .atom)
  | time + 1, .atom => atom kind tokens (deeper tokens (phrase time .disjunction)) time

/-- A whole expression, which is one step into the nesting. -/
def expression (time : Nat) : Routine Expression :=
  deeper tokens (phrase kind tokens time .disjunction)

end Phrases

section Runs

variable {α β : Type} {tokens : List Token}

theorem run_bind (routine : Routine α) (next : α → Routine β) (cursor : Cursor) :
    (routine >>= next) cursor =
      match routine cursor with
      | none => none
      | some (.error fault, after) => some (.error fault, after)
      | some (.ok result, after) => next result after := by
  change (routine cursor).bind _ = _
  rcases routine cursor with - | ⟨- | result, after⟩ <;> rfl

/-- Beyond the limit a routine is not even started, and otherwise the count is put back. -/
theorem run_deeper (routine : Routine α) (position depth : Nat) :
    deeper tokens routine ⟨position, depth⟩ =
      if nestingLimit < depth + 1 then
        some (.error (faultAt (tokens.drop position) .nestedTooDeeply), ⟨position, depth + 1⟩)
      else
        match routine ⟨position, depth + 1⟩ with
        | none => none
        | some (outcome, after) => some (outcome, { after with depth := after.depth - 1 }) := by
  have entered : enter tokens ⟨position, depth⟩ =
      if nestingLimit < depth + 1 then
        some (.error (faultAt (tokens.drop position) .nestedTooDeeply), ⟨position, depth + 1⟩)
      else some (.ok (), ⟨position, depth + 1⟩) := by
    unfold enter
    rw [run_bind]
    change (if nestingLimit < depth + 1 then _ else _ : Routine Unit) _ = _
    split <;> rfl
  unfold deeper
  rw [run_bind]
  by_cases beyond : nestingLimit < depth + 1
  · simp only [entered, if_pos beyond]
  · have observed : (ExceptT.lift routine.run : Routine (Except Fault α)) ⟨position, depth + 1⟩ =
        match routine ⟨position, depth + 1⟩ with
        | none => none
        | some (outcome, after) => some (.ok outcome, after) := by
      change (routine ⟨position, depth + 1⟩).bind _ = _
      rcases routine ⟨position, depth + 1⟩ with - | ⟨outcome, after⟩ <;> rfl
    simp only [entered, if_neg beyond, run_bind, observed]
    rcases routine ⟨position, depth + 1⟩ with - | ⟨- | result, after⟩ <;> rfl

end Runs

end Routine

end Harvest.Filter
