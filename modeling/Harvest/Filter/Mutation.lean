import Harvest.Filter.Error

/-!
Filters only read. A deletion and every binding operator name a mutation, except the `=` of a
keyword argument inside a call of `datetime`.
-/

namespace Harvest.Filter

/-- The one function that a filter may call. -/
def datetimeName : String := "datetime"

/-- The name that a mutation reports when none stands beside it. -/
def namelessTarget : String := "<expression>"

/-- The word of a name. -/
def Lexeme.name? : Lexeme → Option String
  | .name word => some word
  | _ => none

/-- A bracket opens a call when the name of the function stands before it. -/
def opensCall (before : List Lexeme) : Bool :=
  (before.head?.bind Lexeme.name?) == some datetimeName

/-- A keyword is a name after an opening parenthesis or a comma. -/
def endsInKeyword : List Lexeme → Bool
  | .name _ :: .mark .openParen :: _ => true
  | .name _ :: .mark .comma :: _ => true
  | _ => false

/-- The target of the first mutation. `brackets` tells of each open bracket whether it opened a
call, and `before` holds the lexemes passed, both with the latest first. -/
def mutationAfter (brackets : List Bool) (before : List Lexeme) : List Token → Option String
  | [] => none
  | token :: rest =>
    let following (brackets : List Bool) := mutationAfter brackets (token.lexeme :: before) rest
    match token.lexeme with
    | .mark .openParen => following (opensCall before :: brackets)
    | .mark .openBracket => following (false :: brackets)
    | .mark .closeParen | .mark .closeBracket => following brackets.tail
    | .binding operator =>
      if operator = .plain ∧ brackets.head? = some true ∧ endsInKeyword before then
        following brackets
      else some ((before.findSome? Lexeme.name?).getD namelessTarget)
    | .keyword .del =>
      some ((rest.head?.bind fun next => next.lexeme.name?).getD namelessTarget)
    | _ => following brackets

/-- The target of the first mutation among some tokens. -/
def mutation? (tokens : List Token) : Option String :=
  mutationAfter [] [] tokens

end Harvest.Filter
