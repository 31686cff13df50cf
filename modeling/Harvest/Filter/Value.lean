import Harvest.Calendar.Text
import Harvest.Number.Shortest
import Harvest.Text.Quoted

/-!
The values that filters compute with.
-/

namespace Harvest.Filter

/-- An attribute or an intermediate result. -/
inductive Value where
  | none
  | bool (flag : Bool)
  | int (number : Int64)
  | float (number : Float)
  | text (contents : String)
  | moment (stamp : DateTime)
  | list (items : List Value)
  deriving Inhabited

namespace Value

/-- The name of a value's type in messages. -/
def typeName : Value → String
  | .none => "None"
  | .bool _ => "bool"
  | .int _ => "int"
  | .float _ => "float"
  | .text _ => "str"
  | .moment _ => "datetime"
  | .list _ => "list"

/-- `None`, `False`, zero, empty text and the empty list are false. -/
def isTrue : Value → Bool
  | .none => false
  | .bool flag => flag
  | .int number => number != 0
  | .float number => number != 0
  | .text contents => !contents.isEmpty
  | .moment _ => true
  | .list items => !items.isEmpty

/-- Truth values count as zero and one among the integers. -/
def asInt? : Value → Option Int64
  | .bool flag => some (if flag then 1 else 0)
  | .int number => some number
  | _ => Option.none

/-- Integers round to the nearest floating number. -/
def asFloat? : Value → Option Float
  | .bool flag => some (if flag then 1 else 0)
  | .int number => some (Binary64.ofInt number.toInt)
  | .float number => some number
  | _ => Option.none

/-- An absent value reads as `None`. -/
def ofOption {α : Type} (wrap : α → Value) : Option α → Value
  | some contents => wrap contents
  | Option.none => .none

/-- A list of texts. -/
def texts (contents : List String) : Value :=
  .list (contents.map .text)

mutual

/-- A value as it is shown. -/
def display : Value → String
  | .none => "None"
  | .bool true => "True"
  | .bool false => "False"
  | .int number => toString number.toInt
  | .float number => Shortest.text number
  | .text contents => Text.quote contents
  | .moment stamp => stamp.text
  | .list items => "[" ++ displayItems items ++ "]"

/-- Items are shown between commas. -/
def displayItems : List Value → String
  | [] => ""
  | [item] => display item
  | item :: rest => display item ++ ", " ++ displayItems rest

end

mutual

/-- Texts, moments and `None` equal their like, lists compare by items, and numbers by value. -/
def equal (left right : Value) : Bool :=
  match left, right with
  | .text first, .text second => first == second
  | .moment first, .moment second => first == second
  | .none, .none => true
  | .list first, .list second => equalItems first second
  | left, right =>
    match left.asInt?, right.asInt? with
    | some first, some second => first == second
    | _, _ =>
      match left.asFloat?, right.asFloat? with
      | some first, some second => first == second
      | _, _ => false

/-- Lists are equal when they have equal items in the same order. -/
def equalItems (left right : List Value) : Bool :=
  match left, right with
  | [], [] => true
  | first :: left, second :: right => equal first second && equalItems left right
  | _, _ => false

end

/-- `None`, `True` and `False` are the values with an identity. -/
def isSame : Value → Value → Bool
  | .none, .none => true
  | .bool first, .bool second => first == second
  | _, _ => false

/-- Two floating numbers compare unless one is not a number. -/
def compareFloats? (left right : Float) : Option Ordering :=
  if left < right then some .lt
  else if left == right then some .eq
  else if right < left then some .gt
  else Option.none

/-- Texts compare by code points, moments by time, and numbers by value. -/
def compare? (left right : Value) : Option Ordering :=
  match left, right with
  | .text first, .text second => some (Ord.compare first second)
  | .moment first, .moment second => some (first.compare second)
  | left, right =>
    match left.asInt?, right.asInt? with
    | some first, some second => some (Ord.compare first.toInt second.toInt)
    | _, _ =>
      match left.asFloat?, right.asFloat? with
      | some first, some second => compareFloats? first second
      | _, _ => Option.none

/-- A run of characters stands somewhere within another. -/
def hasPart (part : List Char) : List Char → Bool
  | [] => part.isEmpty
  | head :: rest => part.isPrefixOf (head :: rest) || hasPart part rest

/-- A list holds its items and a text its parts; no other value holds anything. -/
def holds? (container element : Value) : Option Bool :=
  match container, element with
  | .list items, element => some (items.any fun item => equal item element)
  | .text whole, .text part => some (hasPart part.toList whole.toList)
  | _, _ => Option.none

end Value

end Harvest.Filter
