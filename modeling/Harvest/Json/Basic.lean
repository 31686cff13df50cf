/-!
JSON documents. Integers and floating numbers stay apart, and an object keeps its members in
written order with repetitions. A token that is well formed but stands for no value, such as a
number out of range, is kept as `unreadable`: it only matters where somebody asks for it.
-/

namespace Harvest

/-- A document as written. -/
inductive Json where
  | null
  | bool (flag : Bool)
  | int (number : Int)
  | float (number : Float)
  | text (contents : String)
  | list (items : List Json)
  | object (members : List (String × Json))
  | unreadable
  deriving Inhabited

namespace Json

/-- Writing a member again replaces its value and keeps its place. -/
def setMember (members : List (String × Json)) (key : String) (value : Json) :
    List (String × Json) :=
  match members with
  | [] => [(key, value)]
  | (other, old) :: rest =>
    if other = key then (key, value) :: rest else (other, old) :: setMember rest key value

/-- The value of the first member with a key. -/
def member? (members : List (String × Json)) (key : String) : Option Json :=
  members.lookup key

/-- The value under a key, if the document is an object that has it. -/
def get? (key : String) : Json → Option Json
  | .object members => member? members key
  | _ => none

/-- A document nests at most this many lists and objects. -/
def nestingLimit : Nat := 127

mutual

/-- The value a document stands for: the last of repeated members wins, and there is none when a
part is unreadable or nested deeper than `room` allows. -/
def settle (room : Nat) : Json → Option Json
  | .list items => do
    guard (0 < room)
    return .list (← settleItems (room - 1) items)
  | .object members => do
    guard (0 < room)
    return .object ((← settleMembers (room - 1) members).foldl
      (fun settled entry => setMember settled entry.1 entry.2) [])
  | .unreadable => none
  | other => some other

/-- Each item of a list settles. -/
def settleItems (room : Nat) : List Json → Option (List Json)
  | [] => some []
  | item :: rest => do
    let first ← settle room item
    return first :: (← settleItems room rest)

/-- Each member of an object settles. -/
def settleMembers (room : Nat) : List (String × Json) → Option (List (String × Json))
  | [] => some []
  | (key, value) :: rest => do
    let first ← settle room value
    return (key, first) :: (← settleMembers room rest)

end

end Json

end Harvest
