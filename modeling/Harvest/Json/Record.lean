import Harvest.Calendar.Text
import Harvest.Json.Basic
import Harvest.Number.Binary64
import Harvest.Number.Word

/-!
Records in documents. A record is an object, or a list of its leading fields in order; members
that it does not declare are ignored.
-/

namespace Harvest.Json

/-- The declared fields that a document gives. -/
abbrev Record := List (String × Json)

/-- A declared field occurs at most once. -/
def Record.ofMembers? (names : List String) (members : List (String × Json)) : Option Record :=
  let declared := members.filter fun entry => names.contains entry.1
  if (declared.map Prod.fst).Nodup then some declared else none

/-- The record of a document with the declared field names. -/
def Record.of? (names : List String) : Json → Option Record
  | .object members => Record.ofMembers? names members
  | .list items => if items.length ≤ names.length then some (names.zip items) else none
  | _ => none

/-- A field that has to be given. -/
def Record.required {α : Type} (record : Record) (name : String) (read : Json → Option α) :
    Option α :=
  (record.lookup name).bind read

/-- A field that may be left out. -/
def Record.optional {α : Type} (record : Record) (name : String) (missing : α)
    (read : Json → Option α) : Option α :=
  match record.lookup name with
  | none => some missing
  | some value => read value

/-- A text. -/
def asText? : Json → Option String
  | .text contents => some contents
  | _ => none

/-- A truth value. -/
def asBool? : Json → Option Bool
  | .bool flag => some flag
  | _ => none

/-- An integer that fits a signed word. -/
def asInt? : Json → Option Int64
  | .int number => Word.ofInt? number
  | _ => none

/-- A floating number or the nearest one to an integer. -/
def asFloat? : Json → Option Float
  | .int number => some (Binary64.ofInt number)
  | .float number => some number
  | _ => none

/-- A moment in saved form. -/
def asMoment? : Json → Option DateTime
  | .text contents => DateTime.ofText? contents
  | _ => none

/-- Null or a value. -/
def asNullable? {α : Type} (read : Json → Option α) : Json → Option (Option α)
  | .null => some none
  | value => (read value).map some

/-- A list of values. -/
def asList? {α : Type} (read : Json → Option α) : Json → Option (List α)
  | .list items => items.mapM read
  | _ => none

/-- Null stands for an absent value. -/
def ofNullable {α : Type} (write : α → Json) : Option α → Json
  | some value => write value
  | none => .null

end Harvest.Json
