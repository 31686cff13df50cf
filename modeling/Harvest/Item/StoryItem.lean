import Harvest.Filter.Value
import Harvest.Item.ShortCode
import Harvest.Json.Record

/-!
Story items: their fields, what filters read of them, and their saved form.
-/

namespace Harvest

open Harvest.Filter (Value)

/-- A story item as the service describes it. -/
structure StoryItem where
  mediaId : Int64
  shortcode : Option String
  ownerUsername : String
  ownerId : Option Int64
  dateUtc : DateTime
  dateLocal : Option DateTime
  expiringUtc : Option DateTime
  typeName : String
  isVideo : Bool

namespace StoryItem

/-- A story item as messages name it. -/
def display (item : StoryItem) : String :=
  s!"<StoryItem {item.mediaId.toInt}>"

/-- The local time, or else the universal time. -/
def date (item : StoryItem) : DateTime :=
  item.dateLocal.getD item.dateUtc

/-- The given short code, or else the one of the media id. -/
def effectiveShortcode (item : StoryItem) : String :=
  item.shortcode.getD (ShortCode.ofMediaId item.mediaId)

/-- The given expiry, or else the same time on the next day. -/
def expiry? (item : StoryItem) : Option DateTime :=
  match item.expiringUtc with
  | some stamp => some stamp
  | none => item.dateUtc.nextDay?

/-- The attributes that filters may read of a story item. -/
def attributeNames : List String :=
  ["mediaid", "shortcode", "owner_username", "owner_id", "date_utc", "date_local", "date",
    "expiring_utc", "typename", "is_video"]

/-- The value of an attribute of a story item. -/
def attribute? (item : StoryItem) : String → Option Value
  | "mediaid" => some (.int item.mediaId)
  | "shortcode" => some (.text item.effectiveShortcode)
  | "owner_username" => some (.text item.ownerUsername)
  | "owner_id" => some (.ofOption .int item.ownerId)
  | "date_utc" => some (.moment item.dateUtc)
  | "date_local" => some (.moment item.date)
  | "date" => some (.moment item.date)
  | "expiring_utc" => some (.ofOption .moment item.expiry?)
  | "typename" => some (.text item.typeName)
  | "is_video" => some (.bool item.isVideo)
  | _ => none

/-- The members of a saved story item. -/
def fields (item : StoryItem) : List (String × Json) :=
  [("mediaid", .int item.mediaId.toInt),
    ("shortcode", Json.ofNullable .text item.shortcode),
    ("owner_username", .text item.ownerUsername),
    ("owner_id", Json.ofNullable (fun number => .int number.toInt) item.ownerId),
    ("date_utc", .text item.dateUtc.savedText),
    ("date_local", Json.ofNullable (fun stamp => .text stamp.savedText) item.dateLocal),
    ("expiring_utc", Json.ofNullable (fun stamp => .text stamp.savedText) item.expiringUtc),
    ("typename", .text item.typeName),
    ("is_video", .bool item.isVideo)]

/-- The field names of a saved story item in order. -/
def fieldNames : List String :=
  ["mediaid", "shortcode", "owner_username", "owner_id", "date_utc", "date_local",
    "expiring_utc", "typename", "is_video"]

/-- A story item as it is saved. -/
def encode (item : StoryItem) : Json :=
  .object item.fields

/-- The story item that a document saves. -/
def decode? (document : Json) : Option StoryItem := do
  let record ← Json.Record.of? fieldNames document
  return {
    mediaId := ← record.required "mediaid" Json.asInt?
    shortcode := ← record.optional "shortcode" none (Json.asNullable? Json.asText?)
    ownerUsername := ← record.required "owner_username" Json.asText?
    ownerId := ← record.optional "owner_id" none (Json.asNullable? Json.asInt?)
    dateUtc := ← record.required "date_utc" Json.asMoment?
    dateLocal := ← record.optional "date_local" none (Json.asNullable? Json.asMoment?)
    expiringUtc := ← record.optional "expiring_utc" none (Json.asNullable? Json.asMoment?)
    typeName := ← record.optional "typename" "GraphStoryImage" Json.asText?
    isVideo := ← record.optional "is_video" false Json.asBool? }

end StoryItem

end Harvest
