import Harvest.Filter.Value
import Harvest.Json.Record

/-!
Profiles: their fields, what filters read of them, and their saved form.
-/

namespace Harvest

open Harvest.Filter (Value)

/-- An account's profile. -/
structure Profile where
  username : String
  userId : Option Int64
  fullName : Option String
  biography : Option String
  followers : Int64
  followees : Int64
  mediaCount : Int64
  isPrivate : Bool
  isVerified : Bool

namespace Profile

/-- A profile as messages name it. -/
def display (profile : Profile) : String :=
  s!"<Profile {profile.username}>"

/-- The attributes that filters may read of a profile. -/
def attributeNames : List String :=
  ["username", "userid", "full_name", "biography", "followers", "followees", "mediacount",
    "is_private", "is_verified"]

/-- The value of an attribute of a profile. -/
def attribute? (profile : Profile) : String → Option Value
  | "username" => some (.text profile.username)
  | "userid" => some (.ofOption .int profile.userId)
  | "full_name" => some (.ofOption .text profile.fullName)
  | "biography" => some (.ofOption .text profile.biography)
  | "followers" => some (.int profile.followers)
  | "followees" => some (.int profile.followees)
  | "mediacount" => some (.int profile.mediaCount)
  | "is_private" => some (.bool profile.isPrivate)
  | "is_verified" => some (.bool profile.isVerified)
  | _ => none

/-- The members of a saved profile. -/
def fields (profile : Profile) : List (String × Json) :=
  [("username", .text profile.username),
    ("userid", Json.ofNullable (fun number => .int number.toInt) profile.userId),
    ("full_name", Json.ofNullable .text profile.fullName),
    ("biography", Json.ofNullable .text profile.biography),
    ("followers", .int profile.followers.toInt),
    ("followees", .int profile.followees.toInt),
    ("mediacount", .int profile.mediaCount.toInt),
    ("is_private", .bool profile.isPrivate),
    ("is_verified", .bool profile.isVerified)]

/-- The field names of a saved profile in order. -/
def fieldNames : List String :=
  ["username", "userid", "full_name", "biography", "followers", "followees", "mediacount",
    "is_private", "is_verified"]

/-- A profile as it is saved. -/
def encode (profile : Profile) : Json :=
  .object profile.fields

/-- The profile that a document saves. -/
def decode? (document : Json) : Option Profile := do
  let record ← Json.Record.of? fieldNames document
  return {
    username := ← record.required "username" Json.asText?
    userId := ← record.optional "userid" none (Json.asNullable? Json.asInt?)
    fullName := ← record.optional "full_name" none (Json.asNullable? Json.asText?)
    biography := ← record.optional "biography" none (Json.asNullable? Json.asText?)
    followers := ← record.optional "followers" 0 Json.asInt?
    followees := ← record.optional "followees" 0 Json.asInt?
    mediaCount := ← record.optional "mediacount" 0 Json.asInt?
    isPrivate := ← record.optional "is_private" false Json.asBool?
    isVerified := ← record.optional "is_verified" false Json.asBool? }

end Profile

end Harvest
