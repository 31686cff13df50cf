import Harvest.Filter.Value
import Harvest.Item.Caption
import Harvest.Json.Record

/-!
Posts: their fields, what filters read of them, and their saved form.
-/

namespace Harvest

open Harvest.Filter (Value)

/-- A post as the service describes it. -/
structure Post where
  shortcode : String
  mediaId : Int64
  ownerUsername : String
  ownerId : Option Int64
  dateUtc : DateTime
  dateLocal : Option DateTime
  typeName : String
  mediaCount : Int64
  caption : Option String
  taggedUsers : List String
  isVideo : Bool
  videoViewCount : Option Int64
  videoDuration : Option Float
  viewerHasLiked : Bool
  likes : Int64
  comments : Int64
  isSponsored : Bool
  location : Option String

namespace Post

/-- A post as messages name it. -/
def display (post : Post) : String :=
  s!"<Post {post.shortcode}>"

/-- The local time, or else the universal time. -/
def date (post : Post) : DateTime :=
  post.dateLocal.getD post.dateUtc

/-- The names of a pattern in the caption. -/
def captionNames (post : Post) (pattern : Caption.Pattern) : List String :=
  match post.caption with
  | some contents => pattern.names contents
  | none => []

/-- The attributes that filters may read of a post. -/
def attributeNames : List String :=
  ["shortcode", "mediaid", "owner_username", "owner_id", "date_utc", "date_local", "date",
    "typename", "mediacount", "caption", "caption_hashtags", "caption_mentions", "tagged_users",
    "is_video", "video_view_count", "video_duration", "viewer_has_liked", "likes", "comments",
    "is_sponsored", "location"]

/-- The value of an attribute of a post. -/
def attribute? (post : Post) : String → Option Value
  | "shortcode" => some (.text post.shortcode)
  | "mediaid" => some (.int post.mediaId)
  | "owner_username" => some (.text post.ownerUsername)
  | "owner_id" => some (.ofOption .int post.ownerId)
  | "date_utc" => some (.moment post.dateUtc)
  | "date_local" => some (.moment post.date)
  | "date" => some (.moment post.date)
  | "typename" => some (.text post.typeName)
  | "mediacount" => some (.int post.mediaCount)
  | "caption" => some (.ofOption .text post.caption)
  | "caption_hashtags" => some (.texts (post.captionNames Caption.hashtag))
  | "caption_mentions" => some (.texts (post.captionNames Caption.mention))
  | "tagged_users" => some (.texts post.taggedUsers)
  | "is_video" => some (.bool post.isVideo)
  | "video_view_count" => some (.ofOption .int post.videoViewCount)
  | "video_duration" => some (.ofOption .float post.videoDuration)
  | "viewer_has_liked" => some (.bool post.viewerHasLiked)
  | "likes" => some (.int post.likes)
  | "comments" => some (.int post.comments)
  | "is_sponsored" => some (.bool post.isSponsored)
  | "location" => some (.ofOption .text post.location)
  | _ => none

/-- The members of a saved post. -/
def fields (post : Post) : List (String × Json) :=
  [("shortcode", .text post.shortcode),
    ("mediaid", .int post.mediaId.toInt),
    ("owner_username", .text post.ownerUsername),
    ("owner_id", Json.ofNullable (fun number => .int number.toInt) post.ownerId),
    ("date_utc", .text post.dateUtc.savedText),
    ("date_local", Json.ofNullable (fun stamp => .text stamp.savedText) post.dateLocal),
    ("typename", .text post.typeName),
    ("mediacount", .int post.mediaCount.toInt),
    ("caption", Json.ofNullable .text post.caption),
    ("tagged_users", .list (post.taggedUsers.map .text)),
    ("is_video", .bool post.isVideo),
    ("video_view_count", Json.ofNullable (fun number => .int number.toInt) post.videoViewCount),
    ("video_duration", Json.ofNullable .float post.videoDuration),
    ("viewer_has_liked", .bool post.viewerHasLiked),
    ("likes", .int post.likes.toInt),
    ("comments", .int post.comments.toInt),
    ("is_sponsored", .bool post.isSponsored),
    ("location", Json.ofNullable .text post.location)]

/-- The field names of a saved post in order. -/
def fieldNames : List String :=
  ["shortcode", "mediaid", "owner_username", "owner_id", "date_utc", "date_local", "typename",
    "mediacount", "caption", "tagged_users", "is_video", "video_view_count", "video_duration",
    "viewer_has_liked", "likes", "comments", "is_sponsored", "location"]

/-- A post as it is saved. -/
def encode (post : Post) : Json :=
  .object post.fields

/-- The post that a document saves. -/
def decode? (document : Json) : Option Post := do
  let record ← Json.Record.of? fieldNames document
  return {
    shortcode := ← record.required "shortcode" Json.asText?
    mediaId := ← record.optional "mediaid" 0 Json.asInt?
    ownerUsername := ← record.required "owner_username" Json.asText?
    ownerId := ← record.optional "owner_id" none (Json.asNullable? Json.asInt?)
    dateUtc := ← record.required "date_utc" Json.asMoment?
    dateLocal := ← record.optional "date_local" none (Json.asNullable? Json.asMoment?)
    typeName := ← record.optional "typename" "GraphImage" Json.asText?
    mediaCount := ← record.optional "mediacount" 1 Json.asInt?
    caption := ← record.optional "caption" none (Json.asNullable? Json.asText?)
    taggedUsers := ← record.optional "tagged_users" [] (Json.asList? Json.asText?)
    isVideo := ← record.optional "is_video" false Json.asBool?
    videoViewCount := ← record.optional "video_view_count" none (Json.asNullable? Json.asInt?)
    videoDuration := ← record.optional "video_duration" none (Json.asNullable? Json.asFloat?)
    viewerHasLiked := ← record.optional "viewer_has_liked" false Json.asBool?
    likes := ← record.optional "likes" 0 Json.asInt?
    comments := ← record.optional "comments" 0 Json.asInt?
    isSponsored := ← record.optional "is_sponsored" false Json.asBool?
    location := ← record.optional "location" none (Json.asNullable? Json.asText?) }

end Post

end Harvest
