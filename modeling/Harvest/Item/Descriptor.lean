import Harvest.Item.Attribute
import Harvest.Json.Read

/-!
Saved descriptors. A descriptor is an envelope of a node type and a node, and the node is decoded
by its type.
-/

namespace Harvest

open Harvest.Filter (Subject)

/-- What a descriptor holds; other node types are known by name only. -/
inductive Descriptor where
  | post (post : Post)
  | storyItem (item : StoryItem)
  | profile (profile : Profile)
  | other (nodeType : String)

namespace Descriptor

/-- The node type of a descriptor. -/
def typeName : Descriptor → String
  | .post _ => ItemKind.post.name
  | .storyItem _ => ItemKind.storyItem.name
  | .profile _ => ItemKind.profile.name
  | .other nodeType => nodeType

/-- The item of a descriptor as filters see it. -/
def subject? : Descriptor → Option Subject
  | .post item => some item.subject
  | .storyItem item => some item.subject
  | .profile item => some item.subject
  | .other _ => none

/-- The saved form of a descriptor's item. -/
def encode? : Descriptor → Option Json
  | .post item => some item.encode
  | .storyItem item => some item.encode
  | .profile item => some item.encode
  | .other _ => none

/-- The descriptor of a node with a declared type. -/
def decode? (nodeType : String) (node : Json) : Option Descriptor :=
  if nodeType = ItemKind.post.name then (Post.decode? node).map .post
  else if nodeType = ItemKind.storyItem.name then (StoryItem.decode? node).map .storyItem
  else if nodeType = ItemKind.profile.name then (Profile.decode? node).map .profile
  else some (.other nodeType)

/-- The descriptor that a text saves. -/
def ofText? (source : String) : Option Descriptor := do
  let record ← Json.Record.of? ["node_type", "node"] (← Json.ofText? source)
  let nodeType ← record.required "node_type" Json.asText?
  let node ← record.required "node" (Json.settle (Json.nestingLimit - 1))
  decode? nodeType node

end Descriptor

end Harvest
