import Harvest.Filter.Subject
import Harvest.Item.Post
import Harvest.Item.Profile
import Harvest.Item.StoryItem

/-!
The attributes that each kind of item declares to filters.
-/

namespace Harvest

open Harvest.Filter (Subject)

/-- The declared attributes of a kind. -/
def ItemKind.attributes : ItemKind → List String
  | .post => Post.attributeNames
  | .storyItem => StoryItem.attributeNames
  | .profile => Profile.attributeNames

/-- A filter may read the declared attributes only. -/
def ItemKind.declares (kind : ItemKind) (name : String) : Bool :=
  kind.attributes.contains name

/-- A post as filters see it. -/
def Post.subject (post : Post) : Subject :=
  ⟨.post, post.attribute?⟩

/-- A story item as filters see it. -/
def StoryItem.subject (item : StoryItem) : Subject :=
  ⟨.storyItem, item.attribute?⟩

/-- A profile as filters see it. -/
def Profile.subject (profile : Profile) : Subject :=
  ⟨.profile, profile.attribute?⟩

end Harvest
