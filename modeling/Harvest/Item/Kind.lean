/-!
The kinds of items.
-/

namespace Harvest

/-- Items are posts, story items and profiles. -/
inductive ItemKind where
  | post
  | storyItem
  | profile
  deriving DecidableEq, Repr

/-- The name of a kind in messages and saved descriptors. -/
def ItemKind.name : ItemKind → String
  | .post => "Post"
  | .storyItem => "StoryItem"
  | .profile => "Profile"

end Harvest
