import Harvest.Files.Path
import Harvest.Item.Descriptor

/-!
Saved descriptors as targets. Posts and story items are saved next to their file, and nothing
else is downloaded from a file.
-/

namespace Harvest

/-- What to do with a descriptor from a file. -/
inductive LocalDispatch where
  | post (post : Post) (folder : String)
  | storyItem (item : StoryItem) (folder : String)
  | rejected (reason : String)

/-- What to do with a descriptor from the file at a path. -/
def Descriptor.dispatch (descriptor : Descriptor) (path : String) : LocalDispatch :=
  match descriptor with
  | .post item => .post item (Path.folder path)
  | .storyItem item => .storyItem item (Path.folder path)
  | .profile item =>
    .rejected
      s!"Profile JSON are ignored. Pass \"{item.username}\" to download that profile"
  | .other nodeType => .rejected s!"{nodeType} JSON file not supported as target"

end Harvest
