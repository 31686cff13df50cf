import Harvest.Files.Path
import Harvest.Item.Descriptor
import Harvest.Program

/-!
Descriptors in files.
-/

namespace Harvest

/-- Why a file yields no descriptor. -/
inductive LoadError where
  | unavailable (path reason : String)
  | undecodable (path : String)
  | compressed (path : String)
  deriving DecidableEq

namespace LoadError

/-- What is wrong with a file that does not decode. -/
def undecodableReason : String := "the file is no saved descriptor"

/-- The wording of a load fault. -/
def message : LoadError → String
  | .unavailable path reason => s!"cannot read {path}: {reason}"
  | .undecodable path =>
    s!"invalid descriptor in {path}: {undecodableReason}\n" ++
      "  Suggestion: pass a metadata file written by a previous run"
  | .compressed path =>
    s!"{path}: compressed descriptors (.json.xz) are not supported by this build"

end LoadError

namespace Descriptor

/-- The extension of compressed files. -/
def compressedExtension : String := "xz"

/-- The descriptor that the text of a file saves. -/
def ofFileText (path source : String) : Except LoadError Descriptor :=
  match ofText? source with
  | none => .error (.undecodable path)
  | some descriptor => .ok descriptor

/-- The descriptor in a file. A compressed file is refused unread. -/
def load {service : Interface} (path : String) : Program service (Except LoadError Descriptor) :=
  if Path.extension? path = some compressedExtension then pure (.error (.compressed path))
  else do
    match ← Program.readText path with
    | .error fault => return .error (.unavailable path fault.reason)
    | .ok source => return ofFileText path source

end Descriptor

end Harvest
