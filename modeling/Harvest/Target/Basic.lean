import Harvest.Text.Quoted

/-!
Targets. A raw target is an account to follow up, a hashtag, one of the special listings, a saved
descriptor on disk, or an account name.
-/

namespace Harvest

/-- What a raw target asks for. -/
inductive Target where
  | followees (account : String)
  | tag (name : String)
  | feed
  | stories
  | saved
  | descriptorFile (path : String)
  | account (name : String)
  deriving DecidableEq

namespace Target

/-- The account or tag name of a target. -/
def name? : Target → Option String
  | .followees name => some name
  | .tag name => some name
  | .account name => some name
  | _ => none

/-- A target as it is written. -/
def text : Target → String
  | .followees name => "@" ++ name
  | .tag name => "#" ++ name
  | .feed => ":feed"
  | .stories => ":stories"
  | .saved => ":saved"
  | .descriptorFile path => path
  | .account name => name

/-- A run of characters ends with another. -/
def endsWith (suffix characters : List Char) : Bool :=
  suffix.reverse.isPrefixOf characters.reverse

/-- Descriptor files end in `.json`, or in `.json.xz` when they are compressed. -/
def hasDescriptorSuffix (text : String) : Bool :=
  endsWith ".json".toList text.toList || endsWith ".json.xz".toList text.toList

/-- A raw target without its trailing slashes. -/
def stripped (raw : String) : String :=
  String.ofList (raw.toList.reverse.dropWhile (· == '/')).reverse

/-- The target of a text without trailing slashes. Sigils go first, then the special listings,
and a file is looked for only behind a descriptor suffix. -/
def ofStripped {m : Type → Type} [Monad m] (isFile : String → m Bool) (text : String) : m Target :=
  match text.toList with
  | '@' :: name => pure (.followees (String.ofList name))
  | '#' :: name => pure (.tag (String.ofList name))
  | _ =>
    if text = ":feed" then pure .feed
    else if text = ":stories" then pure .stories
    else if text = ":saved" then pure .saved
    else if hasDescriptorSuffix text then do
      if ← isFile text then pure (.descriptorFile text) else pure (.account text)
    else pure (.account text)

/-- The target of a raw text, with a way to ask for files. -/
def classifyIn {m : Type → Type} [Monad m] (isFile : String → m Bool) (raw : String) : m Target :=
  ofStripped isFile (stripped raw)

/-- The target of a raw text among known files. -/
def classify (isFile : String → Bool) (raw : String) : Target :=
  Id.run (classifyIn (fun path => pure (isFile path)) raw)

/-- The special targets that no longer exist. -/
def removed : List String := [":feed-all", ":feed-liked"]

/-- The first removed target of a list. -/
def firstRemoved? (targets : List String) : Option String :=
  targets.find? fun target => removed.contains target

/-- The message for a removed target. -/
def removedMessage : String :=
  ":feed-all and :feed-liked were removed. Use :feed as target and eventually " ++
    "--post-filter=viewer_has_liked."

end Target

end Harvest
