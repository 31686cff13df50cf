import Harvest.Files.Path
import Harvest.Json.Bytes
import Harvest.Json.Record
import Harvest.Json.Write
import Harvest.Program

/-!
Session files: where they lie and what they hold. A stored session is a document with the user
name and the credential.
-/

namespace Harvest

/-- The variables that name folders for configuration. -/
structure Environment where
  xdgConfigHome : Option String
  home : Option String
  appData : Option String

/-- Why a session file is of no use. -/
inductive StorageError where
  | noConfigFolder
  | unavailable (reason : String)
  | undecodable
  deriving DecidableEq

/-- The wording of a storage fault. -/
def StorageError.message : StorageError → String
  | .noConfigFolder => "unable to determine config directory (set XDG_CONFIG_HOME or HOME)"
  | .unavailable reason => reason
  | .undecodable => "the file is no stored session"

namespace Environment

/-- A variable counts when it is more than white space. -/
def meaningful (setting : Option String) : Option String :=
  setting.filter fun path => !(Text.trim path.toList).isEmpty

/-- The folder for the program's configuration. -/
def configFolder (environment : Environment) : Except StorageError String :=
  match meaningful environment.xdgConfigHome with
  | some path => .ok (Path.join path "instaloader")
  | none =>
    match meaningful environment.home with
    | some path => .ok (Path.join (Path.join path ".config") "instaloader")
    | none =>
      match meaningful environment.appData with
      | some path => .ok (Path.join path "instaloader")
      | none => .error .noConfigFolder

/-- The usual session file of an account. -/
def sessionPath (environment : Environment) (account : String) : Except StorageError String := do
  return Path.join (← environment.configFolder) ("session-" ++ account)

/-- The session file of an account: a given one or the usual one. -/
def resolvePath (environment : Environment) (account : String) (path : Option String) :
    Except StorageError String :=
  match path with
  | some path => .ok path
  | none => environment.sessionPath account

end Environment

/-- What a session file holds. -/
structure StoredSession where
  username : String
  credential : String
  deriving DecidableEq

namespace StoredSession

/-- The document of a stored session. -/
def encode (stored : StoredSession) : Json :=
  .object [("username", .text stored.username), ("credential", .text stored.credential)]

/-- The text of a stored session. -/
def toText (stored : StoredSession) : String :=
  stored.encode.toText

/-- The stored session of a document. -/
def decode? (document : Json) : Option StoredSession := do
  let record ← Json.Record.of? ["username", "credential"] document
  let username ← record.required "username" Json.asText?
  let credential ← record.required "credential" Json.asText?
  return ⟨username, credential⟩

/-- The stored session that a text holds. -/
def ofText? (source : String) : Option StoredSession :=
  (Json.ofText? source).bind decode?

/-- The stored session that bytes hold. -/
def ofBytes? (raw : ByteArray) : Option StoredSession :=
  (Json.ofBytes? raw).bind decode?

/-- What a look at a session file yields; a missing file holds no session. -/
def ofRead (found : Except ReadFault String) : Except StorageError (Option StoredSession) :=
  match found with
  | .error (.missing _) => .ok none
  | .error (.unreadable reason) => .error (.unavailable reason)
  | .error (.notText raw _) => (ofBytes? raw).elim (.error .undecodable) fun stored => .ok stored
  | .ok source => (ofText? source).elim (.error .undecodable) fun stored => .ok stored

variable {service : Interface}

/-- The session in a file, if the file exists. -/
def load (path : String) : Program service (Except StorageError (Option StoredSession)) := do
  return ofRead (← Program.readText path)

/-- The session goes into a file. -/
def save (stored : StoredSession) (path : String) : Program service (Except StorageError Unit) := do
  return (← Program.writePrivate path stored.toText).mapError .unavailable

end StoredSession

end Harvest
