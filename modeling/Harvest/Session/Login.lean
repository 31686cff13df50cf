import Harvest.Retrieval.Service
import Harvest.Session.Basic
import Harvest.Session.File
import Harvest.Text.LowerCase

/-!
Logging in. A saved session is used when the service says that its credential is the account's;
otherwise there is a login with a given password or with passwords that the user enters.
-/

namespace Harvest

/-- Why there is no session. -/
inductive SessionError where
  | credentialsRequired (account : String)
  | promptAborted (account : String)
  | auth (fault : AuthError)
  | storage (fault : StorageError)
  deriving DecidableEq

namespace SessionError

/-- The wording of a session fault. -/
def message : SessionError → String
  | .credentialsRequired _ => "Quiet mode requires given password or valid session file."
  | .promptAborted account => s!"No password entered for {account}; login aborted."
  | .auth fault => fault.message
  | .storage fault => fault.message

/-- The messages of the faults behind a session fault. -/
def causes : SessionError → List String
  | .auth fault => fault.causes
  | _ => []

end SessionError

/-- What logging in may use: the variables that name folders, and how often the user is asked for
a password, which is not at all in quiet mode. -/
structure LoginMeans where
  environment : Environment
  prompts : Option Nat

namespace Session

/-- Two names are equal up to the case of ASCII letters. -/
def sameName (first second : String) : Bool :=
  first.toList.map Char.toLower == second.toList.map Char.toLower

/-- The stored session of a file that can be used. Whatever is wrong with the file is logged. -/
def loadStored (path : String) (isExplicit : Bool) : Work (Option StoredSession) := do
  match ← StoredSession.load path with
  | .ok (some stored) => return some stored
  | .ok none =>
    if isExplicit then Program.warn s!"Session file {path} does not exist."
    Program.inform "Session file does not exist yet - Logging in."
    return none
  | .error _ =>
    Program.warn "Ignoring unreadable session file"
    return none

/-- Whether the service says that a credential is the account's. -/
def isCredentialOf (account credential : String) : Work Bool := do
  match ← Work.whoami credential with
  | .ok (some owner) => return sameName owner account
  | .ok none => return false
  | .error _ =>
    Program.warn "Could not validate saved session"
    return false

/-- The credential of a login with passwords that the user enters, until one is right. The user
gives up by entering none, or by the last of the prompts. -/
def loginByPrompt (account : String) : Nat → Work (Except SessionError String)
  | 0 => return .error (.promptAborted account)
  | prompts + 1 => do
    match ← Program.askPassword account with
    | none => return .error (.promptAborted account)
    | some password =>
      match ← Work.login account password with
      | .ok credential => return .ok credential
      | .error (.badCredentials username) =>
        Program.warn (AuthError.badCredentials username).message
        loginByPrompt account prompts
      | .error fault => return .error (.auth fault)

/-- The credential of a login with a given password or with the user's help. -/
def obtainCredential (means : LoginMeans) (account : String) (password : Option String) :
    Work (Except SessionError String) := do
  match password, means.prompts with
  | some password, _ => return (← Work.login account password).mapError .auth
  | none, none => return .error (.credentialsRequired account)
  | none, some prompts => loginByPrompt account prompts

/-- The session of a fresh login. -/
def logIn (means : LoginMeans) (account : String) (password : Option String) :
    Work (Except SessionError Session) := do
  match ← obtainCredential means account password with
  | .error fault => return .error fault
  | .ok credential =>
    Program.inform s!"Logged in as {account}."
    return .ok (.loggedIn account credential)

/-- The stored credential of a file, if the service says that it is the account's. -/
def resume (account path : String) (isExplicit : Bool) : Work (Option Session) := do
  match ← loadStored path isExplicit with
  | none => return none
  | some stored =>
    if ← isCredentialOf account stored.credential then
      Program.inform s!"Loaded session from {path}."
      return some (.loggedIn account stored.credential)
    else return none

/-- The session of an account in lower case. -/
def establishFor (means : LoginMeans) (account : String) (password path : Option String) :
    Work (Except SessionError Session) := do
  match means.environment.resolvePath account path with
  | .error fault => return .error (.storage fault)
  | .ok file =>
    match ← resume account file path.isSome with
    | some session => return .ok session
    | none => logIn means account password

/-- The session of an account, saved or new. Account names are taken in lower case. -/
def establish (means : LoginMeans) (account : String) (password path : Option String) :
    Work (Except SessionError Session) :=
  establishFor means (Text.lower account) password path

/-- The session goes into its file when it has a credential. The answer tells whether it was
written. -/
def persist (environment : Environment) (session : Session) (path : Option String) :
    Work (Except SessionError Bool) := do
  match session with
  | .anonymous => return .ok false
  | .loggedIn username credential =>
    match environment.resolvePath username path with
    | .error fault => return .error (.storage fault)
    | .ok file =>
      match ← (StoredSession.mk username credential).save file with
      | .error fault => return .error (.storage fault)
      | .ok () =>
        Program.inform s!"Saved session to {file}."
        return .ok true

end Session

end Harvest
