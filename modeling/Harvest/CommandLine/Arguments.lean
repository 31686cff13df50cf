import Harvest.Http.Client
import Harvest.Url.Read

/-!
The words of a command line. Words with hyphens are options; a long option takes its value after
an equals sign or as the next word, a short one also directly, and short ones may be run together.
Everything behind a double hyphen is a target.
-/

namespace Harvest

/-- Options without a value. -/
inductive Switch where
  | verbose
  | quiet
  | fastUpdate
  | noProfilePicture
  | profilePictureOnly
  | stories
  | storiesOnly
  | help
  | version
  deriving DecidableEq

/-- Options with a value. -/
inductive Setting where
  | login
  | password
  | sessionFile
  | postFilter
  | storyItemFilter
  | count
  | maxAttempts
  | userAgent
  | endpoint
  deriving DecidableEq

/-- An option. -/
inductive CommandOption where
  | switch (switch : Switch)
  | setting (setting : Setting)
  deriving DecidableEq

namespace CommandOption

/-- The option of a letter. -/
def ofLetter? : Char → Option CommandOption
  | 'v' => some (.switch .verbose)
  | 'q' => some (.switch .quiet)
  | 'l' => some (.setting .login)
  | 'p' => some (.setting .password)
  | 'f' => some (.setting .sessionFile)
  | 'F' => some (.switch .fastUpdate)
  | 'c' => some (.setting .count)
  | 's' => some (.switch .stories)
  | 'h' => some (.switch .help)
  | 'V' => some (.switch .version)
  | _ => none

/-- The option of a long name. -/
def ofName? : String → Option CommandOption
  | "verbose" => some (.switch .verbose)
  | "quiet" => some (.switch .quiet)
  | "login" => some (.setting .login)
  | "password" => some (.setting .password)
  | "sessionfile" => some (.setting .sessionFile)
  | "post-filter" => some (.setting .postFilter)
  | "only-if" => some (.setting .postFilter)
  | "storyitem-filter" => some (.setting .storyItemFilter)
  | "fast-update" => some (.switch .fastUpdate)
  | "count" => some (.setting .count)
  | "no-profile-pic" => some (.switch .noProfilePicture)
  | "profile-pic-only" => some (.switch .profilePictureOnly)
  | "stories" => some (.switch .stories)
  | "stories-only" => some (.switch .storiesOnly)
  | "max-connection-attempts" => some (.setting .maxAttempts)
  | "user-agent" => some (.setting .userAgent)
  | "endpoint" => some (.setting .endpoint)
  | "help" => some (.switch .help)
  | "version" => some (.switch .version)
  | _ => none

end CommandOption

/-- Why a command line is not carried out. Asking for help or for the version is one reason. -/
inductive UsageFault where
  | unknownOption
  | missingValue
  | invalidValue
  | unwantedValue
  | conflict
  | help
  | version
  deriving DecidableEq

/-- What a command line says. -/
structure Arguments where
  targets : List String
  verbosity : Nat
  isQuiet : Bool
  login : Option String
  password : Option String
  sessionFile : Option String
  postFilter : Option String
  storyItemFilter : Option String
  fastUpdate : Bool
  count : Option Nat
  noProfilePicture : Bool
  profilePictureOnly : Bool
  stories : Bool
  storiesOnly : Bool
  maxAttempts : Nat
  userAgent : Option String
  endpoint : Url

namespace Arguments

/-- The usual address of the retrieval service. -/
def usualEndpoint : Url :=
  ⟨"http", "", "", some (.ipv4 0x7f000001), some 8787, .segments [""], none, none⟩

/-- An empty command line. -/
def initial : Arguments :=
  { targets := [], verbosity := 0, isQuiet := false, login := none, password := none,
    sessionFile := none, postFilter := none, storyItemFilter := none, fastUpdate := false,
    count := none, noProfilePicture := false, profilePictureOnly := false, stories := false,
    storiesOnly := false, maxAttempts := Http.usualMaxAttempts, userAgent := none,
    endpoint := usualEndpoint }

/-- The value of decimal digits. -/
def readDigits? (digits : List Char) : Option Nat :=
  if digits.isEmpty || !digits.all Char.isDigit then none
  else some (Digits.decimal digits)

/-- Digits behind a plus sign or none, up to a bound. -/
def readCount? (bound : Nat) (text : String) : Option Nat := do
  let digits := match text.toList with
    | '+' :: digits => digits
    | digits => digits
  let value ← readDigits? digits
  guard (value ≤ bound)
  return value

/-- A count that may also be a negative zero. -/
def readAttempts? (text : String) : Option Nat :=
  match text.toList with
  | '-' :: digits => do
    guard ((← readDigits? digits) = 0)
    return 0
  | _ => readCount? (UInt32.size - 1) text

/-- The arguments with a setting. -/
def set (arguments : Arguments) (setting : Setting) (value : String) :
    Except UsageFault Arguments :=
  let orInvalid {α : Type} (read : Option α) (store : α → Arguments) : Except UsageFault Arguments :=
    match read with
    | some value => .ok (store value)
    | none => .error .invalidValue
  match setting with
  | .login => .ok { arguments with login := some value }
  | .password => .ok { arguments with password := some value }
  | .sessionFile =>
    if value = "" then .error .missingValue else .ok { arguments with sessionFile := some value }
  | .postFilter => .ok { arguments with postFilter := some value }
  | .storyItemFilter => .ok { arguments with storyItemFilter := some value }
  | .count =>
    orInvalid (readCount? (UInt64.size - 1) value) fun count => { arguments with count := some count }
  | .maxAttempts =>
    orInvalid (readAttempts? value) fun attempts => { arguments with maxAttempts := attempts }
  | .userAgent => .ok { arguments with userAgent := some value }
  | .endpoint =>
    orInvalid (Url.ofText? value) fun endpoint => { arguments with endpoint := endpoint }

/-- The verbosity counts up to this. -/
def mostVerbose : Nat := 255

/-- The arguments with a switch. -/
def turnOn (arguments : Arguments) : Switch → Except UsageFault Arguments
  | .verbose => .ok { arguments with verbosity := min mostVerbose (arguments.verbosity + 1) }
  | .quiet => .ok { arguments with isQuiet := true }
  | .fastUpdate => .ok { arguments with fastUpdate := true }
  | .noProfilePicture => .ok { arguments with noProfilePicture := true }
  | .profilePictureOnly => .ok { arguments with profilePictureOnly := true }
  | .stories => .ok { arguments with stories := true }
  | .storiesOnly => .ok { arguments with storiesOnly := true }
  | .help => .error .help
  | .version => .error .version

/-- A command line half read: what it says, the options that it gave, and a setting at its end
with the value that the next word gave, if any. -/
structure Draft where
  arguments : Arguments
  given : List CommandOption
  held : Option (Setting × Option String)

namespace Draft

/-- A setting takes effect. None is given twice. -/
def assign (draft : Draft) (setting : Setting) (value : String) : Except UsageFault Draft := do
  if draft.given.contains (.setting setting) then throw .conflict
  return { draft with
    arguments := ← draft.arguments.set setting value
    given := .setting setting :: draft.given }

/-- The setting at the end takes effect. -/
def settle (draft : Draft) : Except UsageFault Draft :=
  match draft.held with
  | none => .ok draft
  | some (_, none) => .error .missingValue
  | some (setting, some value) => { draft with held := none }.assign setting value

/-- A switch takes effect. Only verbosity is given more than once. -/
def switch (draft : Draft) (switch : Switch) : Except UsageFault Draft := do
  let draft ← draft.settle
  if switch ≠ .verbose ∧ draft.given.contains (.switch switch) then throw .conflict
  return { draft with
    arguments := ← draft.arguments.turnOn switch
    given := .switch switch :: draft.given }

/-- A setting with its value in the same word. -/
def setDirectly (draft : Draft) (setting : Setting) (value : String) : Except UsageFault Draft := do
  (← draft.settle).assign setting value

/-- A setting whose value is the next word. -/
def hold (draft : Draft) (setting : Setting) : Except UsageFault Draft := do
  return { ← draft.settle with held := some (setting, none) }

/-- A target. -/
def addTarget (draft : Draft) (target : String) : Except UsageFault Draft := do
  let draft ← draft.settle
  return { draft with
    arguments := { draft.arguments with targets := draft.arguments.targets ++ [target] } }

/-- A long option, with what follows its equals sign. -/
def readLong (draft : Draft) (name : String) (value : Option String) : Except UsageFault Draft :=
  match CommandOption.ofName? name, value with
  | none, _ => .error .unknownOption
  | some (.switch _), some _ => .error .unwantedValue
  | some (.switch switch), none => draft.switch switch
  | some (.setting setting), some value => draft.setDirectly setting value
  | some (.setting setting), none => draft.hold setting

/-- Short options run together. The rest of the word behind a setting is its value. -/
def readShort (draft : Draft) : List Char → Except UsageFault Draft
  | [] => .ok draft
  | letter :: rest =>
    match CommandOption.ofLetter? letter with
    | none => .error .unknownOption
    | some (.switch switch) => do readShort (← draft.switch switch) rest
    | some (.setting setting) =>
      match rest with
      | [] => draft.hold setting
      | '=' :: value => draft.setDirectly setting (String.ofList value)
      | value => draft.setDirectly setting (String.ofList value)

/-- A word that is no option: the value of the setting before it, or else a target. -/
def readPlain (draft : Draft) (word : String) : Except UsageFault Draft :=
  match draft.held with
  | some (setting, none) => .ok { draft with held := some (setting, some word) }
  | _ => draft.addTarget word

/-- A word. -/
def readWord (draft : Draft) (word : String) : Except UsageFault Draft :=
  match word.toList with
  | '-' :: '-' :: name =>
    let value := match name.dropWhile (· != '=') with
      | [] => none
      | _ :: value => some (String.ofList value)
    draft.readLong (String.ofList (name.takeWhile (· != '='))) value
  | '-' :: letter :: letters => draft.readShort (letter :: letters)
  | _ => draft.readPlain word

/-- Words in order; behind a double hyphen all of them are targets. -/
def readWords (draft : Draft) : List String → Except UsageFault Draft
  | [] => draft.settle
  | word :: rest =>
    if word = "--" then do (← rest.foldlM addTarget draft).settle
    else do readWords (← draft.readWord word) rest

end Draft

/-- Options that exclude each other are not given together. -/
def isConsistent (arguments : Arguments) : Bool :=
  !(arguments.profilePictureOnly && (arguments.noProfilePicture || arguments.storiesOnly))

/-- What the words of a command line say. -/
def read (words : List String) : Except UsageFault Arguments := do
  let draft ← Draft.readWords ⟨initial, [], none⟩ words
  if draft.arguments.isConsistent then return draft.arguments else throw .conflict

end Arguments

end Harvest
