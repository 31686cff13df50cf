import Harvest.CommandLine.Arguments
import Harvest.Http.Retrieval
import Harvest.Run.Batch

/-!
The program behind the command line: from arguments to a batch over HTTP, and from its outcome to
what is printed and the exit code.
-/

namespace Harvest

namespace Arguments

/-- A password belongs to a login. -/
def checkPassword (arguments : Arguments) : Except FatalError Unit :=
  if arguments.password.isSome && arguments.login.isNone then
    .error (.invalidArguments "--password requires --login=USERNAME.")
  else .ok ()

/-- Whether stories of accounts are downloaded. Without a login a wish for stories is dropped,
and stories alone are refused. -/
def wantsStories (arguments : Arguments) : Except FatalError Bool :=
  if arguments.login.isNone then
    if arguments.storiesOnly then
      .error (.invalidArguments "--login=USERNAME required to download stories.")
    else .ok false
  else .ok (arguments.stories || arguments.storiesOnly)

/-- The warning for a dropped wish for stories. -/
def storiesWarning? (arguments : Arguments) : Option String :=
  if arguments.login.isNone && arguments.stories && !arguments.storiesOnly then
    some "--login=USERNAME required to download stories; ignoring --stories."
  else none

/-- How the service is reached. -/
def httpSettings (arguments : Arguments) : Http.Settings :=
  let usual := Http.Settings.usual arguments.endpoint
  { usual with
    maxAttempts := arguments.maxAttempts
    userAgent := arguments.userAgent.getD usual.userAgent }

/-- The options of the run. -/
def runOptions (arguments : Arguments) (stories : Bool) : RunOptions where
  bulk := ⟨arguments.count, arguments.fastUpdate⟩
  profile :=
    { profilePicture := !arguments.noProfilePicture && !arguments.storiesOnly
      posts := !arguments.profilePictureOnly && !arguments.storiesOnly
      stories := stories
      fastUpdate := arguments.fastUpdate }

/-- The batch. -/
def batchConfig (arguments : Arguments) (stories : Bool) : BatchConfig where
  targets := arguments.targets
  login := arguments.login
  password := arguments.password
  sessionFile := arguments.sessionFile
  postFilter := arguments.postFilter
  storyItemFilter := arguments.storyItemFilter
  options := arguments.runOptions stories

/-- The level of messages that are shown. -/
def logLevel (isQuiet : Bool) (verbosity : Nat) : String :=
  if isQuiet then "error"
  else
    match verbosity with
    | 0 => "info"
    | 1 => "debug"
    | _ => "trace"

end Arguments

/-- Messages are not coloured if the user or the terminal does not want it. -/
def isColorless (isUnwanted isDumbTerminal : Bool) : Bool :=
  isUnwanted || isDumbTerminal

/-- What the program prints at its end, if it fails. -/
abbrev Ending := Except String Unit

namespace CommandLine

/-- The messages for a client without a usable name. -/
def unusableClient : List String :=
  ["failed to build HTTP client for the retrieval service", "builder error",
    "failed to parse header value"]

/-- The question for a password. -/
def passwordQuestion (username : String) : String :=
  s!"Enter password for {username}: "

/-- A password is a line without its end; an empty line is none. -/
def passwordOfLine? (line : String) : Option String :=
  let characters := (line.toList.reverse.dropWhile fun character =>
    character == '\r' || character == '\n').reverse
  if characters.isEmpty then none else some (String.ofList characters)

/-- The batch of some arguments. In quiet mode the user is not asked for a password. -/
def runArguments (environment : Environment) (prompts : Nat) (arguments : Arguments) :
    Http.Web Ending := do
  match arguments.checkPassword, arguments.wantsStories with
  | .error fault, _ | _, .error fault => return .error fault.printed
  | .ok (), .ok stories =>
    arguments.storiesWarning?.forM Program.warn
    let settings := arguments.httpSettings
    if settings.isUsable then
      let means : LoginMeans := ⟨environment, if arguments.isQuiet then none else some prompts⟩
      match ← Http.overHttp settings ((arguments.batchConfig stories).run means) with
      | .ok _ => return .ok ()
      | .error fault => return .error fault.printed
    else return .error (FatalError.banner unusableClient)

end CommandLine

end Harvest
