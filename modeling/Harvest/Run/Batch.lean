import Harvest.Run.Basic
import Harvest.Session.Login

/-!
A batch: checks, login, the run itself, and the session file. Whatever the checks find wrong is
found before anything else happens.
-/

namespace Harvest

open Harvest.Filter (FilterError Filters)

/-- Why a batch fails as a whole. -/
inductive FatalError where
  | removedTarget (target : String)
  | invalidArguments (reason : String)
  | filter (fault : FilterError)
  | session (fault : SessionError)

namespace FatalError

/-- The wording of a fatal fault. -/
def message : FatalError → String
  | .removedTarget _ => Target.removedMessage
  | .invalidArguments reason => reason
  | .filter fault => fault.message
  | .session fault => fault.message

/-- The messages of the faults behind a fatal fault. -/
def causes : FatalError → List String
  | .session fault => fault.causes
  | _ => []

/-- A fault of the options or of the list of targets. -/
def isConfiguration : FatalError → Bool
  | .removedTarget _ | .invalidArguments _ => true
  | .filter _ | .session _ => false

/-- What is printed for a fault that ends the program, with everything behind it. -/
def banner (messages : List String) : String :=
  "Fatal error: " ++ ": ".intercalate messages

/-- What is printed for a fatal fault; a configuration fault stands for itself. -/
def printed (error : FatalError) : String :=
  if error.isConfiguration then error.message else banner (error.message :: error.causes)

end FatalError

/-- What a batch is to do. -/
structure BatchConfig where
  targets : List String
  login : Option String
  password : Option String
  sessionFile : Option String
  postFilter : Option String
  storyItemFilter : Option String
  options : RunOptions

namespace BatchConfig

/-- The filters of a batch, once its targets are known to be current. -/
def check (config : BatchConfig) : Except FatalError Filters :=
  match Target.firstRemoved? config.targets with
  | some target => .error (.removedTarget target)
  | none => (Filters.compile config.postFilter config.storyItemFilter).mapError .filter

/-- The session of a batch; without a login it is anonymous. -/
def openSession (config : BatchConfig) (means : LoginMeans) :
    Work (Except SessionError Session) :=
  match config.login with
  | none => pure (.ok .anonymous)
  | some account => Session.establish means account config.password config.sessionFile

/-- The messages at the end of a batch. -/
def conclude (config : BatchConfig) (session : Session) (report : Report) : Work Unit := do
  report.summary.forM Program.warn
  if config.targets.isEmpty && session.isLoggedIn then
    Program.inform "No targets were specified, thus nothing has been downloaded."

/-- The run of a batch with a session, which is saved afterwards. -/
def runWith (config : BatchConfig) (means : LoginMeans) (filters : Filters) (session : Session) :
    Work (Except FatalError Report) := do
  let retriever ← Work.openRetriever session.credential?
  let report ← (RunSettings.mk retriever filters config.options).run config.targets
  match ← session.persist means.environment config.sessionFile with
  | .error fault => return .error (.session fault)
  | .ok _ =>
    config.conclude session report
    return .ok report

/-- A batch. -/
def run (config : BatchConfig) (means : LoginMeans) : Work (Except FatalError Report) := do
  match config.check with
  | .error fault => return .error fault
  | .ok filters =>
    match ← config.openSession means with
    | .error fault => return .error (.session fault)
    | .ok session => config.runWith means filters session

end BatchConfig

end Harvest
