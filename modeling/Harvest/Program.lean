/-!
Programs as trees of acts. A program is done with a result, or it does one act and goes on with
the answer. What answers the acts is left open, so a program runs against any surroundings, and
what it may do is read off the tree.
-/

namespace Harvest

/-- The calls of a service and what each is answered with. -/
structure Interface where
  Call : Type
  Answer : Call → Type

/-- The weight of a log message. -/
inductive LogLevel where
  | info
  | warn
  deriving DecidableEq

/-- Why the text of a file is not available. A file that holds no text still has its bytes. -/
inductive ReadFault where
  | missing (reason : String)
  | unreadable (reason : String)
  | notText (contents : ByteArray) (reason : String)

/-- The reason that a fault gives. -/
def ReadFault.reason : ReadFault → String
  | .missing reason => reason
  | .unreadable reason => reason
  | .notText _ reason => reason

/-- The acts of a program: calls of a service, looks at the interrupt flag and at files, a private
write, a question for a password, and log messages. -/
inductive Act (service : Interface) where
  | call (request : service.Call)
  | pollInterrupt
  | probeFile (path : String)
  | readText (path : String)
  | writePrivate (path : String) (contents : String)
  | askPassword (username : String)
  | log (level : LogLevel) (message : String)

/-- The type of the answer to an act. -/
@[reducible]
def Act.Answer {service : Interface} : Act service → Type
  | .call request => service.Answer request
  | .pollInterrupt => Bool
  | .probeFile _ => Bool
  | .readText _ => Except ReadFault String
  | .writePrivate _ _ => Except String Unit
  | .askPassword _ => Option String
  | .log _ _ => Unit

/-- A program over a service. -/
inductive Program (service : Interface) (α : Type) : Type where
  | done (result : α)
  | act (deed : Act service) (next : deed.Answer → Program service α)

namespace Program

variable {service target : Interface} {α β : Type}

/-- The second program starts with the result of the first. -/
def andThen (first : Program service α) (second : α → Program service β) : Program service β :=
  match first with
  | .done result => second result
  | .act deed next => .act deed fun answer => (next answer).andThen second

instance : Monad (Program service) where
  pure := .done
  bind := andThen

/-- A single act. -/
def perform (deed : Act service) : Program service deed.Answer :=
  .act deed .done

/-- A call of the service. -/
def call (request : service.Call) : Program service (service.Answer request) :=
  perform (.call request)

/-- Whether the interrupt flag is up. -/
def interrupted : Program service Bool :=
  perform .pollInterrupt

/-- Whether a path names a file. -/
def isFile (path : String) : Program service Bool :=
  perform (.probeFile path)

/-- The text of a file. -/
def readText (path : String) : Program service (Except ReadFault String) :=
  perform (.readText path)

/-- A file gets new contents and is readable by its owner only. -/
def writePrivate (path contents : String) : Program service (Except String Unit) :=
  perform (.writePrivate path contents)

/-- The password that the user enters, if any. -/
def askPassword (username : String) : Program service (Option String) :=
  perform (.askPassword username)

/-- A message on the course of the work. -/
def inform (message : String) : Program service Unit :=
  perform (.log .info message)

/-- A message on something that went wrong. -/
def warn (message : String) : Program service Unit :=
  perform (.log .warn message)

/-- Calls of one service are carried out by programs over another; every other act stays. -/
def realize (carryOut : (request : service.Call) → Program target (service.Answer request)) :
    Program service α → Program target α
  | .done result => .done result
  | .act (.call request) next =>
    (carryOut request).andThen fun answer => (next answer).realize carryOut
  | .act .pollInterrupt next => .act .pollInterrupt fun answer => (next answer).realize carryOut
  | .act (.probeFile path) next =>
    .act (.probeFile path) fun answer => (next answer).realize carryOut
  | .act (.readText path) next =>
    .act (.readText path) fun answer => (next answer).realize carryOut
  | .act (.writePrivate path contents) next =>
    .act (.writePrivate path contents) fun answer => (next answer).realize carryOut
  | .act (.askPassword username) next =>
    .act (.askPassword username) fun answer => (next answer).realize carryOut
  | .act (.log level message) next =>
    .act (.log level message) fun answer => (next answer).realize carryOut

/-- The result of a program when every act is answered in a monad. -/
def runIn {m : Type → Type} [Monad m] (respond : (deed : Act service) → m deed.Answer) :
    Program service α → m α
  | .done result => pure result
  | .act deed next => do runIn respond (next (← respond deed))

end Program

end Harvest
