import Harvest.CommandLine.Run
import Harvest.CommandLine.Usage
import Harvest.Http.Message
import Std.Async.DNS
import Std.Async.Signal
import Std.Async.TCP

/-!
The program: what its acts do to files, terminal and network.
-/

namespace Harvest.Terminal

open Std.Async Std.Net

/-- The text of a file or why there is none. -/
def readText (path : String) : IO (Except ReadFault String) := do
  try
    match Contents.ofBytes (← IO.FS.readBinFile path) with
    | .text characters => return .ok characters
    | .bytes raw => return .error (.notText raw "stream did not contain valid UTF-8")
  catch
    | .noFileOrDirectory _ _ details => return .error (.missing details)
    | fault => return .error (.unreadable (toString fault))

/-- Whether a path names a file. It is tried by reading, so a file that may not be read does not
count. -/
def isFile (path : String) : IO Bool := do
  match ← readText path with
  | .ok _ | .error (.notText ..) => return true
  | .error (.missing _) | .error (.unreadable _) => return false

/-- A file that only its owner may read takes new contents. -/
def writePrivate (path contents : String) : IO (Except String Unit) := do
  try
    match Path.parent? path.toList with
    | none | some [] => pure ()
    | some parent => IO.FS.createDirAll (String.ofList parent)
    IO.FS.writeFile path ""
    IO.setAccessRights path { user := { read := true, write := true } }
    IO.FS.writeFile path contents
    return .ok ()
  catch fault => return .error (toString fault)

/-- The password that the user enters. -/
def askPassword (username : String) : IO (Option String) := do
  let standardError ← IO.getStderr
  standardError.putStr (CommandLine.passwordQuestion username)
  standardError.flush
  return CommandLine.passwordOfLine? (← (← IO.getStdin).getLine)

/-- Everything that a connection brings. -/
partial def receiveAll (client : TCP.Socket.Client) (received : ByteArray) : Async ByteArray := do
  match ← client.recv? 65536 with
  | none => return received
  | some bytes => receiveAll client (received ++ bytes)

/-- The address of a host at a port. -/
def socketAddress (address : IPAddr) (port : UInt16) : SocketAddress :=
  match address with
  | .v4 addr => .v4 ⟨addr, port⟩
  | .v6 addr => .v6 ⟨addr, port⟩

/-- The name of a host for a look-up. -/
def lookupName : Host → String
  | .ipv6 pieces => Host.ipv6Text pieces
  | host => host.text

/-- One request over one connection. This stands for all that a client does to send a request, and
it is less: only plain HTTP is spoken, any other scheme fails, and an answer that redirects is
handed back as it is. -/
def exchange (request : Http.Request) : IO (Except String Http.Response) := do
  let failure : Except String Http.Response :=
    .error s!"error sending request for url ({request.url.text})"
  let port := (request.url.port.orElse fun () => Url.usualPort? request.url.scheme).getD 80
  match request.url.scheme, request.url.host with
  | "http", some host =>
    try
      let conversation : Async ByteArray := do
        let addresses ← DNS.getAddrInfo (lookupName host) (toString port)
        match addresses[0]? with
        | none => throw (IO.userError "no address")
        | some address =>
          let client ← TCP.Socket.Client.mk
          client.connect (socketAddress address port.toUInt16)
          client.send request.toText.toUTF8
          receiveAll client ByteArray.empty
      match Http.Response.ofBytes? (← conversation.block).toList with
      | some response => return .ok response
      | none => return failure
    catch _ => return failure
  | _, _ => return failure

/-- How messages are shown. -/
structure MessageStyle where
  /-- The least severe level that is shown. -/
  shown : String
  isColorless : Bool

/-- The style that the arguments and the terminal ask for. -/
def messageStyle (arguments : Arguments) : IO MessageStyle := do
  let isUnwanted := (← IO.getEnv "NO_COLOR").any (· ≠ "")
  let isDumb := (← IO.getEnv "TERM").any (·.toLower = "dumb")
  return ⟨Arguments.logLevel arguments.isQuiet arguments.verbosity, isColorless isUnwanted isDumb⟩

/-- A log message, unless only errors are shown. -/
def log (style : MessageStyle) (level : LogLevel) (message : String) : IO Unit := do
  if style.shown = "error" then return
  let (name, color) := match level with
    | .info => (" INFO", "\x1b[32m")
    | .warn => (" WARN", "\x1b[33m")
  let label := if style.isColorless then name else color ++ name ++ "\x1b[0m"
  IO.eprintln (label ++ " " ++ message)

/-- The interrupt flag, which the first interrupt from the terminal puts up. Where none can be
watched for, it stays down. -/
def watchInterrupt : IO (BaseIO Bool) := do
  try
    let waiter ← Signal.Waiter.mk .sigint true
    return IO.hasFinished (← waiter.wait)
  catch _ => return pure false

/-- What the acts of the program do. -/
def perform (style : MessageStyle) (isInterrupted : BaseIO Bool) :
    (deed : Act Http.exchanges) → IO deed.Answer
  | .call request => exchange request
  | .pollInterrupt => isInterrupted
  | .probeFile path => isFile path
  | .readText path => readText path
  | .writePrivate path contents => writePrivate path contents
  | .askPassword username => askPassword username
  | .log level message => log style level message

/-- The variables that name folders for configuration. -/
def environment : IO Environment := do
  return ⟨← IO.getEnv "XDG_CONFIG_HOME", ← IO.getEnv "HOME", ← IO.getEnv "APPDATA"⟩

/-- The user is asked for a password at most this often. -/
def mostPrompts : Nat := UInt32.size

/-- The program with the words of its command line. -/
def run (words : List String) : IO UInt32 := do
  match Arguments.read words with
  | .error fault =>
    if fault.exitCode = 0 then IO.println fault.message else IO.eprintln fault.message
    return fault.exitCode
  | .ok arguments =>
    let program := CommandLine.runArguments (← environment) mostPrompts arguments
    match ← program.runIn (perform (← messageStyle arguments) (← watchInterrupt)) with
    | .ok () => return 0
    | .error message =>
      IO.eprintln message
      return 1

end Harvest.Terminal

/-- The program. -/
def main (words : List String) : IO UInt32 :=
  Harvest.Terminal.run words
