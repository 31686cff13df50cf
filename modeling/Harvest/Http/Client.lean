import Harvest.Http.Exchange
import Harvest.Json.Bytes
import Harvest.Retrieval.Error

/-!
Sending requests. An attempt that fails for the connection or on the side of the service is
repeated up to a limit; a raised interrupt flag ends the attempts.
-/

namespace Harvest.Http

/-- How the retrieval service is reached. No limit of attempts is given as zero. -/
structure Settings where
  endpoint : Url
  userAgent : String
  maxAttempts : Nat

/-- The usual limit of attempts. -/
def usualMaxAttempts : Nat := 3

/-- The usual name of the client. -/
def usualUserAgent : String :=
  "instaloader/0.1.0 (+https://github.com/instaloader/instaloader)"

namespace Settings

/-- The usual settings for an endpoint. Its path ends in a slash, so that paths are joined below
it. -/
def usual (endpoint : Url) : Settings :=
  ⟨endpoint.withTrailingSlash, usualUserAgent, usualMaxAttempts⟩

/-- A client needs a name that can stand in a header. -/
def isUsable (settings : Settings) : Bool :=
  isHeaderValue settings.userAgent

/-- The most attempts that are counted. -/
def countedAttempts : Nat := UInt32.size - 1

/-- How often an attempt may be repeated. -/
def repetitions (settings : Settings) : Nat :=
  (if settings.maxAttempts = 0 then countedAttempts else settings.maxAttempts) - 1

/-- The URL of a path of the service. -/
def locate (settings : Settings) (path : String) : Except RetrieveError Url :=
  match settings.endpoint.join? path with
  | some url => .ok url
  | none => .error (.undecodable path "relative URL with a cannot-be-a-base base")

end Settings

/-- A request that is part of a retrieval. -/
abbrev Fetch (α : Type) := ExceptT RetrieveError (Program exchanges) α

/-- A result that needs no request. -/
def Fetch.ofExcept {α : Type} (result : Except RetrieveError α) : Fetch α :=
  ExceptT.mk (.done result)

/-- One attempt. A request that cannot be sent fails like one that gets no response. -/
def attempt (request : Request) : Web (Except String Response) :=
  match request.fault? with
  | some reason => .done (.error reason)
  | none => Program.call request

/-- What an attempt came to. No response and a fault on the side of the service are faults that
another attempt may mend. -/
def judge (path : String) (number : Nat) (outcome : Except String Response) :
    Except RetrieveError Response :=
  match outcome with
  | .error reason => .error (.connection number reason)
  | .ok response =>
    if 500 ≤ response.status ∧ response.status < 600 then .error (.service response.status path)
    else .ok response

/-- Attempts from a number on, with some repetitions left. -/
def sendFrom (path : String) (request : Request) (number repetitions : Nat) :
    Web (Except RetrieveError Response) := do
  match judge path number (← attempt request) with
  | .ok response => return .ok response
  | .error fault =>
    if ← Program.interrupted then
      Program.warn "Request interrupted, giving up"
      return .error (.interrupted path number)
    else
      match repetitions with
      | 0 => return .error fault
      | repetitions + 1 =>
        Program.warn "Request failed, retrying"
        sendFrom path request (number + 1) repetitions

/-- A request to a path of the service. -/
def Settings.send (settings : Settings) (method : Method) (path : String) (body : Option Json)
    (credential : Option String) : Fetch Response := do
  let url ← Fetch.ofExcept (settings.locate path)
  let request : Request := ⟨method, url, none, credential, settings.userAgent, body⟩
  ExceptT.mk (sendFrom path request.presentLogin 1 settings.repetitions)

/-- The contents of a successful response for something. -/
def checkStatus (path what : String) (response : Response) : Except RetrieveError Contents :=
  if 200 ≤ response.status ∧ response.status < 300 then .ok response.body
  else if response.status = 401 ∨ response.status = 403 then
    .error (.loginRequired s!"{what} requires login")
  else if response.status = 404 then .error (.notFound what)
  else if response.status = 429 then .error .rateLimited
  else .error (.service response.status path)

/-- What the contents of a response say. -/
def decodeBody {α : Type} (path : String) (read : Json → Option α) (body : Contents) :
    Except RetrieveError α :=
  match (Json.ofContents? body).bind read with
  | some result => .ok result
  | none => .error (.undecodable path "error decoding response body")

end Harvest.Http
