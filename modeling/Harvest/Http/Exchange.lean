import Harvest.Http.BasicLogin
import Harvest.Json.Basic
import Harvest.Program
import Harvest.Text.Contents

/-!
Requests and responses. Everything that a request says is in its value, so a program over
exchanges shows what it sends and where.
-/

namespace Harvest.Http

/-- The methods of requests. -/
inductive Method where
  | get
  | post
  deriving DecidableEq

/-- The name of a method. -/
def Method.name : Method → String
  | .get => "GET"
  | .post => "POST"

/-- A request. The login of its host and the session travel in headers of their own. -/
structure Request where
  method : Method
  url : Url
  login : Option BasicLogin
  session : Option String
  userAgent : String
  body : Option Json

/-- A response. -/
structure Response where
  status : Nat
  body : Contents

/-- A request is answered with a response, or with the reason why there is none. -/
@[reducible]
def exchanges : Interface := ⟨Request, fun _ => Except String Response⟩

/-- A program that sends requests. -/
abbrev Web (α : Type) := Program exchanges α

/-- Headers hold tabs and everything that is not a control character. -/
def isHeaderCharacter (character : Char) : Bool :=
  character == '\t' || (0x20 ≤ character.toNat && character.toNat != 0x7f)

/-- Whether a text can stand in a header. -/
def isHeaderValue (text : String) : Bool :=
  text.toList.all isHeaderCharacter

namespace Request

/-- The request that presents the login in its URL, which leaves the URL. -/
def presentLogin (request : Request) : Request :=
  match BasicLogin.ofUrl? request.url with
  | some login => { request with url := request.url.withoutUserinfo, login := some login }
  | none => request

/-- Whether a URL names a host. -/
def hasHost (url : Url) : Bool :=
  match url.host with
  | none | some (.name "") => false
  | some _ => true

/-- Whether requests go to URLs of a scheme. -/
def isWebScheme (scheme : String) : Bool :=
  scheme == "http" || scheme == "https"

/-- Why a request cannot be sent at all. -/
def fault? (request : Request) : Option String :=
  let badUrl := s!"builder error for url ({request.url.text})"
  if !hasHost request.url then some badUrl
  else if !request.session.all isHeaderValue then some "builder error"
  else if !isWebScheme request.url.scheme then some badUrl
  else none

end Request

end Harvest.Http
