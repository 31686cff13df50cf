import Harvest.Text.Base64
import Harvest.Url.Basic

/-!
Logins that requests present to their host by the basic scheme. A URL holds one in front of its
host.
-/

namespace Harvest.Http

/-- A user name with the password, if there is one. -/
structure BasicLogin where
  username : String
  password : Option String
  deriving DecidableEq

namespace BasicLogin

/-- What an escaped part of a URL says, if its bytes are a text. -/
def partText? (part : String) : Option String :=
  String.fromUTF8? ⟨(Percent.decode part.toList).toArray⟩

/-- The login in a URL. A password that is no text counts as none, and neither name nor password
is no login. -/
def ofUrl? (url : Url) : Option BasicLogin := do
  guard url.host.isSome
  let username ← partText? url.username
  let password := if url.password = "" then none else partText? url.password
  guard (username ≠ "" ∨ password.isSome)
  return ⟨username, password⟩

/-- The value of the header that presents a login. -/
def header (login : BasicLogin) : String :=
  let pair := login.username ++ ":" ++ login.password.getD ""
  "Basic " ++ String.ofList (Text.Base64.encode pair.toUTF8.toList)

end BasicLogin

end Harvest.Http
