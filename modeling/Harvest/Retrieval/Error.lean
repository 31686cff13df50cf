import Harvest.Filter.Evaluation

/-!
Faults of retrieval and of logging in.
-/

namespace Harvest

open Harvest.Filter (EvalError)

/-- Why something could not be fetched or saved. -/
inductive RetrieveError where
  | notFound (what : String)
  | loginRequired (reason : String)
  | rateLimited
  | connection (attempts : Nat) (reason : String)
  | service (status : Nat) (path : String)
  | interrupted (path : String) (attempts : Nat)
  | undecodable (path : String) (reason : String)
  | filter (item : String) (fault : EvalError)
  deriving DecidableEq

namespace RetrieveError

/-- The wording of a retrieval fault. -/
def message : RetrieveError → String
  | .notFound what => s!"{what} not found"
  | .loginRequired reason => s!"login required: {reason}"
  | .rateLimited => "rate limited by the retrieval service"
  | .connection attempts reason => s!"connection failed after {attempts} attempt(s): {reason}"
  | .service status path => s!"retrieval service returned HTTP {status} for {path}"
  | .interrupted path attempts => s!"request for {path} interrupted after {attempts} attempt(s)"
  | .undecodable path reason => s!"unexpected response for {path}: {reason}"
  | .filter item fault => s!"filter failed on {item}: {fault.message}"

/-- The messages of the faults behind a retrieval fault. -/
def causes : RetrieveError → List String
  | .filter _ fault => [fault.message]
  | _ => []

/-- Something does not exist or does not show. -/
def isNotFound : RetrieveError → Bool
  | .notFound _ => true
  | _ => false

end RetrieveError

/-- Why a login or the check of a session failed. -/
inductive AuthError where
  | badCredentials (username : String)
  | transport (fault : RetrieveError)
  deriving DecidableEq

namespace AuthError

/-- The wording of a login fault. -/
def message : AuthError → String
  | .badCredentials username => s!"Login error: wrong password or unknown user {username}"
  | .transport fault => s!"Login error: {fault.message}"

/-- The messages of the faults behind a login fault. -/
def causes : AuthError → List String
  | .badCredentials _ => []
  | .transport fault => fault.message :: fault.causes

end AuthError

end Harvest
