import Harvest.Text.Quoted

/-!
Sessions: who a run acts as.
-/

namespace Harvest

/-- A session is anonymous, or it has a user name and a credential. -/
inductive Session where
  | anonymous
  | loggedIn (username credential : String)
  deriving DecidableEq

namespace Session

/-- Whether a session has a credential. -/
def isLoggedIn : Session → Bool
  | .anonymous => false
  | .loggedIn _ _ => true

/-- The user name of a session. -/
def username? : Session → Option String
  | .anonymous => none
  | .loggedIn username _ => some username

/-- The credential of a session. -/
def credential? : Session → Option String
  | .anonymous => none
  | .loggedIn _ credential => some credential

/-- A description of a session for diagnosis. It shows that there is a credential, and hides it. -/
def description : Session → String
  | .anonymous => "Session \x7b username: None, credential: None \x7d"
  | .loggedIn username _ =>
    "Session \x7b username: Some(" ++ Text.quote username ++
      "), credential: Some(Credential(..)) \x7d"

/-- Sessions of one user are described alike, whatever their credentials are. -/
theorem description_eq_of_username?_eq {first second : Session}
    (same : first.username? = second.username?) : first.description = second.description := by
  cases first with
  | anonymous =>
      cases second with
      | anonymous => rfl
      | loggedIn => contradiction
  | loggedIn username =>
      cases second with
      | anonymous => contradiction
      | loggedIn other =>
          obtain rfl : username = other := Option.some.inj same
          -- The two sides are the same term, and no text has to be computed to see it.
          unfold description
          with_reducible rfl

end Session

end Harvest
