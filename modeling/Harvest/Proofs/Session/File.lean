import Harvest.Proofs.Json.ReadBack
import Harvest.Session.File

/-!
Session files hold what was saved, whatever characters the name and the credential have.
-/

namespace Harvest.StoredSession

/-- A stored session is read back from its text. -/
theorem ofText?_toText (stored : StoredSession) : ofText? stored.toText = some stored := by
  have written : Json.ofText? stored.toText = some stored.encode :=
    Json.ofText?_toText_ofTexts [("username", stored.username), ("credential", stored.credential)]
  rw [ofText?, written]
  rfl

/-- A look at a file with the text of a stored session yields the session. -/
theorem ofRead_toText (stored : StoredSession) :
    ofRead (.ok stored.toText) = .ok (some stored) := by
  rw [ofRead, ofText?_toText]
  rfl

end Harvest.StoredSession
