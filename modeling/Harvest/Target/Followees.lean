import Harvest.Retrieval.Service
import Harvest.Target.AccountSet

/-!
Following up an account: everyone it follows becomes an account to download.
-/

namespace Harvest

/-- The accounts after an expansion, and how many of them it added. -/
structure Expansion where
  accounts : AccountSet
  added : Nat

namespace AccountSet

/-- The set with some followees. -/
def merge (accounts : AccountSet) (followees : List String) : Expansion :=
  let merged := accounts.extend followees
  ⟨merged, merged.size - accounts.size⟩

/-- The set with everyone whom the service names as followed by an account, and the number of
names added. -/
def followUp (accounts : AccountSet) (retriever : Retriever) (account : String) :
    Work (Except RetrieveError Expansion) := do
  Program.inform s!"Retrieving followees of {account}..."
  match ← Work.retrieve retriever (.followees account) with
  | .error fault => return .error fault
  | .ok followees =>
    Program.inform "Merged followees"
    return .ok (accounts.merge followees)

/-- The set alone. -/
def expandFollowees (accounts : AccountSet) (retriever : Retriever) (account : String) :
    Work (Except RetrieveError AccountSet) := do
  return (← accounts.followUp retriever account).map Expansion.accounts

end AccountSet

end Harvest
