import Harvest.Filter.Predicate
import Harvest.Program
import Harvest.Retrieval.Error
import Harvest.Retrieval.Tally

/-!
The retrieval service as programs call it: logging in, and fetching and saving items on behalf of
a session.
-/

namespace Harvest

open Harvest.Filter (Filters Predicate)

/-- A retriever acts with a credential or anonymously. -/
structure Retriever where
  credential : Option String
  isCopy : Bool
  deriving DecidableEq

namespace Retriever

/-- The retriever of a session. -/
def ofCredential (credential : Option String) : Retriever := ⟨credential, false⟩

/-- A retriever with a credential is logged in. -/
def isLoggedIn (retriever : Retriever) : Bool := retriever.credential.isSome

/-- A copy without the credential. -/
def anonymousCopy : Retriever := ⟨none, true⟩

end Retriever

/-- A bulk download ends at a number of downloads or at the first item that is present. -/
structure BulkOptions where
  maxCount : Option Nat
  fastUpdate : Bool
  deriving DecidableEq

/-- A bulk download goes to its end. -/
def BulkOptions.unlimited : BulkOptions := ⟨none, false⟩

/-- What to fetch of an account. -/
structure ProfileOptions where
  profilePicture : Bool
  posts : Bool
  stories : Bool
  fastUpdate : Bool
  deriving DecidableEq

/-- The picture and the posts of an account. -/
def ProfileOptions.usual : ProfileOptions := ⟨true, true, false, false⟩

/-- The listings of posts. -/
inductive PostListing where
  | hashtag (tag : String)
  | feed
  | saved
  deriving DecidableEq

/-- What a retriever is asked for. -/
inductive Retrieval where
  | followees (account : String)
  | savePost (post : Post) (folder : String)
  | saveStoryItem (item : StoryItem) (folder : String)
  | posts (listing : PostListing) (filter : Option Predicate) (options : BulkOptions)
  | stories (filter : Option Predicate) (options : BulkOptions)
  | profile (account : String) (filters : Filters) (options : ProfileOptions)

/-- A save tells whether the item is new, and a download what it did. -/
@[reducible]
def Retrieval.Answer : Retrieval → Type
  | .followees _ => Except RetrieveError (List String)
  | .savePost _ _ | .saveStoryItem _ _ => Except RetrieveError Bool
  | .posts _ _ _ | .stories _ _ | .profile _ _ _ => Except RetrieveError Tally

/-- The calls of the service. -/
inductive ServiceCall where
  | login (username password : String)
  | whoami (credential : String)
  | openRetriever (credential : Option String)
  | copyAnonymously (retriever : Retriever)
  | retrieve (retriever : Retriever) (retrieval : Retrieval)

/-- A login is answered with a credential, and a credential with the account it belongs to. -/
@[reducible]
def ServiceCall.Answer : ServiceCall → Type
  | .login _ _ => Except AuthError String
  | .whoami _ => Except AuthError (Option String)
  | .openRetriever _ | .copyAnonymously _ => Unit
  | .retrieve _ retrieval => retrieval.Answer

/-- The retrieval service. -/
@[reducible]
def retrievalService : Interface := ⟨ServiceCall, ServiceCall.Answer⟩

/-- A program that works with the retrieval service. -/
abbrev Work (α : Type) := Program retrievalService α

namespace Work

/-- A call of the retrieval service. -/
def performCall (request : ServiceCall) : Work request.Answer :=
  .act (.call request) .done

/-- A request of a retriever. -/
def retrieve (retriever : Retriever) (retrieval : Retrieval) : Work retrieval.Answer :=
  performCall (.retrieve retriever retrieval)

/-- An anonymous copy of a retriever. -/
def copyAnonymously (retriever : Retriever) : Work Retriever := do
  performCall (.copyAnonymously retriever)
  return Retriever.anonymousCopy

/-- The retriever of a session. -/
def openRetriever (credential : Option String) : Work Retriever := do
  performCall (.openRetriever credential)
  return Retriever.ofCredential credential

/-- The credential of a login. -/
def login (username password : String) : Work (Except AuthError String) :=
  performCall (.login username password)

/-- The account that a credential belongs to. -/
def whoami (credential : String) : Work (Except AuthError (Option String)) :=
  performCall (.whoami credential)

end Work

end Harvest
