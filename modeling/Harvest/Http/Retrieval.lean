import Harvest.Http.Client
import Harvest.Json.Record
import Harvest.Retrieval.Service

/-!
The retrieval service over HTTP. A retriever fetches listings, filters them, and asks the service
to save what passes; the session of a request is the credential of its retriever.
-/

namespace Harvest.Http

open Harvest.Filter (Predicate Subject)

/-- The credential in the answer to a login. -/
def credentialOf? (document : Json) : Option String := do
  (← Json.Record.of? ["session"] document).required "session" Json.asText?

/-- The account in the answer to a question for the owner of a credential; it may be left out of
an object. -/
def ownerOf? : Json → Option (Option String)
  | .list [name] => Json.asNullable? Json.asText? name
  | .list _ => none
  | document => do
    (← Json.Record.of? ["username"] document).optional "username" none
      (Json.asNullable? Json.asText?)

/-- Whether a saved item is new. -/
def downloadedOf? (document : Json) : Option Bool := do
  (← Json.Record.of? ["downloaded"] document).required "downloaded" Json.asBool?

/-- The login of an account. -/
def login (settings : Settings) (username password : String) : Web (Except AuthError String) := do
  let body := Json.object [("username", .text username), ("password", .text password)]
  match ← (settings.send .post "login" (some body) none).run with
  | .error fault => return .error (.transport fault)
  | .ok response =>
    if [400, 401, 403].contains response.status then return .error (.badCredentials username)
    else
      match checkStatus "login" "login" response with
      | .error fault => return .error (.transport fault)
      | .ok contents =>
        return (decodeBody "login" credentialOf? contents).mapError .transport

/-- The account that a credential belongs to. -/
def whoami (settings : Settings) (credential : String) :
    Web (Except AuthError (Option String)) := do
  match ← (settings.send .get "whoami" none (some credential)).run with
  | .error fault => return .error (.transport fault)
  | .ok response =>
    if [401, 403].contains response.status then return .ok none
    else
      match checkStatus "whoami" "whoami" response with
      | .error fault => return .error (.transport fault)
      | .ok contents => return (decodeBody "whoami" ownerOf? contents).mapError .transport

/-- An item on its way to be saved. -/
structure Savable where
  display : String
  subject : Subject
  fields : List (String × Json)

/-- A post to be saved. -/
def Savable.ofPost (post : Post) : Savable := ⟨post.display, post.subject, post.fields⟩

/-- A story item to be saved. -/
def Savable.ofStoryItem (item : StoryItem) : Savable := ⟨item.display, item.subject, item.fields⟩

/-- The service as one retriever reaches it. -/
structure Access where
  settings : Settings
  credential : Option String

namespace Access

/-- A request for something and what its answer says. -/
def request {α : Type} (access : Access) (method : Method) (path : String) (body : Option Json)
    (what : String) (read : Json → Option α) : Fetch α := do
  let response ← access.settings.send method path body access.credential
  let contents ← Fetch.ofExcept (checkStatus path what response)
  Fetch.ofExcept (decodeBody path read contents)

/-- What stands at a path. -/
def get {α : Type} (access : Access) (path what : String) (read : Json → Option α) : Fetch α :=
  access.request .get path none what read

/-- The service saves an item for a target and says whether it is new. -/
def save (access : Access) (path target : String) (fields : List (String × Json)) : Fetch Bool :=
  access.request .post path (some (.object (("target", .text target) :: fields))) path
    downloadedOf?

/-- What needs a login is refused without one. -/
def requireLogin (access : Access) (what : String) : Fetch Unit :=
  Fetch.ofExcept (if access.credential.isSome then .ok ()
    else .error (.loginRequired s!"--login=USERNAME required to download {what}."))

/-- Whether an item passes a filter. -/
def passes (filter : Option Predicate) (item : Savable) : Fetch Bool :=
  Fetch.ofExcept ((Filter.passes filter item.subject).mapError fun fault =>
    .filter item.display fault)

/-- Items in order, with the counts so far: those that pass the filter are saved, up to a number
of downloads or, for a fast update, to the first that is already there. -/
def saveAll (access : Access) (path target : String) (filter : Option Predicate)
    (options : BulkOptions) (tally : Tally) : List Savable → Fetch Tally
  | [] => return tally
  | item :: rest => do
    if options.maxCount.any (· ≤ tally.downloaded) then return tally
    else if ← passes filter item then
      let downloaded ← access.save path target item.fields
      if options.fastUpdate && !downloaded then return tally.record downloaded
      else saveAll access path target filter options (tally.record downloaded) rest
    else
      ExceptT.lift (Program.inform s!"{item.display} skipped")
      saveAll access path target filter options tally.skip rest

/-- Where posts are saved. -/
def postRoute : String := "downloads/post"

/-- Where story items are saved. -/
def storyItemRoute : String := "downloads/storyitem"

/-- Where profile pictures are saved. -/
def pictureRoute : String := "downloads/profile-pic"

/-- Posts at a path are fetched and saved. -/
def savePosts (access : Access) (path what target : String) (filter : Option Predicate)
    (options : BulkOptions) : Fetch Tally := do
  let posts ← access.get path what (Json.asList? Post.decode?)
  access.saveAll postRoute target filter options Tally.zero (posts.map .ofPost)

/-- Story items at a path are fetched and saved. -/
def saveStories (access : Access) (path what target : String) (filter : Option Predicate)
    (options : BulkOptions) : Fetch Tally := do
  let stories ← access.get path what (Json.asList? StoryItem.decode?)
  access.saveAll storyItemRoute target filter options Tally.zero (stories.map .ofStoryItem)

/-- The path of an account. -/
def profilePath (account : String) : String :=
  "profiles/" ++ Percent.segment account

/-- The path of the posts of a hashtag. -/
def hashtagPath (tag : String) : String :=
  "hashtags/" ++ Percent.segment tag ++ "/posts"

/-- A listing of posts. -/
def posts (access : Access) (listing : PostListing) (filter : Option Predicate)
    (options : BulkOptions) : Fetch Tally :=
  match listing with
  | .hashtag tag =>
    access.savePosts (hashtagPath tag) s!"Hashtag #{tag}" ("#" ++ tag) filter options
  | .feed => do
    access.requireLogin "feed"
    access.savePosts "feed" "Feed" ":feed" filter options
  | .saved => do
    access.requireLogin "saved posts"
    access.savePosts "saved" "Saved posts" ":saved" filter options

/-- The stories of everyone that the session follows. -/
def stories (access : Access) (filter : Option Predicate) (options : BulkOptions) :
    Fetch Tally := do
  access.requireLogin "stories"
  access.saveStories "stories" "Stories" ":stories" filter options

/-- The picture of an account, if it is wanted. -/
def profilePicture (access : Access) (account : String) (profile : Profile) (isWanted : Bool) :
    Fetch Tally := do
  if isWanted then
    return Tally.zero.record (← access.save pictureRoute account profile.fields)
  else return Tally.zero

/-- The posts of an account, if they are wanted. -/
def profilePosts (access : Access) (account : String) (filter : Option Predicate)
    (options : ProfileOptions) : Fetch Tally := do
  if options.posts then
    ExceptT.lift (Program.inform s!"Retrieving posts from profile {account}.")
    access.savePosts (profilePath account ++ "/posts") s!"Profile {account}" account filter
      ⟨none, options.fastUpdate⟩
  else return Tally.zero

/-- The stories of an account, if they are wanted. -/
def profileStories (access : Access) (account : String) (filter : Option Predicate)
    (options : ProfileOptions) : Fetch Tally := do
  if options.stories then
    access.requireLogin "stories"
    ExceptT.lift (Program.inform s!"Retrieving stories from profile {account}.")
    access.saveStories (profilePath account ++ "/stories") s!"Profile {account}" account filter
      ⟨none, options.fastUpdate⟩
  else return Tally.zero

/-- An account: its picture, its posts and its stories. -/
def profile (access : Access) (account : String) (filters : Filter.Filters)
    (options : ProfileOptions) : Fetch Tally := do
  let profile ← access.get (profilePath account) s!"Profile {account}" Profile.decode?
  let picture ← access.profilePicture account profile options.profilePicture
  let posts ← access.profilePosts account filters.post options
  let stories ← access.profileStories account filters.storyItem options
  return (picture.add posts).add stories

/-- A retrieval. -/
def carryOut (access : Access) : (retrieval : Retrieval) → Web retrieval.Answer
  | .followees account =>
    (access.get (profilePath account ++ "/followees") s!"Profile {account}"
      (Json.asList? Json.asText?)).run
  | .savePost post folder => (access.save postRoute folder post.fields).run
  | .saveStoryItem item folder => (access.save storyItemRoute folder item.fields).run
  | .posts listing filter options => (access.posts listing filter options).run
  | .stories filter options => (access.stories filter options).run
  | .profile account filters options => (access.profile account filters options).run

end Access

/-- A call of the retrieval service. -/
def carryOut (settings : Settings) : (call : ServiceCall) → Web call.Answer
  | .login username password => login settings username password
  | .whoami credential => whoami settings credential
  | .openRetriever _ | .copyAnonymously _ => .done ()
  | .retrieve retriever retrieval => Access.carryOut ⟨settings, retriever.credential⟩ retrieval

/-- Work with the retrieval service as requests. -/
def overHttp {α : Type} (settings : Settings) (work : Work α) : Web α :=
  work.realize (carryOut settings)

end Harvest.Http
