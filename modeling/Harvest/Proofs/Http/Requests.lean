import Harvest.Http.Retrieval
import Harvest.Proofs.Journal
import Harvest.Proofs.Url.Join

/-!
What a retriever asks the service for. A retrieval reads its own pages and has items saved, and
every attempt goes out under the credential of the retriever.
-/

namespace Harvest

open Http (Method Request exchanges)
open Program (Only only_pure)
open Url (IsFolder IsWord Spells namedPage)

/-- The pages that a retrieval reads, and those that it posts to. Some are only for those who are
logged in. -/
inductive Retrieval.Asks (isLoggedIn : Bool) : Retrieval → Method → List String → Prop where
  | followees (account : String) :
      Asks isLoggedIn (.followees account) .get
        (namedPage "profiles" account (some "followees"))
  | savePost (post : Post) (folder : String) :
      Asks isLoggedIn (.savePost post folder) .post ["downloads", "post"]
  | saveStoryItem (item : StoryItem) (folder : String) :
      Asks isLoggedIn (.saveStoryItem item folder) .post ["downloads", "storyitem"]
  | hashtag (tag : String) (filter : Option Filter.Predicate) (options : BulkOptions) :
      Asks isLoggedIn (.posts (.hashtag tag) filter options) .get
        (namedPage "hashtags" tag (some "posts"))
  | feed (filter : Option Filter.Predicate) (options : BulkOptions) (loggedIn : isLoggedIn) :
      Asks isLoggedIn (.posts .feed filter options) .get ["feed"]
  | saved (filter : Option Filter.Predicate) (options : BulkOptions) (loggedIn : isLoggedIn) :
      Asks isLoggedIn (.posts .saved filter options) .get ["saved"]
  | listedPost (listing : PostListing) (filter : Option Filter.Predicate)
      (options : BulkOptions) :
      Asks isLoggedIn (.posts listing filter options) .post ["downloads", "post"]
  | stories (filter : Option Filter.Predicate) (options : BulkOptions) (loggedIn : isLoggedIn) :
      Asks isLoggedIn (.stories filter options) .get ["stories"]
  | listedStory (filter : Option Filter.Predicate) (options : BulkOptions) :
      Asks isLoggedIn (.stories filter options) .post ["downloads", "storyitem"]
  | profile (account : String) (filters : Filter.Filters) (options : ProfileOptions) :
      Asks isLoggedIn (.profile account filters options) .get (namedPage "profiles" account none)
  | picture (account : String) (filters : Filter.Filters) (options : ProfileOptions) :
      Asks isLoggedIn (.profile account filters options) .post ["downloads", "profile-pic"]
  | profilePosts (account : String) (filters : Filter.Filters) {options : ProfileOptions}
      (wanted : options.posts) :
      Asks isLoggedIn (.profile account filters options) .get
        (namedPage "profiles" account (some "posts"))
  | profilePost (account : String) (filters : Filter.Filters) (options : ProfileOptions) :
      Asks isLoggedIn (.profile account filters options) .post ["downloads", "post"]
  | profileStories (account : String) (filters : Filter.Filters) {options : ProfileOptions}
      (wanted : options.stories) (loggedIn : isLoggedIn) :
      Asks isLoggedIn (.profile account filters options) .get
        (namedPage "profiles" account (some "stories"))
  | profileStory (account : String) (filters : Filter.Filters) (options : ProfileOptions) :
      Asks isLoggedIn (.profile account filters options) .post ["downloads", "storyitem"]

namespace Retrieval

variable {isLoggedIn : Bool} {retrieval : Retrieval} {method : Method} {page : List String}

/-- Nothing is asked for that is not asked for with a login. -/
theorem Asks.whenLoggedIn (asked : retrieval.Asks isLoggedIn method page) :
    retrieval.Asks true method page := by
  cases isLoggedIn with
  | true => exact asked
  | false =>
      cases asked with
      | feed filter options loggedIn | saved filter options loggedIn
      | stories filter options loggedIn
      | profileStories account filters wanted loggedIn => contradiction
      | _ => constructor <;> assumption

/-- Everything that is posted is a download. -/
theorem Asks.download (asked : retrieval.Asks isLoggedIn .post page) :
    ∃ kind ∈ ["post", "storyitem", "profile-pic"], page = ["downloads", kind] := by
  cases asked <;> exact ⟨_, by decide, rfl⟩

end Retrieval

namespace Http

variable {α β : Type}

/-- The requests among some events, in order. -/
def requestsOf (events : Journal exchanges) : List Request :=
  events.filterMap fun event =>
    match event.deed with
    | .call request => some request
    | _ => none

theorem mem_requestsOf {events : Journal exchanges} {request : Request} :
    request ∈ requestsOf events ↔
      ∃ answer, (⟨.call request, answer⟩ : Event exchanges) ∈ events := by
  simp only [requestsOf, List.mem_filterMap]
  constructor
  · rintro ⟨⟨deed, answer⟩, inside, found⟩
    cases deed with
    | call made =>
        obtain rfl := Option.some.inj found
        exact ⟨answer, inside⟩
    | _ => contradiction
  · rintro ⟨answer, inside⟩
    exact ⟨_, inside, rfl⟩

theorem mem_requestsOf_append {first second : Journal exchanges} {request : Request} :
    request ∈ requestsOf (first ++ second) ↔
      request ∈ requestsOf first ∨ request ∈ requestsOf second := by
  rw [requestsOf, List.filterMap_append, List.mem_append]
  rfl

namespace Access

variable {access : Access} {asks : Method → List String → Prop}

/-- A request that can be sent, for a page and under the credential of the retriever. -/
structure Sends (access : Access) (method : Method) (page : List String) (request : Request) :
    Prop where
  method_eq : request.method = method
  session_eq : request.session = access.credential
  leads : access.settings.endpoint.Leads page request.url
  sendable : request.fault? = none

/-- What a retriever does that asks for some pages: it sends requests for them and looks at the
interrupt flag. -/
def Permits (access : Access) (asks : Method → List String → Prop) : Act exchanges → Prop
  | .call request => ∃ method page, asks method page ∧ access.Sends method page request
  | .pollInterrupt | .log _ _ => True
  | _ => False

/-- Every act of a part of a retrieval is permitted to a retriever that asks for some pages. -/
abbrev Keeps (access : Access) (asks : Method → List String → Prop) (fetch : Fetch α) : Prop :=
  fetch.run.Only (access.Permits asks)

/-- A part of a retrieval does what is allowed when its own parts do. -/
theorem only_bind {allowed : Act exchanges → Prop} {first : Fetch α} {second : α → Fetch β}
    (start : first.run.Only allowed) (following : ∀ value, (second value).run.Only allowed) :
    (first >>= second).run.Only allowed := by
  refine Only.bind start fun result => ?_
  cases result with
  | error fault => exact only_pure _
  | ok value => exact following value

theorem Keeps.bind {first : Fetch α} {second : α → Fetch β} (start : access.Keeps asks first)
    (following : ∀ value, access.Keeps asks (second value)) :
    access.Keeps asks (first >>= second) :=
  only_bind start following

theorem keeps_pure (value : α) : access.Keeps asks (pure value) := only_pure _

theorem keeps_ofExcept (result : Except RetrieveError α) :
    access.Keeps asks (Fetch.ofExcept result) :=
  .done result

theorem keeps_inform (message : String) :
    access.Keeps asks (ExceptT.lift (Program.inform message)) :=
  .act trivial fun _ => .done _

/-- All attempts send the same request. The induction is on the attempts that are left. -/
theorem only_sendFrom {allowed : Act exchanges → Prop} {request : Request}
    (sends : request.fault? = none → allowed (.call request)) (polls : allowed .pollInterrupt)
    (logs : ∀ level message, allowed (.log level message)) (path : String)
    (number repetitions : Nat) : (sendFrom path request number repetitions).Only allowed := by
  have one : (attempt request).Only allowed := by
    unfold attempt
    split
    · exact .done _
    · next sendable => exact .act (sends sendable) .done
  have poll : (Program.interrupted : Web Bool).Only allowed := .act polls .done
  have warn (message : String) : (Program.warn message : Web Unit).Only allowed :=
    .act (logs _ _) .done
  induction repetitions generalizing number with
  | zero =>
      unfold sendFrom
      refine one.bind fun outcome => ?_
      split
      · exact only_pure _
      · refine poll.bind fun raised => ?_
        split
        · exact (warn _).bind fun _ => only_pure _
        · exact only_pure _
  | succ repetitions ih =>
      unfold sendFrom
      refine one.bind fun outcome => ?_
      split
      · exact only_pure _
      · refine poll.bind fun raised => ?_
        split
        · exact (warn _).bind fun _ => only_pure _
        · exact (warn _).bind fun _ => ih (number + 1)

/-- What can be sent goes over the web. -/
theorem noFile_of_fault? {request : Request} (sendable : request.fault? = none) :
    request.url.scheme ≠ "file" := by
  intro file
  have noWeb : Request.isWebScheme request.url.scheme = false := by rw [file]; decide
  unfold Request.fault? at sendable
  rw [noWeb] at sendable
  split at sendable
  · contradiction
  · split at sendable
    · contradiction
    · contradiction

section PresentLogin

variable (request : Request)

theorem presentLogin_method : request.presentLogin.method = request.method := by
  unfold Request.presentLogin
  split <;> rfl

theorem presentLogin_session : request.presentLogin.session = request.session := by
  unfold Request.presentLogin
  split <;> rfl

/-- A login leaves the URL, and nothing else does. -/
theorem presentLogin_url : request.presentLogin.url = request.url ∨
    request.presentLogin.url = request.url.withoutUserinfo := by
  unfold Request.presentLogin
  split
  · exact .inr rfl
  · exact .inl rfl

end PresentLogin

/-- A request that can be sent leads to the page that its path spells. -/
theorem sends_presentLogin {path : String} {page : List String} {url : Url}
    (spells : Spells path page) (located : access.settings.locate path = .ok url)
    (method : Method) (body : Option Json) :
    let request : Request :=
      ⟨method, url, none, access.credential, access.settings.userAgent, body⟩
    request.presentLogin.fault? = none → access.Sends method page request.presentLogin := by
  intro request sendable
  have joined : access.settings.endpoint.join? path = some url := by
    unfold Settings.locate at located
    split at located
    · next found => rw [found, Except.ok.inj located]
    · contradiction
  have noFile := noFile_of_fault? sendable
  refine ⟨presentLogin_method request, presentLogin_session request, ?_, sendable⟩
  rcases presentLogin_url request with kept | stripped
  · rw [kept] at noFile ⊢
    exact Url.leads_of_join? spells joined noFile
  · rw [stripped] at noFile ⊢
    exact (Url.leads_of_join? spells joined noFile).withoutUserinfo

/-- What follows a result needs to be as it should only if there is one. -/
theorem keeps_ofExcept_bind {result : Except RetrieveError α} {second : α → Fetch β}
    (following : ∀ value, result = .ok value → access.Keeps asks (second value)) :
    access.Keeps asks (Fetch.ofExcept result >>= second) := by
  cases result with
  | error fault => exact only_pure _
  | ok value => exact following value rfl

theorem keeps_send {method : Method} {path : String} {page : List String}
    (spells : Spells path page) (asked : asks method page) (body : Option Json) :
    access.Keeps asks (access.settings.send method path body access.credential) := by
  refine keeps_ofExcept_bind fun url located => ?_
  exact only_sendFrom (fun sendable => ⟨method, page, asked,
    sends_presentLogin spells located method body sendable⟩) trivial (fun _ _ => trivial) _ _ _

theorem keeps_request {method : Method} {path : String} {page : List String}
    (spells : Spells path page) (asked : asks method page) (body : Option Json) (what : String)
    (read : Json → Option α) : access.Keeps asks (access.request method path body what read) :=
  (keeps_send spells asked body).bind fun _ =>
    (keeps_ofExcept _).bind fun _ => keeps_ofExcept _

theorem keeps_get {path : String} {page : List String} (spells : Spells path page)
    (asked : asks .get page) (what : String) (read : Json → Option α) :
    access.Keeps asks (access.get path what read) :=
  keeps_request spells asked none what read

theorem keeps_save {path : String} {page : List String} (spells : Spells path page)
    (asked : asks .post page) (target : String) (fields : List (String × Json)) :
    access.Keeps asks (access.save path target fields) :=
  keeps_request spells asked _ path downloadedOf?

/-- What follows a check for a login needs to be as it should only with one. -/
theorem keeps_requireLogin {second : Unit → Fetch α} (what : String)
    (following : access.credential.isSome → access.Keeps asks (second ())) :
    access.Keeps asks (access.requireLogin what >>= second) := by
  refine keeps_ofExcept_bind fun _ passed => ?_
  split at passed
  · next loggedIn => exact following loggedIn
  · contradiction

theorem keeps_saveAll {path : String} {page : List String} (spells : Spells path page)
    (asked : asks .post page) (target : String) (filter : Option Filter.Predicate)
    (options : BulkOptions) (tally : Tally) (items : List Savable) :
    access.Keeps asks (access.saveAll path target filter options tally items) := by
  induction items generalizing tally with
  | nil => exact keeps_pure tally
  | cons item rest ih =>
      unfold saveAll
      split
      · exact keeps_pure tally
      · refine (keeps_ofExcept _).bind fun accepted => ?_
        split
        · refine (keeps_save spells asked _ _).bind fun downloaded => ?_
          split
          · exact keeps_pure _
          · exact ih _
        · exact (keeps_inform _).bind fun _ => ih _

section Routes

theorem spells_postRoute : Spells postRoute ["downloads", "post"] :=
  Url.spells_plain (by decide) (by decide)

theorem spells_storyItemRoute : Spells storyItemRoute ["downloads", "storyitem"] :=
  Url.spells_plain (by decide) (by decide)

theorem spells_pictureRoute : Spells pictureRoute ["downloads", "profile-pic"] :=
  Url.spells_plain (by decide) (by decide)

theorem isFolder_profiles : IsFolder "profiles" := ⟨by decide, by decide⟩

theorem isFolder_hashtags : IsFolder "hashtags" := ⟨by decide, by decide⟩

theorem profilePath_eq (account : String) :
    profilePath account = "profiles" ++ "/" ++ Percent.segment account := rfl

theorem spells_profilePath (account : String) :
    Spells (profilePath account) (namedPage "profiles" account none) := by
  rw [profilePath_eq]
  exact Url.spells_named isFolder_profiles account

/-- The path of a page of an account. -/
theorem spells_profilePage {behind page : String} (split : behind = "/" ++ page)
    (isWord : IsWord page) (account : String) :
    Spells (profilePath account ++ behind) (namedPage "profiles" account (some page)) := by
  rw [split, ← String.append_assoc, profilePath_eq]
  exact Url.spells_behind isFolder_profiles isWord account

theorem spells_hashtagPath (tag : String) :
    Spells (hashtagPath tag) (namedPage "hashtags" tag (some "posts")) := by
  have split : hashtagPath tag = "hashtags" ++ "/" ++ Percent.segment tag ++ "/" ++ "posts" := by
    have folder : "hashtags/" = "hashtags" ++ "/" := by decide
    have behind : "/posts" = "/" ++ "posts" := by decide
    rw [hashtagPath, folder, behind, ← String.append_assoc]
  rw [split]
  exact Url.spells_behind isFolder_hashtags (by decide) tag

end Routes

section Retrievals

variable (filter : Option Filter.Predicate) (options : BulkOptions)

theorem keeps_savePosts {path : String} {page : List String} (spells : Spells path page)
    (reads : asks .get page) (saves : asks .post ["downloads", "post"]) (what target : String) :
    access.Keeps asks (access.savePosts path what target filter options) :=
  (keeps_get spells reads _ _).bind fun _ =>
    keeps_saveAll spells_postRoute saves target filter options _ _

theorem keeps_saveStories {path : String} {page : List String} (spells : Spells path page)
    (reads : asks .get page) (saves : asks .post ["downloads", "storyitem"])
    (what target : String) :
    access.Keeps asks (access.saveStories path what target filter options) :=
  (keeps_get spells reads _ _).bind fun _ =>
    keeps_saveAll spells_storyItemRoute saves target filter options _ _

/-- Whether a retriever is logged in. -/
abbrev isLoggedIn (access : Access) : Bool := access.credential.isSome

theorem keeps_posts (listing : PostListing) :
    access.Keeps (Retrieval.Asks access.isLoggedIn (.posts listing filter options))
      (access.posts listing filter options) := by
  cases listing with
  | hashtag tag =>
      exact keeps_savePosts filter options (spells_hashtagPath tag) (.hashtag tag filter options)
        (.listedPost _ filter options) _ _
  | feed =>
      refine keeps_requireLogin _ fun loggedIn => ?_
      exact keeps_savePosts filter options (Url.spells_word (by decide))
        (.feed filter options loggedIn) (.listedPost _ filter options) _ _
  | saved =>
      refine keeps_requireLogin _ fun loggedIn => ?_
      exact keeps_savePosts filter options (Url.spells_word (by decide))
        (.saved filter options loggedIn) (.listedPost _ filter options) _ _

theorem keeps_stories :
    access.Keeps (Retrieval.Asks access.isLoggedIn (.stories filter options))
      (access.stories filter options) := by
  refine keeps_requireLogin _ fun loggedIn => ?_
  exact keeps_saveStories filter options (Url.spells_word (by decide))
    (.stories filter options loggedIn) (.listedStory filter options) _ _

end Retrievals

section Profiles

variable (account : String) (filters : Filter.Filters) (options : ProfileOptions)

/-- What the download of an account asks for. -/
abbrev ProfileAsks (access : Access) (account : String) (filters : Filter.Filters)
    (options : ProfileOptions) : Method → List String → Prop :=
  Retrieval.Asks access.isLoggedIn (.profile account filters options)

theorem keeps_profilePicture (profile : Profile) (isWanted : Bool) :
    access.Keeps (access.ProfileAsks account filters options)
      (access.profilePicture account profile isWanted) := by
  unfold profilePicture
  split
  · exact (keeps_save spells_pictureRoute (.picture account filters options) _ _).bind
      fun _ => keeps_pure _
  · exact keeps_pure _

theorem keeps_profilePosts :
    access.Keeps (access.ProfileAsks account filters options)
      (access.profilePosts account filters.post options) := by
  unfold profilePosts
  split
  · next wanted =>
      refine (keeps_inform _).bind fun _ => ?_
      exact keeps_savePosts _ _ (spells_profilePage (by decide) (by decide) account)
        (.profilePosts account filters wanted) (.profilePost account filters options) _ _
  · exact keeps_pure _

theorem keeps_profileStories :
    access.Keeps (access.ProfileAsks account filters options)
      (access.profileStories account filters.storyItem options) := by
  unfold profileStories
  split
  · next wanted =>
      refine keeps_requireLogin _ fun loggedIn => (keeps_inform _).bind fun _ => ?_
      exact keeps_saveStories _ _ (spells_profilePage (by decide) (by decide) account)
        (.profileStories account filters wanted loggedIn) (.profileStory account filters options)
        _ _
  · exact keeps_pure _

theorem keeps_profile :
    access.Keeps (access.ProfileAsks account filters options)
      (access.profile account filters options) := by
  refine (keeps_get (spells_profilePath account) (.profile account filters options) _ _).bind
    fun profile => ?_
  refine (keeps_profilePicture account filters options profile _).bind fun picture => ?_
  refine (keeps_profilePosts account filters options).bind fun posts => ?_
  refine (keeps_profileStories account filters options).bind fun stories => ?_
  exact keeps_pure _

end Profiles

/-- A retriever does nothing for a retrieval but ask for its pages. -/
theorem only_carryOut (retrieval : Retrieval) :
    (access.carryOut retrieval).Only (access.Permits (retrieval.Asks access.isLoggedIn)) := by
  cases retrieval with
  | followees account =>
      exact keeps_get (spells_profilePage (by decide) (by decide) account)
        (.followees account) _ _
  | savePost post folder => exact keeps_save spells_postRoute (.savePost post folder) _ _
  | saveStoryItem item folder =>
      exact keeps_save spells_storyItemRoute (.saveStoryItem item folder) _ _
  | posts listing filter options => exact keeps_posts filter options listing
  | stories filter options => exact keeps_stories filter options
  | profile account filters options => exact keeps_profile account filters options

end Access

/-- A world without a service, whose user gives up. -/
def unreachable : World exchanges := fun _ deed =>
  match deed with
  | .call _ => .error "no connection"
  | .pollInterrupt => true
  | .probeFile _ => false
  | .readText path => .error (.missing path)
  | .writePrivate _ _ => .ok ()
  | .askPassword _ => none
  | .log _ _ => ()

/-- An endpoint with a path. -/
def sampleEndpoint : Url :=
  ⟨"http", "", "", some (.name "service"), none, .segments ["api"], none, none⟩

end Http

end Harvest
