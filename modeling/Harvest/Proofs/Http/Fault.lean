import Harvest.Http.Retrieval
import Harvest.Proofs.Program
import Harvest.Proofs.Run.Handling

/-!
What a retrieval may fail for. Whatever the service answers, a fault of a retrieval is one of its
requests, one of its filters on an item of their kind, or the want of a login for what needs one.
-/

namespace Harvest

open Harvest.Filter (EvalError Filters Predicate)
open Http (Savable)

/-- A fault of a request or of the answer to it. -/
inductive RetrieveError.IsOfRequest : RetrieveError → Prop where
  | notFound (what : String) : IsOfRequest (.notFound what)
  | denied (what : String) : IsOfRequest (.loginRequired s!"{what} requires login")
  | rateLimited : IsOfRequest .rateLimited
  | connection (attempts : Nat) (reason : String) : IsOfRequest (.connection attempts reason)
  | service (status : Nat) (path : String) : IsOfRequest (.service status path)
  | interrupted (path : String) (attempts : Nat) : IsOfRequest (.interrupted path attempts)
  | undecodable (path reason : String) : IsOfRequest (.undecodable path reason)

/-- The fault for want of a login. -/
def RetrieveError.refusal (what : String) : RetrieveError :=
  .loginRequired s!"--login=USERNAME required to download {what}."

namespace Retrieval

/-- What a retrieval needs a login for. -/
inductive NeedsLogin : Retrieval → String → Prop where
  | feed (filter : Option Predicate) (options : BulkOptions) :
      NeedsLogin (.posts .feed filter options) "feed"
  | saved (filter : Option Predicate) (options : BulkOptions) :
      NeedsLogin (.posts .saved filter options) "saved posts"
  | stories (filter : Option Predicate) (options : BulkOptions) :
      NeedsLogin (.stories filter options) "stories"
  | profile (account : String) (filters : Filters) {options : ProfileOptions}
      (wanted : options.stories = true) : NeedsLogin (.profile account filters options) "stories"

/-- The filters that a retrieval uses on posts and on story items. -/
def filters : Retrieval → Filters
  | .posts _ filter _ => ⟨filter, none⟩
  | .stories filter _ => ⟨none, filter⟩
  | .profile _ filters _ => filters
  | _ => ⟨none, none⟩

/-- What a retrieval with some credential may fail for. -/
inductive MayFail (retrieval : Retrieval) (credential : Option String) : RetrieveError → Prop where
  | request {fault : RetrieveError} (ofRequest : fault.IsOfRequest) :
      MayFail retrieval credential fault
  | post {post : Post} {fault : EvalError}
      (fails : Filter.passes retrieval.filters.post post.subject = .error fault) :
      MayFail retrieval credential (.filter post.display fault)
  | storyItem {item : StoryItem} {fault : EvalError}
      (fails : Filter.passes retrieval.filters.storyItem item.subject = .error fault) :
      MayFail retrieval credential (.filter item.display fault)
  | refused {what : String} (needed : retrieval.NeedsLogin what) (anonymous : credential = none) :
      MayFail retrieval credential (.refusal what)

end Retrieval

/-- No fault of a request is worded like the want of a login. -/
theorem RetrieveError.IsOfRequest.ne_refusal {fault : RetrieveError} (ofRequest : fault.IsOfRequest)
    (what : String) : fault ≠ .refusal what := by
  rintro rfl
  generalize same : RetrieveError.refusal what = fault at ofRequest
  cases ofRequest with
  | denied other =>
      -- The two wordings end in different characters.
      have wording := congrArg (fun text => text.toList.getLast?)
        (RetrieveError.loginRequired.inj same)
      have refused : ".".toList.getLast? = some '.' := by decide
      have denied : " requires login".toList.getLast? = some 'n' := by decide
      simp only [toString, String.toList_append, List.getLast?_append, refused, denied,
        Option.some_or] at wording
      exact absurd wording (by decide)
  | _ => cases same

/-- Only who is not logged in is refused, and only what needs a login. -/
theorem Retrieval.MayFail.of_refusal {retrieval : Retrieval} {credential : Option String}
    {what : String} (fails : retrieval.MayFail credential (.refusal what)) :
    credential = none ∧ ∃ other, retrieval.NeedsLogin other := by
  generalize same : RetrieveError.refusal what = fault at fails
  cases fails with
  | request ofRequest => exact absurd same.symm (ofRequest.ne_refusal what)
  | post _ | storyItem _ => cases same
  | refused needed anonymous => exact ⟨anonymous, _, needed⟩

/-- A result is no fault but one of a kind. -/
def Faults {α : Type} (kind : RetrieveError → Prop) (result : Except RetrieveError α) : Prop :=
  ∀ fault, result = .error fault → kind fault

section Faults

variable {α β : Type} {kind : RetrieveError → Prop}

theorem Faults.ok (value : α) : Faults kind (.ok value) := nofun

theorem Faults.error {fault : RetrieveError} (fine : kind fault) :
    Faults kind (.error fault : Except RetrieveError α) := by
  rintro _ ⟨⟩
  exact fine

theorem faults_map {result : Except RetrieveError α} {convert : α → β} :
    Faults kind (result.map convert) ↔ Faults kind result := by
  cases result <;> simp [Faults, Except.map]

end Faults

namespace Http

variable {α β : Type} {kind : RetrieveError → Prop}

/-- A part of a retrieval fails for one of some reasons, whatever the answers. -/
def Fetch.FailsFor (kind : RetrieveError → Prop) (fetch : Fetch α) : Prop :=
  Program.Always (Faults kind) fetch.run

theorem Fetch.failsFor_pure (value : α) : (pure value : Fetch α).FailsFor kind :=
  Faults.ok value

theorem Fetch.failsFor_ofExcept {result : Except RetrieveError α} (faults : Faults kind result) :
    (Fetch.ofExcept result).FailsFor kind :=
  faults

theorem Fetch.FailsFor.bind {first : Fetch α} {second : α → Fetch β} (start : first.FailsFor kind)
    (following : ∀ value, (second value).FailsFor kind) :
    (first >>= second).FailsFor kind := by
  refine Program.Ensures.bind start fun result faults => ?_
  cases result with
  | error fault => exact .error (faults fault rfl)
  | ok value => exact following value

theorem Fetch.failsFor_inform (message : String) :
    Fetch.FailsFor kind (ExceptT.lift (Program.inform message)) :=
  fun _ _ => .ok _

/-! ## Requests -/

section Requests

theorem faults_judge (path : String) (number : Nat) (outcome : Except String Response) :
    Faults RetrieveError.IsOfRequest (judge path number outcome) := by
  unfold judge
  split
  · exact .error (.connection number _)
  · split
    · exact .error (.service _ path)
    · exact .ok _

/-- Attempts fail for the last of them, or for the user. -/
theorem always_sendFrom (path : String) (request : Request) (number repetitions : Nat) :
    Program.Always (Faults RetrieveError.IsOfRequest)
      (sendFrom path request number repetitions) := by
  induction repetitions generalizing number with
  | zero =>
      unfold sendFrom
      refine Program.Ensures.after fun outcome => ?_
      split
      · exact Faults.ok _
      · next fault judged =>
          refine Program.Ensures.after fun raised => ?_
          cases raised with
          | true => exact fun _ _ => Faults.error (.interrupted path number)
          | false => exact Faults.error (faults_judge path number outcome fault judged)
  | succ repetitions ih =>
      unfold sendFrom
      refine Program.Ensures.after fun outcome => ?_
      split
      · exact Faults.ok _
      · refine Program.Ensures.after fun raised => ?_
        cases raised with
        | true => exact fun _ _ => Faults.error (.interrupted path number)
        | false => exact fun _ _ => ih (number + 1)

theorem faults_checkStatus (path what : String) (response : Response) :
    Faults RetrieveError.IsOfRequest (checkStatus path what response) := by
  unfold checkStatus
  split
  · exact .ok _
  · split
    · exact .error (.denied what)
    · split
      · exact .error (.notFound what)
      · split
        · exact .error .rateLimited
        · exact .error (.service _ path)

theorem faults_decodeBody (path : String) (read : Json → Option α) (body : Contents) :
    Faults RetrieveError.IsOfRequest (decodeBody path read body) := by
  unfold decodeBody
  split
  · exact .ok _
  · exact .error (.undecodable path _)

theorem failsFor_send (settings : Settings) (method : Method) (path : String) (body : Option Json)
    (credential : Option String) :
    (settings.send method path body credential).FailsFor RetrieveError.IsOfRequest := by
  have located : Faults RetrieveError.IsOfRequest (settings.locate path) := by
    unfold Settings.locate
    split
    · exact .ok _
    · exact .error (.undecodable path _)
  exact (Fetch.failsFor_ofExcept located).bind fun url => always_sendFrom _ _ _ _

end Requests

namespace Access

variable {access : Access} (requests : ∀ fault, RetrieveError.IsOfRequest fault → kind fault)

include requests

theorem failsFor_request (method : Method) (path : String) (body : Option Json) (what : String)
    (read : Json → Option α) : (access.request method path body what read).FailsFor kind := by
  have ofRequest : (access.request method path body what read).FailsFor
      RetrieveError.IsOfRequest := by
    refine (failsFor_send _ _ _ _ _).bind fun response => ?_
    refine (Fetch.failsFor_ofExcept (faults_checkStatus _ _ _)).bind fun contents => ?_
    exact Fetch.failsFor_ofExcept (faults_decodeBody _ _ _)
  exact ofRequest.imp fun result faults fault failed => requests fault (faults fault failed)

omit requests in
/-- What needs a login is refused for want of one only. -/
theorem failsFor_requireLogin {what : String}
    (refused : access.credential = none → kind (.refusal what)) :
    (access.requireLogin what).FailsFor kind := by
  refine Fetch.failsFor_ofExcept ?_
  split
  · exact .ok ()
  · next anonymous => exact .error (refused (by simpa using anonymous))

/-- Items fail for their requests or for the filter on one of them. -/
theorem failsFor_saveAll {filter : Option Predicate} {items : List Savable}
    (filtered : ∀ item ∈ items, ∀ fault, Filter.passes filter item.subject = .error fault →
      kind (.filter item.display fault)) (path target : String) (options : BulkOptions)
    (tally : Tally) : (access.saveAll path target filter options tally items).FailsFor kind := by
  induction items generalizing tally with
  | nil => exact Fetch.failsFor_pure tally
  | cons item rest ih =>
      obtain ⟨here, others⟩ := List.forall_mem_cons.1 filtered
      have passed : (passes filter item).FailsFor kind := by
        refine Fetch.failsFor_ofExcept ?_
        cases judged : Filter.passes filter item.subject with
        | ok accepted => exact .ok accepted
        | error fault => exact .error (here fault judged)
      unfold saveAll
      split
      · exact Fetch.failsFor_pure tally
      · refine passed.bind fun accepted => ?_
        split
        · refine (failsFor_request requests _ _ _ _ _).bind fun downloaded => ?_
          split
          · exact Fetch.failsFor_pure _
          · exact ih others _
        · exact (Fetch.failsFor_inform _).bind fun _ => ih others _

section Items

variable {filter : Option Predicate}

theorem failsFor_savePosts
    (filtered : ∀ (post : Post) fault, Filter.passes filter post.subject = .error fault →
      kind (.filter post.display fault)) (path what target : String) (options : BulkOptions) :
    (access.savePosts path what target filter options).FailsFor kind := by
  refine (failsFor_request requests _ _ _ _ _).bind fun posts => ?_
  refine failsFor_saveAll requests ?_ _ _ _ _
  simp only [List.mem_map]
  rintro _ ⟨post, -, rfl⟩
  exact filtered post

theorem failsFor_saveStories
    (filtered : ∀ (item : StoryItem) fault, Filter.passes filter item.subject = .error fault →
      kind (.filter item.display fault)) (path what target : String) (options : BulkOptions) :
    (access.saveStories path what target filter options).FailsFor kind := by
  refine (failsFor_request requests _ _ _ _ _).bind fun stories => ?_
  refine failsFor_saveAll requests ?_ _ _ _ _
  simp only [List.mem_map]
  rintro _ ⟨item, -, rfl⟩
  exact filtered item

end Items

omit requests

section Retrievals

variable (access) (filter : Option Predicate) (bulk : BulkOptions)

theorem failsFor_posts (listing : PostListing) :
    (access.posts listing filter bulk).FailsFor
      (Retrieval.MayFail (.posts listing filter bulk) access.credential) := by
  cases listing with
  | hashtag tag =>
      exact failsFor_savePosts (fun _ => .request) (fun _ _ fails => .post fails) _ _ _ _
  | feed =>
      refine (failsFor_requireLogin (.refused (.feed filter bulk))).bind fun _ => ?_
      exact failsFor_savePosts (fun _ => .request) (fun _ _ fails => .post fails) _ _ _ _
  | saved =>
      refine (failsFor_requireLogin (.refused (.saved filter bulk))).bind fun _ => ?_
      exact failsFor_savePosts (fun _ => .request) (fun _ _ fails => .post fails) _ _ _ _

theorem failsFor_stories :
    (access.stories filter bulk).FailsFor
      (Retrieval.MayFail (.stories filter bulk) access.credential) := by
  refine (failsFor_requireLogin (.refused (.stories filter bulk))).bind fun _ => ?_
  exact failsFor_saveStories (fun _ => .request) (fun _ _ fails => .storyItem fails) _ _ _ _

variable (account : String) (filters : Filters) (options : ProfileOptions)

theorem failsFor_profile :
    (access.profile account filters options).FailsFor
      (Retrieval.MayFail (.profile account filters options) access.credential) := by
  refine (failsFor_request (fun _ => .request) _ _ _ _ _).bind fun profile => ?_
  have picture : (access.profilePicture account profile options.profilePicture).FailsFor
      (Retrieval.MayFail (.profile account filters options) access.credential) := by
    unfold profilePicture
    split
    · exact (failsFor_request (fun _ => .request) _ _ _ _ _).bind fun _ => Fetch.failsFor_pure _
    · exact Fetch.failsFor_pure _
  have posts : (access.profilePosts account filters.post options).FailsFor
      (Retrieval.MayFail (.profile account filters options) access.credential) := by
    unfold profilePosts
    split
    · exact (Fetch.failsFor_inform _).bind fun _ =>
        failsFor_savePosts (fun _ => .request) (fun _ _ fails => .post fails) _ _ _ _
    · exact Fetch.failsFor_pure _
  have stories : (access.profileStories account filters.storyItem options).FailsFor
      (Retrieval.MayFail (.profile account filters options) access.credential) := by
    unfold profileStories
    split
    · next wanted =>
        refine (failsFor_requireLogin (.refused (.profile account filters wanted))).bind fun _ => ?_
        exact (Fetch.failsFor_inform _).bind fun _ =>
          failsFor_saveStories (fun _ => .request) (fun _ _ fails => .storyItem fails) _ _ _ _
    · exact Fetch.failsFor_pure _
  exact picture.bind fun _ => posts.bind fun _ => stories.bind fun _ => Fetch.failsFor_pure _

end Retrievals

/-- A retrieval fails for its requests, for its filters or for want of a login, whatever the service
answers. -/
theorem always_carryOut (access : Access) (retrieval : Retrieval) :
    (access.carryOut retrieval).Always fun answer =>
      Faults (retrieval.MayFail access.credential) (retrieval.outcome answer) := by
  cases retrieval with
  | followees account | savePost item folder | saveStoryItem item folder =>
      exact (failsFor_request (fun _ => .request) _ _ _ _ _).imp fun _ => faults_map.2
  | posts listing filter options => exact failsFor_posts access filter options listing
  | stories filter options => exact failsFor_stories access filter options
  | profile account filters options => exact failsFor_profile access account filters options

end Access

end Http

end Harvest
