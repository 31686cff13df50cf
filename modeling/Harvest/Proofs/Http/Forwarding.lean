import Harvest.Proofs.Http.Requests
import Harvest.Proofs.Item.Codec
import Harvest.Proofs.Run.Course

/-!
What a retriever has the service save. Every item that is posted was given before, by an answer of
the service or by its caller, and it is posted in its saved form next to a target.
-/

namespace Harvest

open Harvest.Filter (Filters Predicate)
open Http (Access Fetch Method Request Response Savable Settings Web attempt exchanges judge)
open Program (Complies)

/-! ## Items that are given, accepted and saved -/

/-- The nodes of a document: itself, and its items if it is a list. -/
def Json.nodes : Json → List Json
  | .list items => .list items :: items
  | document => [document]

/-- A value that is read item by item comes from one of the items. -/
theorem exists_item_of_mapM {α β : Type} {read : α → Option β} {items : List α} {values : List β}
    (each : items.mapM read = some values) {value : β} (inside : value ∈ values) :
    ∃ item ∈ items, read item = some value := by
  induction items generalizing values with
  | nil =>
      cases each
      cases inside
  | cons first rest ih =>
      rw [List.mapM_cons] at each
      obtain ⟨head, here, others⟩ := Option.bind_eq_some_iff.1 each
      obtain ⟨tail, there, same⟩ := Option.bind_eq_some_iff.1 others
      cases same
      rcases List.mem_cons.1 inside with rfl | later
      · exact ⟨first, List.mem_cons_self, here⟩
      · obtain ⟨item, isItem, found⟩ := ih there later
        exact ⟨item, List.mem_cons_of_mem first isItem, found⟩

/-- What is read in a list comes from its items. -/
theorem Json.exists_node_of_asList? {α : Type} {read : Json → Option α} {document : Json}
    {values : List α} (decoded : Json.asList? read document = some values) {value : α}
    (inside : value ∈ values) : ∃ node ∈ document.nodes, read node = some value := by
  unfold Json.asList? at decoded
  split at decoded
  · obtain ⟨node, isItem, found⟩ := exists_item_of_mapM decoded inside
    exact ⟨node, List.mem_cons_of_mem _ isItem, found⟩
  · contradiction

theorem Json.mem_nodes (document : Json) : document ∈ document.nodes := by
  cases document <;> exact List.mem_cons_self

namespace Descriptor

/-- Filters accept an item. -/
def IsAccepted (filters : Filters) (item : Descriptor) : Prop :=
  ∃ subject, item.subject? = some subject ∧ filters.accept subject = .ok true

/-- A node of a document decodes to an item. -/
def IsNodeOf (item : Descriptor) (document : Json) : Prop :=
  ∃ node ∈ document.nodes, decode? item.typeName node = some item

end Descriptor

namespace Http

/-- A successful response lists an item or is one. -/
def Response.Gives (response : Response) (item : Descriptor) : Prop :=
  200 ≤ response.status ∧ response.status < 300 ∧
    ∃ document, Json.ofContents? response.body = some document ∧ item.IsNodeOf document

/-- The body of a request is the saved form of an item with a target. -/
def Request.Saves (request : Request) (item : Descriptor) : Prop :=
  ∃ target members, item.encode? = some (.object members) ∧
    request.body = some (.object (("target", .text target) :: members))

variable (given : Descriptor → Prop) (filters : Filters)

/-- What is read from the service gives given items only. -/
def TellsGiven {ε : Type} (request : Request) (answer : Except ε Response) : Prop :=
  request.method = .get → ∀ response, answer = .ok response →
    ∀ item, response.Gives item → given item

/-- A given item that is accepted. -/
def IsSavable (item : Descriptor) : Prop :=
  given item ∧ item.IsAccepted filters

/-- What is posted is a given item that is accepted. -/
def SavesGiven (request : Request) : Prop :=
  request.method = .post → ∃ item, request.Saves item ∧ IsSavable given filters item

/-- As long as only given items are read, only given items are posted, and something holds of the
result. -/
abbrev Forwards {α : Type} (holds : α → Prop) (program : Web α) : Prop :=
  program.Complies (Act.Tells (TellsGiven given) fun found => ∀ item, item.IsIn found → given item)
    (Act.Calls (SavesGiven given filters)) holds

/-- A part of a retrieval forwards given items, and something holds of what it comes to. -/
abbrev Fetches {α : Type} (holds : α → Prop) (fetch : Fetch α) : Prop :=
  Forwards given filters (fun result => ∀ value, result = .ok value → holds value) fetch.run

variable {given filters} {α β : Type} {holds : α → Prop} {middle : β → Prop}

theorem Fetches.bind {first : Fetch β} {second : β → Fetch α}
    (start : Fetches given filters middle first)
    (following : ∀ value, middle value → Fetches given filters holds (second value)) :
    Fetches given filters holds (first >>= second) := by
  refine Complies.bind start fun result fine => ?_
  cases result with
  | error fault => exact .done fun value impossible => nomatch impossible
  | ok value => exact following value (fine value rfl)

theorem fetches_ofExcept {result : Except RetrieveError α}
    (fine : ∀ value, result = .ok value → holds value) :
    Fetches given filters holds (Fetch.ofExcept result) := .done fine

theorem fetches_pure {value : α} (fine : holds value) :
    Fetches given filters holds (pure value) := by
  refine .done ?_
  rintro _ ⟨⟩
  exact fine

theorem fetches_inform (message : String) :
    Fetches given filters (fun _ => True) (ExceptT.lift (Program.inform message)) :=
  .act trivial fun _ _ => .done fun _ _ => trivial

/-! ## Requests -/

/-- All attempts send the same request, and a response to one of them tells what is promised. The
induction is on the attempts that are left. -/
theorem forwards_sendFrom {request : Request} (fine : SavesGiven given filters request)
    (path : String) (number repetitions : Nat) :
    Forwards given filters (TellsGiven given request)
      (sendFrom path request number repetitions) := by
  have failure {ε : Type} {fault : ε} :
      Forwards given filters (TellsGiven given request)
        (pure (.error fault) : Web (Except ε Response)) :=
    .done fun _ _ impossible => nomatch impossible
  have one : Forwards given filters (TellsGiven given request) (attempt request) := by
    unfold attempt
    split
    · exact failure
    · exact Program.complies_call fine
  have success {number : Nat} {outcome : Except String Response} {response : Response}
      (kept : TellsGiven given request outcome) (judged : judge path number outcome = .ok response) :
      Forwards given filters (TellsGiven given request)
        (pure (.ok response) : Web (Except RetrieveError Response)) := by
    refine .done ?_
    rintro reads _ ⟨⟩
    unfold judge at judged
    split at judged
    · contradiction
    · split at judged
      · contradiction
      · exact kept reads response (congrArg _ (Except.ok.inj judged))
  -- The acts between two attempts send nothing.
  have poll : Forwards given filters (fun _ => True) Program.interrupted :=
    .act trivial fun _ _ => .done trivial
  have warn (message : String) : Forwards given filters (fun _ => True) (Program.warn message) :=
    .act trivial fun _ _ => .done trivial
  induction repetitions generalizing number with
  | zero =>
      unfold sendFrom
      refine one.bind fun outcome kept => ?_
      split
      · next judged => exact success kept judged
      · refine poll.bind fun raised _ => ?_
        split
        · exact (warn _).bind fun _ _ => failure
        · exact failure
  | succ repetitions ih =>
      unfold sendFrom
      refine one.bind fun outcome kept => ?_
      split
      · next judged => exact success kept judged
      · refine poll.bind fun raised _ => ?_
        split
        · exact (warn _).bind fun _ _ => failure
        · exact (warn _).bind fun _ _ => ih (number + 1)

/-- A success has the contents of its response. -/
theorem checkStatus_eq_ok {path what : String} {response : Response} {contents : Contents}
    (success : checkStatus path what response = .ok contents) :
    200 ≤ response.status ∧ response.status < 300 ∧ contents = response.body := by
  unfold checkStatus at success
  split at success
  · next inRange => exact ⟨inRange.1, inRange.2, (Except.ok.inj success).symm⟩
  · split at success <;> try contradiction
    split at success <;> try contradiction
    split at success <;> contradiction

/-- What contents say is read from a document. -/
theorem exists_document_of_decodeBody {path : String} {read : Json → Option α}
    {contents : Contents} {value : α} (success : decodeBody path read contents = .ok value) :
    ∃ document, Json.ofContents? contents = some document ∧ read document = some value := by
  unfold decodeBody at success
  split at success
  · next found =>
      cases success
      exact Option.bind_eq_some_iff.1 found
  · contradiction

theorem presentLogin_body (request : Request) : request.presentLogin.body = request.body := by
  unfold Request.presentLogin
  split <;> rfl

namespace Access

variable {access : Access}

/-- What a request of a retriever is for: something that is read, or a given item that is saved. -/
inductive Purpose (given : Descriptor → Prop) (filters : Filters) : Method → Option Json → Prop where
  | read : Purpose given filters .get none
  | save {item : Descriptor} {members : List (String × Json)} (target : String)
      (saved : item.encode? = some (.object members)) (savable : IsSavable given filters item) :
      Purpose given filters .post (some (.object (("target", .text target) :: members)))

/-- A request with a purpose is allowed, and its answer tells what is promised. -/
theorem fetches_request {method : Method} {body : Option Json}
    (purpose : Purpose given filters method body) (path what : String) (read : Json → Option α) :
    Fetches given filters
      (fun value => method = .get → ∃ document, read document = some value ∧
        ∀ item, Descriptor.IsNodeOf item document → given item)
      (access.request method path body what read) := by
  have sent : Fetches given filters
      (fun response => method = .get → ∀ item, response.Gives item → given item)
      (access.settings.send method path body access.credential) := by
    have joined : Fetches given filters (fun _ => True)
        (Fetch.ofExcept (access.settings.locate path)) := fetches_ofExcept fun _ _ => trivial
    refine joined.bind fun url _ => ?_
    have fine : SavesGiven given filters
        (Request.presentLogin ⟨method, url, none, access.credential,
          access.settings.userAgent, body⟩) := by
      rw [SavesGiven, presentLogin_method]
      intro posts
      cases purpose with
      | read => contradiction
      | save target saved savable =>
          exact ⟨_, ⟨target, _, saved, presentLogin_body _⟩, savable⟩
    refine (forwards_sendFrom fine path 1 _).imp fun result kept response same reads => ?_
    rw [TellsGiven, presentLogin_method] at kept
    exact kept reads response same
  refine sent.bind fun response told => ?_
  have checked : Fetches given filters
      (fun contents => 200 ≤ response.status ∧ response.status < 300 ∧ contents = response.body)
      (Fetch.ofExcept (checkStatus path what response)) :=
    fetches_ofExcept fun _ success => checkStatus_eq_ok success
  refine checked.bind fun contents succeeded => ?_
  obtain ⟨lower, upper, rfl⟩ := succeeded
  refine fetches_ofExcept fun value success reads => ?_
  obtain ⟨document, held, decoded⟩ := exists_document_of_decodeBody success
  exact ⟨document, decoded, fun item isNode =>
    told reads item ⟨lower, upper, document, held, isNode⟩⟩

/-- What is read at a path is a document whose items are given. -/
theorem fetches_get (path what : String) (read : Json → Option α) :
    Fetches given filters
      (fun value => ∃ document, read document = some value ∧
        ∀ item, Descriptor.IsNodeOf item document → given item)
      (access.get path what read) :=
  (fetches_request .read path what read).imp fun _ told value same => told value same rfl

theorem fetches_posts (path what : String) :
    Fetches given filters (fun posts => ∀ post ∈ posts, given (.post post))
      (access.get path what (Json.asList? Post.decode?)) := by
  refine (fetches_get path what _).imp fun result told posts same post inside => ?_
  obtain ⟨document, decoded, kept⟩ := told posts same
  obtain ⟨node, isNode, found⟩ := Json.exists_node_of_asList? decoded inside
  refine kept _ ⟨node, isNode, ?_⟩
  rw [Descriptor.typeName, Descriptor.decode?_post, found, Option.map_some]

theorem fetches_stories (path what : String) :
    Fetches given filters (fun stories => ∀ story ∈ stories, given (.storyItem story))
      (access.get path what (Json.asList? StoryItem.decode?)) := by
  refine (fetches_get path what _).imp fun result told stories same story inside => ?_
  obtain ⟨document, decoded, kept⟩ := told stories same
  obtain ⟨node, isNode, found⟩ := Json.exists_node_of_asList? decoded inside
  refine kept _ ⟨node, isNode, ?_⟩
  rw [Descriptor.typeName, Descriptor.decode?_storyItem, found, Option.map_some]

theorem fetches_profile (path what : String) :
    Fetches given filters (fun profile => given (.profile profile))
      (access.get path what Profile.decode?) := by
  refine (fetches_get path what _).imp fun result told profile same => ?_
  obtain ⟨document, decoded, kept⟩ := told profile same
  refine kept _ ⟨document, document.mem_nodes, ?_⟩
  rw [Descriptor.typeName, Descriptor.decode?_profile, decoded, Option.map_some]

/-! ## Saves -/

/-- A savable item is saved for a target. -/
theorem fetches_save {item : Descriptor} {members : List (String × Json)}
    (saved : item.encode? = some (.object members)) (savable : IsSavable given filters item)
    (path target : String) :
    Fetches given filters (fun _ => True) (access.save path target members) :=
  (fetches_request (.save target saved savable) path path downloadedOf?).imp
    fun _ _ _ _ => trivial

/-- What is on its way to be saved stands for a given item, and the filters treat it as a filter
does. -/
structure Carries (given : Descriptor → Prop) (filters : Filters) (filter : Option Predicate)
    (savable : Savable) (item : Descriptor) : Prop where
  given : given item
  saved : item.encode? = some (.object savable.fields)
  seen : item.subject? = some savable.subject
  filtered : filter = filters.forKind savable.subject.kind

/-- What passes the filter of its kind is accepted. -/
theorem fetches_passes {filter : Option Predicate} (savable : Savable)
    (filtered : filter = filters.forKind savable.subject.kind) :
    Fetches given filters
      (fun accepted => accepted = true → filters.accept savable.subject = .ok true)
      (passes filter savable) := by
  refine fetches_ofExcept fun accepted passed => ?_
  rintro rfl
  rw [Filters.accept, ← filtered]
  cases outcome : Filter.passes filter savable.subject with
  | error fault =>
      rw [outcome] at passed
      contradiction
  | ok accepted =>
      rw [outcome] at passed
      exact congrArg _ (Except.ok.inj passed)

/-- Of items that are given, those that pass the filter are saved. The induction is on the items
that are left. -/
theorem fetches_saveAll {filter : Option Predicate} {items : List Savable}
    (each : ∀ savable ∈ items, ∃ item, Carries given filters filter savable item)
    (path target : String) (options : BulkOptions) (tally : Tally) :
    Fetches given filters (fun _ => True)
      (access.saveAll path target filter options tally items) := by
  induction items generalizing tally with
  | nil => exact fetches_pure trivial
  | cons savable rest ih =>
      obtain ⟨⟨item, carries⟩, others⟩ := List.forall_mem_cons.1 each
      unfold saveAll
      split
      · exact fetches_pure trivial
      · refine (fetches_passes savable carries.filtered).bind fun accepted passed => ?_
        split
        · next isAccepted =>
            have fine : IsSavable given filters item :=
              ⟨carries.given, _, carries.seen, passed isAccepted⟩
            refine (fetches_save carries.saved fine path target).bind fun downloaded _ => ?_
            split
            · exact fetches_pure trivial
            · exact ih others _
        · exact (fetches_inform _).bind fun _ _ => ih others _

theorem fetches_savePosts (path what target : String) (options : BulkOptions) :
    Fetches given filters (fun _ => True)
      (access.savePosts path what target filters.post options) := by
  refine (fetches_posts path what).bind fun posts told => ?_
  refine fetches_saveAll (fun savable inside => ?_) postRoute target options Tally.zero
  obtain ⟨post, listed, rfl⟩ := List.mem_map.1 inside
  exact ⟨.post post, told post listed, rfl, rfl, rfl⟩

theorem fetches_saveStories (path what target : String) (options : BulkOptions) :
    Fetches given filters (fun _ => True)
      (access.saveStories path what target filters.storyItem options) := by
  refine (fetches_stories path what).bind fun stories told => ?_
  refine fetches_saveAll (fun savable inside => ?_) storyItemRoute target options Tally.zero
  obtain ⟨story, listed, rfl⟩ := List.mem_map.1 inside
  exact ⟨.storyItem story, told story listed, rfl, rfl, rfl⟩

theorem fetches_requireLogin (what : String) :
    Fetches given filters (fun _ => True) (access.requireLogin what) :=
  fetches_ofExcept fun _ _ => trivial

/-- No filter applies to profiles, so that every profile is accepted. -/
theorem fetches_profilePicture (account : String) {profile : Profile}
    (known : given (.profile profile)) (isWanted : Bool) :
    Fetches given filters (fun _ => True) (access.profilePicture account profile isWanted) := by
  unfold profilePicture
  split
  · have savable : IsSavable given filters (.profile profile) := ⟨known, profile.subject, rfl, rfl⟩
    exact (fetches_save rfl savable pictureRoute account).bind fun _ _ => fetches_pure trivial
  · exact fetches_pure trivial

theorem fetches_profilePosts (account : String) (options : ProfileOptions) :
    Fetches given filters (fun _ => True)
      (access.profilePosts account filters.post options) := by
  unfold profilePosts
  split
  · exact (fetches_inform _).bind fun _ _ => fetches_savePosts _ _ _ _
  · exact fetches_pure trivial

theorem fetches_profileStories (account : String) (options : ProfileOptions) :
    Fetches given filters (fun _ => True)
      (access.profileStories account filters.storyItem options) := by
  unfold profileStories
  split
  · exact (fetches_requireLogin _).bind fun _ _ =>
      (fetches_inform _).bind fun _ _ => fetches_saveStories _ _ _ _
  · exact fetches_pure trivial

theorem fetches_account (account : String) (options : ProfileOptions) :
    Fetches given filters (fun _ => True) (access.profile account filters options) := by
  refine (fetches_profile (profilePath account) _).bind fun profile known => ?_
  refine (fetches_profilePicture account known _).bind fun picture _ => ?_
  refine (fetches_profilePosts account options).bind fun posts _ => ?_
  exact (fetches_profileStories account options).bind fun stories _ => fetches_pure trivial

theorem fetches_listing (listing : PostListing) (options : BulkOptions) :
    Fetches given filters (fun _ => True) (access.posts listing filters.post options) := by
  cases listing with
  | hashtag tag => exact fetches_savePosts _ _ _ _
  | feed => exact (fetches_requireLogin _).bind fun _ _ => fetches_savePosts _ _ _ _
  | saved => exact (fetches_requireLogin _).bind fun _ _ => fetches_savePosts _ _ _ _

end Access

end Http

/-- A retrieval works with some filters, and an item that it is to save is given and accepted. -/
def Retrieval.WorksWith (given : Descriptor → Prop) (filters : Filters) : Retrieval → Prop
  | .followees _ => True
  | .savePost post _ => Http.IsSavable given filters (.post post)
  | .saveStoryItem item _ => Http.IsSavable given filters (.storyItem item)
  | .posts _ filter _ => filter = filters.post
  | .stories filter _ => filter = filters.storyItem
  | .profile _ others _ => others = filters

/-- A retrieval posts only items that are given and accepted, in their saved form. -/
theorem Http.forwards_carryOut {given : Descriptor → Prop} {filters : Filters} (access : Access)
    {retrieval : Retrieval} (works : retrieval.WorksWith given filters) :
    Forwards given filters (fun _ => True) (access.carryOut retrieval) := by
  have done {α : Type} {fetch : Fetch α} (fetches : Fetches given filters (fun _ => True) fetch) :
      Forwards given filters (fun _ => True) fetch.run := fetches.imp fun _ _ => trivial
  cases retrieval with
  | followees account =>
      exact (Access.fetches_request .read _ _ _).imp fun _ _ => trivial
  | savePost post folder => exact done (Access.fetches_save rfl works _ _)
  | saveStoryItem item folder => exact done (Access.fetches_save rfl works _ _)
  | posts listing filter options =>
      obtain rfl : filter = filters.post := works
      exact done (Access.fetches_listing listing options)
  | stories filter options =>
      obtain rfl : filter = filters.storyItem := works
      exact done ((Access.fetches_requireLogin _).bind fun _ _ =>
        Access.fetches_saveStories _ _ _ _)
  | profile account others options =>
      obtain rfl : others = filters := works
      exact done (Access.fetches_account account options)

end Harvest
