import Harvest.Proofs.Http.Retry
import Harvest.Proofs.Http.Success
import Harvest.Proofs.Result

/-!
Answers that something does not exist. A part of a retrieval tells of an absence for an answer of
404 and for nothing else, and that answer is its last event. Reads and saves judge the status of an
answer alike: an account that is missing is named as such, and a save that is not found is named by
its route.
-/

namespace Harvest.Http

open Access (Follows path_attempt path_bind_cases path_sendFrom_cases)
open Program (path_pure_iff)

variable {α β : Type}

/-- An event is the answer of 404 to a request. -/
def Misses (event : Event exchanges) (request : Request) : Prop :=
  ∃ body, event = ⟨.call request, .ok ⟨404, body⟩⟩

/-- No event is an answer of 404. -/
def Unmissed (events : Journal exchanges) : Prop :=
  ∀ event ∈ events, ∀ request, ¬Misses event request

theorem unmissed_nil : Unmissed [] := fun _ inside => absurd inside List.not_mem_nil

theorem unmissed_append {first second : Journal exchanges} :
    Unmissed (first ++ second) ↔ Unmissed first ∧ Unmissed second :=
  List.forall_mem_append

/-- What sends nothing misses nothing. -/
theorem unmissed_of_requestsOf {events : Journal exchanges} (silent : requestsOf events = []) :
    Unmissed events := by
  rintro _ inside request ⟨body, rfl⟩
  have sent : request ∈ requestsOf events := mem_requestsOf.2 ⟨_, inside⟩
  rw [silent] at sent
  contradiction

/-- Another answer than 404 is no miss. -/
theorem unmissed_singleton {request : Request} {outcome : Except String Response}
    (other : ∀ body, outcome ≠ .ok ⟨404, body⟩) : Unmissed [⟨.call request, outcome⟩] := by
  refine List.forall_mem_singleton.2 ?_
  rintro made ⟨body, same⟩
  exact other body (eq_of_heq (Event.mk.inj same).2)

/-- No request to save something is answered with 404. -/
def SavesFound (events : Journal exchanges) : Prop :=
  ∀ event ∈ events, ∀ request, Misses event request → request.method ≠ .post

/-- How a part of a retrieval ends: nothing is missed and it tells of no absence, or its last event
is a missed request and it tells of what that request is about. -/
inductive FetchEnding (about : Request → String → Prop) :
    Journal exchanges → Except RetrieveError α → Prop where
  | present {events : Journal exchanges} {result : Except RetrieveError α}
      (unmissed : Unmissed events) (found : ∀ what, result ≠ .error (.notFound what)) :
      FetchEnding about events result
  | absent {before : Journal exchanges} {event : Event exchanges} {request : Request}
      {what : String} (unmissed : Unmissed before) (misses : Misses event request)
      (named : about request what) : FetchEnding about (before ++ [event]) (.error (.notFound what))

/-- How a call ends: with its first answer of 404, or with another answer or a fault. -/
inductive CallEnding (sends : Request → Prop) :
    Journal exchanges → Except RetrieveError Response → Prop where
  | present {events : Journal exchanges} {result : Except RetrieveError Response}
      (unmissed : Unmissed events) (found : ∀ what, result ≠ .error (.notFound what))
      (other : ∀ response, result = .ok response → response.status ≠ 404) :
      CallEnding sends events result
  | absent {before : Journal exchanges} {request : Request} {body : Contents}
      (unmissed : Unmissed before) (sent : sends request) :
      CallEnding sends (before ++ [⟨.call request, .ok ⟨404, body⟩⟩]) (.ok ⟨404, body⟩)

section Endings

variable {about : Request → String → Prop} {sends : Request → Prop}

/-- Events before that miss nothing do not matter. -/
theorem FetchEnding.after {earlier later : Journal exchanges} {result : Except RetrieveError α}
    (unmissed : Unmissed earlier) (ending : FetchEnding about later result) :
    FetchEnding about (earlier ++ later) result := by
  cases ending with
  | present others found => exact .present (unmissed_append.2 ⟨unmissed, others⟩) found
  | absent others misses named =>
      rw [← List.append_assoc]
      exact .absent (unmissed_append.2 ⟨unmissed, others⟩) misses named

theorem CallEnding.after {earlier later : Journal exchanges}
    {result : Except RetrieveError Response} (unmissed : Unmissed earlier)
    (ending : CallEnding sends later result) : CallEnding sends (earlier ++ later) result := by
  cases ending with
  | present others found other =>
      exact .present (unmissed_append.2 ⟨unmissed, others⟩) found other
  | absent others sent =>
      rw [← List.append_assoc]
      exact .absent (unmissed_append.2 ⟨unmissed, others⟩) sent

/-- What an absence is about may be told in other terms. -/
theorem FetchEnding.imp {other : Request → String → Prop} {events : Journal exchanges}
    {result : Except RetrieveError α} (ending : FetchEnding about events result)
    (widen : ∀ event ∈ events, ∀ request what, Misses event request → about request what →
      other request what) : FetchEnding other events result := by
  cases ending with
  | present unmissed found => exact .present unmissed found
  | absent unmissed misses named =>
      exact .absent unmissed misses (widen _ List.mem_concat_self _ _ misses named)

/-- An absence is told exactly when something is missed. -/
theorem FetchEnding.notFound_iff {events : Journal exchanges} {result : Except RetrieveError α}
    (ending : FetchEnding about events result) :
    (∃ what, result = .error (.notFound what)) ↔ ¬Unmissed events := by
  cases ending with
  | present unmissed found =>
      exact ⟨fun ⟨what, told⟩ => absurd told (found what), fun missed => absurd unmissed missed⟩
  | @absent _ event request what _ misses _ =>
      refine ⟨fun _ unmissed => ?_, fun _ => ⟨what, rfl⟩⟩
      exact unmissed event List.mem_concat_self request misses

end Endings

/-! ## Calls -/

section Calls

variable {path what : String} {number : Nat} {outcome : Except String Response}

/-- What is judged a success is the answer itself. -/
theorem outcome_of_judged {response : Response}
    (judged : judge path number outcome = .ok response) : outcome = .ok response := by
  unfold judge at judged
  split at judged
  · contradiction
  · split at judged
    · contradiction
    · exact congrArg Except.ok (Except.ok.inj judged)

/-- An attempt that fails has not been answered with 404, and its fault tells of no absence. -/
theorem apart_of_judged {fault : RetrieveError}
    (judged : judge path number outcome = .error fault) :
    (∀ body, outcome ≠ .ok ⟨404, body⟩) ∧ ∀ what, fault ≠ .notFound what := by
  unfold judge at judged
  split at judged
  · obtain rfl := Except.error.inj judged
    exact ⟨nofun, nofun⟩
  · next response =>
      split at judged
      · next failing =>
          obtain rfl := Except.error.inj judged
          refine ⟨?_, nofun⟩
          rintro body ⟨⟩
          exact absurd failing.1 (by change ¬500 ≤ 404; decide)
      · contradiction

/-- An attempt that fails misses nothing. -/
theorem unmissed_of_judged {request : Request} {events : Journal exchanges} {fault : RetrieveError}
    (attempted : (attempt request).Path events outcome)
    (judged : judge path number outcome = .error fault) : Unmissed events := by
  obtain ⟨rfl, -⟩ | ⟨-, rfl⟩ := path_attempt attempted
  · exact unmissed_nil
  · exact unmissed_singleton (apart_of_judged judged).1

/-- An attempt that is judged a success ends its call. -/
theorem callEnding_of_judged {request : Request} {events : Journal exchanges} {response : Response}
    (attempted : (attempt request).Path events outcome)
    (judged : judge path number outcome = .ok response) :
    CallEnding (· = request) events (.ok response) := by
  obtain rfl := outcome_of_judged judged
  obtain ⟨-, reason, impossible⟩ | ⟨-, rfl⟩ := path_attempt attempted
  · contradiction
  obtain ⟨status, body⟩ := response
  by_cases missed : status = 404
  · subst missed
    exact @CallEnding.absent (· = request) [] request body unmissed_nil rfl
  · refine .present (unmissed_singleton ?_) nofun ?_
    · intro other same
      exact missed (congrArg Response.status (Except.ok.inj same))
    · intro other same
      rw [← Except.ok.inj same]
      exact missed

/-- What follows an attempt of a call ends it, if the attempts that are left do. -/
theorem callEnding_of_follows {request : Request} {repetitions : Nat}
    {before after : Journal exchanges} {result : Except RetrieveError Response}
    (attempted : (attempt request).Path before outcome)
    (following : Follows path request number repetitions outcome after result)
    (ends : ∀ fewer later, repetitions = fewer + 1 →
      (sendFrom path request (number + 1) fewer).Path later result →
      CallEnding (· = request) later result) :
    CallEnding (· = request) (before ++ after) result := by
  cases following with
  | answered judged =>
      rw [List.append_nil]
      exact callEnding_of_judged attempted judged
  | interrupted judged =>
      refine .after (unmissed_of_judged attempted judged) (.present ?_ nofun nofun)
      exact unmissed_of_requestsOf rfl
  | exhausted judged =>
      refine .after (unmissed_of_judged attempted judged) (.present ?_ ?_ nofun)
      · exact unmissed_of_requestsOf rfl
      · rintro what ⟨⟩
        exact (apart_of_judged judged).2 what rfl
  | @repeated fewer _ _ later _ judged again =>
      refine .after (unmissed_of_judged attempted judged) ?_
      have waiting : Unmissed
          [⟨.pollInterrupt, false⟩, ⟨.log .warn "Request failed, retrying", ()⟩] :=
        unmissed_of_requestsOf rfl
      exact (ends fewer later rfl again).after waiting

/-- A call ends with the first answer of 404 to it. The induction is on the repetitions that are
left; an attempt that is repeated has missed nothing. -/
theorem callEnding_sendFrom {request : Request} {repetitions : Nat} {events : Journal exchanges}
    {result : Except RetrieveError Response}
    (called : (sendFrom path request number repetitions).Path events result) :
    CallEnding (· = request) events result := by
  induction repetitions generalizing number events with
  | zero =>
      obtain ⟨_, _, _, rfl, attempted, following⟩ := path_sendFrom_cases called
      exact callEnding_of_follows attempted following nofun
  | succ repetitions ih =>
      obtain ⟨_, _, _, rfl, attempted, following⟩ := path_sendFrom_cases called
      refine callEnding_of_follows attempted following ?_
      rintro _ later ⟨⟩ again
      exact ih again

end Calls

namespace Access

variable {access : Access}

/-- A request to a path of the service under the credential of the retriever. -/
def SendsTo (access : Access) (method : Method) (path : String) (body : Option Json)
    (request : Request) : Prop :=
  ∃ url, access.settings.locate path = .ok url ∧
    request = access.settings.requestFor method url body access.credential

/-- Requests to a path end with the first answer of 404. -/
theorem callEnding_send {method : Method} {path : String} {body : Option Json}
    {events : Journal exchanges} {result : Except RetrieveError Response}
    (called : (access.settings.send method path body access.credential).run.Path events result) :
    CallEnding (access.SendsTo method path body) events result := by
  unfold Settings.send at called
  cases located : access.settings.locate path with
  | error fault =>
      rw [located] at called
      obtain ⟨rfl, rfl⟩ := path_pure_iff.1 called
      refine .present unmissed_nil ?_ nofun
      rintro what ⟨⟩
      unfold Settings.locate at located
      split at located <;> cases located
  | ok url =>
      rw [located] at called
      cases callEnding_sendFrom called with
      | present unmissed found other => exact .present unmissed found other
      | absent unmissed sent => exact .absent unmissed ⟨url, located, sent⟩

/-! ## Parts of a retrieval -/

/-- A part of a retrieval tells of absences as they are missed. -/
def Tells (about : Request → String → Prop) (fetch : Fetch α) : Prop :=
  ∀ events result, fetch.run.Path events result → FetchEnding about events result

variable {about : Request → String → Prop}

theorem tells_ofExcept {result : Except RetrieveError α}
    (found : ∀ what, result ≠ .error (.notFound what)) : Tells about (Fetch.ofExcept result) := by
  intro events outcome path
  obtain ⟨rfl, rfl⟩ := path_pure_iff.1 path
  exact .present unmissed_nil found

theorem tells_pure (value : α) : Tells about (pure value) := tells_ofExcept nofun

theorem tells_inform (message : String) :
    Tells about (ExceptT.lift (Program.inform message)) := by
  intro events result path
  cases path with
  | act answer rest =>
      cases rest
      exact .present (unmissed_of_requestsOf rfl) nofun

/-- What is missed ends a retrieval, and otherwise what follows decides. -/
theorem Tells.bind {first : Fetch α} {second : α → Fetch β} (start : Tells about first)
    (following : ∀ value, Tells about (second value)) : Tells about (first >>= second) := by
  intro events result path
  obtain ⟨fault, failed, rfl⟩ | ⟨before, after, middle, rfl, succeeded, rest⟩ :=
    path_bind_cases path
  · cases start events _ failed with
    | present unmissed found =>
        refine .present unmissed ?_
        rintro what ⟨⟩
        exact found what rfl
    | absent unmissed misses named => exact .absent unmissed misses named
  · cases start before _ succeeded with
    | present unmissed _ => exact (following middle after result rest).after unmissed

/-- A status says that something is not found exactly when it is 404. -/
theorem checkStatus_eq_notFound_iff {path what other : String} {response : Response} :
    checkStatus path what response = .error (.notFound other) ↔
      response.status = 404 ∧ what = other := by
  unfold checkStatus
  split
  · next success =>
      refine ⟨nofun, fun ⟨missed, _⟩ => ?_⟩
      omega
  split
  · next denied =>
      refine ⟨nofun, fun ⟨missed, _⟩ => ?_⟩
      omega
  split
  · next missed => simp [missed]
  · next other =>
      refine ⟨?_, fun ⟨missed, _⟩ => absurd missed other⟩
      split <;> exact nofun

/-- The body of an answer tells of no absence. -/
theorem decodeBody_ne_notFound {path what : String} {read : Json → Option α} {body : Contents} :
    decodeBody path read body ≠ .error (.notFound what) := by
  unfold decodeBody
  split <;> exact nofun

/-- What an answer comes to is told at once. -/
theorem request_eq {method : Method} {path what : String} {body : Option Json}
    {read : Json → Option α} : access.request method path body what read =
      access.settings.send method path body access.credential >>= fun response =>
        Fetch.ofExcept (checkStatus path what response >>= decodeBody path read) := by
  unfold request
  congr
  funext response
  cases checkStatus path what response <;> rfl

theorem tells_request {method : Method} {path what : String} {body : Option Json}
    (named : ∀ request, access.SendsTo method path body request → about request what)
    (read : Json → Option α) : Tells about (access.request method path body what read) := by
  intro events result path
  rw [request_eq] at path
  obtain ⟨fault, failed, rfl⟩ | ⟨before, after, response, rfl, answered, judged⟩ :=
    path_bind_cases path
  · cases callEnding_send failed with
    | present unmissed found _ =>
        refine .present unmissed ?_
        rintro what ⟨⟩
        exact found what rfl
  · obtain ⟨rfl, rfl⟩ := path_pure_iff.1 judged
    rw [List.append_nil]
    cases callEnding_send answered with
    | present unmissed _ other =>
        refine .present unmissed fun what told => ?_
        obtain failed | ⟨contents, -, failed⟩ := Result.bind_eq_error.1 told
        · exact other response rfl (checkStatus_eq_notFound_iff.1 failed).1
        · exact decodeBody_ne_notFound failed
    | absent unmissed sent => exact .absent unmissed ⟨_, rfl⟩ (named _ sent)

theorem tells_saveAll {path : String}
    (named : ∀ body request, access.SendsTo .post path (some body) request → about request path)
    (target : String) (filter : Option Filter.Predicate) (options : BulkOptions) (tally : Tally)
    (items : List Savable) :
    Tells about (access.saveAll path target filter options tally items) := by
  induction items generalizing tally with
  | nil => exact tells_pure tally
  | cons item rest ih =>
      unfold saveAll
      split
      · exact tells_pure tally
      · refine (tells_ofExcept ?_).bind fun accepted => ?_
        · intro what told
          obtain ⟨fault, -, impossible⟩ := Result.mapError_eq_error.1 told
          contradiction
        split
        · refine (tells_request (named _) _).bind fun downloaded => ?_
          split
          · exact tells_pure _
          · exact ih _
        · exact (tells_inform _).bind fun _ => ih _

section Profiles

/-- The pages of an account that its download reads. -/
def accountPaths (account : String) : List String :=
  [profilePath account, profilePath account ++ "/posts", profilePath account ++ "/stories"]

/-- The routes that the download of an account saves to. -/
def saveRoutes : List String := [pictureRoute, postRoute, storyItemRoute]

/-- A request for a page of an account. -/
def LooksUp (access : Access) (account : String) (request : Request) : Prop :=
  ∃ path ∈ accountPaths account, access.SendsTo .get path none request

/-- A request to save something at a route. -/
def SavesTo (access : Access) (route : String) (request : Request) : Prop :=
  route ∈ saveRoutes ∧ ∃ body, access.SendsTo .post route (some body) request

/-- The account is told to be absent for a page of it. -/
def Missing (access : Access) (account : String) (request : Request) (what : String) : Prop :=
  access.LooksUp account request ∧ what = s!"Profile {account}"

/-- What is told to be absent for a request of the download of an account. -/
inductive Absence (access : Access) (account : String) : Request → String → Prop where
  | lookup {request : Request} {what : String} (missing : access.Missing account request what) :
      Absence access account request what
  | save {route : String} {request : Request} (saves : access.SavesTo route request) :
      Absence access account request route

theorem SendsTo.method_eq {method : Method} {path : String} {body : Option Json}
    {request : Request} (sends : access.SendsTo method path body request) :
    request.method = method := by
  obtain ⟨url, -, rfl⟩ := sends
  exact presentLogin_method _

/-- What is told for another request than a save is told of the account. -/
theorem Absence.missing {account : String} {request : Request} {what : String}
    (absence : access.Absence account request what) (isRead : request.method ≠ .post) :
    access.Missing account request what := by
  cases absence with
  | lookup missing => exact missing
  | save saves =>
      obtain ⟨-, body, sends⟩ := saves
      exact absurd sends.method_eq isRead

variable (account : String)

theorem tells_lookup {path : String} (page : path ∈ accountPaths account)
    (read : Json → Option α) :
    Tells (access.Absence account) (access.get path s!"Profile {account}" read) :=
  tells_request (fun _ sends => .lookup ⟨⟨path, page, sends⟩, rfl⟩) read

theorem absence_of_save {route : String} (isRoute : route ∈ saveRoutes) (body : Json)
    (request : Request) (sends : access.SendsTo .post route (some body) request) :
    access.Absence account request route :=
  .save ⟨isRoute, body, sends⟩

variable (filters : Filter.Filters) (options : ProfileOptions)

theorem tells_profilePicture (profile : Profile) (isWanted : Bool) :
    Tells (access.Absence account) (access.profilePicture account profile isWanted) := by
  unfold profilePicture
  split
  · exact (tells_request (absence_of_save account (by decide) _) _).bind fun _ => tells_pure _
  · exact tells_pure _

theorem tells_profilePosts :
    Tells (access.Absence account) (access.profilePosts account filters.post options) := by
  unfold profilePosts
  split
  · refine (tells_inform _).bind fun _ => (tells_lookup account ?_ _).bind fun posts => ?_
    · simp [accountPaths]
    · exact tells_saveAll (absence_of_save account (by decide)) _ _ _ _ _
  · exact tells_pure _

theorem tells_profileStories :
    Tells (access.Absence account) (access.profileStories account filters.storyItem options) := by
  unfold profileStories
  split
  · refine (tells_ofExcept ?_).bind fun _ => (tells_inform _).bind fun _ =>
      (tells_lookup account ?_ _).bind fun stories => ?_
    · split <;> exact nofun
    · simp [accountPaths]
    · exact tells_saveAll (absence_of_save account (by decide)) _ _ _ _ _
  · exact tells_pure _

/-- The download of an account tells of an absence for a request that is missed, which is the last
one. -/
theorem tells_profile :
    Tells (access.Absence account) (access.profile account filters options) := by
  refine (tells_lookup account (by simp [accountPaths]) _).bind fun profile => ?_
  refine (tells_profilePicture account profile _).bind fun picture => ?_
  refine (tells_profilePosts account filters options).bind fun posts => ?_
  exact (tells_profileStories account filters options).bind fun stories => tells_pure _

end Profiles

end Access

/-! ## Services with fixed answers -/

/-- A world where each request has its own response. -/
def answering (respond : Request → Response) : World exchanges := fun past deed =>
  match deed with
  | .call request => .ok (respond request)
  | other => unreachable past other

/-- What is missed there is answered with 404. -/
theorem status_of_misses {program : Web α} {respond : Request → Response}
    {past : Journal exchanges} {event : Event exchanges} {request : Request}
    (inside : event ∈ (program.play (answering respond) past).2)
    (misses : Misses event request) : (respond request).status = 404 := by
  obtain ⟨body, rfl⟩ := misses
  obtain ⟨before, after, split⟩ := List.append_of_mem inside
  have answer : Except.ok ⟨404, body⟩ = Except.ok (respond request) :=
    Program.answered_of_play split
  rw [← Except.ok.inj answer]

/-- The fault of a result, if it failed. -/
def faultOf? : Except RetrieveError α → Option RetrieveError
  | .ok _ => none
  | .error fault => some fault

theorem faultOf?_eq_some {result : Except RetrieveError α} {fault : RetrieveError} :
    faultOf? result = some fault ↔ result = .error fault := by
  cases result <;> simp [faultOf?]

end Harvest.Http
