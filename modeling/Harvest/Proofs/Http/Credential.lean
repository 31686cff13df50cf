import Harvest.Http.Message
import Harvest.Proofs.Http.Requests
import Harvest.Proofs.Realization

/-!
Where credentials go. Whatever work is done over the web, each request belongs to a call, and the
session that it carries is the credential of that call or none. Pages that are only for those who
are logged in are not asked for without a credential.
-/

namespace Harvest

open Http (Access Method Request Settings exchanges mem_requestsOf overHttp requestHeaders
  requestTarget requestsOf)
open Program (Only only_pure path_play)
open Url (namedPage)

/-! ## Private pages -/

/-- The feed, the saved posts, and stories are only for those who are logged in. -/
def IsPrivate (page : List String) : Prop :=
  page = ["feed"] ∨ page = ["saved"] ∨ page = ["stories"] ∨
    ∃ name, page = ["profiles", name, "stories"]

/-- A name leads to no private page but the stories behind it, not even in dots. -/
theorem not_isPrivate_namedPage {page : Option String}
    (other : ∀ behind ∈ page, behind ≠ "feed" ∧ behind ≠ "saved" ∧ behind ≠ "stories")
    (folder name : String) : ¬IsPrivate (namedPage folder name page) := by
  unfold namedPage IsPrivate
  cases page with
  | none =>
      split
      · simp
      · split <;> simp
  | some behind =>
      obtain ⟨noFeed, noSaved, noStories⟩ := other behind rfl
      split
      · simp [noFeed, noSaved, noStories]
      · split <;> simp [noStories]

/-- Without a login nothing private is asked for. -/
theorem Retrieval.Asks.not_isPrivate {retrieval : Retrieval} {page : List String}
    (asked : retrieval.Asks false .get page) : ¬IsPrivate page := by
  cases asked with
  | followees account => exact not_isPrivate_namedPage (by simp) _ _
  | hashtag tag => exact not_isPrivate_namedPage (by simp) _ _
  | profile account => exact not_isPrivate_namedPage (by simp) _ _
  | profilePosts account => exact not_isPrivate_namedPage (by simp) _ _
  | feed filter options loggedIn | saved filter options loggedIn
  | stories filter options loggedIn
  | profileStories account filters wanted loggedIn => contradiction

namespace ServiceCall

/-- The credential that the requests of a call carry: the one under test, or that of the retriever
that it is a request of. A login has none. -/
def session : ServiceCall → Option String
  | .login _ _ | .openRetriever _ | .copyAnonymously _ => none
  | .whoami credential => some credential
  | .retrieve retriever _ => retriever.credential

/-- What a call asks for. -/
inductive Asks : ServiceCall → Method → List String → Prop where
  | login (username password : String) : Asks (.login username password) .post ["login"]
  | whoami (credential : String) : Asks (.whoami credential) .get ["whoami"]
  | retrieve {retriever : Retriever} {retrieval : Retrieval} {method : Method}
      {page : List String} (asked : retrieval.Asks retriever.isLoggedIn method page) :
      Asks (.retrieve retriever retrieval) method page

/-- Without a credential nothing private is asked for. -/
theorem Asks.not_isPrivate {call : ServiceCall} {page : List String}
    (asked : call.Asks .get page) (anonymous : call.session = none) : ¬IsPrivate page := by
  cases asked with
  | whoami credential => contradiction
  | @retrieve retriever retrieval _ _ asked =>
      have loggedOut : retriever.isLoggedIn = false := by
        rw [Retriever.isLoggedIn, show retriever.credential = none from anonymous]
        rfl
      exact (loggedOut ▸ asked).not_isPrivate

end ServiceCall

namespace Http

/-- A request goes out for a call: it can be sent, it asks for a page that the call asks for, and it
carries the credential of the call in one header. Without a credential there is no such header, and
nothing private is read. -/
structure GoesOutFor (settings : Settings) (call : ServiceCall) (request : Request) : Prop where
  sendable : request.fault? = none
  asked : ∃ page, call.Asks request.method page ∧ settings.endpoint.Leads page request.url
  header_eq : ∀ body, (requestHeaders request body).filter (fun header => header.1 = "x-session") =
    call.session.toList.map fun credential => ("x-session", credential)
  secluded : request.method = .get → call.session = none →
    ∀ page, settings.endpoint.Leads page request.url → ¬IsPrivate page

/-- The session is the only thing in its header. -/
theorem session_headers (request : Request) (body : String) :
    (requestHeaders request body).filter (fun header => header.1 = "x-session") =
      request.session.toList.map fun credential => ("x-session", credential) := by
  unfold requestHeaders
  cases request.login <;> cases request.session <;> cases request.body.isSome <;> simp

section Calls

variable (settings : Settings)

/-- A retriever with the credential of a call. -/
abbrev accessOf (call : ServiceCall) : Access := ⟨settings, call.session⟩

theorem only_login (username password : String) :
    (login settings username password).Only
      ((accessOf settings (.login username password)).Permits
        (ServiceCall.login username password).Asks) := by
  refine Only.bind (Access.keeps_send (Url.spells_word (by decide)) (.login username password) _)
    fun result => ?_
  split
  · exact only_pure _
  · split
    · exact only_pure _
    · split
      · exact only_pure _
      · exact only_pure _

theorem only_whoami (credential : String) :
    (whoami settings credential).Only
      ((accessOf settings (.whoami credential)).Permits (ServiceCall.whoami credential).Asks) := by
  refine Only.bind (Access.keeps_send (Url.spells_word (by decide)) (.whoami credential) _)
    fun result => ?_
  split
  · exact only_pure _
  · split
    · exact only_pure _
    · split
      · exact only_pure _
      · exact only_pure _

/-- A call sends its own requests only, under its credential. -/
theorem only_carryOut (call : ServiceCall) :
    (carryOut settings call).Only ((accessOf settings call).Permits call.Asks) := by
  cases call with
  | login username password => exact only_login settings username password
  | whoami credential => exact only_whoami settings credential
  | openRetriever credential => exact .done ()
  | copyAnonymously retriever => exact .done ()
  | retrieve retriever retrieval =>
      refine Only.imp (Access.only_carryOut retrieval) fun deed permitted => ?_
      cases deed with
      | call request =>
          obtain ⟨method, page, asked, sends⟩ := permitted
          exact ⟨method, page, .retrieve asked, sends⟩
      | pollInterrupt | log => trivial
      | _ => contradiction

variable {settings}

/-- The requests of a call go out for it. -/
theorem goesOutFor_of_path {call : ServiceCall} {answer : call.Answer} {course : Journal exchanges}
    (path : (carryOut settings call).Path course answer) :
    ∀ request ∈ requestsOf course, GoesOutFor settings call request := by
  intro request inside
  obtain ⟨_, happened⟩ := mem_requestsOf.1 inside
  obtain ⟨method, page, asked, sends⟩ := (only_carryOut settings call).path path _ happened
  obtain rfl := sends.method_eq
  constructor
  · exact sends.sendable
  · exact ⟨page, asked, sends.leads⟩
  · intro body
    rw [session_headers, sends.session_eq]
  · intro reads anonymous other leads
    rw [leads.unique sends.leads]
    rw [reads] at asked
    exact asked.not_isPrivate anonymous

/-- The requests of a stage go out for the call that is carried out in it. -/
theorem goesOutFor_of_carried {stage : Stage retrievalService exchanges}
    (carried : stage.Carried (carryOut settings)) :
    ∀ request ∈ requestsOf stage.course,
      ∃ call, stage.event.deed = .call call ∧ GoesOutFor settings call request := by
  cases carried with
  | @call call answer course path =>
      exact fun request inside => ⟨call, rfl, goesOutFor_of_path path request inside⟩
  | _ => exact fun request inside => absurd inside List.not_mem_nil

end Calls

/-- A credential is sent with the requests of its own calls and with no others. Whatever work is
done and whatever is answered, the requests fall to the calls of the work in order; each carries the
credential of its call, that is the credential under test or the one of the retriever, and carries
none for a login or for a retriever without one, which asks for nothing private. A retriever has the
credential that it was opened with, and an anonymous copy has none. -/
theorem credentials_stay_with_their_calls {α : Type} (settings : Settings) (work : Work α)
    (world : World exchanges) (past : Journal exchanges) :
    (∃ stages : List (Stage retrievalService exchanges),
      work.Path (stages.map Stage.event) ((overHttp settings work).play world past).1 ∧
      ((overHttp settings work).play world past).2 = stages.flatMap Stage.course ∧
      ∀ stage ∈ stages, ∀ request ∈ requestsOf stage.course,
        ∃ call, stage.event.deed = .call call ∧ GoesOutFor settings call request) ∧
    (∀ credential events retriever, (Work.openRetriever credential).Path events retriever →
      retriever.credential = credential) ∧
    ∀ original events copy, (Work.copyAnonymously original).Path events copy →
      copy.credential = none := by
  refine ⟨?_, ?_, ?_⟩
  · obtain ⟨stages, path, events_eq, carried⟩ :=
      Program.staged_of_path (path_play world (overHttp settings work) past)
    refine ⟨stages, path, events_eq, fun stage inside => ?_⟩
    exact goesOutFor_of_carried (carried stage inside)
  · intro credential events retriever path
    obtain ⟨_, _, _, -, -, opened⟩ := Program.path_bind_iff.1 path
    obtain ⟨-, rfl⟩ := Program.path_pure_iff.1 opened
    rfl
  · intro original events copy path
    obtain ⟨_, _, _, -, -, copied⟩ := Program.path_bind_iff.1 path
    obtain ⟨-, rfl⟩ := Program.path_pure_iff.1 copied
    rfl

/-- A retriever with a credential reads its feed, its anonymous copy reads a hashtag, and another
credential is tried. -/
example :
    let work : Work Unit := do
      let retriever ← Work.openRetriever (some "mine")
      let copy ← Work.copyAnonymously retriever
      discard <| Work.retrieve retriever (.posts .feed none .unlimited)
      discard <| Work.retrieve copy (.posts (.hashtag "sea") none .unlimited)
      discard <| Work.whoami "found"
    (requestsOf ((overHttp (Settings.usual sampleEndpoint) work).play unreachable []).2).map
        (fun request => (requestTarget request.url, request.session)) =
      [("/api/feed", some "mine"), ("/api/hashtags/sea/posts", none),
        ("/api/whoami", some "found")] := by
  decide +kernel

end Http

end Harvest
