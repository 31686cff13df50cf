import Harvest.Proofs.Run.Conduct
import Harvest.Proofs.Session.Provenance
import Harvest.Run.Batch

/-!
A batch fails before its work or after it. What the checks find wrong ends it before anything
happens, and so does a session that cannot be opened before anything is fetched. Once the loop has
started it ends with a report, and the one thing that can fail then is to keep the session.
-/

namespace Harvest

open Harvest.Filter (Filters)
open Program (Only only_pure path_bind_iff path_perform_iff path_play path_pure_iff play_bind
  within_inform within_warn)

/-- The kinds of acts that open a session. -/
def ActKind.establishing : List ActKind := [.reading, .validation, .login, .question, .message]

/-- Neither the files nor the login are the business of a run. -/
def ActKind.working : List ActKind := [.copying, .retrieval, .poll, .probe, .reading, .message]

theorem RunSettings.Permits.kind_mem {settings : RunSettings} {deed : Act retrievalService}
    (fine : settings.Permits deed) : deed.kind ∈ ActKind.working := by
  cases deed with
  | call request =>
      cases request with
      | copyAnonymously _ | retrieve _ _ => simp [Act.kind, ActKind.working]
      | _ => contradiction
  | writePrivate _ _ | askPassword _ => contradiction
  | _ => simp [Act.kind, ActKind.working]

/-- A run leaves no events of other kinds. -/
theorem RunSettings.eventsOf_path_run {settings : RunSettings} {targets : List String}
    {events : Journal retrievalService} {report : Report} {kinds : List ActKind}
    (path : (settings.run targets).Path events report)
    (apart : ∀ kind ∈ ActKind.working, kind ∉ kinds) : eventsOf kinds events = [] :=
  eventsOf_eq_nil fun event inside => apart _ ((only_run targets).path path event inside).kind_mem

namespace Session

theorem within_establish (means : LoginMeans) (account : String) (password path : Option String) :
    (establish means account password path).Within ActKind.establishing := by
  have reading (deed : Act retrievalService) (resuming : deed.kind ∈ ActKind.resuming) :
      deed.kind ∈ ActKind.establishing :=
    (by decide : ActKind.resuming ⊆ ActKind.establishing) resuming
  have login (deed : Act retrievalService) (loggingIn : deed.kind ∈ ActKind.loggingIn) :
      deed.kind ∈ ActKind.establishing :=
    (by decide : ActKind.loggingIn ⊆ ActKind.establishing) loggingIn
  unfold establish establishFor
  cases means.environment.resolvePath (Text.lower account) path with
  | error fault => exact only_pure _
  | ok file =>
      apply ((within_resume _ file path.isSome).imp reading).bind
      intro resumed
      cases resumed with
      | some session => exact only_pure _
      | none => exact (within_logIn means _ password).imp login

end Session

namespace BatchConfig

/-- The end of a batch: what is written of its session, and what the batch comes to. A session is
written exactly when a login was requested. -/
inductive Keeps (config : BatchConfig) (means : LoginMeans) (report : Report) :
    Session → Journal retrievalService → Except FatalError Report → Prop where
  | anonymous (unrequested : config.login = none) : Keeps config means report .anonymous [] (.ok report)
  | saved {account credential file : String} (requested : config.login = some account)
      (resolved : means.environment.resolvePath (Text.lower account) config.sessionFile = .ok file) :
      Keeps config means report (.loggedIn (Text.lower account) credential)
        [⟨.writePrivate file (StoredSession.mk (Text.lower account) credential).toText, .ok ()⟩]
        (.ok report)
  | unsaved {account credential file reason : String} (requested : config.login = some account)
      (resolved : means.environment.resolvePath (Text.lower account) config.sessionFile = .ok file) :
      Keeps config means report (.loggedIn (Text.lower account) credential)
        [⟨.writePrivate file (StoredSession.mk (Text.lower account) credential).toText,
          .error reason⟩]
        (.error (.session (.storage (.unavailable reason))))

/-- The work of a batch with a session: a retriever with the credential of the session, the loop
over the targets, and what is kept of the session, in this order. -/
structure Works (config : BatchConfig) (means : LoginMeans) (filters : Filters)
    (opening : Journal retrievalService) (session : Session) (result : Except FatalError Report)
    (events : Journal retrievalService) (report : Report)
    (loop writes messages : Journal retrievalService) : Prop where
  prepared : ∀ event ∈ opening, event.deed.kind ∈ ActKind.establishing
  events_eq : events = opening ++
    ⟨.call (.openRetriever session.credential?), ()⟩ :: (loop ++ (writes ++ messages))
  ran : ((RunSettings.mk (Retriever.ofCredential session.credential?) filters config.options).run
    config.targets).Path loop report
  loop_permits : ∀ event ∈ loop, RunSettings.Permits
    ⟨Retriever.ofCredential session.credential?, filters, config.options⟩ event.deed
  kept : config.Keeps means report session writes result
  messages_last : ∀ event ∈ messages, event.deed.kind = .message
  opened_once : eventsOf [.opening] events = [⟨.call (.openRetriever session.credential?), ()⟩]
  written_once : eventsOf [.writing] events = writes

variable {config : BatchConfig} {means : LoginMeans} {filters : Filters} {session : Session}
  {world : World retrievalService} {events : Journal retrievalService}
  {result : Except FatalError Report}

/-- What the checks find wrong ends a batch before anything happens. -/
theorem play_run_of_check {fault : FatalError} (checked : config.check = .error fault)
    (past : Journal retrievalService) :
    (config.run means).play world past = (.error fault, []) := by
  unfold run
  rw [checked]
  rfl

/-- Without a session a batch ends where it failed to open one. -/
theorem play_run_of_openSession {fault : SessionError} {past : Journal retrievalService}
    (checked : config.check = .ok filters)
    (refused : ((config.openSession means).play world past).1 = .error fault) :
    (config.run means).play world past =
      (.error (.session fault), ((config.openSession means).play world past).2) := by
  unfold run
  rw [checked]
  simp only
  rw [play_bind, refused]
  simp only [Program.play_pure, List.append_nil]

/-- Without a login the session is anonymous. -/
theorem play_openSession_none (unrequested : config.login = none)
    (past : Journal retrievalService) :
    (config.openSession means).play world past = (.ok .anonymous, []) := by
  unfold openSession
  rw [unrequested]
  rfl

theorem openSession_of_login {account : String} (requested : config.login = some account) :
    config.openSession means =
      Session.establish means account config.password config.sessionFile := by
  unfold openSession
  rw [requested]

theorem within_openSession (config : BatchConfig) (means : LoginMeans) :
    (config.openSession means).Within ActKind.establishing := by
  cases requested : config.login with
  | none =>
      unfold openSession
      rw [requested]
      exact only_pure _
  | some account =>
      rw [openSession_of_login requested]
      exact Session.within_establish means account config.password config.sessionFile

/-- A batch ends with messages. -/
theorem within_conclude (config : BatchConfig) (session : Session) (report : Report) :
    (config.conclude session report).Within [.message] := by
  apply (Only.forM (within_warn (by decide)) report.summary).bind
  intro _
  split
  · exact within_inform (by decide) _
  · exact only_pure _

/-- Nothing is kept of an anonymous session. -/
theorem path_persist_anonymous {outcome : Except SessionError Bool}
    (path : (Session.anonymous.persist means.environment config.sessionFile).Path events outcome) :
    events = [] ∧ outcome = .ok false :=
  path_pure_iff.1 path

/-- A session with a credential is written to its file, and success is told. -/
theorem path_persist {username credential file : String} {outcome : Except SessionError Bool}
    (resolved : means.environment.resolvePath username config.sessionFile = .ok file)
    (path : ((Session.loggedIn username credential).persist means.environment
      config.sessionFile).Path events outcome) :
    let deed : Act retrievalService :=
      .writePrivate file (StoredSession.mk username credential).toText
    (∃ message, events = [⟨deed, .ok ()⟩, ⟨.log .info message, ()⟩] ∧ outcome = .ok true) ∨
      ∃ reason, events = [⟨deed, .error reason⟩] ∧
        outcome = .error (.storage (.unavailable reason)) := by
  unfold Session.persist at path
  simp only [resolved] at path
  obtain ⟨saving, later, saved, rfl, stored, path⟩ := path_bind_iff.1 path
  obtain ⟨writing, rest, answer, rfl, written, finished⟩ := path_bind_iff.1 stored
  obtain ⟨rfl, rfl⟩ := path_pure_iff.1 finished
  rw [path_perform_iff.1 written]
  cases answer with
  | error reason =>
      obtain ⟨rfl, rfl⟩ := path_pure_iff.1 path
      exact .inr ⟨reason, rfl, rfl⟩
  | ok done =>
      obtain ⟨telling, rest, _, rfl, told, path⟩ := path_bind_iff.1 path
      obtain ⟨rfl, rfl⟩ := path_pure_iff.1 path
      rw [path_perform_iff.1 told]
      exact .inl ⟨_, rfl, rfl⟩

/-- The session of a batch: anonymous without a login, and otherwise of the account in lower case,
whose session file has a path. -/
inductive Fits (config : BatchConfig) (means : LoginMeans) : Session → Prop where
  | anonymous (unrequested : config.login = none) : Fits config means .anonymous
  | loggedIn {account file : String} (credential : String) (requested : config.login = some account)
      (resolved : means.environment.resolvePath (Text.lower account) config.sessionFile = .ok file) :
      Fits config means (.loggedIn (Text.lower account) credential)

theorem fits_of_play (opened : ((config.openSession means).play world []).1 = .ok session) :
    config.Fits means session := by
  cases requested : config.login with
  | none =>
      rw [play_openSession_none requested] at opened
      cases opened
      exact .anonymous requested
  | some account =>
      rw [openSession_of_login requested] at opened
      obtain ⟨file, credential, resolved, rfl, -⟩ := Session.proven_of_play opened
      exact .loggedIn credential requested resolved

/-- The session of a batch is kept by a write at most, which a message may follow. -/
theorem keeps_of_path {outcome : Except SessionError Bool} (fits : config.Fits means session)
    (path : (session.persist means.environment config.sessionFile).Path events outcome)
    (report : Report) :
    ∃ writes notes, events = writes ++ notes ∧ (∀ event ∈ notes, event.deed.kind = .message) ∧
      config.Keeps means report session writes
        ((outcome.mapError FatalError.session).map fun _ => report) := by
  cases fits with
  | anonymous unrequested =>
      obtain ⟨rfl, rfl⟩ := path_persist_anonymous path
      exact ⟨[], [], rfl, fun _ => List.not_mem_nil.elim, .anonymous unrequested⟩
  | loggedIn credential requested resolved =>
      rcases path_persist resolved path with ⟨message, rfl, rfl⟩ | ⟨reason, rfl, rfl⟩
      · exact ⟨[_], [⟨.log .info message, ()⟩], rfl, List.forall_mem_singleton.2 rfl,
          .saved requested resolved⟩
      · exact ⟨[_], [], rfl, fun _ => List.not_mem_nil.elim, .unsaved requested resolved⟩

/-- Writes are the only acts by which a session is kept. -/
theorem Keeps.kind_eq {report : Report} {writes : Journal retrievalService}
    (keeps : config.Keeps means report session writes result) :
    ∀ event ∈ writes, event.deed.kind = .writing := by
  cases keeps with
  | anonymous _ => simp
  | saved _ _ => simp [Act.kind]
  | unsaved _ _ => simp [Act.kind]

/-- What a batch does that is no business of its loop, it does before the loop, when it opens the
retriever, or when it keeps the session. -/
theorem eventsOf_work {report : Report} {opening loop writes messages : Journal retrievalService}
    {opened : Event retrievalService} {settings : RunSettings} {kinds : List ActKind}
    (ran : (settings.run config.targets).Path loop report)
    (last : ∀ event ∈ messages, event.deed.kind = .message)
    (apart : ∀ kind ∈ ActKind.working, kind ∉ kinds) :
    eventsOf kinds (opening ++ opened :: (loop ++ (writes ++ messages))) =
      eventsOf kinds opening ++ (eventsOf kinds [opened] ++ eventsOf kinds writes) := by
  have told : eventsOf kinds messages = [] :=
    eventsOf_eq_nil fun event inside => apart _ (last event inside ▸ by decide)
  have shape : opened :: (loop ++ (writes ++ messages)) =
      [opened] ++ (loop ++ (writes ++ messages)) := rfl
  rw [shape]
  simp only [eventsOf_append, RunSettings.eventsOf_path_run ran apart, told, List.nil_append,
    List.append_nil]

/-- What neither the work nor the end of a batch does, it does to open its session. -/
theorem Works.eventsOf_eq {opening : Journal retrievalService} {report : Report}
    {loop writes messages : Journal retrievalService} {kinds : List ActKind}
    (works : config.Works means filters opening session result events report loop writes messages)
    (apart : ∀ kind ∈ .opening :: .writing :: ActKind.working, kind ∉ kinds) :
    eventsOf kinds events = eventsOf kinds opening := by
  simp only [List.forall_mem_cons] at apart
  obtain ⟨opened, written, working⟩ := apart
  have kept : eventsOf kinds writes = [] :=
    eventsOf_eq_nil fun event inside => works.kept.kind_eq event inside ▸ written
  have unopened : eventsOf kinds
      [⟨.call (.openRetriever session.credential?), ()⟩] = [] :=
    eventsOf_eq_nil (List.forall_mem_singleton.2 opened)
  rw [works.events_eq, eventsOf_work works.ran works.messages_last working, unopened, kept,
    List.append_nil, List.append_nil]

/-- Requests are made in the loop only. -/
theorem Works.mem_loop {opening : Journal retrievalService} {report : Report}
    {loop writes messages : Journal retrievalService} {event : Event retrievalService}
    (works : config.Works means filters opening session result events report loop writes messages)
    (inside : event ∈ events) (request : event.deed.kind = .retrieval) : event ∈ loop := by
  rw [works.events_eq, List.mem_append, List.mem_cons, List.mem_append, List.mem_append] at inside
  rcases inside with before | rfl | within | written | told
  · have other := works.prepared event before
    rw [request] at other
    exact absurd other (by decide)
  · cases request
  · exact within
  · cases request.symm.trans (works.kept.kind_eq event written)
  · cases request.symm.trans (works.messages_last event told)

theorem path_openRetriever {credential : Option String} {retriever : Retriever}
    (path : (Work.openRetriever credential).Path events retriever) :
    events = [⟨.call (.openRetriever credential), ()⟩] ∧
      retriever = Retriever.ofCredential credential := by
  obtain ⟨called, rest, _, rfl, asked, made⟩ := path_bind_iff.1 path
  obtain ⟨rfl, rfl⟩ := path_pure_iff.1 made
  exact ⟨by rw [path_perform_iff.1 asked]; rfl, rfl⟩

/-- With a session a batch opens the retriever, runs the loop, keeps the session and ends with
messages, unless it could not keep the session. -/
theorem path_runWith (fits : config.Fits means session)
    (path : (config.runWith means filters session).Path events result) :
    ∃ report loop writes messages,
      events = ⟨.call (.openRetriever session.credential?), ()⟩ :: (loop ++ (writes ++ messages)) ∧
      ((RunSettings.mk (Retriever.ofCredential session.credential?) filters config.options).run
        config.targets).Path loop report ∧
      config.Keeps means report session writes result ∧
      ∀ event ∈ messages, event.deed.kind = .message := by
  obtain ⟨called, later, retriever, rfl, opened, path⟩ := path_bind_iff.1 path
  obtain ⟨rfl, rfl⟩ := path_openRetriever opened
  obtain ⟨loop, closing, report, rfl, ran, path⟩ := path_bind_iff.1 path
  obtain ⟨keeping, ending, outcome, rfl, persisted, path⟩ := path_bind_iff.1 path
  obtain ⟨writes, notes, rfl, noted, kept⟩ := keeps_of_path fits persisted report
  have ended : result = (outcome.mapError FatalError.session).map (fun _ => report) ∧
      ∀ event ∈ ending, event.deed.kind = .message := by
    cases outcome with
    | error fault =>
        obtain ⟨rfl, rfl⟩ := path_pure_iff.1 path
        exact ⟨rfl, fun _ => List.not_mem_nil.elim⟩
    | ok written =>
        obtain ⟨concluding, rest, _, rfl, concluded, path⟩ := path_bind_iff.1 path
        obtain ⟨rfl, rfl⟩ := path_pure_iff.1 path
        refine ⟨rfl, ?_⟩
        simpa using (within_conclude config session report).path concluded
  refine ⟨report, loop, writes, notes ++ ending, ?_, ran, ended.1 ▸ kept, ?_⟩
  · rw [List.append_assoc]
    rfl
  · exact List.forall_mem_append.2 ⟨noted, ended.2⟩

/-- The work of a batch follows the opening of its session. -/
theorem works_of_path (fits : config.Fits means session) {opening : Journal retrievalService}
    (prepared : ∀ event ∈ opening, event.deed.kind ∈ ActKind.establishing)
    (path : (config.runWith means filters session).Path events result) :
    ∃ report loop writes messages, config.Works means filters opening session result
      (opening ++ events) report loop writes messages := by
  obtain ⟨report, loop, writes, messages, rfl, ran, kept, last⟩ := path_runWith fits path
  have before {kinds : List ActKind} (apart : ∀ kind ∈ ActKind.establishing, kind ∉ kinds) :
      eventsOf kinds opening = [] :=
    eventsOf_eq_nil fun event inside => apart _ (prepared event inside)
  refine ⟨report, loop, writes, messages, ?_⟩
  constructor
  · exact prepared
  · rfl
  · exact ran
  · exact (RunSettings.only_run config.targets).path ran
  · exact kept
  · exact last
  · have unopened : eventsOf [.opening] writes = [] :=
      eventsOf_eq_nil fun event inside => kept.kind_eq event inside ▸ by decide
    rw [eventsOf_work ran last (by decide), before (by decide), unopened]
    rfl
  · have whole : eventsOf [.writing] writes = writes :=
      List.filter_eq_self.2 fun event inside => by simp [kept.kind_eq event inside]
    rw [eventsOf_work ran last (by decide), before (by decide), whole]
    rfl

/-- A batch whose session is opened goes on to its work. -/
theorem works_of_play (checked : config.check = .ok filters)
    (opened : ((config.openSession means).play world []).1 = .ok session) :
    ∃ report loop writes messages, config.Works means filters
      ((config.openSession means).play world []).2 session ((config.run means).play world []).1
      ((config.run means).play world []).2 report loop writes messages := by
  have prepared : ∀ event ∈ ((config.openSession means).play world []).2,
      event.deed.kind ∈ ActKind.establishing :=
    Only.play (within_openSession config means) []
  unfold run
  rw [checked]
  simp only
  rw [play_bind, opened]
  exact works_of_path (fits_of_play opened) prepared (path_play world _ _)

/-- A batch that ends well got to its work. -/
theorem works_of_ok {report : Report}
    (ended : ((config.run means).play world []).1 = .ok report) :
    ∃ filters session told loop writes messages, config.check = .ok filters ∧
      config.Works means filters ((config.openSession means).play world []).2 session (.ok report)
        ((config.run means).play world []).2 told loop writes messages := by
  cases checked : config.check with
  | error fault =>
      rw [play_run_of_check checked] at ended
      contradiction
  | ok filters =>
      cases opened : ((config.openSession means).play world []).1 with
      | error fault =>
          rw [play_run_of_openSession checked opened] at ended
          contradiction
      | ok session =>
          obtain ⟨told, loop, writes, messages, works⟩ := works_of_play checked opened
          rw [ended] at works
          exact ⟨filters, session, told, loop, writes, messages, rfl, works⟩

end BatchConfig

end Harvest
