import Harvest.Proofs.Run.Batch
import Harvest.Proofs.Run.Fallback

/-!
Which downloads of accounts want stories. A run asks for them with its own retriever alone: an
anonymous download leaves them out, and it is the last download of its account. In a batch that
retriever has the credential of the login.
-/

namespace Harvest

open Program (Path path_bind_iff path_play path_pure_iff play_along)

/-- An act downloads an account on behalf of a retriever. -/
def Act.Downloads (deed : Act retrievalService) (retriever : Retriever) (account : String)
    (options : ProfileOptions) : Prop :=
  ∃ filters, deed = .call (.retrieve retriever (.profile account filters options))

/-- Once an account is downloaded anonymously, another event is no download of it. -/
def Event.Settles (first second : Event retrievalService) : Prop :=
  ∀ account options, first.deed.Downloads Retriever.anonymousCopy account options →
    ∀ retriever wanted, ¬second.deed.Downloads retriever account wanted

section Downloads

variable {deed : Act retrievalService} {retriever : Retriever} {account : String}
  {options : ProfileOptions}

theorem Act.Downloads.kind_eq (downloads : deed.Downloads retriever account options) :
    deed.kind = .retrieval := by
  obtain ⟨filters, rfl⟩ := downloads
  rfl

/-- Only retrievals matter for what is settled. -/
theorem pairwise_settles_eventsOf (kinds : List ActKind) (fine : .retrieval ∈ kinds)
    {events : Journal retrievalService} :
    (eventsOf kinds events).Pairwise Event.Settles ↔ events.Pairwise Event.Settles := by
  rw [eventsOf, List.pairwise_filter]
  constructor
  · refine List.Pairwise.imp fun settles account options first retriever wanted second => ?_
    exact settles (by simp [first.kind_eq, fine]) (by simp [second.kind_eq, fine]) account options
      first retriever wanted second
  · exact List.Pairwise.imp fun settles _ _ => settles

end Downloads

namespace RunSettings

variable {settings : RunSettings} {events : Journal retrievalService} {retriever : Retriever}
  {name : String} {options : ProfileOptions}

/-- Targets download no accounts. -/
theorem PermitsTarget.not_downloads {deed : Act retrievalService}
    (permitted : settings.PermitsTarget deed) : ¬deed.Downloads retriever name options := by
  rintro ⟨filters, rfl⟩
  exact Bool.noConfusion permitted.2

/-- A run downloads an account as its options say, or anonymously and without stories. -/
def MayDownload (settings : RunSettings) (retriever : Retriever) (options : ProfileOptions) :
    Prop :=
  retriever = settings.retriever ∧ options = settings.options.profile ∨
    retriever = Retriever.anonymousCopy ∧ options.stories = false

section Attempt

variable {account : String} {calls : Journal retrievalService}
  {outcome : Except RetrieveError Tally} (attempt : settings.Attempt account calls outcome)

include attempt

theorem Attempt.of_downloads {event : Event retrievalService} (inside : event ∈ calls)
    (downloads : event.deed.Downloads retriever name options) :
    name = account ∧ settings.MayDownload retriever options := by
  obtain ⟨filters, same⟩ := downloads
  cases attempt with
  | once _ _ =>
      obtain rfl := List.mem_singleton.1 inside
      cases same
      exact ⟨rfl, .inl ⟨rfl, rfl⟩⟩
  | again what loggedIn _ =>
      simp only [List.mem_cons, List.not_mem_nil, or_false] at inside
      rcases inside with rfl | rfl | rfl
      · cases same
        exact ⟨rfl, .inl ⟨rfl, rfl⟩⟩
      · cases same
      · cases same
        exact ⟨rfl, .inr ⟨rfl, rfl⟩⟩

/-- Nothing follows the anonymous download of an account. -/
theorem Attempt.settled : calls.Pairwise Event.Settles := by
  cases attempt with
  | once _ _ => exact List.pairwise_singleton _ _
  | again what loggedIn _ =>
      have apart : settings.retriever ≠ Retriever.anonymousCopy := by
        intro same
        rw [same] at loggedIn
        contradiction
      refine List.pairwise_cons.2 ⟨?_, List.pairwise_cons.2 ⟨?_, List.pairwise_singleton _ _⟩⟩
      · rintro later - account options ⟨filters, same⟩
        exact absurd (ServiceCall.retrieve.inj (Act.call.inj same)).1 apart
      · rintro later - account options ⟨filters, same⟩
        cases same

end Attempt

section Turns

variable {targets : List String} {collected : AccountSet} {targetTurns accountTurns : List Turn}
  {interrupted : Bool}

/-- The turns of a target download no accounts. -/
theorem HandlesAll.not_downloads {before after : AccountSet} {turns : List Turn}
    (handles : settings.HandlesAll before turns after) {turn : Turn} (taken : turn ∈ turns)
    {event : Event retrievalService} (inside : event ∈ turn.calls) :
    ¬event.deed.Downloads retriever name options :=
  (handles.permits turn taken event inside).not_downloads

/-- Different accounts do not get in each other's way. -/
theorem Attempts.settles {first second : Turn} (attempts : settings.Attempts first)
    (others : settings.Attempts second) (apart : first.name ≠ second.name) :
    ∀ event ∈ first.calls, ∀ later ∈ second.calls, event.Settles later := by
  intro event inside later follows account options downloads retriever wanted again
  obtain ⟨_, attempt, -⟩ := attempts
  obtain ⟨_, other, -⟩ := others
  exact apart ((attempt.of_downloads inside downloads).1.symm.trans
    (other.of_downloads follows again).1)

/-- Over the turns of a run nothing follows the anonymous download of an account. -/
theorem settled_of_turns (handles : settings.HandlesAll AccountSet.empty targetTurns collected)
    (reaches : Reaches targets collected targetTurns accountTurns interrupted)
    (attempts : ∀ turn ∈ accountTurns, settings.Attempts turn) :
    ((targetTurns ++ accountTurns).flatMap Turn.calls).Pairwise Event.Settles := by
  have quiet {turn : Turn} (taken : turn ∈ targetTurns) {event : Event retrievalService}
      (inside : event ∈ turn.calls) (later : Event retrievalService) : event.Settles later :=
    fun account options downloads => absurd downloads (handles.not_downloads taken inside)
  have ascending : accountTurns.Pairwise fun first second => first.name < second.name :=
    List.pairwise_map.1 (collected.ascending.sublist reaches.accounts_first.sublist)
  rw [List.pairwise_flatMap]
  constructor
  · intro turn taken
    rcases List.mem_append.1 taken with ofTarget | ofAccount
    · exact List.pairwise_of_forall_mem_list fun event inside later _ => quiet ofTarget inside later
    · obtain ⟨outcome, attempt, -⟩ := attempts turn ofAccount
      exact attempt.settled
  · refine List.pairwise_append.2 ⟨?_, ?_, ?_⟩
    · exact List.pairwise_of_forall_mem_list fun turn taken other _ event inside later _ =>
        quiet taken inside later
    · exact ascending.imp_of_mem fun first second below =>
        (attempts _ first).settles (attempts _ second)
          fun same => String.lt_irrefl _ (same ▸ below)
    · exact fun turn taken other _ event inside later _ => quiet taken inside later

end Turns

/-- The downloads of a run. -/
theorem downloads_of_path {targets : List String} {report : Report}
    (path : (settings.run targets).Path events report) :
    (∀ event ∈ events, ∀ retriever account options,
      event.deed.Downloads retriever account options → settings.MayDownload retriever options) ∧
    events.Pairwise Event.Settles := by
  obtain ⟨targetTurns, collected, accountTurns, interrupted, handles, reaches, attempts, calls, -⟩ :=
    path_runFrom path
  constructor
  · intro event inside retriever account options downloads
    have called : event ∈ (targetTurns ++ accountTurns).flatMap Turn.calls := by
      rw [← calls]
      exact List.mem_filter.2 ⟨inside, by rw [downloads.kind_eq]; decide⟩
    obtain ⟨turn, taken, inside⟩ := List.mem_flatMap.1 called
    rcases List.mem_append.1 taken with ofTarget | ofAccount
    · exact absurd downloads (handles.not_downloads ofTarget inside)
    · obtain ⟨outcome, attempt, -⟩ := attempts turn ofAccount
      exact (attempt.of_downloads inside downloads).2
  · rw [← pairwise_settles_eventsOf ActKind.calls (by decide), calls]
    exact settled_of_turns handles reaches attempts

end RunSettings

namespace BatchConfig

variable {config : BatchConfig} {means : LoginMeans} {events : Journal retrievalService}

/-- A batch has logged in: its credential is the one in the session file, which the service tells
is that of the requested account, or the answer of the last login of that account. -/
def LogsIn (config : BatchConfig) (means : LoginMeans) (credential : String)
    (opening : Journal retrievalService) : Prop :=
  ∃ name file, config.login = some name ∧
    means.environment.resolvePath (Text.lower name) config.sessionFile = .ok file ∧
    (Session.Resumed (Text.lower name) file credential opening ∨
      Session.Obtained (Text.lower name) credential opening)

/-- A session with a credential comes from a login. -/
theorem logsIn_of_path {username credential : String}
    (path : (config.openSession means).Path events (.ok (.loggedIn username credential))) :
    config.LogsIn means credential events := by
  obtain ⟨world, played⟩ : ∃ world, (config.openSession means).play world [] = _ :=
    ⟨_, play_along (World.steady (.error (.missing "")) none "") path rfl⟩
  cases requested : config.login with
  | none =>
      rw [play_openSession_none requested] at played
      cases played
  | some name =>
      rw [openSession_of_login requested] at played
      obtain ⟨file, other, resolved, same, proven⟩ :=
        Session.proven_of_play (congrArg Prod.fst played)
      cases same
      have known := congrArg Prod.snd played
      rw [Session.establish] at known
      rw [known] at proven
      exact ⟨name, file, requested, resolved, proven⟩

theorem fits_of_path {session : Session}
    (path : (config.openSession means).Path events (.ok session)) : config.Fits means session := by
  obtain ⟨world, played⟩ : ∃ world, (config.openSession means).play world [] = _ :=
    ⟨_, play_along (World.steady (.error (.missing "")) none "") path rfl⟩
  exact fits_of_play (congrArg Prod.fst played)

/-- A batch prepares only, or it gets to its work. -/
theorem works_or_prepares {result : Except FatalError Report}
    (path : (config.run means).Path events result) :
    (∀ event ∈ events, event.deed.kind ∈ ActKind.establishing) ∨
      ∃ filters session opening report loop writes messages,
        (config.openSession means).Path opening (.ok session) ∧
        config.Works means filters opening session result events report loop writes messages := by
  unfold run at path
  cases checked : config.check with
  | error fault =>
      rw [checked] at path
      obtain ⟨rfl, -⟩ := path_pure_iff.1 path
      exact .inl fun _ => List.not_mem_nil.elim
  | ok filters =>
      rw [checked] at path
      obtain ⟨opening, working, opened, rfl, opens, path⟩ := path_bind_iff.1 path
      have prepared := (within_openSession config means).path opens
      cases opened with
      | error fault =>
          obtain ⟨rfl, -⟩ := path_pure_iff.1 path
          rw [List.append_nil]
          exact .inl prepared
      | ok session =>
          obtain ⟨report, loop, writes, messages, works⟩ :=
            works_of_path (fits_of_path opens) prepared path
          exact .inr ⟨filters, session, opening, report, loop, writes, messages, opens, works⟩

section Work

variable {filters : Filter.Filters} {session : Session} {result : Except FatalError Report}
  {opening loop writes messages : Journal retrievalService} {report : Report}

/-- Retrievals are made in the loop only. -/
theorem Works.retrievals_eq (works : config.Works means filters opening session result events report
    loop writes messages) : eventsOf [.retrieval] events = eventsOf [.retrieval] loop := by
  have before : eventsOf [.retrieval] opening = [] :=
    eventsOf_eq_nil fun event inside retrieval =>
      absurd (List.mem_singleton.1 retrieval ▸ works.prepared event inside) (by decide)
  have written : eventsOf [.retrieval] writes = [] :=
    eventsOf_eq_nil fun event inside => works.kept.kind_eq event inside ▸ by decide
  have told : eventsOf [.retrieval] messages = [] :=
    eventsOf_eq_nil fun event inside => works.messages_last event inside ▸ by decide
  rw [works.events_eq]
  simp [eventsOf_cons, Act.kind, before, written, told]

/-- Nothing of an account is downloaded after its anonymous download. -/
theorem settled_of_path (path : (config.run means).Path events result) :
    events.Pairwise Event.Settles := by
  rw [← pairwise_settles_eventsOf [.retrieval] (by decide)]
  rcases works_or_prepares path with prepares | ⟨filters, session, opening, report, loop, writes,
    messages, opens, works⟩
  · have quiet : eventsOf [.retrieval] events = [] :=
      eventsOf_eq_nil fun event inside retrieval =>
        absurd (List.mem_singleton.1 retrieval ▸ prepares event inside) (by decide)
    rw [quiet]
    exact .nil
  · rw [works.retrievals_eq, pairwise_settles_eventsOf _ (by decide)]
    exact (RunSettings.downloads_of_path works.ran).2

/-- An event of a retriever comes after a login and has its credential. -/
def BehindLogin (config : BatchConfig) (means : LoginMeans) (events : Journal retrievalService)
    (event : Event retrievalService) (retriever : Retriever) : Prop :=
  ∃ credential opening later, config.LogsIn means credential opening ∧
    events = opening ++ ⟨.call (.openRetriever (some credential)), ()⟩ :: later ∧
    event ∈ later ∧ retriever = Retriever.ofCredential (some credential)

/-- If stories are not wanted without a login, they are asked for behind a login. -/
theorem behindLogin_of_downloads (path : (config.run means).Path events result)
    (guarded : config.login = none → config.options.profile.stories = false)
    {event : Event retrievalService} (inside : event ∈ events) {retriever : Retriever}
    {account : String} {options : ProfileOptions}
    (downloads : event.deed.Downloads retriever account options)
    (wanted : options.stories = true) : config.BehindLogin means events event retriever := by
  rcases works_or_prepares path with prepares | ⟨filters, session, opening, report, loop, writes,
    messages, opens, works⟩
  · exact absurd (downloads.kind_eq ▸ prepares event inside) (by decide)
  · have within := works.mem_loop inside downloads.kind_eq
    obtain ⟨rfl, rfl⟩ | ⟨-, dropped⟩ :=
      (RunSettings.downloads_of_path works.ran).1 event within _ _ _ downloads
    · cases session with
      | anonymous =>
          cases fits_of_path opens with
          | anonymous unrequested =>
              exact absurd (wanted.symm.trans (guarded unrequested)) (by decide)
      | loggedIn username credential =>
          exact ⟨credential, opening, _, logsIn_of_path opens, works.events_eq,
            List.mem_append_left _ within, rfl⟩
    · exact absurd (wanted.symm.trans dropped) (by decide)

end Work

end BatchConfig

end Harvest
