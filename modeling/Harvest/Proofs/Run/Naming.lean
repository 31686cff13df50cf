import Harvest.Proofs.Run.Fallback

/-!
The names that a run asks for. A target that names nothing is rejected before anything is asked,
so an empty name reaches the service only as the name of an account, and only when the service has
listed it among the followees of another one.
-/

namespace Harvest

open Program (Only Path path_bind_iff path_perform_iff path_play path_pure_iff)

/-! ## Targets without a name -/

namespace Target

/-- Behind its sigil and in front of its slashes a raw target has nothing. -/
def NamesNothing (raw : String) : Prop :=
  stripped raw ∈ ["", "@", "#"]

instance : DecidablePred NamesNothing := fun raw =>
  inferInstanceAs (Decidable (stripped raw ∈ ["", "@", "#"]))

/-- A target that names nothing is found without a look at files. -/
theorem classifyIn_of_namesNothing {raw : String} (nothing : NamesNothing raw) :
    ∃ target : Target, target.name? = some "" ∧
      (classifyIn Program.isFile raw : Work Target) = pure target := by
  unfold NamesNothing at nothing
  simp only [List.mem_cons, List.not_mem_nil, or_false] at nothing
  unfold classifyIn
  rcases nothing with empty | sigil | sigil
  · rw [empty]
    exact ⟨.account "", rfl, rfl⟩
  · rw [sigil]
    exact ⟨.followees "", rfl, rfl⟩
  · rw [sigil]
    exact ⟨.tag "", rfl, rfl⟩

/-- A target without a name is written as its sigil. -/
theorem text_of_name? {target : Target} (nameless : target.name? = some "") :
    target.text ∈ ["", "@", "#"] := by
  cases target with
  | followees name | tag name | account name =>
      obtain rfl := Option.some.inj nameless
      simp [text]
  | feed | stories | saved | descriptorFile path => contradiction

/-- A sigil goes in front of a name. -/
theorem singleton_append_ofList (sigil : Char) (name : List Char) :
    String.singleton sigil ++ String.ofList name = String.ofList (sigil :: name) := by
  rw [String.singleton_eq_ofList, ← String.ofList_append, List.singleton_append]

/-- A target is written as its raw text without slashes, and no call is made to classify it. -/
theorem path_classifyIn {raw : String} {events : Journal retrievalService} {target : Target}
    (path : (classifyIn Program.isFile raw).Path events target) :
    target.text = stripped raw ∧ eventsOf ActKind.calls events = [] := by
  unfold classifyIn ofStripped at path
  split at path
  · next name spelled =>
      obtain ⟨rfl, rfl⟩ := path_pure_iff.1 path
      refine ⟨?_, rfl⟩
      rw [← String.ofList_toList (s := stripped raw), spelled, ← singleton_append_ofList]
      rfl
  · next name spelled =>
      obtain ⟨rfl, rfl⟩ := path_pure_iff.1 path
      refine ⟨?_, rfl⟩
      rw [← String.ofList_toList (s := stripped raw), spelled, ← singleton_append_ofList]
      rfl
  · split at path
    · next feed =>
        obtain ⟨rfl, rfl⟩ := path_pure_iff.1 path
        exact ⟨feed.symm, rfl⟩
    · split at path
      · next stories =>
          obtain ⟨rfl, rfl⟩ := path_pure_iff.1 path
          exact ⟨stories.symm, rfl⟩
      · split at path
        · next saved =>
            obtain ⟨rfl, rfl⟩ := path_pure_iff.1 path
            exact ⟨saved.symm, rfl⟩
        · split at path
          -- The look for a file is an act, but no call of the service.
          · obtain ⟨probed, rest, isFile, rfl, asked, path⟩ := path_bind_iff.1 path
            rw [path_perform_iff.1 asked]
            split at path
            · obtain ⟨rfl, rfl⟩ := path_pure_iff.1 path
              exact ⟨rfl, rfl⟩
            · obtain ⟨rfl, rfl⟩ := path_pure_iff.1 path
              exact ⟨rfl, rfl⟩
          · obtain ⟨rfl, rfl⟩ := path_pure_iff.1 path
            exact ⟨rfl, rfl⟩

end Target

/-- The record of a target that names nothing. -/
def ErrorRecord.nameless (raw : String) : ErrorRecord :=
  ⟨raw, .rejected s!"{Text.quote raw} names no target"⟩

/-! ## The names of requests -/

/-- The name that an act asks the service for. -/
def Act.name? : Act retrievalService → Option String
  | .call (.retrieve _ retrieval) => retrieval.name?
  | _ => none

/-- An act that asks for a name is a call. -/
theorem Act.kind_of_name? {deed : Act retrievalService} {name : String}
    (named : deed.name? = some name) : deed.kind ∈ ActKind.calls := by
  cases deed with
  | call request =>
      cases request with
      | retrieve retriever retrieval => exact (by decide : ActKind.retrieval ∈ ActKind.calls)
      | _ => contradiction
  | _ => contradiction

/-- The service lists a name among the followees of an account. -/
inductive Event.Lists (name : String) : Event retrievalService → Prop where
  | followees {retriever : Retriever} {account : String} {names : List String}
      (listed : name ∈ names) :
      Lists name ⟨.call (.retrieve retriever (.followees account)), .ok names⟩

theorem lists_ok_iff {name account : String} {retriever : Retriever} {names : List String} :
    Event.Lists name ⟨.call (.retrieve retriever (.followees account)), .ok names⟩ ↔
      name ∈ names := by
  constructor
  · rintro ⟨listed⟩
    exact listed
  · exact .followees

theorem not_lists_error {name account : String} {retriever : Retriever} {fault : RetrieveError} :
    ¬Event.Lists name ⟨.call (.retrieve retriever (.followees account)), .error fault⟩ :=
  nofun

theorem Event.Lists.kind_mem {name : String} {event : Event retrievalService}
    (lists : event.Lists name) : event.deed.kind ∈ ActKind.calls := by
  cases lists
  exact (by decide : ActKind.retrieval ∈ ActKind.calls)

/-- A world that lists the same names for every account. -/
def World.listing (names : List String) : World retrievalService := fun past deed =>
  match deed with
  | .call (.retrieve _ (.followees _)) => .ok names
  | other => World.steady (.error (.missing "")) none "" past other

theorem mem_eventsOf {kinds : List ActKind} {events : Journal retrievalService}
    {event : Event retrievalService} :
    event ∈ eventsOf kinds events ↔ event ∈ events ∧ event.deed.kind ∈ kinds := by
  simp [eventsOf]

namespace RunSettings

variable {settings : RunSettings} {events : Journal retrievalService}

/-- What is done for a target: its own request, a look at a file with what is saved from it, and
messages. -/
inductive Serves (settings : RunSettings) (target : Target) : Act retrievalService → Prop where
  | request {retrieval : Retrieval} (asked : settings.AsksFor target retrieval) :
      Serves settings target (.call (.retrieve settings.retriever retrieval))
  | savePost (post : Post) (folder : String) :
      Serves settings target (.call (.retrieve settings.retriever (.savePost post folder)))
  | saveStoryItem (item : StoryItem) (folder : String) :
      Serves settings target (.call (.retrieve settings.retriever (.saveStoryItem item folder)))
  | readText (path : String) : Serves settings target (.readText path)
  | message (level : LogLevel) (text : String) : Serves settings target (.log level text)

/-- A named target is served and nothing else is done. -/
theorem only_handleNamed (raw : String) (accounts : AccountSet) (target : Target) :
    (settings.handleNamed raw accounts target).Only (settings.Serves target) := by
  have items : settings.AllowsItems (fun _ => True) (settings.Serves target) :=
    ⟨.readText, fun post folder _ _ => .savePost post folder,
      fun item folder _ _ => .saveStoryItem item folder⟩
  exact (complies_handleNamed .message items (fun _ _ _ _ _ => trivial)
    (fun _ asked => .request asked) raw accounts).only

/-- The requests for a target go by its name. -/
theorem Serves.name?_eq {target : Target} {deed : Act retrievalService} {name : String}
    (serves : settings.Serves target deed) (named : deed.name? = some name) :
    target.name? = some name := by
  cases serves with
  | request asked =>
      cases asked with
      | followees account | tag account => exact named
      | feed | stories | saved => contradiction
  | _ => contradiction

/-- Followees are asked for on behalf of their own target only. -/
theorem Serves.followees {target : Target} {retriever : Retriever} {account : String}
    (serves : settings.Serves target (.call (.retrieve retriever (.followees account)))) :
    target = .followees account := by
  cases serves with
  | request asked =>
      cases asked
      rfl

/-- Work whose result is all that it adds leaves the accounts as they are. -/
theorem accounts_of_path {accounts : AccountSet} {work : Work (Except TargetFault Tally)}
    {outcome : Outcome}
    (path : (work >>= fun result => pure (Outcome.mk accounts result)).Path events outcome) :
    outcome.accounts = accounts := by
  obtain ⟨_, _, result, -, -, finished⟩ := path_bind_iff.1 path
  obtain ⟨-, rfl⟩ := path_pure_iff.1 finished
  rfl

/-- Followees are asked for once, and those that are listed are added. -/
theorem path_followUp {accounts : AccountSet} {account : String}
    {expanded : Except RetrieveError Expansion}
    (path : (accounts.followUp settings.retriever account).Path events expanded) :
    ∃ answer : Except RetrieveError (List String),
      eventsOf ActKind.calls events =
        [⟨.call (.retrieve settings.retriever (.followees account)), answer⟩] ∧
      expanded = answer.map accounts.merge := by
  obtain ⟨telling, later, _, rfl, told, path⟩ := path_bind_iff.1 path
  obtain ⟨asking, following, answer, rfl, asked, path⟩ := path_bind_iff.1 path
  rw [path_perform_iff.1 told, path_retrieve asked]
  refine ⟨answer, ?_⟩
  cases answer with
  | error fault =>
      obtain ⟨rfl, rfl⟩ := path_pure_iff.1 path
      exact ⟨rfl, rfl⟩
  | ok names =>
      obtain ⟨merging, ending, _, rfl, merged, path⟩ := path_bind_iff.1 path
      obtain ⟨rfl, rfl⟩ := path_pure_iff.1 path
      rw [path_perform_iff.1 merged]
      exact ⟨rfl, rfl⟩

theorem path_expandFollowees {accounts : AccountSet} {account : String}
    {expanded : Except RetrieveError AccountSet}
    (path : (accounts.expandFollowees settings.retriever account).Path events expanded) :
    ∃ answer : Except RetrieveError (List String),
      eventsOf ActKind.calls events =
        [⟨.call (.retrieve settings.retriever (.followees account)), answer⟩] ∧
      expanded = answer.map accounts.extend := by
  obtain ⟨following, ending, result, rfl, followed, path⟩ := path_bind_iff.1 path
  obtain ⟨answer, calls, rfl⟩ := path_followUp followed
  obtain ⟨rfl, rfl⟩ := path_pure_iff.1 path
  refine ⟨answer, by rw [List.append_nil, calls], ?_⟩
  cases answer <;> rfl

/-- A named target adds its account, or the names that the service lists for it. -/
theorem path_handleNamed {raw : String} {accounts : AccountSet} {target : Target}
    {outcome : Outcome} (path : (settings.handleNamed raw accounts target).Path events outcome)
    (name : String) :
    name ∈ outcome.accounts.names ↔ name ∈ accounts.names ∨ target = .account name ∨
      ∃ event ∈ eventsOf ActKind.calls events, event.Lists name := by
  have served := (only_handleNamed raw accounts target).path path
  -- Only the target of followees has the service list names.
  have unlisted (other : ∀ account, target ≠ .followees account) :
      ¬∃ event ∈ eventsOf ActKind.calls events, event.Lists name := by
    rintro ⟨event, inside, lists⟩
    cases lists with
    | followees listed => exact other _ (served _ (mem_eventsOf.1 inside).1).followees
  cases target with
  | followees account =>
      obtain ⟨expanding, ending, expanded, rfl, asked, path⟩ := path_bind_iff.1 path
      obtain ⟨answer, calls, rfl⟩ := path_expandFollowees asked
      cases answer with
      | error fault =>
          obtain ⟨rfl, rfl⟩ := path_pure_iff.1 path
          rw [List.append_nil, calls]
          simp [not_lists_error]
      | ok names =>
          obtain ⟨rfl, rfl⟩ := path_pure_iff.1 path
          rw [List.append_nil, calls]
          simp [lists_ok_iff, AccountSet.mem_extend, or_comm]
  | account other =>
      obtain ⟨rfl, rfl⟩ := path_pure_iff.1 path
      simp [AccountSet.insert, AccountSet.mem_insertName, or_comm, eq_comm]
  | descriptorFile _ | tag _ | feed | stories | saved =>
      rw [accounts_of_path path]
      simp [unlisted]

/-- A target that names nothing is rejected without an act, and the accounts stay as they are. -/
theorem handleTarget_of_namesNothing {raw : String} (nothing : Target.NamesNothing raw)
    (accounts : AccountSet) :
    settings.handleTarget raw accounts =
      pure ⟨accounts, .error (ErrorRecord.nameless raw).fault⟩ := by
  obtain ⟨target, nameless, classified⟩ := Target.classifyIn_of_namesNothing nothing
  unfold handleTarget
  rw [classified]
  exact if_pos nameless

/-- A target that names something is handled by its name. -/
theorem path_handleTarget {raw : String} {accounts : AccountSet} {outcome : Outcome}
    (something : ¬Target.NamesNothing raw)
    (path : (settings.handleTarget raw accounts).Path events outcome) :
    ∃ target handling, target.name? ≠ some "" ∧
      (settings.handleNamed raw accounts target).Path handling outcome ∧
      eventsOf ActKind.calls events = eventsOf ActKind.calls handling := by
  obtain ⟨classifying, handling, target, rfl, classified, path⟩ := path_bind_iff.1 path
  obtain ⟨written, quiet⟩ := Target.path_classifyIn classified
  have named : target.name? ≠ some "" := by
    intro nameless
    apply something
    rw [Target.NamesNothing, ← written]
    exact Target.text_of_name? nameless
  rw [if_neg named] at path
  refine ⟨target, handling, named, path, ?_⟩
  rw [eventsOf_append, quiet, List.nil_append]

/-! ## The turns of targets and accounts -/

section Turns

variable {before after : AccountSet} {turn : Turn} {turns : List Turn} {raw name : String}

/-- The turn of a target that names nothing makes no call and changes no accounts. -/
theorem Handles.of_namesNothing (handles : settings.Handles before turn after)
    (nothing : Target.NamesNothing turn.name) :
    turn.calls = [] ∧ turn.result = .error (ErrorRecord.nameless turn.name).fault ∧
      after = before := by
  obtain ⟨events, outcome, path, calls, result, rfl⟩ := handles
  rw [handleTarget_of_namesNothing nothing] at path
  obtain ⟨rfl, rfl⟩ := path_pure_iff.1 path
  exact ⟨calls, result, rfl⟩

/-- No request on behalf of a target goes by an empty name. -/
theorem Handles.named (handles : settings.Handles before turn after) :
    ∀ event ∈ turn.calls, event.deed.name? ≠ some "" := by
  intro event inside nameless
  by_cases nothing : Target.NamesNothing turn.name
  · rw [(handles.of_namesNothing nothing).1] at inside
    contradiction
  · obtain ⟨events, outcome, path, calls, -, -⟩ := handles
    obtain ⟨target, handling, named, handled, same⟩ := path_handleTarget nothing path
    rw [calls, same] at inside
    have served := (only_handleNamed turn.name before target).path handled event
      (mem_eventsOf.1 inside).1
    exact named (served.name?_eq nameless)

/-- A target adds an empty name when the service lists one, and not otherwise. -/
theorem Handles.empty_mem_iff (handles : settings.Handles before turn after) :
    "" ∈ after.names ↔ "" ∈ before.names ∨ ∃ event ∈ turn.calls, event.Lists "" := by
  by_cases nothing : Target.NamesNothing turn.name
  · obtain ⟨calls, -, rfl⟩ := handles.of_namesNothing nothing
    simp [calls]
  · obtain ⟨events, outcome, path, calls, -, rfl⟩ := handles
    obtain ⟨target, handling, named, handled, same⟩ := path_handleTarget nothing path
    have noAccount : target ≠ .account "" := by
      rintro rfl
      exact named rfl
    rw [calls, same, path_handleNamed handled ""]
    simp [noAccount]

/-- The rejection of a nameless target is the record of its turn and of no other. -/
theorem Handles.record?_eq_nameless_iff (handles : settings.Handles before turn after)
    (nothing : Target.NamesNothing raw) :
    turn.record? = some (ErrorRecord.nameless raw) ↔ turn.name = raw := by
  constructor
  · intro recorded
    unfold Turn.record? at recorded
    split at recorded
    · contradiction
    · exact congrArg ErrorRecord.target (Option.some.inj recorded)
  · rintro rfl
    unfold Turn.record?
    rw [(handles.of_namesNothing nothing).2.1]
    rfl

theorem HandlesAll.named (handles : settings.HandlesAll before turns after) :
    ∀ turn ∈ turns, ∀ event ∈ turn.calls, event.deed.name? ≠ some "" := by
  induction handles with
  | nil _ => exact nofun
  | cons first _ ih => exact List.forall_mem_cons.2 ⟨first.named, ih⟩

/-- The targets of a run collect an empty name when the service lists one. -/
theorem HandlesAll.empty_mem_iff (handles : settings.HandlesAll before turns after) :
    "" ∈ after.names ↔
      "" ∈ before.names ∨ ∃ turn ∈ turns, ∃ event ∈ turn.calls, event.Lists "" := by
  induction handles with
  | nil _ => simp
  | cons first _ ih =>
      simp [ih, first.empty_mem_iff, or_assoc]

theorem HandlesAll.record?_eq_nameless_iff (handles : settings.HandlesAll before turns after)
    (nothing : Target.NamesNothing raw) :
    ∀ turn ∈ turns, turn.record? = some (ErrorRecord.nameless raw) ↔ turn.name = raw := by
  induction handles with
  | nil _ => exact nofun
  | cons first _ ih => exact List.forall_mem_cons.2 ⟨first.record?_eq_nameless_iff nothing, ih⟩

/-- The requests for an account are its downloads. -/
theorem Attempt.name_eq {account : String} {calls : Journal retrievalService}
    {outcome : Except RetrieveError Tally} (attempt : settings.Attempt account calls outcome)
    {event : Event retrievalService} (inside : event ∈ calls)
    (named : event.deed.name? = some name) :
    account = name ∧ ∃ retriever options,
      event.deed = .call (.retrieve retriever (.profile name settings.filters options)) := by
  cases attempt with
  | once _ final =>
      obtain rfl := List.mem_singleton.1 inside
      obtain rfl := Option.some.inj named
      exact ⟨rfl, _, _, rfl⟩
  | again what loggedIn _ =>
      simp only [List.mem_cons, List.not_mem_nil, or_false] at inside
      rcases inside with rfl | rfl | rfl
      · obtain rfl := Option.some.inj named
        exact ⟨rfl, _, _, rfl⟩
      · contradiction
      · obtain rfl := Option.some.inj named
        exact ⟨rfl, _, _, rfl⟩

/-- No names are listed for an account. -/
theorem Attempt.not_lists {account : String} {calls : Journal retrievalService}
    {outcome : Except RetrieveError Tally} (attempt : settings.Attempt account calls outcome)
    {event : Event retrievalService} (inside : event ∈ calls) : ¬event.Lists name := by
  intro lists
  cases lists with
  | followees listed => cases attempt <;> simp at inside

/-- An account is downloaded in its turn. -/
theorem Attempt.downloads {account : String} {calls : Journal retrievalService}
    {outcome : Except RetrieveError Tally} (attempt : settings.Attempt account calls outcome) :
    ∃ event ∈ calls,
      event.deed = .call (.retrieve settings.retriever (settings.download account)) := by
  cases attempt <;> exact ⟨_, List.mem_cons_self, rfl⟩

/-- What fails for an account is a request. -/
theorem Attempts.record?_ne_nameless (attempts : settings.Attempts turn) :
    turn.record? ≠ some (ErrorRecord.nameless raw) := by
  obtain ⟨outcome, -, result⟩ := attempts
  unfold Turn.record?
  rw [result]
  cases outcome with
  | ok tally => exact nofun
  | error fault =>
      intro same
      cases congrArg ErrorRecord.fault (Option.some.inj same)

end Turns

/-! ## A whole run -/

/-- An event that is not in the first list happens after all of it. -/
theorem prefix_of_split {first second earlier later : Journal retrievalService}
    {event : Event retrievalService} (split : first ++ second = earlier ++ event :: later)
    (apart : event ∉ first) : first <+: earlier := by
  rcases List.append_eq_append_iff.1 split with ⟨between, rfl, -⟩ | ⟨between, rfl, rest⟩
  · exact List.prefix_append first between
  · cases between with
    | nil => exact (List.append_nil earlier).symm ▸ List.prefix_refl earlier
    | cons next between =>
        obtain ⟨rfl, -⟩ := List.cons.inj rest
        exact absurd (List.mem_append_right earlier List.mem_cons_self) apart

/-- How a run treats empty names. -/
structure GoesByNames (settings : RunSettings) (targets : List String) (report : Report)
    (events : Journal retrievalService) : Prop where
  /-- Nothing is asked for an empty name but the download of an account. -/
  accounts_only : ∀ event ∈ events, event.deed.name? = some "" → ∃ retriever options,
    event.deed = .call (.retrieve retriever (.profile "" settings.filters options))
  /-- That account was listed by the service before. -/
  listed_before : ∀ before event after, events = before ++ event :: after →
    event.deed.name? = some "" → ∃ earlier ∈ before, earlier.Lists ""
  /-- A run that gets through downloads it when it is listed. -/
  listed_downloaded : report.interrupted = false → (∃ event ∈ events, event.Lists "") →
    ∃ event ∈ events,
      event.deed = .call (.retrieve settings.retriever (settings.download ""))
  /-- There is nothing to the handling of a target that names nothing but its rejection. -/
  handled_without_act : ∀ raw accounts, Target.NamesNothing raw →
    settings.handleTarget raw accounts =
      pure ⟨accounts, .error (ErrorRecord.nameless raw).fault⟩
  /-- It is rejected under its raw text, as often as it is reached. -/
  rejected : ∃ reached, reached <+: targets ∧ (report.interrupted = false → reached = targets) ∧
    ∀ raw, Target.NamesNothing raw →
      report.errors.count (ErrorRecord.nameless raw) = reached.count raw

section Run

variable {targets : List String} {collected : AccountSet} {targetTurns accountTurns : List Turn}
  {interrupted : Bool} (handles : settings.HandlesAll AccountSet.empty targetTurns collected)
  (reaches : Reaches targets collected targetTurns accountTurns interrupted)
  (attempts : ∀ turn ∈ accountTurns, settings.Attempts turn)
  (calls : eventsOf ActKind.calls events =
    targetTurns.flatMap Turn.calls ++ accountTurns.flatMap Turn.calls)

include handles in
/-- An empty name is collected when the service lists it. -/
theorem empty_mem_collected_iff :
    "" ∈ collected.names ↔ ∃ event ∈ targetTurns.flatMap Turn.calls, event.Lists "" := by
  rw [handles.empty_mem_iff]
  constructor
  · rintro (started | ⟨turn, taken, event, inside, lists⟩)
    · simp [AccountSet.empty] at started
    · exact ⟨event, List.mem_flatMap.2 ⟨turn, taken, inside⟩, lists⟩
  · rintro ⟨event, inside, lists⟩
    obtain ⟨turn, taken, inside⟩ := List.mem_flatMap.1 inside
    exact .inr ⟨turn, taken, event, inside, lists⟩

include handles in
/-- A request for an empty name is not made for a target. -/
theorem named_for_targets {event : Event retrievalService}
    (nameless : event.deed.name? = some "") : event ∉ targetTurns.flatMap Turn.calls := by
  intro inside
  obtain ⟨turn, taken, inside⟩ := List.mem_flatMap.1 inside
  exact handles.named turn taken event inside nameless

include handles attempts calls

/-- A request for an empty name is the download of an account that goes by it. -/
theorem download_of_nameless {event : Event retrievalService} (inside : event ∈ events)
    (nameless : event.deed.name? = some "") :
    "" ∈ accountTurns.map Turn.name ∧ ∃ retriever options,
      event.deed = .call (.retrieve retriever (.profile "" settings.filters options)) := by
  have called := mem_eventsOf.2 ⟨inside, Act.kind_of_name? nameless⟩
  rw [calls] at called
  have later := (List.mem_append.1 called).resolve_left (named_for_targets handles nameless)
  obtain ⟨turn, taken, inside⟩ := List.mem_flatMap.1 later
  obtain ⟨outcome, attempt, -⟩ := attempts turn taken
  obtain ⟨named, download⟩ := attempt.name_eq inside nameless
  exact ⟨List.mem_map.2 ⟨turn, taken, named⟩, download⟩

include reaches

theorem listed_before_nameless {before after : Journal retrievalService}
    {event : Event retrievalService} (happened : events = before ++ event :: after)
    (nameless : event.deed.name? = some "") : ∃ earlier ∈ before, earlier.Lists "" := by
  have inside : event ∈ events := by simp [happened]
  have reached := (download_of_nameless handles attempts calls inside nameless).1
  obtain ⟨entry, listed, lists⟩ :=
    (empty_mem_collected_iff handles).1 (reaches.accounts_first.subset reached)
  -- All calls for targets come before those for accounts.
  have split : targetTurns.flatMap Turn.calls ++ accountTurns.flatMap Turn.calls =
      eventsOf ActKind.calls before ++ event :: eventsOf ActKind.calls after := by
    rw [← calls, happened, eventsOf_append, eventsOf_cons, if_pos (Act.kind_of_name? nameless)]
  have targetsFirst := prefix_of_split split (named_for_targets handles nameless)
  exact ⟨entry, (mem_eventsOf.1 (targetsFirst.subset listed)).1, lists⟩

theorem downloaded_of_listed (through : interrupted = false) {entry : Event retrievalService}
    (inside : entry ∈ events) (lists : entry.Lists "") :
    ∃ event ∈ events,
      event.deed = .call (.retrieve settings.retriever (settings.download "")) := by
  have called := mem_eventsOf.2 ⟨inside, lists.kind_mem⟩
  rw [calls] at called
  have listed : entry ∈ targetTurns.flatMap Turn.calls := by
    refine (List.mem_append.1 called).resolve_right fun later => ?_
    obtain ⟨turn, taken, later⟩ := List.mem_flatMap.1 later
    obtain ⟨outcome, attempt, -⟩ := attempts turn taken
    exact attempt.not_lists later lists
  have reached : "" ∈ accountTurns.map Turn.name := by
    rw [(reaches.whole through).2]
    exact (empty_mem_collected_iff handles).2 ⟨entry, listed, lists⟩
  obtain ⟨turn, taken, named⟩ := List.mem_map.1 reached
  obtain ⟨outcome, attempt, -⟩ := attempts turn taken
  obtain ⟨event, asked, download⟩ := attempt.downloads
  have happened : event ∈ eventsOf ActKind.calls events := by
    rw [calls]
    exact List.mem_append_right _ (List.mem_flatMap.2 ⟨turn, taken, asked⟩)
  exact ⟨event, (mem_eventsOf.1 happened).1, named ▸ download⟩

omit reaches calls

/-- The rejections of a nameless target are counted by the turns of that target. -/
theorem count_nameless {raw : String} (nothing : Target.NamesNothing raw) :
    ((targetTurns ++ accountTurns).filterMap Turn.record?).count (ErrorRecord.nameless raw) =
      (targetTurns.map Turn.name).count raw := by
  have targets : targetTurns.countP (·.record? == some (ErrorRecord.nameless raw)) =
      targetTurns.countP (·.name == raw) := by
    refine List.countP_congr fun turn taken => ?_
    simpa using handles.record?_eq_nameless_iff nothing turn taken
  have accounts : accountTurns.countP (·.record? == some (ErrorRecord.nameless raw)) = 0 := by
    refine List.countP_eq_zero.2 fun turn taken => ?_
    simpa using (attempts turn taken).record?_ne_nameless
  rw [List.count_filterMap, List.countP_append, targets, accounts, Nat.add_zero, List.count,
    List.countP_map]
  rfl

end Run

/-- In every world nothing is asked for an empty name, unless the service has listed the empty name
as a followee; then it is downloaded as an account. A target that names nothing is rejected under
its raw text, and there is nothing else to its handling. -/
theorem empty_names_come_from_listings (settings : RunSettings) (targets : List String)
    (world : World retrievalService) :
    let course := (settings.run targets).play world []
    settings.GoesByNames targets course.1 course.2 := by
  intro course
  have path : (settings.run targets).Path course.2 course.1 := path_play world _ []
  obtain ⟨targetTurns, collected, accountTurns, interrupted, handles, reaches, attempts, calls,
    final⟩ := path_runFrom path
  rw [List.flatMap_append] at calls
  constructor
  · exact fun event inside nameless =>
      (download_of_nameless handles attempts calls inside nameless).2
  · exact fun before event after => listed_before_nameless handles reaches attempts calls
  · rintro through ⟨entry, inside, lists⟩
    rw [final] at through
    exact downloaded_of_listed handles reaches attempts calls through inside lists
  · exact fun raw accounts nothing => handleTarget_of_namesNothing nothing accounts
  · rw [final]
    exact ⟨_, reaches.targets_first, fun through => (reaches.whole through).1,
      fun raw nothing => count_nameless handles attempts nothing⟩

/-- A run over followees asks for an empty name when the service lists one. -/
theorem listed_empty_name_is_downloaded :
    ¬∀ (settings : RunSettings) (targets : List String) (world : World retrievalService),
      ∀ event ∈ ((settings.run targets).play world []).2, event.deed.name? ≠ some "" := by
  intro never
  let settings : RunSettings :=
    ⟨Retriever.ofCredential none, ⟨none, none⟩, ⟨.unlimited, .usual⟩⟩
  have asked : some "" ∈ ((settings.run ["@alice"]).play (World.listing ["bob", ""]) []).2.map
      (·.deed.name?) := by decide +kernel
  obtain ⟨event, inside, nameless⟩ := List.mem_map.1 asked
  exact never settings ["@alice"] _ event inside nameless

end RunSettings

end Harvest
