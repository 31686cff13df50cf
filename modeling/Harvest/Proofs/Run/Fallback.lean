import Harvest.Proofs.Run.Conduct
import Harvest.Proofs.Run.Handling

/-!
The anonymous fallback. In any world, whatever its answers depend on, a run gives each account that
it starts one download, and a second one without credential and without stories exactly when the
first finds nothing while logged in. The account counts as its last download.
-/

namespace Harvest

open Program (Path path_bind_iff path_perform_iff path_pure_iff path_play)

/-- The turn of a target or of an account: its calls with their answers, and what it came to. -/
structure Turn where
  name : String
  calls : Journal retrievalService
  result : Except TargetFault Tally

namespace Turn

/-- The record of a turn, if it failed. -/
def record? (turn : Turn) : Option ErrorRecord :=
  match turn.result with
  | .ok _ => none
  | .error fault => some ⟨turn.name, fault⟩

/-- What a turn counts, which is nothing when it failed. -/
def tally (turn : Turn) : Tally :=
  match turn.result with
  | .ok tally => tally
  | .error _ => ⟨0, 0, 0⟩

end Turn

/-- The report with some more turns, and with some more accounts attempted. -/
def Report.withTurns (report : Report) (turns : List Turn) (accounts : Nat) : Report :=
  { report with
    errors := report.errors ++ turns.filterMap Turn.record?
    tally := report.tally.add (Tally.sum (turns.map Turn.tally))
    accountsAttempted := report.accountsAttempted + accounts }

theorem Report.withTurns_nil (report : Report) : report.withTurns [] 0 = report := by
  simp [withTurns, Tally.sum_nil, Tally.add_zero]

/-- One turn after another. -/
theorem Report.withTurns_cons (report : Report) (turn : Turn) (rest : List Turn)
    (first following : Nat) :
    (report.withTurns [turn] first).withTurns rest following =
      report.withTurns (turn :: rest) (first + following) := by
  have errors : (turn :: rest).filterMap Turn.record? =
      [turn].filterMap Turn.record? ++ rest.filterMap Turn.record? :=
    List.filterMap_append (l := [turn])
  have tallies : Tally.sum ((turn :: rest).map Turn.tally) =
      (Tally.sum ([turn].map Turn.tally)).add (Tally.sum (rest.map Turn.tally)) :=
    Tally.sum_append [turn.tally] _
  simp only [withTurns, errors, tallies, List.append_assoc, Tally.add_assoc, Nat.add_assoc]

namespace RunSettings

/-- The calls for an account, and what they come to. -/
inductive Attempt (settings : RunSettings) (account : String) :
    Journal retrievalService → Except RetrieveError Tally → Prop where
  /-- One download, which finds the account or fails for good. -/
  | once (outcome : Except RetrieveError Tally)
      (final : ∀ what, outcome = .error (.notFound what) → settings.retriever.isLoggedIn = false) :
      Attempt settings account
        [⟨.call (.retrieve settings.retriever
          (.profile account settings.filters settings.options.profile)), outcome⟩] outcome
  /-- A download that finds nothing while logged in, a copy, and a download without stories. -/
  | again (what : String) (loggedIn : settings.retriever.isLoggedIn = true)
      (outcome : Except RetrieveError Tally) :
      Attempt settings account
        [⟨.call (.retrieve settings.retriever
          (.profile account settings.filters settings.options.profile)), .error (.notFound what)⟩,
        ⟨.call (.copyAnonymously settings.retriever), ()⟩,
        ⟨.call (.retrieve Retriever.anonymousCopy (.profile account settings.filters
          { settings.options.profile with stories := false })), outcome⟩] outcome

/-- A turn of an account is an attempt at it. -/
def Attempts (settings : RunSettings) (turn : Turn) : Prop :=
  ∃ outcome, settings.Attempt turn.name turn.calls outcome ∧
    turn.result = outcome.mapError .retrieve

/-- A turn of a target is a path through the handling of it, from the accounts collected before it
to those collected after it. -/
def Handles (settings : RunSettings) (before : AccountSet) (turn : Turn) (after : AccountSet) :
    Prop :=
  ∃ events outcome, (settings.handleTarget turn.name before).Path events outcome ∧
    turn.calls = eventsOf ActKind.calls events ∧ turn.result = outcome.result ∧
    after = outcome.accounts

/-- Turns of targets, each with the accounts that those before it leave. -/
inductive HandlesAll (settings : RunSettings) : AccountSet → List Turn → AccountSet → Prop where
  | nil (accounts : AccountSet) : HandlesAll settings accounts [] accounts
  | cons {before middle after : AccountSet} {turn : Turn} {rest : List Turn}
      (first : settings.Handles before turn middle)
      (following : HandlesAll settings middle rest after) :
      HandlesAll settings before (turn :: rest) after

/-- How far a run gets through its targets and then through the collected accounts, in order. It
gets through all of them unless it is interrupted. -/
structure Reaches (targets : List String) (collected : AccountSet)
    (targetTurns accountTurns : List Turn) (interrupted : Bool) : Prop where
  targets_first : targetTurns.map Turn.name <+: targets
  accounts_after : accountTurns ≠ [] → targetTurns.map Turn.name = targets
  accounts_first : accountTurns.map Turn.name <+: collected.names
  whole : interrupted = false →
    targetTurns.map Turn.name = targets ∧ accountTurns.map Turn.name = collected.names

variable {settings : RunSettings} {events : Journal retrievalService}

/-- One more target in front. -/
theorem Reaches.cons {targets : List String} {collected : AccountSet}
    {targetTurns accountTurns : List Turn} {interrupted : Bool}
    (reaches : Reaches targets collected targetTurns accountTurns interrupted) (turn : Turn) :
    Reaches (turn.name :: targets) collected (turn :: targetTurns) accountTurns interrupted where
  targets_first := List.cons_prefix_cons.2 ⟨rfl, reaches.targets_first⟩
  accounts_after started := congrArg (List.cons turn.name) (reaches.accounts_after started)
  accounts_first := reaches.accounts_first
  whole through :=
    ⟨congrArg (List.cons turn.name) (reaches.whole through).1, (reaches.whole through).2⟩

theorem path_retrieve {retriever : Retriever} {retrieval : Retrieval} {answer : retrieval.Answer}
    (path : (Work.retrieve retriever retrieval).Path events answer) :
    events = [⟨.call (.retrieve retriever retrieval), answer⟩] :=
  path_perform_iff.1 path

theorem calls_of_warn {message : String} (path : (Program.warn message).Path events ()) :
    eventsOf ActKind.calls events = [] := by
  rw [path_perform_iff.1 path]
  rfl

theorem path_copyAnonymously {retriever copy : Retriever}
    (path : (Work.copyAnonymously retriever).Path events copy) :
    events = [⟨.call (.copyAnonymously retriever), ()⟩] ∧ copy = Retriever.anonymousCopy := by
  obtain ⟨before, after, _, rfl, called, finished⟩ := path_bind_iff.1 path
  obtain ⟨rfl, rfl⟩ := path_pure_iff.1 finished
  exact ⟨by rw [path_perform_iff.1 called]; rfl, rfl⟩

/-- A result goes into the report as the turn of its name, and no call is made for it. -/
theorem path_absorb {report final : Report} (turn : Turn)
    (path : (absorb report turn.name turn.result).Path events final) :
    eventsOf ActKind.calls events = [] ∧ final = report.withTurns [turn] 0 := by
  obtain ⟨name, calls, result⟩ := turn
  cases result with
  | ok tally =>
      obtain ⟨rfl, rfl⟩ := path_pure_iff.1 path
      refine ⟨rfl, ?_⟩
      simp [Report.withTurns, Turn.record?, Turn.tally, Tally.sum_singleton, Report.addTally]
  | error fault =>
      obtain ⟨before, after, _, rfl, warned, finished⟩ := path_bind_iff.1 path
      obtain ⟨rfl, rfl⟩ := path_pure_iff.1 finished
      rw [List.append_nil]
      refine ⟨calls_of_warn warned, ?_⟩
      simp [Report.withTurns, Turn.record?, Turn.tally, Tally.sum_singleton, Tally.add,
        Report.addError]

theorem path_stop {report final : Report} (path : (stop report).Path events final) :
    eventsOf ActKind.calls events = [] ∧ final = report.interrupt := by
  obtain ⟨before, after, _, rfl, warned, finished⟩ := path_bind_iff.1 path
  obtain ⟨rfl, rfl⟩ := path_pure_iff.1 finished
  rw [List.append_nil]
  exact ⟨calls_of_warn warned, rfl⟩

/-- The download of an account is an attempt at it. -/
theorem path_downloadAccount {account : String} {outcome : Except RetrieveError Tally}
    (path : (settings.downloadAccount account).Path events outcome) :
    settings.Attempt account (eventsOf ActKind.calls events) outcome := by
  obtain ⟨before, after, first, rfl, asked, path⟩ := path_bind_iff.1 path
  rw [path_retrieve asked]
  cases first with
  | ok tally =>
      obtain ⟨rfl, rfl⟩ := path_pure_iff.1 path
      exact .once _ nofun
  | error fault =>
      simp only at path
      split at path
      · next again =>
          obtain ⟨hidden, loggedIn⟩ := Bool.and_eq_true_iff.1 again
          obtain ⟨warning, later, _, rfl, warned, path⟩ := path_bind_iff.1 path
          obtain ⟨copying, following, copy, rfl, copied, askedAgain⟩ := path_bind_iff.1 path
          obtain ⟨rfl, rfl⟩ := path_copyAnonymously copied
          cases fault with
          | notFound what =>
              rw [path_retrieve askedAgain, eventsOf_append, eventsOf_append, calls_of_warn warned]
              exact .again what loggedIn outcome
          | _ => contradiction
      · next single =>
          obtain ⟨rfl, rfl⟩ := path_pure_iff.1 path
          refine .once _ ?_
          rintro what ⟨⟩
          simpa [RetrieveError.isNotFound] using single

/-- The accounts of a run, in order: an attempt at each of those that it starts. -/
theorem path_downloadAccounts {names : List String} {report final : Report}
    (path : (settings.downloadAccounts report names).Path events final) :
    ∃ turns interrupted, turns.map Turn.name <+: names ∧
      (interrupted = false → turns.map Turn.name = names) ∧
      (∀ turn ∈ turns, settings.Attempts turn) ∧
      eventsOf ActKind.calls events = turns.flatMap Turn.calls ∧
      final = { report.withTurns turns turns.length with interrupted := interrupted } := by
  induction names generalizing report events with
  | nil =>
      obtain ⟨rfl, rfl⟩ := path_pure_iff.1 path
      refine ⟨[], final.interrupted, List.nil_prefix, fun _ => rfl, nofun, rfl, ?_⟩
      simp [Report.withTurns_nil]
  | cons account rest ih =>
      obtain ⟨look, later, raised, rfl, looked, path⟩ := path_bind_iff.1 path
      rw [eventsOf_append, path_perform_iff.1 looked]
      split at path
      · obtain ⟨quiet, rfl⟩ := path_stop path
        refine ⟨[], true, List.nil_prefix, nofun, nofun, quiet, ?_⟩
        simp [Report.withTurns_nil, Report.interrupt]
      · obtain ⟨attempt, following, outcome, rfl, attempted, path⟩ := path_bind_iff.1 path
        obtain ⟨absorbing, remaining, middle, rfl, absorbed, path⟩ := path_bind_iff.1 path
        let turn : Turn :=
          ⟨account, eventsOf ActKind.calls attempt, outcome.mapError .retrieve⟩
        obtain ⟨quiet, rfl⟩ := path_absorb turn absorbed
        obtain ⟨turns, interrupted, first, whole, attempts, calls, rfl⟩ := ih path
        have here : settings.Attempts turn := ⟨outcome, path_downloadAccount attempted, rfl⟩
        refine ⟨turn :: turns, interrupted, ?_, ?_, ?_, ?_, ?_⟩
        · exact List.cons_prefix_cons.2 ⟨rfl, first⟩
        · exact fun through => congrArg (List.cons account) (whole through)
        · exact List.forall_mem_cons.2 ⟨here, attempts⟩
        · rw [eventsOf_append, eventsOf_append, quiet, calls]
          rfl
        -- An account counts as soon as it begins, whatever its turn comes to.
        · have begun : report.beginAccount.withTurns [turn] 0 = report.withTurns [turn] 1 := rfl
          rw [begun, Report.withTurns_cons, List.length_cons, Nat.add_comm]

/-- The accounts of a run are announced without a call. -/
theorem path_finish {accounts : AccountSet} {report final : Report}
    (path : (settings.finish accounts report).Path events final) :
    ∃ later, (settings.downloadAccounts report accounts.names).Path later final ∧
      eventsOf ActKind.calls events = eventsOf ActKind.calls later := by
  unfold finish at path
  split at path
  · obtain ⟨announcing, later, _, rfl, announced, path⟩ := path_bind_iff.1 path
    rw [path_perform_iff.1 announced]
    exact ⟨later, path, rfl⟩
  · exact ⟨events, path, rfl⟩

/-- A run takes the turns of targets and then of the accounts that they collect. -/
theorem path_runFrom {targets : List String} {accounts : AccountSet} {report final : Report}
    (path : (settings.runFrom accounts report targets).Path events final) :
    ∃ targetTurns collected accountTurns interrupted,
      settings.HandlesAll accounts targetTurns collected ∧
      Reaches targets collected targetTurns accountTurns interrupted ∧
      (∀ turn ∈ accountTurns, settings.Attempts turn) ∧
      eventsOf ActKind.calls events = (targetTurns ++ accountTurns).flatMap Turn.calls ∧
      final = { report.withTurns (targetTurns ++ accountTurns) accountTurns.length with
        interrupted := interrupted } := by
  -- The report so far and the accounts so far are those of the turns before.
  induction targets generalizing accounts report events with
  | nil =>
      obtain ⟨later, path, same⟩ := path_finish path
      obtain ⟨turns, interrupted, first, whole, attempts, calls, rfl⟩ := path_downloadAccounts path
      have reaches : Reaches [] accounts [] turns interrupted :=
        ⟨List.nil_prefix, fun _ => rfl, first, fun through => ⟨rfl, whole through⟩⟩
      exact ⟨[], accounts, turns, interrupted, .nil accounts, reaches, attempts, same.trans calls, rfl⟩
  | cons raw rest ih =>
      obtain ⟨look, later, raised, rfl, looked, path⟩ := path_bind_iff.1 path
      rw [eventsOf_append, path_perform_iff.1 looked]
      split at path
      · obtain ⟨quiet, rfl⟩ := path_stop path
        have reaches : Reaches (raw :: rest) accounts [] [] true :=
          ⟨List.nil_prefix, nofun, List.nil_prefix, nofun⟩
        refine ⟨[], accounts, [], true, .nil accounts, reaches, nofun, quiet, ?_⟩
        simp [Report.withTurns_nil, Report.interrupt]
      · obtain ⟨handling, following, outcome, rfl, handled, path⟩ := path_bind_iff.1 path
        obtain ⟨absorbing, remaining, middle, rfl, absorbed, path⟩ := path_bind_iff.1 path
        let turn : Turn := ⟨raw, eventsOf ActKind.calls handling, outcome.result⟩
        obtain ⟨quiet, rfl⟩ := path_absorb turn absorbed
        obtain ⟨turns, collected, accountTurns, interrupted, handles, reaches, attempts, calls, rfl⟩ :=
          ih path
        have here : settings.Handles accounts turn outcome.accounts :=
          ⟨handling, outcome, handled, rfl, rfl, rfl⟩
        refine ⟨turn :: turns, collected, accountTurns, interrupted, .cons here handles, ?_, attempts,
          ?_, ?_⟩
        · exact reaches.cons turn
        · rw [eventsOf_append, eventsOf_append, quiet, calls]
          rfl
        · rw [Report.withTurns_cons, Nat.zero_add]
          rfl

/-- The turns of a target keep to what targets may do. -/
theorem Handles.permits {before after : AccountSet} {turn : Turn}
    (handles : settings.Handles before turn after) :
    ∀ event ∈ turn.calls, settings.PermitsTarget event.deed := by
  obtain ⟨events, outcome, path, calls, -, -⟩ := handles
  intro event inside
  rw [calls] at inside
  exact (only_handleTarget turn.name before).path path event ((List.mem_filter.1 inside).1)

theorem HandlesAll.permits {before after : AccountSet} {turns : List Turn}
    (handles : settings.HandlesAll before turns after) :
    ∀ turn ∈ turns, ∀ event ∈ turn.calls, settings.PermitsTarget event.deed := by
  induction handles with
  | nil _ => exact nofun
  | cons first _ ih => exact List.forall_mem_cons.2 ⟨first.permits, ih⟩

/-- How a run over some targets treats its accounts: its calls and its report are those of the
turns of targets and then of the accounts that they collect, and the turn of an account is an
attempt at it. -/
structure FallsBack (settings : RunSettings) (targets : List String) (report : Report)
    (events : Journal retrievalService) (targetTurns accountTurns : List Turn)
    (collected : AccountSet) : Prop where
  targets_handled : settings.HandlesAll AccountSet.empty targetTurns collected
  targets_apart : ∀ turn ∈ targetTurns, ∀ event ∈ turn.calls, settings.PermitsTarget event.deed
  reached : Reaches targets collected targetTurns accountTurns report.interrupted
  accounts_ascending : (accountTurns.map Turn.name).Pairwise (· < ·)
  accounts_attempted : ∀ turn ∈ accountTurns, settings.Attempts turn
  calls_eq : eventsOf ActKind.calls events = (targetTurns ++ accountTurns).flatMap Turn.calls
  errors_eq : report.errors = (targetTurns ++ accountTurns).filterMap Turn.record?
  tally_eq : report.tally = Tally.sum ((targetTurns ++ accountTurns).map Turn.tally)
  attempted_eq : report.accountsAttempted = accountTurns.length
  no_copy : settings.retriever.isLoggedIn = false → eventsOf [.copying] events = []

/-- In every world a run tries each account that it starts once, and once more anonymously and
without stories exactly when it finds nothing while logged in; the last download is what counts. -/
theorem run_falls_back (settings : RunSettings) (targets : List String)
    (world : World retrievalService) :
    let course := (settings.run targets).play world []
    ∃ targetTurns accountTurns collected,
      settings.FallsBack targets course.1 course.2 targetTurns accountTurns collected := by
  intro course
  have path : (settings.run targets).Path course.2 course.1 := path_play world _ []
  obtain ⟨targetTurns, collected, accountTurns, interrupted, handles, reaches, attempts, calls,
    final⟩ := path_runFrom path
  refine ⟨targetTurns, accountTurns, collected, ?_⟩
  constructor
  · exact handles
  · exact handles.permits
  · rw [final]
    exact reaches
  · exact collected.ascending.sublist reaches.accounts_first.sublist
  · exact attempts
  · exact calls
  · rw [final]
    rfl
  · rw [final]
    exact Tally.zero_add _
  · rw [final]
    exact Nat.zero_add _
  · intro loggedOut
    apply eventsOf_eq_nil
    intro event inside copying
    have permitted := (only_run targets).path path event inside
    have loggedIn := permitted.loggedIn_of_copying (List.mem_singleton.1 copying)
    exact Bool.false_ne_true (loggedOut.symm.trans loggedIn)

end RunSettings

end Harvest
