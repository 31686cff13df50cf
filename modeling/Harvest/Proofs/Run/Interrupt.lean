import Harvest.Proofs.Run.Isolation
import Mathlib.Data.List.Infix

/-!
Interrupts end a run cleanly. Whenever the flag goes up, what is under way is finished, nothing
else is started, and the report tells what was done until then.
-/

namespace Harvest

/-- Whether an act calls the service. -/
def Act.isCall {service : Interface} : Act service → Bool
  | .call _ => true
  | _ => false

/-- The calls of a history. -/
def calls (past : History) : History :=
  past.filter Act.isCall

theorem turns_isPrefix {handled : String → Handling} {started names : List String}
    (first : started <+: names) : turns handled started <+: turns handled names :=
  first.flatMap _

theorem recordsOf_isPrefix {handled : String → Handling} {started names : List String}
    (first : started <+: names) : recordsOf handled started <+: recordsOf handled names :=
  first.filterMap _

namespace Surroundings

variable {surroundings : Surroundings} {settings : RunSettings}

/-- A run with a moment for the flag, next to the same run without: it starts some targets and
some accounts while the flag is down, finishes them, and stops. -/
structure StopsCleanly (surroundings : Surroundings) (settings : RunSettings) (moment : Nat)
    (targets started accounts : List String) (cut whole : Report × History) : Prop where
  targets_first : started <+: targets
  accounts_first : accounts <+: (surroundings.collected settings targets).names
  targets_before_accounts : started ≠ targets → accounts = []
  acts_eq : cut.2 = turns (surroundings.handling settings) started ++
    turns (surroundings.handlingOfAccount settings) accounts ++
      if cut.1.interrupted then [.pollInterrupt] else []
  targets_timely : ∀ before raw after, started = before ++ raw :: after →
    (turns (surroundings.handling settings) before).length < moment
  accounts_timely : ∀ before account after, accounts = before ++ account :: after →
    (turns (surroundings.handling settings) started ++
      turns (surroundings.handlingOfAccount settings) before).length < moment
  calls_first : calls cut.2 <+: calls whole.2
  errors_first : cut.1.errors <+: whole.1.errors
  attempted_eq : cut.1.accountsAttempted = accounts.length
  tally_eq : cut.1.tally = surroundings.tally (calls cut.2)
  interrupted_iff : cut.1.interrupted = true ↔
    started ≠ targets ∨ accounts ≠ (surroundings.collected settings targets).names
  interrupted_late : cut.1.interrupted = true → moment < cut.2.length

/-- Only calls count. -/
theorem tally_calls (acts : History) : surroundings.tally (calls acts) = surroundings.tally acts := by
  induction acts with
  | nil => rfl
  | cons act rest ih =>
      cases act with
      | call request =>
          have kept : calls (.call request :: rest) = .call request :: calls rest := rfl
          rw [kept, tally_cons, tally_cons, ih]
      | _ =>
          rw [tally_cons_of_idle rfl]
          exact ih

/-- What comes first among the targets and then among the accounts comes first in a run. -/
theorem whole_isPrefix {α : Type} {before after first last : List α} (beginning : before <+: after)
    (following : first <+: last) (ordered : before = after ∨ first = []) :
    before ++ first <+: after ++ last := by
  rcases ordered with rfl | rfl
  · exact (List.prefix_append_right_inj before).2 following
  · rw [List.append_nil]
    exact beginning.trans (List.prefix_append after last)

section Started

variable {moment : Nat} {targets : List String}

theorem flagUp_some {past : History} : flagUp (some moment) past = true ↔ moment ≤ past.length := by
  simp [flagUp]

theorem flagDown_some {past : History} :
    flagUp (some moment) past = false ↔ past.length < moment := by
  simp [flagUp]

theorem startedAccounts_isPrefix :
    surroundings.startedAccounts settings (some moment) targets <+:
      (surroundings.collected settings targets).names := by
  unfold startedAccounts
  split
  · exact begun_isPrefix _
  · exact List.nil_prefix

/-- The flag is down when a target takes its turn. -/
theorem startedTargets_timely {before after : List String} {raw : String}
    (taken : surroundings.startedTargets settings (some moment) targets = before ++ raw :: after) :
    (turns (surroundings.handling settings) before).length < moment :=
  flagDown_some.1 (begun_timely taken)

/-- The flag is down when an account takes its turn. -/
theorem startedAccounts_timely {before after : List String} {account : String}
    (taken : surroundings.startedAccounts settings (some moment) targets =
      before ++ account :: after) :
    (turns (surroundings.handling settings)
        (surroundings.startedTargets settings (some moment) targets) ++
      turns (surroundings.handlingOfAccount settings) before).length < moment := by
  unfold startedAccounts at taken
  split at taken
  · next all =>
      rw [all]
      exact flagDown_some.1 (begun_timely taken)
  · simp at taken

/-- The flag is up when something is left. -/
theorem started_late (left : ¬(surroundings.startedTargets settings (some moment) targets = targets ∧
      surroundings.startedAccounts settings (some moment) targets =
        (surroundings.collected settings targets).names)) :
    moment ≤ (turns (surroundings.handling settings)
        (surroundings.startedTargets settings (some moment) targets) ++
      turns (surroundings.handlingOfAccount settings)
        (surroundings.startedAccounts settings (some moment) targets)).length := by
  by_cases all : surroundings.startedTargets settings (some moment) targets = targets
  · have reached : surroundings.startedAccounts settings (some moment) targets = _ := if_pos all
    rw [all, reached]
    rw [reached] at left
    exact flagUp_some.1 (begun_stopped fun same => left ⟨all, same⟩)
  · have reached : surroundings.startedAccounts settings (some moment) targets = [] := if_neg all
    have nothing : turns (surroundings.handlingOfAccount settings) [] = [] := rfl
    rw [reached, nothing, List.append_nil]
    exact flagUp_some.1 (begun_stopped all)

end Started

/-- A run ends after its turns, or with one more look at the flag when it leaves something. -/
theorem run_eq_of_some (surroundings : Surroundings) (settings : RunSettings) (moment : Nat)
    (targets : List String) :
    let started := surroundings.startedTargets settings (some moment) targets
    let accounts := surroundings.startedAccounts settings (some moment) targets
    ∃ interrupted, surroundings.run settings (some moment) targets =
        ({ surroundings.reportOf settings started accounts with interrupted := interrupted },
          turns (surroundings.handling settings) started ++
            turns (surroundings.handlingOfAccount settings) accounts ++
            if interrupted then [.pollInterrupt] else []) ∧
      (interrupted = true ↔
        ¬(started = targets ∧ accounts = (surroundings.collected settings targets).names)) := by
  intro started accounts
  have law := run_eq surroundings settings (some moment) targets
  by_cases complete :
      started = targets ∧ accounts = (surroundings.collected settings targets).names
  · refine ⟨false, (law.trans (if_pos complete)).trans ?_, by simp [complete]⟩
    rw [if_neg Bool.false_ne_true, List.append_nil]
    rfl
  · exact ⟨true, law.trans (if_neg complete), by simp [complete]⟩

/-- Interrupts end a run cleanly at every moment. -/
theorem run_stops_cleanly (surroundings : Surroundings) (settings : RunSettings) (moment : Nat)
    (targets : List String) :
    ∃ started accounts, surroundings.StopsCleanly settings moment targets started accounts
      (surroundings.run settings (some moment) targets) (surroundings.run settings none targets) := by
  let started := surroundings.startedTargets settings (some moment) targets
  let accounts := surroundings.startedAccounts settings (some moment) targets
  obtain ⟨interrupted, same, left⟩ := run_eq_of_some surroundings settings moment targets
  have whole := accounted_run surroundings settings targets
  have first : started <+: targets := begun_isPrefix targets
  have accountsFirst : accounts <+: (surroundings.collected settings targets).names :=
    startedAccounts_isPrefix
  have ordered : started = targets ∨ accounts = [] :=
    (em (started = targets)).imp_right fun stopped => if_neg stopped
  have acts : turns (surroundings.handling settings) started ++
      turns (surroundings.handlingOfAccount settings) accounts <+:
        (surroundings.run settings none targets).2 := by
    rw [whole.acts_eq]
    exact whole_isPrefix (turns_isPrefix first) (turns_isPrefix accountsFirst)
      (ordered.imp (congrArg _) (congrArg _))
  have errors : recordsOf (surroundings.handling settings) started ++
      recordsOf (surroundings.handlingOfAccount settings) accounts <+:
        (surroundings.run settings none targets).1.errors := by
    rw [whole.errors_eq]
    exact whole_isPrefix (recordsOf_isPrefix first) (recordsOf_isPrefix accountsFirst)
      (ordered.imp (congrArg _) (congrArg _))
  have calls_eq (past : History) :
      calls (past ++ if interrupted then [.pollInterrupt] else []) = calls past := by
    cases interrupted <;> simp [calls, Act.isCall]
  refine ⟨started, accounts, ?_⟩
  rw [same]
  constructor
  · exact first
  · exact accountsFirst
  · exact ordered.resolve_left
  · rfl
  · exact fun _ _ _ => startedTargets_timely
  · exact fun _ _ _ => startedAccounts_timely
  · rw [calls_eq]
    exact acts.filter Act.isCall
  · exact errors
  · rfl
  · rw [calls_eq, tally_calls]
    rfl
  · exact left.trans not_and_or
  · intro stopped
    have late := started_late (left.1 stopped)
    simp only at stopped
    simp only [stopped, if_true, List.length_append, List.length_singleton] at late ⊢
    omega

end Surroundings

end Harvest
