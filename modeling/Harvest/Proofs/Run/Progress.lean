import Harvest.Proofs.Run.Handling

/-!
How far a run gets. The targets and then the accounts take their turns, each after a look at the
interrupt flag, and a run comes to what the turns before the flag come to.
-/

namespace Harvest

/-- The turns of some names: a look at the flag, and what each name does. -/
def turns (handled : String → Handling) (names : List String) : History :=
  names.flatMap fun name => .pollInterrupt :: (handled name).acts

/-- The names whose turn comes before the flag is up. -/
def begun (moment : Option Nat) (handled : String → Handling) : History → List String → List String
  | _, [] => []
  | past, name :: rest =>
    if flagUp moment past then []
    else name :: begun moment handled (past ++ turns handled [name]) rest

/-- The faults of some names, in order. -/
def recordsOf (handled : String → Handling) (names : List String) : List ErrorRecord :=
  names.filterMap fun name => (handled name).fault.map fun fault => ⟨name, fault⟩

section Begun

variable {moment : Option Nat} {handled : String → Handling} {past : History}

theorem turns_append (first second : List String) :
    turns handled (first ++ second) = turns handled first ++ turns handled second :=
  List.flatMap_append

theorem recordsOf_append (first second : List String) :
    recordsOf handled (first ++ second) = recordsOf handled first ++ recordsOf handled second :=
  List.filterMap_append

theorem turns_cons (name : String) (rest : List String) :
    turns handled (name :: rest) = turns handled [name] ++ turns handled rest :=
  turns_append [name] rest

theorem recordsOf_cons (name : String) (rest : List String) :
    recordsOf handled (name :: rest) = recordsOf handled [name] ++ recordsOf handled rest :=
  recordsOf_append [name] rest

/-- The names begun come first in the list. -/
theorem begun_isPrefix (names : List String) : begun moment handled past names <+: names := by
  induction names generalizing past with
  | nil => exact List.prefix_refl []
  | cons name rest ih =>
      unfold begun
      split
      · exact List.nil_prefix
      · exact List.cons_prefix_cons.2 ⟨rfl, ih⟩

/-- Without an interrupt every name is begun. -/
theorem begun_none (names : List String) : begun none handled past names = names := by
  induction names generalizing past with
  | nil => rfl
  | cons name rest ih => simp [begun, flagUp_none, ih]

/-- The flag is down when a turn begins. -/
theorem begun_timely {names before after : List String} {name : String}
    (taken : begun moment handled past names = before ++ name :: after) :
    flagUp moment (past ++ turns handled before) = false := by
  induction names generalizing past before with
  | nil => simp [begun] at taken
  | cons first rest ih =>
      unfold begun at taken
      split at taken
      · simp at taken
      · next down =>
          cases before with
          | nil => simpa [turns] using down
          | cons other before =>
              obtain ⟨rfl, following⟩ := List.cons.inj taken
              rw [turns_cons, ← List.append_assoc]
              exact ih following

/-- The flag is up when a name is left. -/
theorem begun_stopped {names : List String} (left : begun moment handled past names ≠ names) :
    flagUp moment (past ++ turns handled (begun moment handled past names)) = true := by
  induction names generalizing past with
  | nil => exact absurd rfl left
  | cons first rest ih =>
      unfold begun at left ⊢
      split
      · next up => simpa [turns] using up
      · next down =>
          rw [if_neg down] at left
          rw [turns_cons, ← List.append_assoc]
          exact ih fun same => left (congrArg (first :: ·) same)

end Begun

namespace Surroundings

variable {surroundings : Surroundings} {settings : RunSettings} {handled : String → Handling}

/-- The report with the turns of some names, and with some more accounts begun. -/
def advance (surroundings : Surroundings) (handled : String → Handling) (report : Report)
    (names : List String) (accounts : Nat) : Report :=
  { report with
    errors := report.errors ++ recordsOf handled names
    tally := report.tally.add (surroundings.tally (turns handled names))
    accountsAttempted := report.accountsAttempted + accounts }

theorem advance_nil (report : Report) : surroundings.advance handled report [] 0 = report := by
  simp [advance, recordsOf, turns, Tally.add_zero]

/-- One turn after another. -/
theorem advance_cons (report : Report) (name : String) (rest : List String)
    (first following : Nat) :
    surroundings.advance handled (surroundings.advance handled report [name] first) rest following =
      surroundings.advance handled report (name :: rest) (first + following) := by
  simp only [advance, List.append_assoc, Tally.add_assoc, Nat.add_assoc,
    recordsOf_cons name rest, turns_cons name rest, tally_append]

/-- A result goes into the report as the turn of its name. -/
theorem does_absorb {name : String} (empty : surroundings.FailsEmpty (handled name))
    (report : Report) :
    surroundings.Does (RunSettings.absorb report name (surroundings.result (handled name)))
      (surroundings.advance handled report [name] 0) [] := by
  have counted : surroundings.tally (turns handled [name]) =
      surroundings.tally (handled name).acts := by
    simp only [turns, List.flatMap_cons, List.flatMap_nil, List.append_nil]
    exact tally_cons_of_idle rfl _
  unfold result advance recordsOf
  rw [counted]
  cases failed : (handled name).fault with
  | none =>
      simp only [failed, List.filterMap_cons, List.filterMap_nil, Option.map_none, List.append_nil]
      exact does_pure _
  | some fault =>
      simp only [failed, List.filterMap_cons, List.filterMap_nil, Option.map_some,
        empty (by simp [failed]), Tally.add_zero]
      exact (does_warn _).after (does_pure _)

theorem does_stop (report : Report) :
    surroundings.Does (RunSettings.stop report) report.interrupt [] :=
  (does_warn _).after (does_pure _)

/-- A run that leaves some names looks at the flag once more and ends interrupted. -/
def ending (started names : List String) (report : Report) (past : History) : Report × History :=
  if started = names then (report, past) else (report.interrupt, past ++ [.pollInterrupt])

/-- The end of a run after one more turn. -/
theorem ending_cons (name : String) (started names : List String) (report : Report)
    (past : History) :
    ending (name :: started) (name :: names) report past = ending started names report past := by
  simp [ending]

/-- A turn is a look at the flag and the acts behind it. -/
theorem turn_append (past : History) (name : String) :
    past ++ [.pollInterrupt] ++ (handled name).acts = past ++ turns handled [name] := by
  simp [turns]

/-- The accounts before the flag take their turns. -/
theorem perform_downloadAccounts (moment : Option Nat) (names : List String) (report : Report)
    (past : History) :
    let handled := surroundings.handlingOfAccount settings
    let started := begun moment handled past names
    surroundings.perform moment (settings.downloadAccounts report names) past =
      ending started names (surroundings.advance handled report started started.length)
        (past ++ turns handled started) := by
  intro handled started
  -- The past varies, because it decides whether the flag is up.
  induction names generalizing report past with
  | nil =>
      change _ = ending [] [] (surroundings.advance handled report [] 0) (past ++ [])
      rw [advance_nil, List.append_nil]
      rfl
  | cons account rest ih =>
      unfold started RunSettings.downloadAccounts begun
      rw [perform_bind, perform_interrupted]
      by_cases up : flagUp moment past
      · simp only [up, if_true]
        rw [does_stop]
        simp [ending, advance_nil, turns]
      · obtain ⟨outcome, same, does⟩ :
            ∃ outcome, outcome.mapError .retrieve = surroundings.result (handled account) ∧
              surroundings.Does (settings.downloadAccount account) outcome (handled account).acts :=
          does_downloadAccount account
        have absorbed : surroundings.Does
            (RunSettings.absorb report.beginAccount account (surroundings.result (handled account)))
            (surroundings.advance handled report [account] 1) [] :=
          does_absorb (.account account) report.beginAccount
        simp only [up, Bool.false_eq_true, if_false]
        rw [perform_bind, does, turn_append, perform_bind, same, absorbed, List.append_nil, ih,
          advance_cons, ending_cons, turns_cons account (begun _ _ _ _), List.length_cons,
          List.append_assoc, Nat.add_comm]

/-- The targets before the flag take their turns, and the accounts follow when none is left. -/
theorem perform_runFrom (moment : Option Nat) (targets : List String) (accounts : AccountSet)
    (report : Report) (past : History) :
    let handled := surroundings.handling settings
    let started := begun moment handled past targets
    surroundings.perform moment (settings.runFrom accounts report targets) past =
      if started = targets then
        surroundings.perform moment
          (settings.finish (accounts.extend (targets.flatMap fun raw => (handled raw).names))
            (surroundings.advance handled report targets 0)) (past ++ turns handled targets)
      else
        ((surroundings.advance handled report started 0).interrupt,
          past ++ turns handled started ++ [.pollInterrupt]) := by
  intro handled started
  induction targets generalizing accounts report past with
  | nil =>
      have none : past ++ turns handled [] = past := List.append_nil past
      simp only [started, begun, if_true, none, advance_nil]
      rfl
  | cons raw rest ih =>
      unfold started RunSettings.runFrom begun
      rw [perform_bind, perform_interrupted]
      by_cases up : flagUp moment past
      · simp only [up, if_true]
        rw [does_stop]
        simp [advance_nil, turns]
      · have does : surroundings.Does (settings.handleTarget raw accounts)
            ⟨accounts.extend (handled raw).names, surroundings.result (handled raw)⟩
            (handled raw).acts := does_handleTarget raw accounts
        have absorbed : surroundings.Does
            (RunSettings.absorb report raw (surroundings.result (handled raw)))
            (surroundings.advance handled report [raw] 0) [] := does_absorb (.target raw) report
        -- Names join one target after the other, which comes to the names of all targets.
        have collected : (accounts.extend (handled raw).names).extend
            (rest.flatMap fun raw => (handled raw).names) =
            accounts.extend ((raw :: rest).flatMap fun raw => (handled raw).names) := by
          simp [AccountSet.extend]
        simp only [up, Bool.false_eq_true, if_false]
        rw [perform_bind, does, turn_append, perform_bind, absorbed, List.append_nil, ih]
        simp only [collected, advance_cons, List.cons.injEq, true_and, turns_cons raw rest,
          turns_cons raw (begun _ _ _ _), List.append_assoc]

/-- The accounts of a run are announced first. -/
theorem perform_finish (moment : Option Nat) (accounts : AccountSet) (report : Report)
    (past : History) :
    surroundings.perform moment (settings.finish accounts report) past =
      surroundings.perform moment (settings.downloadAccounts report accounts.names) past := by
  unfold RunSettings.finish
  split
  · rw [perform_bind, does_inform, List.append_nil]
  · rfl

/-- The accounts that some targets come to. -/
def collected (surroundings : Surroundings) (settings : RunSettings) (targets : List String) :
    AccountSet :=
  .ofList (targets.flatMap fun raw => (surroundings.handling settings raw).names)

/-- A run among some surroundings, with what it is seen to do. -/
def run (surroundings : Surroundings) (settings : RunSettings) (moment : Option Nat)
    (targets : List String) : Report × History :=
  surroundings.perform moment (settings.run targets) []

/-- The targets that a run starts. -/
def startedTargets (surroundings : Surroundings) (settings : RunSettings) (moment : Option Nat)
    (targets : List String) : List String :=
  begun moment (surroundings.handling settings) [] targets

/-- The accounts that a run starts, which are none while a target is left. -/
def startedAccounts (surroundings : Surroundings) (settings : RunSettings) (moment : Option Nat)
    (targets : List String) : List String :=
  if surroundings.startedTargets settings moment targets = targets then
    begun moment (surroundings.handlingOfAccount settings)
      (turns (surroundings.handling settings) targets)
      (surroundings.collected settings targets).names
  else []

/-- What the turns of some targets and accounts come to. -/
def reportOf (surroundings : Surroundings) (settings : RunSettings)
    (targets accounts : List String) : Report where
  errors := recordsOf (surroundings.handling settings) targets ++
    recordsOf (surroundings.handlingOfAccount settings) accounts
  tally := surroundings.tally (turns (surroundings.handling settings) targets ++
    turns (surroundings.handlingOfAccount settings) accounts)
  accountsAttempted := accounts.length
  interrupted := false

theorem advance_reportOf (targets accounts : List String) :
    surroundings.advance (surroundings.handlingOfAccount settings)
      (surroundings.advance (surroundings.handling settings) Report.empty targets 0) accounts
      accounts.length = surroundings.reportOf settings targets accounts := by
  simp [advance, reportOf, Report.empty, tally_append, Tally.zero_add]

/-- A run comes to the turns of what it starts. It is interrupted exactly when it leaves something,
and it looks at the flag once more then. -/
theorem run_eq (surroundings : Surroundings) (settings : RunSettings) (moment : Option Nat)
    (targets : List String) :
    let started := surroundings.startedTargets settings moment targets
    let accounts := surroundings.startedAccounts settings moment targets
    let report := surroundings.reportOf settings started accounts
    let past := turns (surroundings.handling settings) started ++
      turns (surroundings.handlingOfAccount settings) accounts
    surroundings.run settings moment targets =
      if started = targets ∧ accounts = (surroundings.collected settings targets).names then
        (report, past)
      else (report.interrupt, past ++ [.pollInterrupt]) := by
  intro started accounts report past
  have law : surroundings.run settings moment targets = _ :=
    perform_runFrom moment targets AccountSet.empty Report.empty []
  rw [law]
  -- No account takes its turn before all targets have taken theirs.
  by_cases all : begun moment (surroundings.handling settings) [] targets = targets
  · have everyTarget : started = targets := all
    have reached : accounts = begun moment (surroundings.handlingOfAccount settings)
        (turns (surroundings.handling settings) targets)
        (surroundings.collected settings targets).names := if_pos all
    have advanced : surroundings.reportOf settings started accounts = _ :=
      (advance_reportOf started accounts).symm
    simp only [all, if_true, everyTarget, true_and, report, past, advanced]
    rw [perform_finish, perform_downloadAccounts, List.nil_append, reached]
    rfl
  · have noAccount : accounts = [] := if_neg all
    have stopped : ¬(started = targets ∧
        accounts = (surroundings.collected settings targets).names) := fun both => all both.1
    have advanced : report = _ := (advance_reportOf started accounts).symm
    rw [if_neg all, if_neg stopped, advanced]
    simp only [past, noAccount, turns, List.flatMap_nil, List.append_nil, List.length_nil,
      advance_nil, List.nil_append]
    rfl

end Surroundings

end Harvest
