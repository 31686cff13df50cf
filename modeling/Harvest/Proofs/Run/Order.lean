import Harvest.Proofs.Run.Conduct
import Harvest.Proofs.Run.Interrupt
import Harvest.Proofs.Target.Classification
import Mathlib.Data.List.Sort

/-!
The order of targets. Runs over the same targets in another order download the same accounts in
the same order, and do everything else as often. Another copy of an account changes nothing.
-/

namespace Harvest

theorem Tally.add_left_comm (first second third : Tally) :
    first.add (second.add third) = second.add (first.add third) := by
  simp only [Tally.add, Nat.add_left_comm]

/-- Counts add up to the same in any order. -/
theorem Tally.sum_perm {first second : List Tally} (perm : first.Perm second) :
    Tally.sum first = Tally.sum second := by
  induction perm with
  | nil => rfl
  | cons tally _ ih => exact congrArg tally.add ih
  | swap first second rest => exact Tally.add_left_comm second first (Tally.sum rest)
  | trans _ _ left right => exact left.trans right

/-- A set of accounts is known by its members. -/
theorem AccountSet.eq_of_mem_iff {accounts others : AccountSet}
    (same : ∀ name, name ∈ accounts.names ↔ name ∈ others.names) : accounts = others := by
  have names : accounts.names = others.names :=
    accounts.ascending.eq_of_mem_iff others.ascending same
  cases accounts
  cases others
  congr

/-- Whether an act downloads an account, or makes the copy that downloads it again. -/
def Act.isDownload : Act retrievalService → Bool
  | .call (.retrieve _ retrieval) => retrieval.isProfile
  | .call (.copyAnonymously _) => true
  | _ => false

/-- The downloads of accounts in a history. -/
def downloads (past : History) : History :=
  past.filter Act.isDownload

theorem calls_turns (handled : String → Handling) (names : List String) :
    calls (turns handled names) = names.flatMap fun name => calls (handled name).acts := by
  simp [calls, turns, List.filter_flatMap, Act.isCall]

theorem downloads_turns (handled : String → Handling) (names : List String) :
    downloads (turns handled names) = names.flatMap fun name => downloads (handled name).acts := by
  simp [downloads, turns, List.filter_flatMap, Act.isDownload]

namespace Surroundings

variable {surroundings : Surroundings} {settings : RunSettings} {targets others : List String}

/-- What two runs over the same targets have in common, whatever the order of the targets. -/
structure SameWork (surroundings : Surroundings) (settings : RunSettings)
    (targets : List String) (first second : Report × History) : Prop where
  /-- The same accounts are downloaded in the same order. -/
  downloads_eq : downloads first.2 = downloads second.2
  calls_perm : (calls first.2).Perm (calls second.2)
  /-- The faults of targets come first, in some order, and then those of the accounts. -/
  errors_eq : ∃ ofFirst ofSecond ofAccounts, first.1.errors = ofFirst ++ ofAccounts ∧
    second.1.errors = ofSecond ++ ofAccounts ∧ ofFirst.Perm ofSecond ∧
    ofAccounts = recordsOf (surroundings.handlingOfAccount settings)
      (surroundings.collected settings targets).names
  tally_eq : first.1.tally = second.1.tally
  attempted_eq : first.1.accountsAttempted = second.1.accountsAttempted
  interrupted_eq : first.1.interrupted = second.1.interrupted

/-- A list of targets with more copies of accounts among some targets. A copy of an account has any
number of slashes behind its name. -/
inductive WithCopies (surroundings : Surroundings) (targets : List String) :
    List String → List String → Prop where
  | nil : WithCopies surroundings targets [] []
  | keep (raw : String) {fewer more : List String} :
      WithCopies surroundings targets fewer more →
      WithCopies surroundings targets (raw :: fewer) (raw :: more)
  | copy {raw name : String} (slashes : Nat) {fewer more : List String} :
      raw ∈ targets → Target.classify surroundings.isFile raw = .account name → name ≠ "" →
      WithCopies surroundings targets fewer more →
      WithCopies surroundings targets fewer
        ((name ++ String.ofList (List.replicate slashes '/')) :: more)

/-- The tally of a history does not depend on the order of its acts. -/
theorem tally_perm {first second : History} (perm : first.Perm second) :
    surroundings.tally first = surroundings.tally second :=
  Tally.sum_perm (perm.map surroundings.credit)

/-- The accounts of a run depend on what its targets contribute. -/
theorem collected_eq_of_contributes (same : ∀ name,
      (∃ raw ∈ targets, surroundings.Contributes settings raw name) ↔
        ∃ raw ∈ others, surroundings.Contributes settings raw name) :
    surroundings.collected settings targets = surroundings.collected settings others :=
  AccountSet.eq_of_mem_iff fun name =>
    ((accounted_run surroundings settings targets).mem_collected name).trans
      ((same name).trans ((accounted_run surroundings settings others).mem_collected name).symm)

theorem downloads_request (retriever : Retriever) {retrieval : Retrieval}
    (other : retrieval.isProfile = false) :
    downloads (surroundings.request retriever retrieval).acts = [] := by
  simp [downloads, request, Act.isDownload, other]

theorem downloads_filesRead (path : String) : downloads (filesRead path) = [] := by
  unfold filesRead
  split <;> rfl

theorem downloads_item (subject : Filter.Subject) {save : Retrieval}
    (other : save.isProfile = false) :
    downloads (surroundings.handlingOfItem settings subject save).acts = [] := by
  unfold handlingOfItem
  split
  · rfl
  · rfl
  · exact downloads_request _ other

theorem downloads_file (path : String) :
    downloads (surroundings.handlingOfFile settings path).acts = [] := by
  have split : downloads (surroundings.handlingOfFile settings path).acts = _ :=
    List.filter_append _ _
  rw [split]
  refine List.append_eq_nil_iff.2 ⟨downloads_filesRead path, ?_⟩
  cases surroundings.descriptor path with
  | error fault => rfl
  | ok descriptor =>
      simp only [handlingOfDescriptor]
      cases descriptor.dispatch path with
      | post item folder => exact downloads_item _ rfl
      | storyItem item folder => exact downloads_item _ rfl
      | rejected reason => rfl

/-- A target downloads no account. -/
theorem downloads_target (raw : String) :
    downloads (surroundings.handling settings raw).acts = [] := by
  unfold handling
  by_cases nameless : (Target.classify surroundings.isFile raw).name? = some ""
  · simp only [nameless, if_true]
    rfl
  · simp only [nameless, if_false]
    cases Target.classify surroundings.isFile raw with
    | descriptorFile path => exact downloads_file path
    | _ => rfl

/-- The downloads of a run are those of its accounts. -/
theorem Accounted.downloads_eq {report : Report} {acts : History}
    (accounted : surroundings.Accounted settings targets report acts) :
    downloads acts = downloads (turns (surroundings.handlingOfAccount settings)
      (surroundings.collected settings targets).names) := by
  have none : downloads (turns (surroundings.handling settings) targets) = [] := by
    rw [downloads_turns, List.flatMap_eq_nil_iff]
    exact fun raw _ => downloads_target raw
  rw [accounted.acts_eq]
  unfold downloads at none ⊢
  rw [List.filter_append, none, List.nil_append]

/-- The report of a run that nobody interrupts. -/
theorem Accounted.report_eq {report : Report} {acts : History}
    (accounted : surroundings.Accounted settings targets report acts) :
    report = {
      errors := recordsOf (surroundings.handling settings) targets ++
        recordsOf (surroundings.handlingOfAccount settings)
          (surroundings.collected settings targets).names
      tally := surroundings.tally acts
      accountsAttempted := (surroundings.collected settings targets).size
      interrupted := false } := by
  rw [← accounted.errors_eq, ← accounted.tally_eq, ← accounted.attempted_eq,
    ← accounted.uninterrupted]

theorem sameWork_of_perm (perm : targets.Perm others) :
    surroundings.SameWork settings targets (surroundings.run settings none targets)
      (surroundings.run settings none others) := by
  have first := accounted_run surroundings settings targets
  have second := accounted_run surroundings settings others
  have same : surroundings.collected settings targets = surroundings.collected settings others :=
    collected_eq_of_contributes fun name => by simp only [perm.mem_iff]
  have acts : (surroundings.run settings none targets).2.Perm
      (surroundings.run settings none others).2 := by
    rw [first.acts_eq, second.acts_eq, same]
    exact (perm.flatMap_right _).append_right _
  exact {
    downloads_eq := by rw [first.downloads_eq, second.downloads_eq, same]
    calls_perm := acts.filter _
    errors_eq := ⟨_, _, _, first.errors_eq, same ▸ second.errors_eq, perm.filterMap _, rfl⟩
    tally_eq := by rw [first.tally_eq, second.tally_eq, tally_perm acts]
    attempted_eq := by rw [first.attempted_eq, second.attempted_eq, same]
    interrupted_eq := by rw [first.uninterrupted, second.uninterrupted] }

/-- A copy of an account is classified like the account. -/
theorem classify_copy {raw name : String}
    (classified : Target.classify surroundings.isFile raw = .account name) (slashes : Nat) :
    Target.classify surroundings.isFile (name ++ String.ofList (List.replicate slashes '/')) =
      .account name := by
  obtain rfl := Target.stripped_of_classify classified
  rw [← classified]
  exact Target.classify_eq_of_stripped (Target.stripped_slashes raw slashes) surroundings.isFile

/-- An account on its own makes no call and has no fault. -/
theorem handling_of_account {raw name : String}
    (classified : Target.classify surroundings.isFile raw = .account name) (named : name ≠ "") :
    surroundings.handling settings raw = ⟨[], [name], none⟩ := by
  unfold handling
  rw [classified]
  simp [Target.name?, named, handlingOfNamed]

section Copies

variable {fewer more : List String}

theorem WithCopies.sublist (copies : surroundings.WithCopies targets fewer more) :
    fewer.Sublist more := by
  induction copies with
  | nil => exact .slnil
  | keep raw _ ih => exact ih.cons_cons raw
  | copy slashes _ _ _ _ ih => exact ih.cons _

/-- Whatever a list with copies has contributed comes from the targets. -/
theorem WithCopies.contributes (copies : surroundings.WithCopies targets fewer more)
    (within : ∀ raw ∈ fewer, raw ∈ targets) {raw name : String} (inside : raw ∈ more)
    (contributes : surroundings.Contributes settings raw name) :
    ∃ raw ∈ targets, surroundings.Contributes settings raw name := by
  induction copies with
  | nil => contradiction
  | keep first _ ih =>
      rcases List.mem_cons.1 inside with rfl | later
      · exact ⟨raw, within raw List.mem_cons_self, contributes⟩
      · exact ih (fun other within' => within other (List.mem_cons_of_mem first within')) later
  | @copy original account slashes _ _ present classified _ _ ih =>
      rcases List.mem_cons.1 inside with rfl | later
      · refine ⟨original, present, ?_⟩
        unfold Contributes at contributes ⊢
        rwa [classify_copy classified slashes, ← classified] at contributes
      · exact ih within later

/-- Copies add no calls. -/
theorem WithCopies.calls_eq (copies : surroundings.WithCopies targets fewer more) :
    calls (turns (surroundings.handling settings) more) =
      calls (turns (surroundings.handling settings) fewer) := by
  simp only [calls_turns]
  induction copies with
  | nil => rfl
  | keep raw _ ih => rw [List.flatMap_cons, List.flatMap_cons, ih]
  | copy slashes _ classified named _ ih =>
      rw [List.flatMap_cons, handling_of_account (classify_copy classified slashes) named, ih]
      rfl

/-- Copies have no faults. -/
theorem WithCopies.recordsOf_eq (copies : surroundings.WithCopies targets fewer more) :
    recordsOf (surroundings.handling settings) more =
      recordsOf (surroundings.handling settings) fewer := by
  induction copies with
  | nil => rfl
  | @keep raw fewer more _ ih => rw [recordsOf_cons raw more, recordsOf_cons raw fewer, ih]
  | copy slashes _ classified named _ ih =>
      rw [recordsOf_cons, ih]
      simp [recordsOf, handling_of_account (classify_copy classified slashes) named]

end Copies

/-- Copies of accounts among the targets leave the calls and the report as they are. -/
theorem run_eq_of_copies (copies : surroundings.WithCopies targets targets others) :
    calls (surroundings.run settings none others).2 =
        calls (surroundings.run settings none targets).2 ∧
      (surroundings.run settings none others).1 = (surroundings.run settings none targets).1 := by
  have first := accounted_run surroundings settings targets
  have second := accounted_run surroundings settings others
  have same : surroundings.collected settings others = surroundings.collected settings targets := by
    refine collected_eq_of_contributes fun name => ⟨?_, ?_⟩
    · rintro ⟨raw, inside, contributes⟩
      exact copies.contributes (fun _ => id) inside contributes
    · rintro ⟨raw, inside, contributes⟩
      exact ⟨raw, copies.sublist.subset inside, contributes⟩
  have acts : calls (surroundings.run settings none others).2 =
      calls (surroundings.run settings none targets).2 := by
    have apart (before after : History) : calls (before ++ after) = calls before ++ calls after :=
      List.filter_append _ _
    rw [first.acts_eq, second.acts_eq, apart, apart, copies.calls_eq, same]
  refine ⟨acts, ?_⟩
  rw [first.report_eq, second.report_eq, copies.recordsOf_eq, same, ← tally_calls, acts,
    tally_calls]

/-- The order of targets does not matter for what is downloaded: runs over the same targets in any
order do the same work, and more copies of an account that is already a target change neither the
calls nor the report. -/
theorem run_ignores_order (surroundings : Surroundings) (settings : RunSettings)
    (targets others : List String) :
    (targets.Perm others → surroundings.SameWork settings targets
        (surroundings.run settings none targets) (surroundings.run settings none others)) ∧
      (surroundings.WithCopies targets targets others →
        calls (surroundings.run settings none others).2 =
            calls (surroundings.run settings none targets).2 ∧
          (surroundings.run settings none others).1 = (surroundings.run settings none targets).1) :=
  ⟨sameWork_of_perm, run_eq_of_copies⟩

/-- The feed before or after an account, and the account once more with slashes. -/
theorem run_ignores_order_of_feed :
    let settings : RunSettings :=
      ⟨.ofCredential none, Filter.Filters.none, BulkOptions.unlimited, ProfileOptions.usual⟩
    generous.SameWork settings [":feed", "bob"] (generous.run settings none [":feed", "bob"])
        (generous.run settings none ["bob", ":feed"]) ∧
      (generous.run settings none [":feed", "bob//", "bob"]).1 =
        (generous.run settings none [":feed", "bob"]).1 := by
  intro settings
  have account : Target.classify generous.isFile "bob" = .account "bob" := rfl
  have copies : generous.WithCopies [":feed", "bob"] [":feed", "bob"] [":feed", "bob//", "bob"] :=
    .keep _ (.copy 2 (by simp) account (by decide) (.keep _ .nil))
  exact ⟨(run_ignores_order generous settings _ _).1 (.swap _ _ _),
    ((run_ignores_order generous settings _ _).2 copies).2⟩

end Surroundings

end Harvest
