import Harvest.Proofs.Run.Progress
import Mathlib.Logic.Function.Basic

/-!
Failures stay where they happen. A run that nobody interrupts handles every target and every
collected account once, and a fault of one of them leaves what the others do as it is.
-/

namespace Harvest

namespace Surroundings

variable {surroundings : Surroundings} {settings : RunSettings}

/-- A target contributes the account that it names, or everyone that its account follows. -/
def Contributes (surroundings : Surroundings) (settings : RunSettings) (raw name : String) : Prop :=
  (Target.classify surroundings.isFile raw = .account name ∧ name ≠ "") ∨
    ∃ account names, Target.classify surroundings.isFile raw = .followees account ∧ account ≠ "" ∧
      surroundings.answer (.retrieve settings.retriever (.followees account)) = .ok names ∧
      name ∈ names

theorem mem_handling_names {raw name : String} :
    name ∈ (surroundings.handling settings raw).names ↔
      surroundings.Contributes settings raw name := by
  unfold handling Contributes
  -- Names come from an account or from whom it follows; all other targets have none.
  cases Target.classify surroundings.isFile raw with
  | account other =>
      by_cases nameless : other = ""
      · simp only [Target.name?, nameless, if_true, List.not_mem_nil, false_iff]
        rintro (⟨same, named⟩ | ⟨account, names, same, -⟩)
        · exact named (Target.account.inj same).symm
        · contradiction
      · simp only [Target.name?, Option.some.injEq, nameless, if_false, handlingOfNamed,
          List.mem_singleton]
        constructor
        · rintro rfl
          exact .inl ⟨rfl, nameless⟩
        · rintro (⟨same, -⟩ | ⟨account, names, same, -⟩)
          · exact (Target.account.inj same).symm
          · contradiction
  | followees other =>
      by_cases nameless : other = ""
      · simp only [Target.name?, nameless, if_true, List.not_mem_nil, false_iff]
        rintro (⟨same, -⟩ | ⟨account, names, same, named, -⟩)
        · contradiction
        · exact named (Target.followees.inj same).symm
      · simp only [Target.name?, Option.some.injEq, nameless, if_false, handlingOfNamed, followees]
        constructor
        · intro inside
          split at inside
          · next names answered => exact .inr ⟨other, names, rfl, nameless, answered, inside⟩
          · contradiction
        · rintro (⟨same, -⟩ | ⟨account, names, same, -, answered, inside⟩)
          · contradiction
          · cases same
            rw [answered]
            exact inside
  | tag other =>
      by_cases nameless : other = "" <;> simp [Target.name?, nameless, handlingOfNamed, request]
  | descriptorFile path => simp [Target.name?, handlingOfNamed, handlingOfFile]
  | feed | stories | saved => simp [Target.name?, handlingOfNamed, request]

/-- The accounting of a run over some targets that nobody interrupts. -/
structure Accounted (surroundings : Surroundings) (settings : RunSettings) (targets : List String)
    (report : Report) (acts : History) : Prop where
  /-- Every target takes one turn, and then every collected account does. -/
  acts_eq : acts = turns (surroundings.handling settings) targets ++
    turns (surroundings.handlingOfAccount settings) (surroundings.collected settings targets).names
  ascending : (surroundings.collected settings targets).names.Pairwise (· < ·)
  mem_collected : ∀ name, name ∈ (surroundings.collected settings targets).names ↔
    ∃ raw ∈ targets, surroundings.Contributes settings raw name
  errors_eq : report.errors = recordsOf (surroundings.handling settings) targets ++
    recordsOf (surroundings.handlingOfAccount settings)
      (surroundings.collected settings targets).names
  attempted_eq : report.accountsAttempted = (surroundings.collected settings targets).size
  tally_eq : report.tally = surroundings.tally acts
  uninterrupted : report.interrupted = false

theorem accounted_run (surroundings : Surroundings) (settings : RunSettings)
    (targets : List String) :
    surroundings.Accounted settings targets (surroundings.run settings none targets).1
      (surroundings.run settings none targets).2 := by
  have started : surroundings.startedTargets settings none targets = targets := begun_none targets
  have reached : surroundings.startedAccounts settings none targets =
      (surroundings.collected settings targets).names := by
    unfold startedAccounts
    rw [if_pos started, begun_none]
  have law := run_eq surroundings settings none targets
  simp only [started, reached, and_self, if_true] at law
  rw [law]
  refine ⟨rfl, (surroundings.collected settings targets).ascending, ?_, rfl, rfl, rfl, rfl⟩
  intro name
  simp only [collected, AccountSet.mem_ofList, List.mem_flatMap, mem_handling_names]

/-- Other surroundings answer one request with a fault, and everything else alike. -/
structure FailsAt (surroundings failing : Surroundings) (retriever : Retriever)
    (retrieval : Retrieval) (fault : RetrieveError) : Prop where
  refused : failing.outcome retriever retrieval = .error fault
  alike : ∀ request, request ≠ .retrieve retriever retrieval →
    failing.answer request = surroundings.answer request
  isFile_eq : failing.isFile = surroundings.isFile
  contents_eq : failing.contents = surroundings.contents

/-- A handling that does not make a request stays as it is, and one that makes it has its fault. -/
structure Strikes (retriever : Retriever) (retrieval : Retrieval) (fault : RetrieveError)
    (before after : Handling) : Prop where
  spared : .call (.retrieve retriever retrieval) ∉ before.acts → after = before
  struck : .call (.retrieve retriever retrieval) ∈ before.acts →
    after = { before with fault := some (.retrieve fault) }

section Failing

variable {failing : Surroundings} {retriever : Retriever} {retrieval : Retrieval}
  {fault : RetrieveError}

theorem FailsAt.outcome_eq (fails : surroundings.FailsAt failing retriever retrieval fault)
    {asker : Retriever} {asked : Retrieval}
    (other : (.retrieve asker asked : ServiceCall) ≠ .retrieve retriever retrieval) :
    failing.outcome asker asked = surroundings.outcome asker asked := by
  unfold outcome
  rw [fails.alike _ other]

open Classical in
/-- The request counts nothing, and every other act counts as before. -/
theorem FailsAt.tally_eq (fails : surroundings.FailsAt failing retriever retrieval fault)
    (acts : History) :
    failing.tally acts =
      surroundings.tally (acts.filter (· ≠ .call (.retrieve retriever retrieval))) := by
  induction acts with
  | nil => rfl
  | cons act rest ih =>
      by_cases same : act = .call (.retrieve retriever retrieval)
      · rw [same, tally_cons_of_idle (credit_of_error fails.refused), ih]
        simp
      · have credited : failing.credit act = surroundings.credit act := by
          unfold credit
          split
          · next asker asked =>
              have other : (.retrieve asker asked : ServiceCall) ≠ .retrieve retriever retrieval :=
                fun equal => same (congrArg _ equal)
              rw [fails.outcome_eq other]
          · rfl
        rw [List.filter_cons_of_pos (by simpa using same), tally_cons, tally_cons, credited, ih]

theorem Strikes.idle {handling : Handling} (acts : handling.acts = []) :
    Strikes retriever retrieval fault handling handling :=
  ⟨fun _ => rfl, fun inside => by simp [acts] at inside⟩

theorem FailsAt.strikes_request (fails : surroundings.FailsAt failing retriever retrieval fault)
    (asker : Retriever) (asked : Retrieval) (names : List String) :
    Strikes retriever retrieval fault
      { surroundings.request asker asked with names := names }
      { failing.request asker asked with names := names } := by
  constructor
  · intro spared
    have other : (.retrieve asker asked : ServiceCall) ≠ .retrieve retriever retrieval := by
      intro same
      exact spared (by simp [request, same])
    simp only [request, fails.outcome_eq other]
  · intro inside
    have same : asker = retriever ∧ asked = retrieval := by
      simpa [request, eq_comm] using inside
    obtain ⟨rfl, rfl⟩ := same
    simp only [request, fails.refused]

theorem Strikes.prepend {acts : History} {before after : Handling}
    (strikes : Strikes retriever retrieval fault before after)
    (apart : .call (.retrieve retriever retrieval) ∉ acts) :
    Strikes retriever retrieval fault ⟨acts ++ before.acts, [], before.fault⟩
      ⟨acts ++ after.acts, [], after.fault⟩ := by
  constructor
  · intro spared
    rw [strikes.spared fun inside => spared (List.mem_append_right acts inside)]
  · intro inside
    have within := (List.mem_append.1 inside).resolve_left apart
    rw [strikes.struck within]

theorem FailsAt.strikes_item (fails : surroundings.FailsAt failing retriever retrieval fault)
    (subject : Filter.Subject) (save : Retrieval) :
    Strikes retriever retrieval fault (surroundings.handlingOfItem settings subject save)
      (failing.handlingOfItem settings subject save) := by
  unfold handlingOfItem
  split
  · exact .idle rfl
  · exact .idle rfl
  · exact fails.strikes_request _ _ []

theorem FailsAt.strikes_file (fails : surroundings.FailsAt failing retriever retrieval fault)
    (path : String) :
    Strikes retriever retrieval fault (surroundings.handlingOfFile settings path)
      (failing.handlingOfFile settings path) := by
  have same : failing.descriptor path = surroundings.descriptor path := by
    unfold descriptor
    rw [fails.contents_eq]
  have apart : .call (.retrieve retriever retrieval) ∉ filesRead path := by
    unfold filesRead
    split <;> simp
  unfold handlingOfFile
  rw [same]
  refine Strikes.prepend ?_ apart
  cases surroundings.descriptor path with
  | error fault => exact .idle rfl
  | ok descriptor =>
      simp only [handlingOfDescriptor]
      cases descriptor.dispatch path with
      | post item folder => exact fails.strikes_item _ _
      | storyItem item folder => exact fails.strikes_item _ _
      | rejected reason => exact .idle rfl

/-- A fault of one request strikes the targets that make it. -/
theorem FailsAt.strikes_target (fails : surroundings.FailsAt failing retriever retrieval fault)
    (kept : ∀ account, retrieval ≠ .followees account) (raw : String) :
    Strikes retriever retrieval fault (surroundings.handling settings raw)
      (failing.handling settings raw) := by
  unfold handling
  rw [fails.isFile_eq]
  by_cases nameless : (Target.classify surroundings.isFile raw).name? = some ""
  · simp only [nameless, if_true]
    exact .idle rfl
  · simp only [nameless, if_false]
    cases Target.classify surroundings.isFile raw with
    | followees account =>
        have same : failing.followees settings account = surroundings.followees settings account := by
          have other : (.retrieve settings.retriever (.followees account) : ServiceCall) ≠
              .retrieve retriever retrieval := by
            intro same
            exact kept account (ServiceCall.retrieve.inj same).2.symm
          unfold followees
          rw [fails.alike _ other]
        simp only [handlingOfNamed, same]
        exact fails.strikes_request _ _ _
    | account name => exact .idle rfl
    | descriptorFile path => exact fails.strikes_file path
    | tag | feed | stories | saved => exact fails.strikes_request _ _ []

/-- A fault of one request leaves the accounts of a run as they are. -/
theorem FailsAt.collected_eq (fails : surroundings.FailsAt failing retriever retrieval fault)
    (kept : ∀ account, retrieval ≠ .followees account) (targets : List String) :
    failing.collected settings targets = surroundings.collected settings targets := by
  have same (raw : String) :
      (failing.handling settings raw).names = (surroundings.handling settings raw).names := by
    have strikes : Strikes retriever retrieval fault (surroundings.handling settings raw) _ :=
      fails.strikes_target kept raw
    by_cases inside : .call (.retrieve retriever retrieval) ∈
        (surroundings.handling settings raw).acts
    · rw [strikes.struck inside]
    · rw [strikes.spared inside]
  simp only [collected, same]

theorem FailsAt.request_eq (fails : surroundings.FailsAt failing retriever retrieval fault)
    {asker : Retriever} {asked : Retrieval}
    (other : (.retrieve asker asked : ServiceCall) ≠ .retrieve retriever retrieval) :
    failing.request asker asked = surroundings.request asker asked := by
  simp only [request, fails.outcome_eq other]

theorem FailsAt.retries_eq (fails : surroundings.FailsAt failing retriever retrieval fault)
    {account : String} (other : (.retrieve settings.retriever (settings.download account) :
      ServiceCall) ≠ .retrieve retriever retrieval) :
    failing.retries settings account = surroundings.retries settings account := by
  unfold retries
  rw [fails.outcome_eq other]

/-- An account that asks for something else does what it did. -/
theorem FailsAt.account_spared (fails : surroundings.FailsAt failing retriever retrieval fault)
    {account : String} (spared : .call (.retrieve retriever retrieval) ∉
      (surroundings.handlingOfAccount settings account).acts) :
    failing.handlingOfAccount settings account = surroundings.handlingOfAccount settings account := by
  cases again : surroundings.retries settings account with
  | false =>
      rw [handlingOfAccount_once again] at spared ⊢
      have other : (.retrieve settings.retriever (settings.download account) : ServiceCall) ≠
          .retrieve retriever retrieval := by
        intro same
        exact spared (by simp [request, same])
      rw [handlingOfAccount_once ((fails.retries_eq other).trans again), fails.request_eq other]
  | true =>
      rw [handlingOfAccount_again again] at spared ⊢
      simp only [handlingTwice, List.mem_cons, Act.call.injEq, not_or] at spared
      have other := Ne.symm spared.1
      have later := Ne.symm spared.2.2.1
      rw [handlingOfAccount_again ((fails.retries_eq other).trans again)]
      simp only [handlingTwice, fails.request_eq later]

/-- An account that asks for it has the fault, unless the fault makes it try again. -/
theorem FailsAt.account_struck (fails : surroundings.FailsAt failing retriever retrieval fault)
    (final : retriever = settings.retriever →
      (fault.isNotFound && settings.retriever.isLoggedIn) = false)
    {account : String} (inside : .call (.retrieve retriever retrieval) ∈
      (surroundings.handlingOfAccount settings account).acts) :
    (failing.handlingOfAccount settings account).fault = some (.retrieve fault) ∧
      (failing.handlingOfAccount settings account).acts <+:
        (surroundings.handlingOfAccount settings account).acts := by
  -- What fails is the first download of the account or the anonymous one after it.
  by_cases first : (.retrieve settings.retriever (settings.download account) : ServiceCall) =
      .retrieve retriever retrieval
  · obtain ⟨rfl, rfl⟩ := ServiceCall.retrieve.inj first
    have once : failing.retries settings account = false := by
      unfold retries
      rw [fails.refused]
      exact final rfl
    rw [handlingOfAccount_once once]
    refine ⟨by simp only [request, fails.refused], ?_⟩
    cases again : surroundings.retries settings account with
    | false => simp [handlingOfAccount_once again, request]
    | true => simp [handlingOfAccount_again again, handlingTwice, request]
  · have same := fails.retries_eq first
    cases again : surroundings.retries settings account with
    | false =>
        rw [handlingOfAccount_once again] at inside
        exact absurd (Act.call.inj (List.mem_singleton.1 inside)).symm first
    | true =>
        rw [handlingOfAccount_again again] at inside
        have second : (.retrieve retriever retrieval : ServiceCall) =
            .retrieve Retriever.anonymousCopy (settings.downloadAgain account) := by
          simpa [handlingTwice, Ne.symm first] using inside
        obtain ⟨rfl, rfl⟩ := ServiceCall.retrieve.inj second
        rw [handlingOfAccount_again again, handlingOfAccount_again (same.trans again)]
        exact ⟨by simp only [handlingTwice, request, fails.refused], List.prefix_refl _⟩

/-- An account whose fault makes it try again comes to what trying again comes to. -/
theorem FailsAt.account_again {account : String}
    (fails : surroundings.FailsAt failing settings.retriever (settings.download account) fault)
    (hidden : (fault.isNotFound && settings.retriever.isLoggedIn) = true) :
    failing.handlingOfAccount settings account = surroundings.handlingTwice settings account := by
  have again : failing.retries settings account = true := by
    unfold retries
    rw [fails.refused]
    exact hidden
  have loggedIn : settings.retriever.isLoggedIn = true := (Bool.and_eq_true_iff.1 hidden).2
  -- An anonymous retriever is not logged in, so the second download is another request.
  have other : (.retrieve Retriever.anonymousCopy (settings.downloadAgain account) : ServiceCall) ≠
      .retrieve settings.retriever (settings.download account) := by
    intro same
    rw [← (ServiceCall.retrieve.inj same).1] at loggedIn
    contradiction
  rw [handlingOfAccount_again again]
  simp only [handlingTwice, fails.request_eq other]

open Classical in
/-- The records of some names when those that make a call come to other faults. -/
noncomputable def recordsWith (call : Act retrievalService) (struck : String → Option TargetFault)
    (handled : String → Handling) (names : List String) : List ErrorRecord :=
  names.filterMap fun name =>
    (if call ∈ (handled name).acts then struck name else (handled name).fault).map
      fun fault => ⟨name, fault⟩

open Classical in
/-- What one failing request changes about a run: what asks for it has the fault, or tries again
because of it, and everything else does what it did. The report differs by that alone. -/
structure FailsAlone (surroundings failing : Surroundings) (settings : RunSettings)
    (targets : List String) (retriever : Retriever) (retrieval : Retrieval)
    (fault : RetrieveError) : Prop where
  collected_eq : failing.collected settings targets = surroundings.collected settings targets
  strikes_targets : ∀ raw, Strikes retriever retrieval fault (surroundings.handling settings raw)
    (failing.handling settings raw)
  accounts_spared : ∀ account, .call (.retrieve retriever retrieval) ∉
      (surroundings.handlingOfAccount settings account).acts →
    failing.handlingOfAccount settings account = surroundings.handlingOfAccount settings account
  accounts_struck : ∀ account, .call (.retrieve retriever retrieval) ∈
      (surroundings.handlingOfAccount settings account).acts →
    (retriever = settings.retriever →
      (fault.isNotFound && settings.retriever.isLoggedIn) = false) →
    (failing.handlingOfAccount settings account).fault = some (.retrieve fault) ∧
      (failing.handlingOfAccount settings account).acts <+:
        (surroundings.handlingOfAccount settings account).acts
  accounts_again : ∀ account, retriever = settings.retriever →
    retrieval = settings.download account →
    (fault.isNotFound && settings.retriever.isLoggedIn) = true →
    failing.handlingOfAccount settings account = surroundings.handlingTwice settings account
  errors_eq : (failing.run settings none targets).1.errors =
    recordsWith (.call (.retrieve retriever retrieval)) (fun _ => some (.retrieve fault))
        (surroundings.handling settings) targets ++
      recordsWith (.call (.retrieve retriever retrieval))
        (fun account => (failing.handlingOfAccount settings account).fault)
        (surroundings.handlingOfAccount settings) (surroundings.collected settings targets).names
  tally_eq : (failing.run settings none targets).1.tally = surroundings.tally
    ((failing.run settings none targets).2.filter (· ≠ .call (.retrieve retriever retrieval)))
  attempted_eq : (failing.run settings none targets).1.accountsAttempted =
    (surroundings.run settings none targets).1.accountsAttempted

theorem recordsOf_eq_recordsWith {before after : String → Handling} {call : Act retrievalService}
    {struck : String → Option TargetFault}
    (spared : ∀ name, call ∉ (before name).acts → after name = before name)
    (faults : ∀ name, call ∈ (before name).acts → (after name).fault = struck name)
    (names : List String) : recordsOf after names = recordsWith call struck before names := by
  unfold recordsOf recordsWith
  congr 1
  funext name
  split
  · next inside => rw [faults name inside]
  · next apart => rw [spared name apart]

theorem FailsAt.alone (fails : surroundings.FailsAt failing retriever retrieval fault)
    (kept : ∀ account, retrieval ≠ .followees account) (targets : List String) :
    surroundings.FailsAlone failing settings targets retriever retrieval fault := by
  have strikes (raw : String) : Strikes retriever retrieval fault
      (surroundings.handling settings raw) (failing.handling settings raw) :=
    fails.strikes_target kept raw
  have same : failing.collected settings targets = surroundings.collected settings targets :=
    fails.collected_eq kept targets
  have before := accounted_run surroundings settings targets
  have after := accounted_run failing settings targets
  constructor
  · exact same
  · exact strikes
  · exact fun account spared => fails.account_spared spared
  · exact fun account inside final => fails.account_struck final inside
  · rintro account rfl rfl hidden
    exact fails.account_again hidden
  · rw [after.errors_eq, same,
      recordsOf_eq_recordsWith (fun raw => (strikes raw).spared)
        fun raw inside => by rw [(strikes raw).struck inside],
      recordsOf_eq_recordsWith (fun account => fails.account_spared) fun account _ => rfl]
  · rw [after.tally_eq, fails.tally_eq]
  · rw [after.attempted_eq, before.attempted_eq, same]

end Failing

/-- Failures are isolated and accounted for: a run that nobody interrupts gives every target its
turn and then every collected account, and a fault of one request reaches only what makes it. -/
theorem run_isolates_failures (surroundings : Surroundings) (settings : RunSettings)
    (targets : List String) :
    surroundings.Accounted settings targets (surroundings.run settings none targets).1
        (surroundings.run settings none targets).2 ∧
      ∀ failing retriever retrieval fault,
        surroundings.FailsAt failing retriever retrieval fault →
        (∀ account, retrieval ≠ .followees account) →
        surroundings.FailsAlone failing settings targets retriever retrieval fault :=
  ⟨accounted_run surroundings settings targets, fun _ _ _ _ fails kept => fails.alone kept targets⟩

open Classical in
/-- The surroundings with another answer to one request. -/
noncomputable def replacing (surroundings : Surroundings) (request : ServiceCall)
    (answer : request.Answer) : Surroundings :=
  { surroundings with answer := Function.update surroundings.answer request answer }

open Classical in
theorem failsAt_replacing {retriever : Retriever} {retrieval : Retrieval} {fault : RetrieveError}
    {answer : retrieval.Answer} (refused : retrieval.outcome answer = .error fault) :
    surroundings.FailsAt (surroundings.replacing (.retrieve retriever retrieval) answer) retriever
      retrieval fault where
  refused := by
    simp only [outcome, replacing, Function.update_self]
    exact refused
  alike _ other := Function.update_of_ne other _ _
  isFile_eq := rfl
  contents_eq := rfl

/-- Surroundings without files where every request succeeds and every download saves one item. -/
def generous : Surroundings where
  answer
    | .login _ _ => .ok ""
    | .whoami _ => .ok none
    | .openRetriever _ | .copyAnonymously _ => ()
    | .retrieve _ (.followees _) => .ok []
    | .retrieve _ (.savePost _ _) | .retrieve _ (.saveStoryItem _ _) => .ok true
    | .retrieve _ (.posts _ _ _) | .retrieve _ (.stories _ _) | .retrieve _ (.profile _ _ _) =>
      .ok ⟨1, 0, 0⟩
  isFile _ := false
  contents path := .error (.missing path)
  write _ _ := .ok ()
  password _ := none

/-- A rate limit on one account reaches neither the feed nor the other account. -/
theorem run_isolates_rate_limit :
    let settings : RunSettings :=
      ⟨.ofCredential none, Filter.Filters.none, BulkOptions.unlimited, ProfileOptions.usual⟩
    let failing : Surroundings :=
      generous.replacing (.retrieve settings.retriever (settings.download "bob"))
        (.error .rateLimited)
    generous.FailsAlone failing settings [":feed", "bob", "alice"] settings.retriever
      (settings.download "bob") .rateLimited := by
  intro settings failing
  have fails : generous.FailsAt failing settings.retriever (settings.download "bob") .rateLimited :=
    failsAt_replacing rfl
  exact (run_isolates_failures generous settings [":feed", "bob", "alice"]).2 _ _ _ _ fails
    fun account => nofun

end Surroundings

end Harvest
