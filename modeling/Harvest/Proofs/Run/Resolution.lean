import Harvest.Proofs.Http.Resolution

/-!
A run with compiled filters over the retrieval service reports no fault for want of an attribute
or because of the kind of an item.
-/

namespace Harvest

open Harvest.Filter (Filters Predicate Presents Resolved)

/-- A fault of a target or an account that carries such a fault of a filter. -/
def TargetFault.isUnresolved : TargetFault → Bool
  | .filter fault => fault.isUnresolved
  | .retrieve fault => fault.isUnresolved
  | .load _ | .rejected _ => false

/-- A target or an account that comes to no such fault. -/
def Handled (result : Except TargetFault Tally) : Prop :=
  ∀ fault, result = .error fault → fault.isUnresolved = false

/-- A report without such a fault. -/
def Report.IsResolved (report : Report) : Prop :=
  ∀ record ∈ report.errors, record.fault.isUnresolved = false

theorem Handled.ok (tally : Tally) : Handled (.ok tally) := nofun

theorem Handled.error {fault : TargetFault} (resolved : fault.isUnresolved = false) :
    Handled (.error fault) := by
  rintro _ ⟨⟩
  exact resolved

/-- What is retrieved for a target is the target's. -/
theorem Retrieved.handled {result : Except RetrieveError Tally} (retrieved : Retrieved result) :
    Handled (result.mapError .retrieve) := by
  cases result with
  | error fault => exact .error (retrieved fault rfl)
  | ok tally => exact .ok tally

/-- Work that comes to something when the service keeps its promise. -/
structure Promised {α : Type} (holds : α → Prop) (work : Work α) : Prop where
  ensures : work.Ensures ServiceCall.Kept holds

section Rules

variable {α β : Type} {holds : α → Prop}

theorem Promised.pure {result : α} (here : holds result) : Promised holds (Pure.pure result) :=
  ⟨here⟩

theorem Promised.bind {middle : β → Prop} {first : Work β} {second : β → Work α}
    (start : Promised middle first)
    (following : ∀ result, middle result → Promised holds (second result)) :
    Promised holds (first >>= second) :=
  ⟨start.ensures.bind fun result reached => (following result reached).ensures⟩

/-- Nothing is asked of a first step whose result does not matter. -/
theorem Promised.after {first : Work β} {second : β → Work α}
    (following : ∀ result, Promised holds (second result)) : Promised holds (first >>= second) :=
  ⟨Program.Ensures.after fun result => (following result).ensures⟩

end Rules

theorem promised_retrieve {retrieval : Retrieval} (fits : retrieval.Fits) (retriever : Retriever) :
    Promised (fun answer => Retrieved (retrieval.outcome answer))
      (Work.retrieve retriever retrieval) :=
  ⟨fun _ kept => kept fits⟩

theorem promised_savePost (retriever : Retriever) (item : Post) (folder : String) :
    Promised Retrieved (Work.retrieve retriever (.savePost item folder)) :=
  ⟨fun _ kept => retrieved_map.1 (kept trivial)⟩

theorem promised_saveStoryItem (retriever : Retriever) (item : StoryItem) (folder : String) :
    Promised Retrieved (Work.retrieve retriever (.saveStoryItem item folder)) :=
  ⟨fun _ kept => retrieved_map.1 (kept trivial)⟩

theorem promised_followees (retriever : Retriever) (account : String) :
    Promised Retrieved (Work.retrieve retriever (.followees account)) :=
  ⟨fun _ kept => retrieved_map.1 (kept trivial)⟩

namespace RunSettings

variable {settings : RunSettings}

theorem promised_saveLocal (fit : settings.filters.Fit) {kind : ItemKind}
    {subject : Filter.Subject} (presents : Presents kind subject)
    {request : Work (Except RetrieveError Bool)} (asked : Promised Retrieved request)
    (raw display : String) :
    Promised Handled (settings.saveLocal raw display subject request) := by
  have resolved := fit.resolved_accept presents
  unfold saveLocal
  cases judged : settings.filters.accept subject with
  | error fault => exact .pure (.error (resolved fault judged))
  | ok accepted =>
      cases accepted with
      | false => exact .after fun _ => .pure (.ok _)
      | true =>
          refine asked.bind fun result retrieved => ?_
          cases result with
          | error fault => exact .pure (.error (retrieved fault rfl))
          | ok downloaded => exact .pure (.ok _)

theorem promised_handleFile (fit : settings.filters.Fit) (raw path : String) :
    Promised Handled (settings.handleFile raw path) := by
  refine .after fun loaded => ?_
  cases loaded with
  | error fault => exact .pure (.error rfl)
  | ok descriptor =>
      simp only
      cases descriptor.dispatch path with
      | post item folder =>
          exact promised_saveLocal fit (.post item) (promised_savePost _ item folder) _ _
      | storyItem item folder =>
          exact promised_saveLocal fit (.storyItem item) (promised_saveStoryItem _ item folder) _ _
      | rejected reason => exact .pure (.error rfl)

theorem promised_handlePosts (fit : settings.filters.Fit) (message : String)
    (listing : PostListing) : Promised Handled (settings.handlePosts message listing) := by
  refine .after fun _ => ?_
  have fits : (Retrieval.posts listing settings.filters.post settings.options.bulk).Fits := fit.post
  exact (promised_retrieve fits _).bind fun _ retrieved => .pure retrieved.handled

theorem promised_handleStories (fit : settings.filters.Fit) :
    Promised Handled settings.handleStories := by
  refine .after fun _ => ?_
  have fits : (Retrieval.stories settings.filters.storyItem settings.options.bulk).Fits :=
    fit.storyItem
  exact (promised_retrieve fits _).bind fun _ retrieved => .pure retrieved.handled

theorem promised_followUp (accounts : AccountSet) (retriever : Retriever) (account : String) :
    Promised Retrieved (accounts.followUp retriever account) := by
  refine .after fun _ => ?_
  refine (promised_followees retriever account).bind fun answer retrieved => ?_
  cases answer with
  | error fault => exact .pure (.error (retrieved fault rfl))
  | ok names => exact .after fun _ => .pure (.ok _)

theorem promised_expandFollowees (accounts : AccountSet) (retriever : Retriever)
    (account : String) : Promised Retrieved (accounts.expandFollowees retriever account) := by
  refine (promised_followUp accounts retriever account).bind fun expanded retrieved => ?_
  cases expanded with
  | error fault => exact .pure (.error (retrieved fault rfl))
  | ok expansion => exact .pure (.ok _)

theorem promised_handleNamed (fit : settings.filters.Fit) (raw : String) (accounts : AccountSet)
    (target : Target) :
    Promised (fun outcome => Handled outcome.result)
      (settings.handleNamed raw accounts target) := by
  cases target with
  | followees account =>
      refine (promised_expandFollowees accounts _ account).bind fun expanded retrieved => ?_
      cases expanded with
      | error fault => exact .pure (.error (retrieved fault rfl))
      | ok expanded => exact .pure (.ok _)
  | account name => exact .pure (.ok _)
  | descriptorFile path => exact (promised_handleFile fit raw path).bind fun _ handled => .pure handled
  | tag name => exact (promised_handlePosts fit _ _).bind fun _ handled => .pure handled
  | feed => exact (promised_handlePosts fit _ _).bind fun _ handled => .pure handled
  | stories => exact (promised_handleStories fit).bind fun _ handled => .pure handled
  | saved => exact (promised_handlePosts fit _ _).bind fun _ handled => .pure handled

theorem promised_handleTarget (fit : settings.filters.Fit) (raw : String) (accounts : AccountSet) :
    Promised (fun outcome => Handled outcome.result) (settings.handleTarget raw accounts) := by
  refine .after fun target => ?_
  split
  · exact .pure (.error rfl)
  · exact promised_handleNamed fit raw accounts target

theorem promised_absorb {report : Report} (resolved : report.IsResolved) (target : String)
    {result : Except TargetFault Tally} (handled : Handled result) :
    Promised Report.IsResolved (absorb report target result) := by
  cases result with
  | ok tally => exact .pure resolved
  | error fault =>
      refine .after fun _ => .pure ?_
      change ∀ record ∈ report.errors ++ [⟨target, fault⟩], record.fault.isUnresolved = false
      simp only [List.mem_append, List.mem_singleton]
      rintro record (inside | rfl)
      · exact resolved record inside
      · exact handled fault rfl

/-- A run that stops adds no fault. -/
theorem promised_stop {report : Report} (resolved : report.IsResolved) :
    Promised Report.IsResolved (stop report) :=
  .after fun _ => .pure resolved

theorem promised_downloadAccount (fit : settings.filters.Fit) (account : String) :
    Promised Retrieved (settings.downloadAccount account) := by
  have fits : (Retrieval.profile account settings.filters settings.options.profile).Fits := fit
  refine (promised_retrieve fits _).bind fun outcome retrieved => ?_
  cases outcome with
  | ok tally => exact .pure (.ok tally)
  | error fault =>
      simp only
      split
      · refine .after fun _ => .after fun anonymous => ?_
        have fitsAgain : (Retrieval.profile account settings.filters
            { settings.options.profile with stories := false }).Fits := fit
        exact promised_retrieve fitsAgain anonymous
      · exact .pure retrieved

/-- The accounts of a run add no such fault to its report. -/
theorem promised_downloadAccounts (fit : settings.filters.Fit) (names : List String)
    {report : Report} (resolved : report.IsResolved) :
    Promised Report.IsResolved (settings.downloadAccounts report names) := by
  induction names generalizing report with
  | nil => exact .pure resolved
  | cons account rest ih =>
      refine .after fun raised => ?_
      cases raised with
      | true => exact promised_stop resolved
      | false =>
          have begun : report.beginAccount.IsResolved := resolved
          refine (promised_downloadAccount fit account).bind fun outcome retrieved => ?_
          exact (promised_absorb begun account retrieved.handled).bind fun _ absorbed => ih absorbed

theorem promised_finish (fit : settings.filters.Fit) (accounts : AccountSet) {report : Report}
    (resolved : report.IsResolved) :
    Promised Report.IsResolved (settings.finish accounts report) := by
  unfold finish
  split
  · exact .after fun _ => promised_downloadAccounts fit _ resolved
  · exact promised_downloadAccounts fit _ resolved

/-- The targets of a run add no such fault to its report. -/
theorem promised_runFrom (fit : settings.filters.Fit) (targets : List String)
    (accounts : AccountSet) {report : Report} (resolved : report.IsResolved) :
    Promised Report.IsResolved (settings.runFrom accounts report targets) := by
  induction targets generalizing accounts report with
  | nil => exact promised_finish fit accounts resolved
  | cons raw rest ih =>
      refine .after fun raised => ?_
      cases raised with
      | true => exact promised_stop resolved
      | false =>
          refine (promised_handleTarget fit raw accounts).bind fun outcome handled => ?_
          exact (promised_absorb resolved raw handled).bind fun _ absorbed => ih _ absorbed

/-- Filters that compile never fault for want of an attribute or because of the kind of an item:
neither in the report of a run over HTTP, whatever the answers, nor on an item of their kind. -/
theorem compiled_filters_resolve :
    (∀ (post storyItem : Option String) (filters : Filters),
      Filters.compile post storyItem = .ok filters →
      ∀ (service : Http.Settings) (retriever : Retriever) (options : RunOptions)
        (targets : List String),
        (Http.overHttp service (run ⟨retriever, filters, options⟩ targets)).Always
          Report.IsResolved) ∧
      ∀ (source : String) (kind : ItemKind) (predicate : Predicate),
        Predicate.compile source kind = .ok predicate →
        ∀ subject, Presents kind subject →
          Resolved (predicate.test subject) ∧ Resolved (Filter.evaluate subject predicate.root) := by
  constructor
  · intro post storyItem filters compiled service retriever options targets
    have fit : (RunSettings.mk retriever filters options).filters.Fit :=
      Filters.fit_of_compile compiled
    have promised : Promised Report.IsResolved (run ⟨retriever, filters, options⟩ targets) :=
      promised_runFrom fit targets AccountSet.empty (by simp [Report.IsResolved, Report.empty])
    exact Program.Ensures.realize (Http.always_carryOut service) promised.ensures
  · intro source kind predicate compiled subject presents
    have fits := Filter.fits_of_compile compiled
    exact ⟨fits.resolved_test presents, fits.resolved_evaluate presents⟩

/-- The filter of posts without likes, on a hashtag and on any post. -/
theorem compiled_filters_resolve_not_likes :
    let predicate : Predicate := ⟨"not likes", .post, .unary .not (.read "likes")⟩
    let settings : RunSettings :=
      ⟨.ofCredential none, ⟨some predicate, none⟩, BulkOptions.unlimited, ProfileOptions.usual⟩
    let service : Http.Settings := .usual
      ⟨"http", "", "", some (.name "localhost"), none, .segments [""], none, none⟩
    (Http.overHttp service (settings.run ["#travel", "alice"])).Always Report.IsResolved ∧
      ∀ item : Post, Resolved (predicate.test item.subject) := by
  intro predicate settings service
  have compiled : Predicate.compile "not likes" .post = .ok predicate :=
    Filter.compile_eq_ok.2
      ⟨rfl, rfl, _, _, Filter.tokenize_not_likes, Filter.derives_not_likes⟩
  have both : Filters.compile (some "not likes") none = .ok settings.filters := by
    simp only [Filters.compile, Filters.compileOptional, compiled]
    rfl
  exact ⟨compiled_filters_resolve.1 _ _ _ both service settings.retriever settings.options _,
    fun item => (compiled_filters_resolve.2 _ _ _ compiled _ (.post item)).1⟩

end RunSettings

end Harvest
