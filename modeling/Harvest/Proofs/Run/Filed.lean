import Harvest.Proofs.Http.Saving
import Harvest.Proofs.Run.Forwarding
import Harvest.Proofs.Run.Isolation

/-!
The same item from a file and from a listing. Both ways the filter decides whether it is saved, and
a save or a fault is reported alike. An item that the filter rejects counts as skipped when a
listing has it, and not at all when a file has it.
-/

namespace Harvest

open Harvest.Filter (EvalError)
open Http (exchanges)
open Program (play_bind play_pure)

/-- An item that is saved on its own. -/
inductive SingleItem where
  | post (item : Post)
  | storyItem (item : StoryItem)

namespace SingleItem

/-- The item as a file holds it. -/
def descriptor : SingleItem → Descriptor
  | post item => .post item
  | storyItem item => .storyItem item

/-- The item as a listing holds it. -/
def savable : SingleItem → Http.Savable
  | post item => .ofPost item
  | storyItem item => .ofStoryItem item

/-- Where the item is saved. -/
def route : SingleItem → String
  | post _ => Http.Access.postRoute
  | storyItem _ => Http.Access.storyItemRoute

/-- The request to save the item in a folder. -/
def save (folder : String) : SingleItem → Retrieval
  | post item => .savePost item folder
  | storyItem item => .saveStoryItem item folder

/-- The answer to that request. -/
def saved (surroundings : Surroundings) (retriever : Retriever) (folder : String) :
    SingleItem → Except RetrieveError Bool
  | post item => surroundings.answer (.retrieve retriever (.savePost item folder))
  | storyItem item => surroundings.answer (.retrieve retriever (.saveStoryItem item folder))

/-- The predicate of a run for listings of such items. -/
def predicate (filters : Filter.Filters) : SingleItem → Option Filter.Predicate
  | post _ => filters.post
  | storyItem _ => filters.storyItem

/-- That predicate decides whether a run accepts the item. -/
theorem accept_eq (filters : Filter.Filters) (item : SingleItem) :
    filters.accept item.savable.subject =
      Filter.passes (item.predicate filters) item.savable.subject := by
  cases item <;> rfl

end SingleItem

/-- The report with some more items counted and nothing else changed. -/
def Report.counting (report : Report) (downloaded skipped present : Nat) : Report where
  errors := report.errors
  tally := ⟨report.tally.downloaded + downloaded, report.tally.skipped + skipped,
    report.tally.present + present⟩
  accountsAttempted := report.accountsAttempted
  interrupted := report.interrupted

/-- The report with a fault of a target at the end of its errors and nothing else changed. -/
def Report.failing (report : Report) (raw : String) (fault : TargetFault) : Report where
  errors := report.errors ++ [⟨raw, fault⟩]
  tally := report.tally
  accountsAttempted := report.accountsAttempted
  interrupted := report.interrupted

/-- How a report goes on with an item from a file and with the same item from a listing, by what
the filter says and what the save is answered. -/
inductive Reported (report : Report) (raw display : String) :
    Except EvalError Bool → Except RetrieveError Bool → Report → Report → Prop
  /-- A new item adds one to what is downloaded. -/
  | downloaded :
      Reported report raw display (.ok true) (.ok true)
        (report.counting 1 0 0) (report.counting 1 0 0)
  /-- An item that was there already adds one to what is present. -/
  | present :
      Reported report raw display (.ok true) (.ok false)
        (report.counting 0 0 1) (report.counting 0 0 1)
  /-- A save that fails is recorded once and counts nothing. -/
  | failed (fault : RetrieveError) :
      Reported report raw display (.ok true) (.error fault)
        (report.failing raw (.retrieve fault)) (report.failing raw (.retrieve fault))
  /-- A rejected item adds one to what is skipped when a listing has it, and nothing when a file
  has it. -/
  | rejected (answer : Except RetrieveError Bool) :
      Reported report raw display (.ok false) answer report (report.counting 0 1 0)
  /-- A fault of the filter is recorded once, with the item when a listing has it. -/
  | undecided (fault : EvalError) (answer : Except RetrieveError Bool) :
      Reported report raw display (.error fault) answer
        (report.failing raw (.filter fault))
        (report.failing raw (.retrieve (.filter display fault)))

/-- The report with the result for one target. -/
def Report.withResult (report : Report) (raw : String) : Except TargetFault Tally → Report
  | .ok tally => report.addTally tally
  | .error fault => report.addError ⟨raw, fault⟩

namespace RunSettings

/-- A target is handled and its result is reported. -/
def reportTarget (settings : RunSettings) (raw : String) (accounts : AccountSet)
    (report : Report) : Work Report := do
  let outcome ← settings.handleTarget raw accounts
  absorb report raw outcome.result

/-- The result of a listing is reported. -/
def reportListing (raw : String) (report : Report) (result : Except RetrieveError Tally) :
    Work Report :=
  absorb report raw (result.mapError .retrieve)

end RunSettings

namespace Surroundings

variable {surroundings : Surroundings} {settings : RunSettings} {item : SingleItem}
  {raw path : String}

theorem does_absorb_result (report : Report) (raw : String) (result : Except TargetFault Tally) :
    surroundings.Does (RunSettings.absorb report raw result) (report.withResult raw result) [] := by
  cases result with
  | ok tally => exact does_pure _
  | error fault => exact (does_warn _).after (does_pure _)

/-- What a save counts is told by its answer. -/
theorem outcome_save (retriever : Retriever) (folder : String) :
    surroundings.outcome retriever (item.save folder) =
      (item.saved surroundings retriever folder).map Tally.ofSave := by
  cases item <;> rfl

/-- A raw target names a file that holds an item. -/
structure Files (surroundings : Surroundings) (item : SingleItem) (raw path : String) : Prop where
  classified : Target.classify surroundings.isFile raw = .descriptorFile path
  loaded : surroundings.descriptor path = .ok item.descriptor

section Files

variable (files : surroundings.Files item raw path)

include files

/-- A file that holds an item is not a compressed one. -/
theorem Files.filesRead_eq : filesRead path = [.readText path] := by
  have loaded := files.loaded
  unfold descriptor at loaded
  split at loaded
  · contradiction
  · next plain => rw [filesRead, if_neg plain]

/-- An item from a file is handled as its filter says. -/
theorem Files.handling_eq :
    let handled := surroundings.handlingOfItem settings item.savable.subject
      (item.save (Path.folder path))
    surroundings.handling settings raw = ⟨.readText path :: handled.acts, [], handled.fault⟩ := by
  intro handled
  have named : surroundings.handling settings raw = surroundings.handlingOfFile settings path := by
    simp only [handling, files.classified, Target.name?, reduceCtorEq, if_false]
    rfl
  have single : surroundings.handlingOfDescriptor settings path item.descriptor = handled := by
    cases item <;> rfl
  rw [named, handlingOfFile, files.filesRead_eq, files.loaded]
  simp only [single]
  rfl

/-- The report goes on with what the item comes to. -/
theorem Files.does_report {handled : Handling}
    (same : surroundings.handlingOfItem settings item.savable.subject
      (item.save (Path.folder path)) = handled) (report : Report) (accounts : AccountSet) :
    surroundings.Does (settings.reportTarget raw accounts report)
      (report.withResult raw (surroundings.result handled)) (.readText path :: handled.acts) := by
  have target : surroundings.Does (settings.handleTarget raw accounts) _ _ :=
    does_handleTarget raw accounts
  have idle : surroundings.tally [.readText path] = Tally.zero := tally_cons_of_idle rfl []
  have result := result_prepend idle handled
  rw [files.handling_eq, same] at target
  rw [← result]
  exact target.ending (does_absorb_result _ _ _)

variable (report : Report) (accounts : AccountSet)

theorem Files.does_rejected
    (rejected : settings.filters.accept item.savable.subject = .ok false) :
    surroundings.Does (settings.reportTarget raw accounts report) report [.readText path] := by
  have same : surroundings.handlingOfItem settings item.savable.subject
      (item.save (Path.folder path)) = ⟨[], [], none⟩ := by
    rw [handlingOfItem, rejected]
  exact files.does_report same report accounts

theorem Files.does_undecided {fault : EvalError}
    (undecided : settings.filters.accept item.savable.subject = .error fault) :
    surroundings.Does (settings.reportTarget raw accounts report)
      (report.addError ⟨raw, .filter fault⟩) [.readText path] := by
  have same : surroundings.handlingOfItem settings item.savable.subject
      (item.save (Path.folder path)) = ⟨[], [], some (.filter fault)⟩ := by
    rw [handlingOfItem, undecided]
  exact files.does_report same report accounts

theorem Files.does_accepted
    (accepted : settings.filters.accept item.savable.subject = .ok true) :
    let saved := item.saved surroundings settings.retriever (Path.folder path)
    surroundings.Does (settings.reportTarget raw accounts report)
      (report.withResult raw ((saved.map Tally.ofSave).mapError .retrieve))
      [.readText path, .call (.retrieve settings.retriever (item.save (Path.folder path)))] := by
  intro saved
  have same : surroundings.handlingOfItem settings item.savable.subject
      (item.save (Path.folder path)) =
        surroundings.request settings.retriever (item.save (Path.folder path)) := by
    rw [handlingOfItem, accepted]
  have reported := files.does_report same report accounts
  rwa [result_request, outcome_save] at reported

end Files

end Surroundings

namespace Http.Access

variable {access : Access} {path target : String} {filter : Option Filter.Predicate}
  {item : Savable} {world : World exchanges} {past : Journal exchanges}

/-- A listing of one rejected item. -/
theorem play_saveAll_rejected (rejected : Filter.passes filter item.subject = .ok false) :
    (access.saveAll path target filter BulkOptions.unlimited Tally.zero [item]).run.play world
      past = (.ok Tally.zero.skip, [⟨.log .info s!"{item.display} skipped", ()⟩]) := by
  have decided : passes filter item = Fetch.ofExcept (.ok false) := by rw [passes, rejected]; rfl
  unfold saveAll
  rw [decided]
  rfl

theorem play_saveAll_undecided {fault : EvalError}
    (undecided : Filter.passes filter item.subject = .error fault) :
    (access.saveAll path target filter BulkOptions.unlimited Tally.zero [item]).run.play world
      past = (.error (.filter item.display fault), []) := by
  have decided : passes filter item = Fetch.ofExcept (.error (.filter item.display fault)) := by
    rw [passes, undecided]; rfl
  unfold saveAll
  rw [decided]
  rfl

/-- A listing of one accepted item is its save. -/
theorem play_saveAll_accepted (accepted : Filter.passes filter item.subject = .ok true) :
    let saving := (access.save path target item.fields).run.play world past
    (access.saveAll path target filter BulkOptions.unlimited Tally.zero [item]).run.play world
      past = (saving.1.map Tally.zero.record, saving.2) := by
  intro saving
  have decided : passes filter item = Fetch.ofExcept (.ok true) := by rw [passes, accepted]; rfl
  have single : (access.saveAll path target filter BulkOptions.unlimited Tally.zero [item]).run =
      (access.save path target item.fields).run >>= fun answer =>
        pure (answer.map Tally.zero.record) := by
    unfold saveAll
    rw [decided]
    change (access.save path target item.fields).run >>= _ = _
    congr 1
    funext answer
    cases answer <;> rfl
  rw [single, play_bind, play_pure, List.append_nil]

end Http.Access

namespace Surroundings

variable {surroundings : Surroundings} {settings : RunSettings} {item : SingleItem}
  {raw path : String}

/-- An item that is accepted is saved once with the same report, whether a file has it or a listing,
and a fault of the filter is reported both ways. A rejected item is not saved; it counts as skipped
when a listing has it and goes unreported when a file has it. -/
theorem filed_item_is_reported_as_listed (files : surroundings.Files item raw path)
    (report : Report) (accounts : AccountSet) (access : Http.Access) (target : String)
    (world : World exchanges) (past : Journal exchanges)
    (alike : item.saved surroundings settings.retriever (Path.folder path) =
      ((access.save item.route target item.savable.fields).run.play world past).1) :
    let filter := item.predicate settings.filters
    let isAccepted := item.savable.isAccepted filter
    let saving := (access.save item.route target item.savable.fields).run.play world past
    let listing := (access.saveAll item.route target filter BulkOptions.unlimited Tally.zero
      [item.savable]).run.play world past
    ∃ filed listed,
      Reported report raw item.savable.display (Filter.passes filter item.savable.subject) saving.1
        filed listed ∧
      surroundings.Does (settings.reportTarget raw accounts report) filed
        (.readText path ::
          if isAccepted then [.call (.retrieve settings.retriever (item.save (Path.folder path)))]
          else []) ∧
      surroundings.Does (RunSettings.reportListing raw report listing.1) listed [] ∧
      Http.requestsOf listing.2 = if isAccepted then Http.requestsOf saving.2 else [] := by
  intro filter isAccepted saving listing
  have absorbed : surroundings.Does (RunSettings.reportListing raw report listing.1) _ _ :=
    does_absorb_result report raw _
  cases decided : Filter.passes filter item.savable.subject with
  | error fault =>
      have apart : isAccepted = false := by
        simp only [isAccepted, Http.Savable.isAccepted, decided]
      have listed : listing = _ := Http.Access.play_saveAll_undecided decided
      have filed := files.does_undecided report accounts ((item.accept_eq _).trans decided)
      rw [listed] at absorbed ⊢
      rw [apart]
      exact ⟨_, _, .undecided fault saving.1, filed, absorbed, rfl⟩
  | ok passed =>
      have same : isAccepted = passed := by
        simp only [isAccepted, Http.Savable.isAccepted, decided]
      rw [same]
      cases passed with
      | false =>
          have listed : listing = _ := Http.Access.play_saveAll_rejected decided
          have filed := files.does_rejected report accounts ((item.accept_eq _).trans decided)
          rw [listed] at absorbed ⊢
          exact ⟨_, _, .rejected saving.1, filed, absorbed, rfl⟩
      | true =>
          have listed : listing = (saving.1.map Tally.zero.record, saving.2) :=
            Http.Access.play_saveAll_accepted decided
          have filed := files.does_accepted report accounts ((item.accept_eq _).trans decided)
          have told : item.saved surroundings settings.retriever (Path.folder path) = saving.1 :=
            alike
          rw [told] at filed
          rw [listed] at absorbed ⊢
          cases answered : saving.1 with
          | ok isNew =>
              rw [answered] at filed absorbed
              cases isNew with
              | true => exact ⟨_, _, .downloaded, filed, absorbed, rfl⟩
              | false => exact ⟨_, _, .present, filed, absorbed, rfl⟩
          | error fault =>
              rw [answered] at filed absorbed
              exact ⟨_, _, .failed fault, filed, absorbed, rfl⟩

/-- The text of a file that holds a post. -/
def postText : String := "[\"Post\", [\"P1\", 7, \"alice\", 1, \"2021-07-04T08:00:00\"]]"

/-- The post of a descriptor. -/
def postOf? : Descriptor → Option Post
  | .post post => some post
  | _ => none

/-- The post that the file holds. -/
def postInFile : Post :=
  ((Descriptor.ofText? postText).bind postOf?).get (by decide +kernel)

theorem ofText?_postText : Descriptor.ofText? postText = some (.post postInFile) := by
  have holds : (Descriptor.ofText? postText).bind postOf? = some postInFile := by
    rw [postInFile, Option.some_get]
  obtain ⟨descriptor, read, same⟩ := Option.bind_eq_some_iff.1 holds
  cases descriptor with
  | post post =>
      simp only [postOf?, Option.some.injEq] at same
      rw [read, same]
  | _ => simp only [postOf?, reduceCtorEq] at same

/-- Generous surroundings with that file. -/
def generousWithFile : Surroundings :=
  { generous with
    isFile := (· == "post.json")
    contents := fun _ => .ok postText }

theorem files_generousWithFile :
    generousWithFile.Files (.post postInFile) "post.json" "post.json" where
  classified := by decide +kernel
  loaded := by
    have plain : Path.extension? "post.json" ≠ some Descriptor.compressedExtension := by
      decide +kernel
    rw [descriptor, if_neg plain]
    simp only [generousWithFile, Descriptor.ofFileText, ofText?_postText, SingleItem.descriptor]

/-- A new post from a file is reported as one from the feed. -/
theorem filed_post_is_reported_as_listed :
    let settings : RunSettings := ⟨.ofCredential none, .none, ⟨.unlimited, .usual⟩⟩
    let item : SingleItem := .post postInFile
    let access : Http.Access := ⟨Http.Settings.usual Http.sampleEndpoint, none⟩
    let world := RunSettings.serving ""
    let filter := item.predicate settings.filters
    let isAccepted := item.savable.isAccepted filter
    let saving := (access.save item.route ":feed" item.savable.fields).run.play world []
    let listing := (access.saveAll item.route ":feed" filter BulkOptions.unlimited Tally.zero
      [item.savable]).run.play world []
    generousWithFile.Files item "post.json" "post.json" ∧
      item.saved generousWithFile settings.retriever (Path.folder "post.json") = saving.1 ∧
      ∃ filed listed,
        Reported Report.empty "post.json" item.savable.display
          (Filter.passes filter item.savable.subject) saving.1 filed listed ∧
        generousWithFile.Does
          (settings.reportTarget "post.json" AccountSet.empty Report.empty) filed
          (.readText "post.json" ::
            if isAccepted then
              [.call (.retrieve settings.retriever (item.save (Path.folder "post.json")))]
            else []) ∧
        generousWithFile.Does (RunSettings.reportListing "post.json" Report.empty listing.1)
          listed [] ∧
        Http.requestsOf listing.2 = if isAccepted then Http.requestsOf saving.2 else [] := by
  intro settings item access world filter isAccepted saving listing
  have alike : item.saved generousWithFile settings.retriever (Path.folder "post.json") =
      saving.1 := by decide +kernel
  exact ⟨files_generousWithFile, alike, filed_item_is_reported_as_listed files_generousWithFile
    Report.empty AccountSet.empty access ":feed" world [] alike⟩

/-- A post that the filter rejects counts as skipped in the feed and not in a file. -/
theorem rejected_file_goes_uncounted :
    ¬∀ (surroundings : Surroundings) (settings : RunSettings) (item : SingleItem)
      (raw path : String) (report : Report) (accounts : AccountSet) (access : Http.Access)
      (target : String) (world : World exchanges) (past : Journal exchanges)
      (filed listed : Report) (acts : History),
      let saving := (access.save item.route target item.savable.fields).run.play world past
      let listing := (access.saveAll item.route target (item.predicate settings.filters)
        BulkOptions.unlimited Tally.zero [item.savable]).run.play world past
      surroundings.Files item raw path →
        item.saved surroundings settings.retriever (Path.folder path) = saving.1 →
          surroundings.Does (settings.reportTarget raw accounts report) filed acts →
            surroundings.Does (RunSettings.reportListing raw report listing.1) listed [] →
              filed.tally = listed.tally ∧ filed.errors.length = listed.errors.length := by
  intro alike
  let item : SingleItem := .post postInFile
  let refusing : Filter.Predicate := ⟨"False", .post, .literal (.bool false)⟩
  let settings : RunSettings := ⟨.ofCredential none, ⟨some refusing, none⟩, ⟨.unlimited, .usual⟩⟩
  let access : Http.Access := ⟨Http.Settings.usual Http.sampleEndpoint, none⟩
  have rejected : Filter.passes (item.predicate settings.filters) item.savable.subject =
      .ok false := rfl
  have answered : item.saved generousWithFile settings.retriever (Path.folder "post.json") =
      ((access.save item.route ":feed" item.savable.fields).run.play (RunSettings.serving "")
        []).1 := by decide +kernel
  have filed : generousWithFile.Does
      (settings.reportTarget "post.json" AccountSet.empty Report.empty) Report.empty _ :=
    files_generousWithFile.does_rejected Report.empty AccountSet.empty
      ((item.accept_eq settings.filters).trans rejected)
  have listed : generousWithFile.Does (RunSettings.reportListing "post.json" Report.empty
      (.ok Tally.zero.skip)) _ [] := does_absorb_result Report.empty "post.json" _
  have counts := (alike generousWithFile settings item "post.json" "post.json" Report.empty
    AccountSet.empty access ":feed" (RunSettings.serving "") [] _ _ _ files_generousWithFile
    answered filed (by rw [Http.Access.play_saveAll_rejected rejected]; exact listed)).1
  exact absurd counts (by decide)

end Surroundings

end Harvest
