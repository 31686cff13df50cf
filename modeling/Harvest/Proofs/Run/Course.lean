import Harvest.Proofs.Compliance
import Harvest.Run.Basic

/-!
The course of a run. Whatever holds of its requests, of its messages and of its looks at files and
at the interrupt flag holds of the run, because a run does nothing else.
-/

namespace Harvest

/-- The text of a file saves an item. -/
def Descriptor.IsIn (item : Descriptor) (found : Except ReadFault String) : Prop :=
  ∃ source, found = .ok source ∧ ofText? source = some item

namespace RunSettings

/-- The acts by which a run handles targets are allowed, but for what the descriptor in a file has
it save. -/
structure AllowsTargets (settings : RunSettings) (allowed : Act retrievalService → Prop) :
    Prop where
  message : ∀ level text, allowed (.log level text)
  probe : ∀ path, allowed (.probeFile path)
  posts : ∀ listing, allowed (.call (.retrieve settings.retriever
    (.posts listing settings.filters.post settings.options.bulk)))
  stories : allowed (.call (.retrieve settings.retriever
    (.stories settings.filters.storyItem settings.options.bulk)))
  followees : ∀ account, allowed (.call (.retrieve settings.retriever (.followees account)))

/-- The acts by which a run downloads accounts are allowed. Only who is logged in makes a copy. -/
structure AllowsAccounts (settings : RunSettings) (allowed : Act retrievalService → Prop) :
    Prop where
  message : ∀ level text, allowed (.log level text)
  poll : allowed .pollInterrupt
  profile : ∀ account, allowed (.call (.retrieve settings.retriever
    (.profile account settings.filters settings.options.profile)))
  copy : settings.retriever.isLoggedIn = true →
    allowed (.call (.copyAnonymously settings.retriever))
  again : settings.retriever.isLoggedIn = true → ∀ account, allowed (.call (.retrieve
    Retriever.anonymousCopy
    (.profile account settings.filters { settings.options.profile with stories := false })))

/-- Files may be read, and known items that the filters accept may be saved. -/
structure AllowsItems (settings : RunSettings) (known : Descriptor → Prop)
    (allowed : Act retrievalService → Prop) : Prop where
  read : ∀ path, allowed (.readText path)
  post : ∀ post folder, known (.post post) → settings.filters.accept post.subject = .ok true →
    allowed (.call (.retrieve settings.retriever (.savePost post folder)))
  storyItem : ∀ item folder, known (.storyItem item) →
    settings.filters.accept item.subject = .ok true →
    allowed (.call (.retrieve settings.retriever (.saveStoryItem item folder)))

/-- What a run asks the service for on behalf of a target, but for what the descriptor in a file has
it save. -/
inductive AsksFor (settings : RunSettings) : Target → Retrieval → Prop where
  | followees (account : String) : AsksFor settings (.followees account) (.followees account)
  | tag (name : String) : AsksFor settings (.tag name)
      (.posts (.hashtag name) settings.filters.post settings.options.bulk)
  | feed : AsksFor settings .feed (.posts .feed settings.filters.post settings.options.bulk)
  | stories : AsksFor settings .stories
      (.stories settings.filters.storyItem settings.options.bulk)
  | saved : AsksFor settings .saved (.posts .saved settings.filters.post settings.options.bulk)

variable {settings : RunSettings} {promise : (deed : Act retrievalService) → deed.Answer → Prop}
  {allowed : Act retrievalService → Prop}

theorem AllowsTargets.asked (allows : settings.AllowsTargets allowed) {target : Target}
    {retrieval : Retrieval} (asked : settings.AsksFor target retrieval) :
    allowed (.call (.retrieve settings.retriever retrieval)) := by
  cases asked with
  | followees account => exact allows.followees account
  | tag | feed | saved => exact allows.posts _
  | stories => exact allows.stories

theorem complies_retrieve {retriever : Retriever} {retrieval : Retrieval}
    (asked : allowed (.call (.retrieve retriever retrieval))) :
    (Work.retrieve retriever retrieval).Complies promise allowed fun _ => True :=
  .act asked fun _ _ => .done trivial

section Messages

variable (message : ∀ level text, allowed (.log level text))

include message

theorem complies_inform (text : String) :
    (Program.inform text : Work Unit).Complies promise allowed fun _ => True :=
  .act (message _ _) fun _ _ => .done trivial

/-- A result is recorded with a message at most. -/
theorem complies_absorb (report : Report) (name : String) (result : Except TargetFault Tally) :
    (absorb report name result).Complies promise allowed fun _ => True := by
  cases result with
  | ok tally => exact .done trivial
  | error fault => exact .act (message _ _) fun _ _ => .done trivial

theorem complies_stop (report : Report) :
    (stop report).Complies promise allowed fun _ => True :=
  .act (message _ _) fun _ _ => .done trivial

/-- An item is saved on behalf of a file only if the filters accept it. -/
theorem complies_saveLocal {raw display : String} {subject : Filter.Subject}
    {request : Work (Except RetrieveError Bool)}
    (asked : settings.filters.accept subject = .ok true →
      request.Complies promise allowed fun _ => True) :
    (settings.saveLocal raw display subject request).Complies promise allowed fun _ => True := by
  unfold saveLocal
  cases accepted : settings.filters.accept subject with
  | error fault => exact .done trivial
  | ok passed =>
      cases passed with
      | false => exact (complies_inform message _).bind fun _ _ => .done trivial
      | true =>
          refine (asked accepted).bind fun saved _ => ?_
          cases saved <;> exact .done trivial

end Messages

section Targets

/-- A file yields an item only if its text saves that item. -/
theorem complies_load {known : Descriptor → Prop} {path : String}
    (read : allowed (.readText path))
    (told : ∀ found, promise (.readText path) found → ∀ item, item.IsIn found → known item) :
    (Descriptor.load path : Work (Except LoadError Descriptor)).Complies promise allowed
      fun loaded => ∀ item, loaded = .ok item → known item := by
  have text : (Program.readText path : Work (Except ReadFault String)).Complies promise allowed
      fun found => ∀ item, Descriptor.IsIn item found → known item :=
    .act read fun found kept => .done (told found kept)
  unfold Descriptor.load
  split
  · exact .done fun item impossible => nomatch impossible
  · refine text.bind fun found isKnown => ?_
    cases found with
    | error fault => exact .done fun item impossible => nomatch impossible
    | ok source =>
        refine .done fun item loaded => ?_
        unfold Descriptor.ofFileText at loaded
        split at loaded
        · contradiction
        · next descriptor decoded =>
            cases loaded
            exact isKnown _ ⟨source, rfl, decoded⟩

/-- A text is classified by a look for a file at most. -/
theorem complies_classify (probe : ∀ path, allowed (.probeFile path)) (raw : String) :
    (Target.classifyIn Program.isFile raw : Work Target).Complies promise allowed
      fun _ => True := by
  have probed (path : String) :
      (Program.isFile path : Work Bool).Complies promise allowed fun _ => True :=
    .act (probe path) fun _ _ => .done trivial
  unfold Target.classifyIn Target.ofStripped
  split
  · exact .done trivial
  · exact .done trivial
  · split
    · exact .done trivial
    · split
      · exact .done trivial
      · split
        · exact .done trivial
        · split
          · refine (probed _).bind fun isFile _ => ?_
            cases isFile <;> exact .done trivial
          · exact .done trivial

section Requests

variable (message : ∀ level text, allowed (.log level text))

include message

theorem complies_handlePosts {listing : PostListing} (asked : allowed (.call
    (.retrieve settings.retriever (.posts listing settings.filters.post settings.options.bulk))))
    (text : String) :
    (settings.handlePosts text listing).Complies promise allowed fun _ => True :=
  (complies_inform message text).bind fun _ _ =>
    (complies_retrieve asked).bind fun _ _ => .done trivial

theorem complies_handleStories (asked : allowed (.call (.retrieve settings.retriever
    (.stories settings.filters.storyItem settings.options.bulk)))) :
    settings.handleStories.Complies promise allowed fun _ => True :=
  (complies_inform message _).bind fun _ _ =>
    (complies_retrieve asked).bind fun _ _ => .done trivial

theorem complies_expandFollowees {account : String}
    (asked : allowed (.call (.retrieve settings.retriever (.followees account))))
    (accounts : AccountSet) :
    (accounts.expandFollowees settings.retriever account).Complies promise allowed
      fun _ => True := by
  have follows : (accounts.followUp settings.retriever account).Complies promise allowed
      fun _ => True := by
    refine (complies_inform message _).bind fun _ _ => ?_
    refine (complies_retrieve asked).bind fun followees _ => ?_
    cases followees with
    | error fault => exact .done trivial
    | ok names => exact (complies_inform message _).bind fun _ _ => .done trivial
  exact follows.bind fun _ _ => .done trivial

variable {known : Descriptor → Prop} (items : settings.AllowsItems known allowed)
  (told : ∀ path found, promise (.readText path) found → ∀ item, item.IsIn found → known item)

include items told

theorem complies_handleFile (raw path : String) :
    (settings.handleFile raw path).Complies promise allowed fun _ => True := by
  refine (complies_load (items.read path) (told path)).bind fun loaded yields => ?_
  cases loaded with
  | error fault => exact .done trivial
  | ok descriptor =>
      have isKnown : known descriptor := yields descriptor rfl
      cases descriptor with
      | post post =>
          exact complies_saveLocal message fun accepted =>
            complies_retrieve (items.post post _ isKnown accepted)
      | storyItem item =>
          exact complies_saveLocal message fun accepted =>
            complies_retrieve (items.storyItem item _ isKnown accepted)
      | profile _ | other _ => exact .done trivial

/-- A named target is handled by what it asks for. -/
theorem complies_handleNamed {target : Target}
    (asks : ∀ retrieval, settings.AsksFor target retrieval →
      allowed (.call (.retrieve settings.retriever retrieval)))
    (raw : String) (accounts : AccountSet) :
    (settings.handleNamed raw accounts target).Complies promise allowed fun _ => True := by
  cases target with
  | followees account =>
      refine (complies_expandFollowees message (asks _ (.followees account)) accounts).bind
        fun expanded _ => ?_
      cases expanded <;> exact .done trivial
  | account name => exact .done trivial
  | descriptorFile path =>
      exact (complies_handleFile message items told raw path).bind fun _ _ => .done trivial
  | tag name =>
      exact (complies_handlePosts message (asks _ (.tag name)) _).bind fun _ _ => .done trivial
  | feed => exact (complies_handlePosts message (asks _ .feed) _).bind fun _ _ => .done trivial
  | stories => exact (complies_handleStories message (asks _ .stories)).bind fun _ _ => .done trivial
  | saved => exact (complies_handlePosts message (asks _ .saved) _).bind fun _ _ => .done trivial

end Requests

/-- A target is handled by what is allowed. -/
theorem complies_handleTarget (allows : settings.AllowsTargets allowed)
    {known : Descriptor → Prop} (items : settings.AllowsItems known allowed)
    (told : ∀ path found, promise (.readText path) found → ∀ item, item.IsIn found → known item)
    (raw : String) (accounts : AccountSet) :
    (settings.handleTarget raw accounts).Complies promise allowed fun _ => True := by
  refine (complies_classify allows.probe raw).bind fun target _ => ?_
  split
  · exact .done trivial
  · exact complies_handleNamed allows.message items told (fun _ => allows.asked) raw accounts

end Targets

section Accounts

variable (allows : settings.AllowsAccounts allowed)

include allows

/-- The flag is looked at before every turn. -/
theorem complies_interrupted :
    (Program.interrupted : Work Bool).Complies promise allowed fun _ => True :=
  .act allows.poll fun _ _ => .done trivial

/-- An account is downloaded, and once more by an anonymous copy when that may help. -/
theorem complies_downloadAccount (account : String) :
    (settings.downloadAccount account).Complies promise allowed fun _ => True := by
  refine (complies_retrieve (allows.profile account)).bind fun outcome _ => ?_
  cases outcome with
  | ok tally => exact .done trivial
  | error fault =>
      dsimp only
      split
      · next again =>
          have loggedIn : settings.retriever.isLoggedIn = true := (Bool.and_eq_true_iff.1 again).2
          refine .act (allows.message _ _) fun _ _ => .act (allows.copy loggedIn) fun _ _ => ?_
          exact complies_retrieve (allows.again loggedIn account)
      · exact .done trivial

theorem complies_downloadAccounts (names : List String) (report : Report) :
    (settings.downloadAccounts report names).Complies promise allowed fun _ => True := by
  induction names generalizing report with
  | nil => exact .done trivial
  | cons account rest ih =>
      refine (complies_interrupted allows).bind fun raised _ => ?_
      split
      · exact complies_stop allows.message report
      · exact (complies_downloadAccount allows account).bind fun _ _ =>
          (complies_absorb allows.message _ _ _).bind fun _ _ => ih _

theorem complies_finish (accounts : AccountSet) (report : Report) :
    (settings.finish accounts report).Complies promise allowed fun _ => True := by
  unfold finish
  split
  · exact (complies_inform allows.message _).bind fun _ _ => complies_downloadAccounts allows _ _
  · exact complies_downloadAccounts allows _ _

variable (target : ∀ raw accounts,
  (settings.handleTarget raw accounts).Complies promise allowed fun _ => True)

include target

/-- Targets are handled in order and then accounts. The induction is on the targets that are left. -/
theorem complies_runFrom (targets : List String) (accounts : AccountSet) (report : Report) :
    (settings.runFrom accounts report targets).Complies promise allowed fun _ => True := by
  induction targets generalizing accounts report with
  | nil => exact complies_finish allows accounts report
  | cons raw rest ih =>
      refine (complies_interrupted allows).bind fun raised _ => ?_
      split
      · exact complies_stop allows.message report
      · exact (target raw accounts).bind fun _ _ =>
          (complies_absorb allows.message _ _ _).bind fun _ _ => ih _ _

/-- A run complies when its targets and accounts do. -/
theorem complies_run (targets : List String) :
    (settings.run targets).Complies promise allowed fun _ => True :=
  complies_runFrom allows target targets AccountSet.empty Report.empty

end Accounts

end RunSettings

end Harvest
