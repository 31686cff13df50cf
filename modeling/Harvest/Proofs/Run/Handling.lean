import Harvest.Proofs.Run.Surroundings
import Harvest.Run.Basic

/-!
What each target and each account does on its own, told from the answers of the surroundings alone:
the acts, the names it adds to the accounts, and its fault. The programs for targets and accounts
do just that.
-/

namespace Harvest

/-- What some counts add up to, field by field. -/
def Tally.sum : List Tally → Tally
  | [] => ⟨0, 0, 0⟩
  | tally :: rest =>
    ⟨tally.downloaded + (Tally.sum rest).downloaded, tally.skipped + (Tally.sum rest).skipped,
      tally.present + (Tally.sum rest).present⟩

theorem Tally.sum_nil : Tally.sum [] = Tally.zero := rfl

theorem Tally.sum_cons (tally : Tally) (rest : List Tally) :
    Tally.sum (tally :: rest) = tally.add (Tally.sum rest) := rfl

theorem Tally.sum_singleton (tally : Tally) : Tally.sum [tally] = tally := rfl

/-- What a save counts: one download of a new item, or one item that was there already. -/
def Tally.ofSave : Bool → Tally
  | true => ⟨1, 0, 0⟩
  | false => ⟨0, 0, 1⟩

/-- A save is recorded as what it counts. -/
theorem Tally.record_eq (tally : Tally) (isNew : Bool) :
    tally.record isNew = tally.add (Tally.ofSave isNew) := by
  cases isNew <;> rfl

theorem Tally.add_zero (tally : Tally) : tally.add Tally.zero = tally := rfl

theorem Tally.zero_add (tally : Tally) : Tally.zero.add tally = tally := by
  simp [Tally.zero, Tally.add]

theorem Tally.add_assoc (first second third : Tally) :
    (first.add second).add third = first.add (second.add third) := by
  simp only [Tally.add, Nat.add_assoc]

theorem Tally.sum_append (first second : List Tally) :
    Tally.sum (first ++ second) = (Tally.sum first).add (Tally.sum second) := by
  induction first with
  | nil => exact (Tally.zero_add (Tally.sum second)).symm
  | cons tally rest ih =>
      rw [List.cons_append, Tally.sum_cons, Tally.sum_cons, ih, Tally.add_assoc]

/-- What a request comes to: a download to its tally, a save to one item, and a look at followees
to nothing. -/
def Retrieval.outcome : (retrieval : Retrieval) → retrieval.Answer → Except RetrieveError Tally
  | .followees _, answer => answer.map fun _ => ⟨0, 0, 0⟩
  | .savePost _ _, answer | .saveStoryItem _ _, answer => answer.map Tally.ofSave
  | .posts _ _ _, answer | .stories _ _, answer | .profile _ _ _, answer => answer

/-- The download of an account. -/
def RunSettings.download (settings : RunSettings) (account : String) : Retrieval :=
  .profile account settings.filters settings.options.profile

/-- The download of an account that is tried again, which leaves the stories out. -/
def RunSettings.downloadAgain (settings : RunSettings) (account : String) : Retrieval :=
  .profile account settings.filters { settings.options.profile with stories := false }

/-- What a target or an account does on its own. -/
structure Handling where
  acts : History
  names : List String
  fault : Option TargetFault

namespace Surroundings

/-- What a request of a retriever comes to. -/
def outcome (surroundings : Surroundings) (retriever : Retriever) (retrieval : Retrieval) :
    Except RetrieveError Tally :=
  retrieval.outcome (surroundings.answer (.retrieve retriever retrieval))

/-- What an act counts: a request that succeeds by its outcome, and nothing else. -/
def credit (surroundings : Surroundings) : Act retrievalService → Tally
  | .call (.retrieve retriever retrieval) =>
    match surroundings.outcome retriever retrieval with
    | .ok tally => tally
    | .error _ => ⟨0, 0, 0⟩
  | _ => ⟨0, 0, 0⟩

/-- What the successful calls of a history add up to. -/
def tally (surroundings : Surroundings) (acts : History) : Tally :=
  Tally.sum (acts.map surroundings.credit)

/-- A single request, and its fault. -/
def request (surroundings : Surroundings) (retriever : Retriever) (retrieval : Retrieval) :
    Handling where
  acts := [.call (.retrieve retriever retrieval)]
  names := []
  fault :=
    match surroundings.outcome retriever retrieval with
    | .ok _ => none
    | .error fault => some (.retrieve fault)

/-- The descriptor in a file. -/
def descriptor (surroundings : Surroundings) (path : String) : Except LoadError Descriptor :=
  if Path.extension? path = some Descriptor.compressedExtension then .error (.compressed path)
  else
    match surroundings.contents path with
    | .error fault => .error (.unavailable path fault.reason)
    | .ok source => Descriptor.ofFileText path source

/-- A compressed file is not read. -/
def filesRead (path : String) : History :=
  if Path.extension? path = some Descriptor.compressedExtension then [] else [.readText path]

/-- An item from a file is saved when its filter accepts it. -/
def handlingOfItem (surroundings : Surroundings) (settings : RunSettings)
    (subject : Filter.Subject) (save : Retrieval) : Handling :=
  match settings.filters.accept subject with
  | .error fault => ⟨[], [], some (.filter fault)⟩
  | .ok false => ⟨[], [], none⟩
  | .ok true => surroundings.request settings.retriever save

/-- A descriptor is handled as the item that it saves. -/
def handlingOfDescriptor (surroundings : Surroundings) (settings : RunSettings) (path : String)
    (descriptor : Descriptor) : Handling :=
  match descriptor.dispatch path with
  | .post item folder =>
    surroundings.handlingOfItem settings item.subject (.savePost item folder)
  | .storyItem item folder =>
    surroundings.handlingOfItem settings item.subject (.saveStoryItem item folder)
  | .rejected reason => ⟨[], [], some (.rejected reason)⟩

/-- A descriptor file is read first. -/
def handlingOfFile (surroundings : Surroundings) (settings : RunSettings) (path : String) :
    Handling :=
  let handled : Handling :=
    match surroundings.descriptor path with
    | .error fault => ⟨[], [], some (.load fault)⟩
    | .ok descriptor => surroundings.handlingOfDescriptor settings path descriptor
  ⟨filesRead path ++ handled.acts, [], handled.fault⟩

/-- The names that an account follows, when the service tells them. -/
def followees (surroundings : Surroundings) (settings : RunSettings) (account : String) :
    List String :=
  match surroundings.answer (.retrieve settings.retriever (.followees account)) with
  | .ok names => names
  | .error _ => []

/-- A target that names something. -/
def handlingOfNamed (surroundings : Surroundings) (settings : RunSettings) : Target → Handling
  | .followees account =>
    { surroundings.request settings.retriever (.followees account) with
      names := surroundings.followees settings account }
  | .account name => ⟨[], [name], none⟩
  | .descriptorFile path => surroundings.handlingOfFile settings path
  | .tag name =>
    surroundings.request settings.retriever
      (.posts (.hashtag name) settings.filters.post settings.options.bulk)
  | .feed =>
    surroundings.request settings.retriever
      (.posts .feed settings.filters.post settings.options.bulk)
  | .stories =>
    surroundings.request settings.retriever
      (.stories settings.filters.storyItem settings.options.bulk)
  | .saved =>
    surroundings.request settings.retriever
      (.posts .saved settings.filters.post settings.options.bulk)

/-- A target; one without a name is rejected. -/
def handling (surroundings : Surroundings) (settings : RunSettings) (raw : String) : Handling :=
  let target := Target.classify surroundings.isFile raw
  if target.name? = some "" then
    ⟨[], [], some (.rejected s!"{Text.quote raw} names no target")⟩
  else surroundings.handlingOfNamed settings target

/-- An account that a login does not find is tried again. -/
def retries (surroundings : Surroundings) (settings : RunSettings) (account : String) : Bool :=
  match surroundings.outcome settings.retriever (settings.download account) with
  | .ok _ => false
  | .error fault => fault.isNotFound && settings.retriever.isLoggedIn

/-- An account that is tried again: a download that finds nothing, and an anonymous one. -/
def handlingTwice (surroundings : Surroundings) (settings : RunSettings) (account : String) :
    Handling where
  acts := [.call (.retrieve settings.retriever (settings.download account)),
    .call (.copyAnonymously settings.retriever),
    .call (.retrieve Retriever.anonymousCopy (settings.downloadAgain account))]
  names := []
  fault := (surroundings.request Retriever.anonymousCopy (settings.downloadAgain account)).fault

/-- An account, with the anonymous download that may follow. -/
def handlingOfAccount (surroundings : Surroundings) (settings : RunSettings) (account : String) :
    Handling :=
  if surroundings.retries settings account then surroundings.handlingTwice settings account
  else surroundings.request settings.retriever (settings.download account)

/-- What a handling comes to: its fault, or what its acts count. -/
def result (surroundings : Surroundings) (handling : Handling) : Except TargetFault Tally :=
  match handling.fault with
  | some fault => .error fault
  | none => .ok (surroundings.tally handling.acts)

variable {surroundings : Surroundings} {settings : RunSettings}

@[simp] theorem tally_nil : surroundings.tally [] = Tally.zero := rfl

theorem tally_append (first second : History) :
    surroundings.tally (first ++ second) =
      (surroundings.tally first).add (surroundings.tally second) := by
  simp [tally, Tally.sum_append]

theorem tally_cons (act : Act retrievalService) (acts : History) :
    surroundings.tally (act :: acts) = (surroundings.credit act).add (surroundings.tally acts) :=
  rfl

/-- An act that counts nothing may be left out. -/
theorem tally_cons_of_idle {act : Act retrievalService} (idle : surroundings.credit act = Tally.zero)
    (acts : History) : surroundings.tally (act :: acts) = surroundings.tally acts := by
  rw [tally_cons, idle, Tally.zero_add]

/-- A request counts by its outcome. -/
theorem tally_request (retriever : Retriever) (retrieval : Retrieval) :
    surroundings.tally (surroundings.request retriever retrieval).acts =
      surroundings.credit (.call (.retrieve retriever retrieval)) :=
  Tally.add_zero _

/-- The result of a request is its outcome. -/
theorem result_request (retriever : Retriever) (retrieval : Retrieval) :
    surroundings.result (surroundings.request retriever retrieval) =
      (surroundings.outcome retriever retrieval).mapError .retrieve := by
  have counted : surroundings.tally (surroundings.request retriever retrieval).acts = _ :=
    tally_request retriever retrieval
  unfold result
  rw [counted]
  simp only [request, credit]
  cases surroundings.outcome retriever retrieval <;> rfl

/-- Acts that count nothing leave the result as it is. -/
theorem result_prepend {acts : History} (idle : surroundings.tally acts = Tally.zero)
    (handling : Handling) :
    surroundings.result ⟨acts ++ handling.acts, [], handling.fault⟩ =
      surroundings.result handling := by
  simp only [result, tally_append, idle, Tally.zero_add]

theorem does_classify (raw : String) :
    surroundings.Does (Target.classifyIn Program.isFile raw)
      (Target.classify surroundings.isFile raw) [] := by
  unfold Target.classify Target.classifyIn Target.ofStripped
  split
  · exact does_pure _
  · exact does_pure _
  · split
    · exact does_pure _
    · split
      · exact does_pure _
      · split
        · exact does_pure _
        · split
          · refine (does_isFile _).after ?_
            change surroundings.Does _ (if surroundings.isFile (Target.stripped raw) then
              Target.descriptorFile (Target.stripped raw)
              else Target.account (Target.stripped raw)) []
            cases surroundings.isFile (Target.stripped raw) <;> exact does_pure _
          · exact does_pure _

theorem does_load (path : String) :
    surroundings.Does (Descriptor.load path) (surroundings.descriptor path) (filesRead path) := by
  unfold Descriptor.load descriptor filesRead
  split
  · exact does_pure _
  · refine (does_readText path).bind ?_
    cases surroundings.contents path <;> exact does_pure _

/-- An item is saved as its filter says. -/
theorem does_saveLocal {raw display : String} {subject : Filter.Subject} {save : Retrieval}
    {request : Work (Except RetrieveError Bool)} {answer : Except RetrieveError Bool}
    (asked : surroundings.Does request answer [.call (.retrieve settings.retriever save)])
    (counted : surroundings.outcome settings.retriever save = answer.map Tally.ofSave) :
    surroundings.Does (settings.saveLocal raw display subject request)
      (surroundings.result (surroundings.handlingOfItem settings subject save))
      (surroundings.handlingOfItem settings subject save).acts := by
  unfold RunSettings.saveLocal handlingOfItem
  cases settings.filters.accept subject with
  | error fault => exact does_pure _
  | ok accepted =>
      cases accepted with
      | false => exact (does_inform _).after (does_pure _)
      | true =>
          simp only [result_request, counted]
          refine asked.ending ?_
          cases answer with
          | error fault => exact does_pure _
          | ok isNew => cases isNew <;> exact does_pure _

/-- Reading a file counts nothing. -/
theorem tally_filesRead (path : String) :
    surroundings.tally (filesRead path) = Tally.zero := by
  unfold filesRead
  split
  · rfl
  · exact tally_cons_of_idle rfl []

theorem does_handleFile (raw path : String) :
    surroundings.Does (settings.handleFile raw path)
      (surroundings.result (surroundings.handlingOfFile settings path))
      (surroundings.handlingOfFile settings path).acts := by
  unfold handlingOfFile
  rw [result_prepend (tally_filesRead path)]
  refine (does_load path).bind ?_
  cases surroundings.descriptor path with
  | error fault => exact does_pure _
  | ok descriptor =>
      simp only [handlingOfDescriptor]
      cases descriptor.dispatch path with
      | post item folder => exact does_saveLocal (does_retrieve _ _) rfl
      | storyItem item folder => exact does_saveLocal (does_retrieve _ _) rfl
      | rejected reason => exact does_pure _

theorem does_handlePosts (message : String) (listing : PostListing) :
    let listed := surroundings.request settings.retriever
      (.posts listing settings.filters.post settings.options.bulk)
    surroundings.Does (settings.handlePosts message listing) (surroundings.result listed)
      listed.acts := by
  intro listed
  rw [result_request]
  exact (does_inform message).after ((does_retrieve _ _).ending (does_pure _))

theorem does_handleStories :
    let listed := surroundings.request settings.retriever
      (.stories settings.filters.storyItem settings.options.bulk)
    surroundings.Does settings.handleStories (surroundings.result listed) listed.acts := by
  intro listed
  rw [result_request]
  exact (does_inform _).after ((does_retrieve _ _).ending (does_pure _))

theorem does_followUp (accounts : AccountSet) (account : String) :
    surroundings.Does (accounts.followUp settings.retriever account)
      ((surroundings.answer (.retrieve settings.retriever (.followees account))).map accounts.merge)
      [.call (.retrieve settings.retriever (.followees account))] := by
  refine (does_inform _).after ((does_retrieve _ _).ending ?_)
  cases surroundings.answer (.retrieve settings.retriever (.followees account)) with
  | error fault => exact does_pure _
  | ok names => exact (does_inform _).after (does_pure _)

theorem does_expandFollowees (accounts : AccountSet) (account : String) :
    surroundings.Does (accounts.expandFollowees settings.retriever account)
      ((surroundings.answer (.retrieve settings.retriever (.followees account))).map accounts.extend)
      [.call (.retrieve settings.retriever (.followees account))] := by
  refine (does_followUp accounts account).ending ?_
  cases surroundings.answer (.retrieve settings.retriever (.followees account)) <;>
    exact does_pure _

/-- A named target does what its handling says, and adds its names to the accounts. -/
theorem does_handleNamed (raw : String) (accounts : AccountSet) (target : Target) :
    let handled := surroundings.handlingOfNamed settings target
    surroundings.Does (settings.handleNamed raw accounts target)
      ⟨accounts.extend handled.names, surroundings.result handled⟩ handled.acts := by
  intro handled
  cases target with
  | followees account =>
      have result : surroundings.result handled =
          (surroundings.outcome settings.retriever (.followees account)).mapError .retrieve :=
        result_request _ _
      have names : handled.names = surroundings.followees settings account := rfl
      rw [result, names]
      refine (does_expandFollowees accounts account).ending ?_
      unfold outcome followees
      cases surroundings.answer (.retrieve settings.retriever (.followees account)) <;>
        exact does_pure _
  | account name => exact does_pure _
  | descriptorFile path => exact (does_handleFile raw path).ending (does_pure _)
  | tag name => exact (does_handlePosts _ _).ending (does_pure _)
  | feed => exact (does_handlePosts _ _).ending (does_pure _)
  | stories => exact does_handleStories.ending (does_pure _)
  | saved => exact (does_handlePosts _ _).ending (does_pure _)

/-- A target does what its handling says. -/
theorem does_handleTarget (raw : String) (accounts : AccountSet) :
    let handled := surroundings.handling settings raw
    surroundings.Does (settings.handleTarget raw accounts)
      ⟨accounts.extend handled.names, surroundings.result handled⟩ handled.acts := by
  intro handled
  refine (does_classify raw).after ?_
  unfold handled handling
  by_cases nameless : (Target.classify surroundings.isFile raw).name? = some ""
  · simp only [nameless, if_true]
    exact does_pure _
  · simp only [nameless, if_false]
    exact does_handleNamed raw accounts _

/-- A request that fails counts nothing. -/
theorem credit_of_error {retriever : Retriever} {retrieval : Retrieval} {fault : RetrieveError}
    (failed : surroundings.outcome retriever retrieval = .error fault) :
    surroundings.credit (.call (.retrieve retriever retrieval)) = Tally.zero := by
  simp only [credit, failed]
  rfl

/-- A retry comes after a download that found nothing. -/
theorem retries_eq_true {account : String} (again : surroundings.retries settings account) :
    ∃ fault, surroundings.outcome settings.retriever (settings.download account) = .error fault ∧
      (fault.isNotFound && settings.retriever.isLoggedIn) = true := by
  unfold retries at again
  split at again
  · contradiction
  · next fault failed => exact ⟨fault, failed, again⟩

/-- Before a retry nothing is counted. -/
theorem tally_of_retries {account : String} (again : surroundings.retries settings account) :
    surroundings.tally [.call (.retrieve settings.retriever (settings.download account)),
      .call (.copyAnonymously settings.retriever)] = Tally.zero := by
  obtain ⟨fault, failed, -⟩ := retries_eq_true again
  rw [tally_cons_of_idle (credit_of_error failed), tally_cons_of_idle rfl, tally_nil]

/-- An account that is not tried again is downloaded once. -/
theorem handlingOfAccount_once {account : String}
    (once : surroundings.retries settings account = false) :
    surroundings.handlingOfAccount settings account =
      surroundings.request settings.retriever (settings.download account) := by
  simp [handlingOfAccount, once]

/-- An account that is tried again is downloaded anonymously as well. -/
theorem handlingOfAccount_again {account : String}
    (again : surroundings.retries settings account = true) :
    surroundings.handlingOfAccount settings account =
      surroundings.handlingTwice settings account := by
  simp [handlingOfAccount, again]

/-- An account comes to its first download, or to the anonymous one when it is tried again. -/
theorem result_handlingOfAccount (account : String) :
    surroundings.result (surroundings.handlingOfAccount settings account) =
      (if surroundings.retries settings account then
        surroundings.outcome Retriever.anonymousCopy (settings.downloadAgain account)
      else surroundings.outcome settings.retriever (settings.download account)).mapError .retrieve := by
  unfold handlingOfAccount
  by_cases again : surroundings.retries settings account
  · simp only [again, if_true]
    rw [← result_request]
    exact result_prepend (tally_of_retries again) _
  · simp only [again]
    exact result_request _ _

/-- An account does what its handling says. -/
theorem does_downloadAccount (account : String) :
    ∃ outcome, outcome.mapError .retrieve =
        surroundings.result (surroundings.handlingOfAccount settings account) ∧
      surroundings.Does (settings.downloadAccount account) outcome
        (surroundings.handlingOfAccount settings account).acts := by
  refine ⟨_, (result_handlingOfAccount account).symm, ?_⟩
  have first : surroundings.Does (Work.retrieve settings.retriever (settings.download account))
      (surroundings.outcome settings.retriever (settings.download account)) [_] := does_retrieve _ _
  unfold handlingOfAccount
  by_cases again : surroundings.retries settings account
  · obtain ⟨fault, failed, hidden⟩ := retries_eq_true again
    rw [failed] at first
    simp only [again, if_true]
    refine first.bind ?_
    simp only [hidden, if_true]
    exact (does_warn _).after ((does_copyAnonymously _).bind (does_retrieve _ _))
  · simp only [again]
    refine first.ending ?_
    unfold retries at again
    cases failed : surroundings.outcome settings.retriever (settings.download account) with
    | ok tally => exact does_pure _
    | error fault =>
        simp only [failed] at again
        simp only [again]
        exact does_pure _

/-- A handling that fails counts nothing. -/
def FailsEmpty (surroundings : Surroundings) (handling : Handling) : Prop :=
  handling.fault.isSome → surroundings.tally handling.acts = Tally.zero

theorem FailsEmpty.request (retriever : Retriever) (retrieval : Retrieval) (names : List String) :
    surroundings.FailsEmpty
      { surroundings.request retriever retrieval with names := names } := by
  unfold FailsEmpty
  simp only
  rw [tally_request]
  simp only [Surroundings.request]
  cases failed : surroundings.outcome retriever retrieval with
  | ok tally => simp
  | error fault => exact fun _ => credit_of_error failed

theorem FailsEmpty.prepend {acts : History} (idle : surroundings.tally acts = Tally.zero)
    {handling : Handling} (empty : surroundings.FailsEmpty handling) :
    surroundings.FailsEmpty ⟨acts ++ handling.acts, [], handling.fault⟩ := by
  intro failed
  simp only [tally_append, idle, Tally.zero_add]
  exact empty failed

theorem FailsEmpty.item (subject : Filter.Subject) (save : Retrieval) :
    surroundings.FailsEmpty (surroundings.handlingOfItem settings subject save) := by
  unfold handlingOfItem
  split
  · exact fun _ => rfl
  · exact fun _ => rfl
  · exact .request _ _ []

theorem FailsEmpty.file (path : String) :
    surroundings.FailsEmpty (surroundings.handlingOfFile settings path) := by
  refine .prepend (tally_filesRead path) ?_
  cases surroundings.descriptor path with
  | error fault => exact fun _ => rfl
  | ok descriptor =>
      simp only [handlingOfDescriptor]
      cases descriptor.dispatch path with
      | post item folder => exact .item _ _
      | storyItem item folder => exact .item _ _
      | rejected reason => exact fun _ => rfl

theorem FailsEmpty.target (raw : String) :
    surroundings.FailsEmpty (surroundings.handling settings raw) := by
  unfold handling
  by_cases nameless : (Target.classify surroundings.isFile raw).name? = some ""
  · simp only [nameless, if_true]
    exact fun _ => rfl
  · simp only [nameless, if_false]
    cases Target.classify surroundings.isFile raw with
    | account name => exact fun _ => rfl
    | descriptorFile path => exact .file path
    | followees account => exact .request _ _ _
    | tag | feed | stories | saved => exact .request _ _ []

theorem FailsEmpty.account (account : String) :
    surroundings.FailsEmpty (surroundings.handlingOfAccount settings account) := by
  unfold handlingOfAccount
  by_cases again : surroundings.retries settings account
  · simp only [again, if_true]
    exact .prepend (tally_of_retries again) (.request _ _ [])
  · simp only [again]
    exact .request _ _ []

end Surroundings

end Harvest
