import Harvest.Proofs.Compliance
import Harvest.Proofs.Http.Success
import Harvest.Proofs.Result

/-!
What a bulk download saves. It takes the items of a list in order until the count is reached, until
a fast update comes to an item that is there already, or until a filter or a save fails. What it
posts are the items taken that the filter accepts, one after the other.
-/

namespace Harvest.Http

open Program (Only Path path_bind_iff path_perform_iff path_play path_pure_iff)

/-- What becomes of an item that is taken. -/
inductive Fate where
  | skipped
  | saved (isNew : Bool)
  | failed (fault : RetrieveError)

namespace Fate

/-- What an item counts. -/
def tally : Fate → Tally
  | skipped => ⟨0, 1, 0⟩
  | saved isNew => Tally.ofSave isNew
  | failed _ => ⟨0, 0, 0⟩

/-- Whether an item is saved. -/
def isSaved : Fate → Bool
  | saved _ => true
  | skipped | failed _ => false

/-- Whether no further item is taken after an item, apart from the count. -/
def isLast (fastUpdate : Bool) : Fate → Bool
  | skipped => false
  | saved isNew => fastUpdate && !isNew
  | failed _ => true

end Fate

/-- The turn of an item: what becomes of it, and what happens for it. -/
structure ItemTurn where
  item : Savable
  fate : Fate
  events : Journal exchanges

/-- A filter accepts an item. -/
def Savable.isAccepted (filter : Option Filter.Predicate) (item : Savable) : Bool :=
  match Filter.passes filter item.subject with
  | .ok passed => passed
  | .error _ => false

/-- The count of downloads is reached. -/
def countReached (options : BulkOptions) (tally : Tally) : Bool :=
  options.maxCount.any (· ≤ tally.downloaded)

theorem countReached_iff {options : BulkOptions} {tally : Tally} :
    countReached options tally = true ↔
      ∃ count, options.maxCount = some count ∧ count ≤ tally.downloaded := by
  simp [countReached, Option.any_eq_true]

namespace Access

/-- The request that posts an item for a target. -/
def IsSave (access : Access) (path target : String) (item : Savable) (request : Request) : Prop :=
  ∃ url, access.settings.locate path = .ok url ∧
    request = Request.presentLogin ⟨.post, url, none, access.credential, access.settings.userAgent,
      some (.object (("target", .text target) :: item.fields))⟩

/-- An item is taken: a rejected one is skipped, an accepted one is saved, and either the filter or
the save may fail. -/
inductive Takes (access : Access) (path target : String) (filter : Option Filter.Predicate) :
    ItemTurn → Prop where
  | skipped {item : Savable} (rejected : Filter.passes filter item.subject = .ok false) :
      Takes access path target filter
        ⟨item, .skipped, [⟨.log .info s!"{item.display} skipped", ()⟩]⟩
  | saved {item : Savable} {isNew : Bool} {events : Journal exchanges}
      (accepted : Filter.passes filter item.subject = .ok true)
      (saves : (access.save path target item.fields).run.Path events (.ok isNew)) :
      Takes access path target filter ⟨item, .saved isNew, events⟩
  | undecided {item : Savable} {fault : Filter.EvalError}
      (undecided : Filter.passes filter item.subject = .error fault) :
      Takes access path target filter ⟨item, .failed (.filter item.display fault), []⟩
  | failed {item : Savable} {fault : RetrieveError} {events : Journal exchanges}
      (accepted : Filter.passes filter item.subject = .ok true)
      (fails : (access.save path target item.fields).run.Path events (.error fault)) :
      Takes access path target filter ⟨item, .failed fault, events⟩

/-- Items are taken in turns, with a count so far. -/
inductive TakesAll (access : Access) (path target : String) (filter : Option Filter.Predicate)
    (options : BulkOptions) :
    Tally → List Savable → List ItemTurn → Except RetrieveError Tally → Prop where
  | exhausted (tally : Tally) : TakesAll access path target filter options tally [] [] (.ok tally)
  | counted {tally : Tally} {item : Savable} {rest : List Savable}
      (reached : countReached options tally = true) :
      TakesAll access path target filter options tally (item :: rest) [] (.ok tally)
  | present {tally : Tally} {turn : ItemTurn} {rest : List Savable}
      (short : countReached options tally = false) (takes : access.Takes path target filter turn)
      (found : turn.fate = .saved false) (fast : options.fastUpdate = true) :
      TakesAll access path target filter options tally (turn.item :: rest) [turn]
        (.ok (tally.record false))
  | failed {tally : Tally} {turn : ItemTurn} {rest : List Savable} {fault : RetrieveError}
      (short : countReached options tally = false) (takes : access.Takes path target filter turn)
      (fails : turn.fate = .failed fault) :
      TakesAll access path target filter options tally (turn.item :: rest) [turn] (.error fault)
  | next {tally : Tally} {turn : ItemTurn} {rest : List Savable} {turns : List ItemTurn}
      {result : Except RetrieveError Tally} (short : countReached options tally = false)
      (takes : access.Takes path target filter turn)
      (goesOn : turn.fate.isLast options.fastUpdate = false)
      (following : TakesAll access path target filter options (tally.add turn.fate.tally) rest turns
        result) :
      TakesAll access path target filter options tally (turn.item :: rest) (turn :: turns) result

variable {access : Access} {path target : String} {filter : Option Filter.Predicate}
  {options : BulkOptions}

/-- What an item counts is what its save is recorded as. -/
theorem add_tally_saved (tally : Tally) (isNew : Bool) :
    tally.add (Fate.saved isNew).tally = tally.record isNew :=
  (tally.record_eq isNew).symm

section Parts

variable {α : Type} {item : Savable} {events : Journal exchanges}

theorem path_passes_ok {passed : Bool} (path : (passes filter item).run.Path events (.ok passed)) :
    events = [] ∧ Filter.passes filter item.subject = .ok passed := by
  obtain ⟨rfl, same⟩ := path_pure_iff.1 path
  exact ⟨rfl, Result.mapError_eq_ok.1 same.symm⟩

theorem path_passes_error {fault : RetrieveError}
    (path : (passes filter item).run.Path events (.error fault)) :
    events = [] ∧ ∃ reason, Filter.passes filter item.subject = .error reason ∧
      fault = .filter item.display reason := by
  obtain ⟨rfl, same⟩ := path_pure_iff.1 path
  obtain ⟨reason, undecided, named⟩ := Result.mapError_eq_error.1 same.symm
  exact ⟨rfl, reason, undecided, named.symm⟩

theorem path_inform_bind {message : String} {second : Unit → Fetch α}
    {result : Except RetrieveError α}
    (path : (ExceptT.lift (Program.inform message) >>= second).run.Path events result) :
    ∃ later, events = ⟨.log .info message, ()⟩ :: later ∧ (second ()).run.Path later result := by
  have informs : (Program.act (.log .info message) fun _ => (second ()).run).Path events result :=
    path
  cases informs with
  | act answer rest => exact ⟨_, rfl, rest⟩

end Parts

/-- The loop takes the items in turns. The induction is on the items that are left, with the count
so far. -/
theorem path_saveAll {items : List Savable} {tally : Tally} {events : Journal exchanges}
    {result : Except RetrieveError Tally}
    (loop : (access.saveAll path target filter options tally items).run.Path events result) :
    ∃ turns, access.TakesAll path target filter options tally items turns result ∧
      events = turns.flatMap ItemTurn.events := by
  induction items generalizing tally events with
  | nil =>
      obtain ⟨rfl, rfl⟩ := path_pure_iff.1 loop
      exact ⟨[], .exhausted tally, rfl⟩
  | cons item rest ih =>
      unfold saveAll at loop
      split at loop
      · next reached =>
          obtain ⟨rfl, rfl⟩ := path_pure_iff.1 loop
          exact ⟨[], .counted reached, rfl⟩
      next going =>
      have short : countReached options tally = false := Bool.eq_false_iff.2 going
      obtain ⟨fault, filtered, rfl⟩ | ⟨_, later, passed, rfl, filtered, loop⟩ :=
        path_bind_cases loop
      · obtain ⟨rfl, reason, undecided, rfl⟩ := path_passes_error filtered
        exact ⟨[_], .failed short (.undecided undecided) rfl, rfl⟩
      obtain ⟨rfl, decided⟩ := path_passes_ok filtered
      cases passed with
      | false =>
          obtain ⟨remaining, rfl, again⟩ := path_inform_bind loop
          obtain ⟨turns, following, rfl⟩ := ih again
          exact ⟨_ :: turns, .next short (.skipped decided) rfl following, rfl⟩
      | true =>
          obtain ⟨fault, saving, rfl⟩ | ⟨saving, remaining, isNew, rfl, saved, again⟩ :=
            path_bind_cases loop
          · exact ⟨[_], .failed short (.failed decided saving) rfl, (List.append_nil _).symm⟩
          -- Only an item that was there already ends the loop early.
          split at again
          · next stops =>
              obtain ⟨fast, old⟩ := Bool.and_eq_true_iff.1 stops
              obtain rfl : isNew = false := by simpa using old
              obtain ⟨rfl, rfl⟩ := path_pure_iff.1 again
              exact ⟨[_], .present short (.saved decided saved) rfl fast, rfl⟩
          · next goesOn =>
              rw [← add_tally_saved] at again
              obtain ⟨turns, following, rfl⟩ := ih again
              exact ⟨_ :: turns, .next short (.saved decided saved) (Bool.eq_false_iff.2 goesOn)
                following, rfl⟩

/-! ## A single save -/

/-- A save posts its item, in one attempt or in several. -/
theorem only_save (item : Savable) :
    (access.save path target item.fields).run.Only
      (Act.Calls (access.IsSave path target item)) := by
  refine only_bind ?_ fun _ => only_bind (.done _) fun _ => .done _
  unfold Settings.send
  cases located : access.settings.locate path with
  | error fault => exact .done _
  | ok url => exact only_sendFrom (fun _ => ⟨url, located, rfl⟩) trivial (fun _ _ => trivial) _ _ _

/-- A save that is answered has posted something. -/
theorem requestsOf_ne_nil_of_saved {item : Savable} {isNew : Bool} {events : Journal exchanges}
    (saves : (access.save path target item.fields).run.Path events (.ok isNew)) :
    requestsOf events ≠ [] := by
  obtain ⟨sending, judging, response, rfl, sent, -⟩ := path_bind_ok saves
  obtain ⟨locating, attempting, url, rfl, -, attempted⟩ := path_bind_ok sent
  obtain ⟨-, inside⟩ := path_sendFrom attempted
  exact List.ne_nil_of_mem (mem_requestsOf_append.2 (.inl (mem_requestsOf_append.2 (.inr inside))))

section Turn

variable {turn : ItemTurn} (takes : access.Takes path target filter turn)

include takes

/-- What is posted in a turn is its item, which the filter accepts. -/
theorem Takes.posts {request : Request} (inside : request ∈ requestsOf turn.events) :
    turn.item.isAccepted filter = true ∧ access.IsSave path target turn.item request := by
  obtain ⟨answer, happened⟩ := mem_requestsOf.1 inside
  cases takes with
  | skipped rejected => simp at happened
  | undecided _ => cases happened
  | saved accepted saves =>
      exact ⟨by simp [Savable.isAccepted, accepted], (only_save _).path saves _ happened⟩
  | failed accepted fails =>
      exact ⟨by simp [Savable.isAccepted, accepted], (only_save _).path fails _ happened⟩

theorem Takes.posts_of_saved (saved : turn.fate.isSaved = true) : requestsOf turn.events ≠ [] := by
  cases takes with
  | saved accepted saves => exact requestsOf_ne_nil_of_saved saves
  | _ => contradiction

/-- Unless something fails, what is saved is what the filter accepts. -/
theorem Takes.isSaved_eq (well : ∀ fault, turn.fate ≠ .failed fault) :
    turn.fate.isSaved = turn.item.isAccepted filter := by
  cases takes with
  | skipped decided | saved decided saves => simp [Fate.isSaved, Savable.isAccepted, decided]
  | undecided _ | failed _ _ => exact absurd rfl (well _)

end Turn

/-! ## Turns of items -/

/-- What some items count together. -/
def countOf (turns : List ItemTurn) : Tally :=
  Tally.sum (turns.map fun turn => turn.fate.tally)

section Counts

variable {turns : List ItemTurn}

theorem countOf_cons (turn : ItemTurn) (turns : List ItemTurn) :
    countOf (turn :: turns) = turn.fate.tally.add (countOf turns) := rfl

theorem countOf_append (first second : List ItemTurn) :
    countOf (first ++ second) = (countOf first).add (countOf second) := by
  rw [countOf, List.map_append, Tally.sum_append]
  rfl

/-- Unless it failed, an item counts once, and a saved one as new or as present. -/
theorem tally_of_well {fate : Fate} (well : ∀ fault, fate ≠ .failed fault) :
    fate.tally.downloaded + fate.tally.present = fate.isSaved.toNat ∧
      fate.tally.downloaded + fate.tally.skipped + fate.tally.present = 1 := by
  cases fate with
  | skipped => exact ⟨rfl, rfl⟩
  | saved isNew => cases isNew <;> exact ⟨rfl, rfl⟩
  | failed fault => exact absurd rfl (well fault)

/-- The counts of items none of which failed. -/
theorem countOf_of_well (well : ∀ turn ∈ turns, ∀ fault, turn.fate ≠ .failed fault) :
    (countOf turns).downloaded + (countOf turns).present =
        turns.countP (fun turn => turn.fate.isSaved) ∧
      (countOf turns).downloaded + (countOf turns).skipped + (countOf turns).present =
        turns.length := by
  induction turns with
  | nil => exact ⟨rfl, rfl⟩
  | cons turn rest ih =>
      obtain ⟨here, others⟩ := List.forall_mem_cons.1 well
      obtain ⟨saved, taken⟩ := ih others
      obtain ⟨savedHere, takenHere⟩ := tally_of_well here
      have count : (turn :: rest).countP (fun turn => turn.fate.isSaved) =
          rest.countP (fun turn => turn.fate.isSaved) + turn.fate.isSaved.toNat := by
        rw [List.countP_cons]
        cases turn.fate.isSaved <;> rfl
      rw [countOf_cons, List.length_cons, count]
      simp only [Tally.add]
      omega

/-- A fast update that goes on has found nothing. -/
theorem present_of_goesOn
    (goesOn : ∀ turn ∈ turns, turn.fate.isLast true = false) : (countOf turns).present = 0 := by
  induction turns with
  | nil => rfl
  | cons turn rest ih =>
      obtain ⟨here, others⟩ := List.forall_mem_cons.1 goesOn
      have found : turn.fate.tally.present = 0 := by
        cases fate : turn.fate with
        | skipped | failed fault => rfl
        | saved isNew =>
            cases isNew with
            | true => rfl
            | false => simp [fate, Fate.isLast] at here
      rw [countOf_cons, Tally.add, found, ih others]

end Counts

section TakesAll

variable {start : Tally} {items : List Savable} {turns : List ItemTurn}
  {result : Except RetrieveError Tally}
  (takes : access.TakesAll path target filter options start items turns result)

include takes

theorem TakesAll.items_first : turns.map ItemTurn.item <+: items := by
  induction takes with
  | exhausted _ | counted _ => exact List.nil_prefix
  | present _ _ _ _ | failed _ _ _ => exact List.cons_prefix_cons.2 ⟨rfl, List.nil_prefix⟩
  | next _ _ _ _ ih => exact List.cons_prefix_cons.2 ⟨rfl, ih⟩

theorem TakesAll.each : ∀ turn ∈ turns, access.Takes path target filter turn := by
  induction takes with
  | exhausted _ | counted _ => exact nofun
  | present _ here _ _ | failed _ here _ => exact List.forall_mem_singleton.2 here
  | next _ here _ _ ih => exact List.forall_mem_cons.2 ⟨here, ih⟩

/-- An item is taken only while the count is not reached and nothing before it ended the download.
-/
theorem TakesAll.open_before {before after : List ItemTurn} {turn : ItemTurn}
    (split : turns = before ++ turn :: after) :
    countReached options (start.add (countOf before)) = false ∧
      ∀ earlier ∈ before, earlier.fate.isLast options.fastUpdate = false := by
  induction takes generalizing before with
  | exhausted _ | counted _ => simp at split
  | present short _ _ _ | failed short _ _ =>
      obtain ⟨rfl, -⟩ : before = [] ∧ _ := by simpa [List.singleton_eq_append_iff] using split
      exact ⟨short, nofun⟩
  | next short here goesOn following ih =>
      cases before with
      | nil => exact ⟨short, nofun⟩
      | cons first before =>
          obtain ⟨rfl, later⟩ := List.cons.inj split
          obtain ⟨going, others⟩ := ih later
          rw [Tally.add_assoc, ← countOf_cons] at going
          exact ⟨going, List.forall_mem_cons.2 ⟨goesOn, others⟩⟩

/-- A fault is the fate of the last item. -/
theorem TakesAll.failure {fault : RetrieveError} (failed : result = .error fault) :
    ∃ before turn, turns = before ++ [turn] ∧ turn.fate = .failed fault := by
  induction takes with
  | exhausted _ | counted _ | present _ _ _ _ => contradiction
  | failed _ _ fails =>
      obtain rfl := Except.error.inj failed
      exact ⟨[], _, rfl, fails⟩
  | next _ _ _ _ ih =>
      obtain ⟨before, turn, rfl, fails⟩ := ih failed
      exact ⟨_ :: before, turn, rfl, fails⟩

variable {tally : Tally} (succeeded : result = .ok tally)

include succeeded

theorem TakesAll.well : ∀ turn ∈ turns, ∀ fault, turn.fate ≠ .failed fault := by
  induction takes with
  | exhausted _ | counted _ => exact nofun
  | present _ _ found _ => simp [found]
  | failed _ _ _ => contradiction
  | next _ _ goesOn _ ih =>
      refine List.forall_mem_cons.2 ⟨fun fault fails => ?_, ih succeeded⟩
      rw [fails] at goesOn
      contradiction

theorem TakesAll.tally_eq : tally = start.add (countOf turns) := by
  induction takes with
  | exhausted _ | counted _ => exact (Except.ok.inj succeeded).symm
  | present _ _ found _ =>
      rw [countOf_cons, found]
      exact (Except.ok.inj succeeded).symm
  | failed _ _ _ => contradiction
  | next _ _ _ _ ih => rw [ih succeeded, countOf_cons, Tally.add_assoc]

/-- The count is not exceeded. -/
theorem TakesAll.limited {count : Nat} (limit : options.maxCount = some count)
    (within : start.downloaded ≤ count) : tally.downloaded ≤ count := by
  induction takes with
  | exhausted _ | counted _ => exact Except.ok.inj succeeded ▸ within
  | present _ _ _ _ => exact Except.ok.inj succeeded ▸ within
  | failed _ _ _ => contradiction
  | @next tally turn _ _ _ short _ _ _ ih =>
      refine ih succeeded ?_
      have room : tally.downloaded < count := by simpa [countReached, limit] using short
      have one : turn.fate.tally.downloaded ≤ 1 := by
        cases turn.fate with
        | skipped | failed fault => exact Nat.zero_le 1
        | saved isNew => cases isNew <;> decide
      change tally.downloaded + turn.fate.tally.downloaded ≤ count
      omega

/-- Why a download ends without a fault. -/
theorem TakesAll.ends : turns.map ItemTurn.item = items ∨ countReached options tally = true ∨
    options.fastUpdate = true ∧ ∃ before turn, turns = before ++ [turn] ∧
      turn.fate = .saved false := by
  induction takes with
  | exhausted _ => exact .inl rfl
  | counted reached => exact .inr (.inl (Except.ok.inj succeeded ▸ reached))
  | present _ _ found fast => exact .inr (.inr ⟨fast, [], _, rfl, found⟩)
  | failed _ _ _ => contradiction
  | next _ _ _ _ ih =>
      rcases ih succeeded with whole | reached | ⟨fast, before, turn, rfl, found⟩
      · exact .inl (congrArg (List.cons _) whole)
      · exact .inr (.inl reached)
      · exact .inr (.inr ⟨fast, _ :: before, turn, rfl, found⟩)

end TakesAll

/-! ## A bulk download -/

/-- A bulk download that succeeds has counted all items that it took, and it stopped early only for
its count or for an item that was there already. -/
structure Counts (filter : Option Filter.Predicate) (options : BulkOptions) (items : List Savable)
    (turns : List ItemTurn) (tally : Tally) : Prop where
  tally_eq : tally = countOf turns
  saved_eq : (turns.filter fun turn => turn.fate.isSaved).map ItemTurn.item =
    (turns.map ItemTurn.item).filter (Savable.isAccepted filter)
  saves : tally.downloaded + tally.present = turns.countP fun turn => turn.fate.isSaved
  taken : tally.downloaded + tally.skipped + tally.present = turns.length
  limited : ∀ count, options.maxCount = some count → tally.downloaded ≤ count
  ends : turns.map ItemTurn.item = items ∨ options.maxCount = some tally.downloaded ∨
    options.fastUpdate = true ∧ tally.present = 1 ∧
      ∃ before turn, turns = before ++ [turn] ∧ turn.fate = .saved false

/-- A bulk download of some items takes the first ones, each in a turn of its own. -/
structure Processes (access : Access) (path target : String) (filter : Option Filter.Predicate)
    (options : BulkOptions) (items : List Savable) (turns : List ItemTurn)
    (result : Except RetrieveError Tally) (events : Journal exchanges) : Prop where
  items_first : turns.map ItemTurn.item <+: items
  each : ∀ turn ∈ turns, access.Takes path target filter turn
  events_eq : events = turns.flatMap ItemTurn.events
  /-- Only accepted items are posted. -/
  posts : ∀ turn ∈ turns, ∀ request ∈ requestsOf turn.events,
    turn.item.isAccepted filter = true ∧ access.IsSave path target turn.item request
  posts_of_saved : ∀ turn ∈ turns, turn.fate.isSaved = true → requestsOf turn.events ≠ []
  /-- An item is taken only while nothing has ended the download. -/
  open_before : ∀ before turn after, turns = before ++ turn :: after →
    countReached options (countOf before) = false ∧
      ∀ earlier ∈ before, earlier.fate.isLast options.fastUpdate = false
  success : ∀ tally, result = .ok tally → Counts filter options items turns tally
  /-- The item with a fault is the last one. -/
  failure : ∀ fault, result = .error fault →
    ∃ before turn, turns = before ++ [turn] ∧ turn.fate = .failed fault

/-- A fast update that ends at an item has found that one only. -/
theorem TakesAll.present_eq_one {start : Tally} {items : List Savable} {before : List ItemTurn}
    {turn : ItemTurn} {result : Except RetrieveError Tally}
    (takes : access.TakesAll path target filter options start items (before ++ [turn]) result)
    (fast : options.fastUpdate = true) (found : turn.fate = .saved false) :
    (countOf (before ++ [turn])).present = 1 := by
  have goesOn := (takes.open_before rfl).2
  rw [fast] at goesOn
  rw [countOf_append, Tally.add, present_of_goesOn goesOn, countOf_cons, found]
  rfl

theorem TakesAll.counts {items : List Savable} {turns : List ItemTurn} {tally : Tally}
    (takes : access.TakesAll path target filter options Tally.zero items turns (.ok tally)) :
    Counts filter options items turns tally := by
  have well := takes.well rfl
  obtain rfl : tally = countOf turns := (takes.tally_eq rfl).trans (Tally.zero_add _)
  obtain ⟨saves, taken⟩ := countOf_of_well well
  have limited (count : Nat) (limit : options.maxCount = some count) :
      (countOf turns).downloaded ≤ count := takes.limited rfl limit (Nat.zero_le count)
  refine ⟨rfl, ?_, saves, taken, limited, ?_⟩
  · rw [List.filter_map]
    congr 1
    exact List.filter_congr fun turn inside =>
      (takes.each turn inside).isSaved_eq (well turn inside)
  · rcases takes.ends rfl with whole | reached | ⟨fast, before, turn, rfl, found⟩
    · exact .inl whole
    · obtain ⟨count, limit, exceeds⟩ := countReached_iff.1 reached
      have same := Nat.le_antisymm exceeds (limited count limit)
      exact .inr (.inl (limit.trans (congrArg some same)))
    · exact .inr (.inr ⟨fast, takes.present_eq_one fast found, before, turn, rfl, found⟩)

theorem TakesAll.processes {items : List Savable} {turns : List ItemTurn}
    {result : Except RetrieveError Tally} {events : Journal exchanges}
    (takes : access.TakesAll path target filter options Tally.zero items turns result)
    (same : events = turns.flatMap ItemTurn.events) :
    access.Processes path target filter options items turns result events where
  items_first := takes.items_first
  each := takes.each
  events_eq := same
  posts turn inside _ := (takes.each turn inside).posts
  posts_of_saved turn inside := (takes.each turn inside).posts_of_saved
  open_before before turn after split := by
    have opened := takes.open_before split
    rwa [Tally.zero_add] at opened
  success tally succeeded := (succeeded ▸ takes).counts
  failure fault := takes.failure

/-- In every world the posts and the story items of a listing are processed alike: the first ones
are taken in order, those that the filter accepts are posted, and the download ends where the count,
a fast update or a fault ends it. -/
theorem bulk_saves_are_prefixes (access : Access) (target : String)
    (filter : Option Filter.Predicate) (options : BulkOptions) (world : World exchanges)
    (past : Journal exchanges) :
    (∀ posts : List Post,
      let items := posts.map Savable.ofPost
      let course := (access.saveAll postRoute target filter options Tally.zero items).run.play world
        past
      ∃ turns, access.Processes postRoute target filter options items turns course.1 course.2) ∧
    ∀ storyItems : List StoryItem,
      let items := storyItems.map Savable.ofStoryItem
      let course := (access.saveAll storyItemRoute target filter options Tally.zero items).run.play
        world past
      ∃ turns, access.Processes storyItemRoute target filter options items turns course.1
        course.2 := by
  have processes (path : String) (items : List Savable) :
      let course := (access.saveAll path target filter options Tally.zero items).run.play world past
      ∃ turns, access.Processes path target filter options items turns course.1 course.2 := by
    obtain ⟨turns, takes, same⟩ := path_saveAll (path_play world
      (access.saveAll path target filter options Tally.zero items).run past)
    exact ⟨turns, takes.processes same⟩
  exact ⟨fun posts => processes _ _, fun storyItems => processes _ _⟩

end Access

end Harvest.Http
