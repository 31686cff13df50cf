import Harvest.Proofs.Http.Requests
import Harvest.Proofs.Run.Handling

/-!
What a retrieval has read when it succeeds. A success needs an answer to each of its reads, so each
of its pages has been asked for.
-/

namespace Harvest.Http.Access

open Program (path_bind_iff path_pure_iff)
open Url (Spells namedPage)

variable {α β : Type}

/-- A part of a retrieval has requested a page whenever it succeeds. -/
def Reads (access : Access) (page : List String) (fetch : Fetch α) : Prop :=
  ∀ events value, fetch.run.Path events (.ok value) →
    ∃ request ∈ requestsOf events, access.Sends .get page request

variable {access : Access} {page : List String}

/-- A fault ends a retrieval, and a success leads to what follows. -/
theorem path_bind_cases {first : Fetch α} {second : α → Fetch β} {events : Journal exchanges}
    {result : Except RetrieveError β} (path : (first >>= second).run.Path events result) :
    (∃ fault, first.run.Path events (.error fault) ∧ result = .error fault) ∨
      ∃ before after middle, events = before ++ after ∧ first.run.Path before (.ok middle) ∧
        (second middle).run.Path after result := by
  obtain ⟨before, after, middle, rfl, start, following⟩ := path_bind_iff.1 path
  cases middle with
  | error fault =>
      obtain ⟨rfl, rfl⟩ := path_pure_iff.1 following
      rw [List.append_nil]
      exact .inl ⟨fault, start, rfl⟩
  | ok middle => exact .inr ⟨before, after, middle, rfl, start, following⟩

/-- A success comes from a success before it. -/
theorem path_bind_ok {first : Fetch α} {second : α → Fetch β} {events : Journal exchanges}
    {value : β} (path : (first >>= second).run.Path events (.ok value)) :
    ∃ before after middle, events = before ++ after ∧ first.run.Path before (.ok middle) ∧
      (second middle).run.Path after (.ok value) :=
  (path_bind_cases path).resolve_left fun ⟨_, _, impossible⟩ => nomatch impossible

theorem Reads.bind {first : Fetch α} {second : α → Fetch β} (start : access.Reads page first) :
    access.Reads page (first >>= second) := by
  intro events value path
  obtain ⟨before, after, middle, rfl, succeeded, -⟩ := path_bind_ok path
  obtain ⟨request, inside, sends⟩ := start before middle succeeded
  exact ⟨request, mem_requestsOf_append.2 (.inl inside), sends⟩

theorem Reads.after {first : Fetch α} {second : α → Fetch β}
    (following : ∀ value, access.Reads page (second value)) :
    access.Reads page (first >>= second) := by
  intro events value path
  obtain ⟨before, after, middle, rfl, -, succeeded⟩ := path_bind_ok path
  obtain ⟨request, inside, sends⟩ := following middle after value succeeded
  exact ⟨request, mem_requestsOf_append.2 (.inr inside), sends⟩

/-- An attempt sends its request, or fails for a request that cannot be sent. -/
theorem path_attempt {request : Request} {events : Journal exchanges}
    {outcome : Except String Response} (attempted : (attempt request).Path events outcome) :
    (events = [] ∧ ∃ reason, outcome = .error reason) ∨
      request.fault? = none ∧ events = [⟨.call request, outcome⟩] := by
  unfold attempt at attempted
  split at attempted
  · obtain ⟨rfl, rfl⟩ := path_pure_iff.1 attempted
    exact .inl ⟨rfl, _, rfl⟩
  · next sendable => exact .inr ⟨sendable, Program.path_perform_iff.1 attempted⟩

/-- An attempt that is judged a success has sent its request. -/
theorem sent_of_judged {request : Request} {events : Journal exchanges}
    {outcome : Except String Response} {path : String} {number : Nat} {response : Response}
    (attempted : (attempt request).Path events outcome)
    (judged : judge path number outcome = .ok response) :
    request.fault? = none ∧ request ∈ requestsOf events := by
  obtain ⟨-, reason, rfl⟩ | ⟨sendable, rfl⟩ := path_attempt attempted
  · contradiction
  · exact ⟨sendable, List.mem_singleton_self request⟩

/-- What follows an attempt of a call, with some repetitions left, and what the call comes to. -/
inductive Follows (path : String) (request : Request) (number : Nat) :
    Nat → Except String Response → Journal exchanges → Except RetrieveError Response → Prop where
  | answered {repetitions : Nat} {outcome : Except String Response} {response : Response}
      (judged : judge path number outcome = .ok response) :
      Follows path request number repetitions outcome [] (.ok response)
  | interrupted {repetitions : Nat} {outcome : Except String Response} {fault : RetrieveError}
      (judged : judge path number outcome = .error fault) :
      Follows path request number repetitions outcome
        [⟨.pollInterrupt, true⟩, ⟨.log .warn "Request interrupted, giving up", ()⟩]
        (.error (.interrupted path number))
  | exhausted {outcome : Except String Response} {fault : RetrieveError}
      (judged : judge path number outcome = .error fault) :
      Follows path request number 0 outcome [⟨.pollInterrupt, false⟩] (.error fault)
  | repeated {repetitions : Nat} {outcome : Except String Response} {fault : RetrieveError}
      {later : Journal exchanges} {result : Except RetrieveError Response}
      (judged : judge path number outcome = .error fault)
      (again : (sendFrom path request (number + 1) repetitions).Path later result) :
      Follows path request number (repetitions + 1) outcome
        (⟨.pollInterrupt, false⟩ :: ⟨.log .warn "Request failed, retrying", ()⟩ :: later) result

/-- A call is an attempt and what follows it. -/
theorem path_sendFrom_cases {request : Request} {path : String} {number repetitions : Nat}
    {events : Journal exchanges} {result : Except RetrieveError Response}
    (called : (sendFrom path request number repetitions).Path events result) :
    ∃ before after outcome, events = before ++ after ∧ (attempt request).Path before outcome ∧
      Follows path request number repetitions outcome after result := by
  unfold sendFrom at called
  obtain ⟨before, after, outcome, rfl, attempted, following⟩ := path_bind_iff.1 called
  refine ⟨before, after, outcome, rfl, attempted, ?_⟩
  split at following
  · next judged =>
      obtain ⟨rfl, rfl⟩ := path_pure_iff.1 following
      exact .answered judged
  next fault judged =>
  obtain ⟨polled, rest, raised, rfl, looked, followed⟩ := path_bind_iff.1 following
  clear following
  obtain rfl := Program.path_perform_iff.1 looked
  -- A flag that is up ends the call, whether or not attempts are left.
  cases raised with
  | true =>
      obtain ⟨warned, last, _, rfl, told, ended⟩ := path_bind_iff.1 followed
      obtain rfl := Program.path_perform_iff.1 told
      obtain ⟨rfl, rfl⟩ := path_pure_iff.1 ended
      exact .interrupted judged
  | false =>
      cases repetitions with
      | zero =>
          obtain ⟨rfl, rfl⟩ := path_pure_iff.1 followed
          exact .exhausted judged
      | succ repetitions =>
          obtain ⟨warned, later, _, rfl, told, again⟩ := path_bind_iff.1 followed
          obtain rfl := Program.path_perform_iff.1 told
          exact .repeated judged again

/-- A success has sent the request. -/
theorem path_sendFrom {request : Request} {path : String} {number repetitions : Nat}
    {events : Journal exchanges} {response : Response}
    (succeeded : (sendFrom path request number repetitions).Path events (.ok response)) :
    request.fault? = none ∧ request ∈ requestsOf events := by
  induction repetitions generalizing number events with
  | zero =>
      obtain ⟨before, after, outcome, rfl, attempted, following⟩ := path_sendFrom_cases succeeded
      cases following with
      | answered judged =>
          obtain ⟨sendable, inside⟩ := sent_of_judged attempted judged
          exact ⟨sendable, mem_requestsOf_append.2 (.inl inside)⟩
  | succ repetitions ih =>
      obtain ⟨before, after, outcome, rfl, attempted, following⟩ := path_sendFrom_cases succeeded
      cases following with
      | answered judged =>
          obtain ⟨sendable, inside⟩ := sent_of_judged attempted judged
          exact ⟨sendable, mem_requestsOf_append.2 (.inl inside)⟩
      | repeated judged again =>
          obtain ⟨sendable, inside⟩ := ih again
          exact ⟨sendable, mem_requestsOf_append.2 (.inr inside)⟩

theorem path_send {method : Method} {path : String} {body : Option Json}
    {events : Journal exchanges} {response : Response} (spells : Spells path page)
    (succeeded : (access.settings.send method path body access.credential).run.Path events
      (.ok response)) :
    ∃ request ∈ requestsOf events, access.Sends method page request := by
  obtain ⟨_, after, url, rfl, located, sent⟩ := path_bind_ok succeeded
  obtain ⟨-, found⟩ := path_pure_iff.1 located
  obtain ⟨sendable, inside⟩ := path_sendFrom sent
  exact ⟨_, mem_requestsOf_append.2 (.inr inside),
    sends_presentLogin spells found.symm method body sendable⟩

theorem reads_get {path : String} (spells : Spells path page) (what : String)
    (read : Json → Option α) : access.Reads page (access.get path what read) := by
  intro events value succeeded
  obtain ⟨before, after, response, rfl, sent, -⟩ := path_bind_ok succeeded
  obtain ⟨request, inside, sends⟩ := path_send spells sent
  exact ⟨request, mem_requestsOf_append.2 (.inl inside), sends⟩

theorem reads_savePosts {path : String} (spells : Spells path page) (what target : String)
    (filter : Option Filter.Predicate) (options : BulkOptions) :
    access.Reads page (access.savePosts path what target filter options) :=
  (reads_get spells what _).bind

theorem reads_saveStories {path : String} (spells : Spells path page) (what target : String)
    (filter : Option Filter.Predicate) (options : BulkOptions) :
    access.Reads page (access.saveStories path what target filter options) :=
  (reads_get spells what _).bind

section Profiles

variable (account : String) (filters : Filter.Filters) {options : ProfileOptions}

theorem reads_profile :
    access.Reads (namedPage "profiles" account none) (access.profile account filters options) :=
  (reads_get (spells_profilePath account) _ _).bind

theorem reads_profilePosts (wanted : options.posts) :
    access.Reads (namedPage "profiles" account (some "posts"))
      (access.profile account filters options) := by
  refine .after fun profile => .after fun picture => .bind ?_
  unfold profilePosts
  rw [if_pos wanted]
  exact .after fun _ =>
    reads_savePosts (spells_profilePage (by decide) (by decide) account) _ _ _ _

theorem reads_profileStories (wanted : options.stories) :
    access.Reads (namedPage "profiles" account (some "stories"))
      (access.profile account filters options) := by
  refine .after fun profile => .after fun picture => .after fun posts => .bind ?_
  unfold profileStories
  rw [if_pos wanted]
  exact .after fun _ => .after fun _ =>
    reads_saveStories (spells_profilePage (by decide) (by decide) account) _ _ _ _

end Profiles

/-- A retrieval that succeeds has read all pages that it asks for, those with a login included. -/
theorem reads_carryOut {retrieval : Retrieval} {answer : retrieval.Answer}
    {events : Journal exchanges} {tally : Tally}
    (asked : retrieval.Asks true .get page) (path : (access.carryOut retrieval).Path events answer)
    (succeeded : retrieval.outcome answer = .ok tally) :
    ∃ request ∈ requestsOf events, access.Sends .get page request := by
  cases asked with
  | followees account =>
      cases answer with
      | error fault => contradiction
      | ok names =>
          exact reads_get (spells_profilePage (by decide) (by decide) account) _ _
            events names path
  | hashtag tag filter options =>
      obtain rfl : answer = .ok tally := succeeded
      exact reads_savePosts (spells_hashtagPath tag) _ _ _ _ events tally path
  | feed filter options | saved filter options =>
      obtain rfl : answer = .ok tally := succeeded
      exact Reads.after (fun _ => reads_savePosts (Url.spells_word (by decide)) _ _ _ _)
        events tally path
  | stories filter options =>
      obtain rfl : answer = .ok tally := succeeded
      exact Reads.after (fun _ => reads_saveStories (Url.spells_word (by decide)) _ _ _ _)
        events tally path
  | profile account filters options =>
      obtain rfl : answer = .ok tally := succeeded
      exact reads_profile account filters events tally path
  | profilePosts account filters wanted =>
      obtain rfl : answer = .ok tally := succeeded
      exact reads_profilePosts account filters wanted events tally path
  | profileStories account filters wanted =>
      obtain rfl : answer = .ok tally := succeeded
      exact reads_profileStories account filters wanted events tally path

end Harvest.Http.Access
