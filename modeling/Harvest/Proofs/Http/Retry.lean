import Harvest.Proofs.Http.Requests

/-!
The attempts of a call. An attempt that fails is repeated unless the interrupt flag is up or the
limit is reached. A world tells what the attempts come to, one after the other, and the call ends at
the first that settles it or at the limit.
-/

namespace Harvest.Http

/-- What an attempt comes to, and whether the interrupt flag is up after it. -/
structure Attempt where
  outcome : Except String Response
  raised : Bool

/-- An attempt fails without a response, or on the side of the service. -/
def Attempt.Fails (made : Attempt) : Prop :=
  match made.outcome with
  | .error _ => True
  | .ok response => 500 ≤ response.status ∧ response.status < 600

/-- An attempt settles its call unless it fails while the flag is down. -/
def Attempt.Settles (made : Attempt) : Prop :=
  made.Fails → made.raised = true

/-- How a call ends at an attempt of some number, and with which acts. Its own failure ends the call
only at the limit. -/
inductive Attempt.EndsCall (limit : Nat) (path : String) (number : Nat) :
    Attempt → Except RetrieveError Response → List (Act exchanges) → Prop where
  | answered {response : Response} {raised : Bool}
      (fine : ¬(500 ≤ response.status ∧ response.status < 600)) :
      EndsCall limit path number ⟨.ok response, raised⟩ (.ok response) []
  | interrupted {made : Attempt} (fails : made.Fails) (raised : made.raised = true) :
      EndsCall limit path number made (.error (.interrupted path number))
        [.pollInterrupt, .log .warn "Request interrupted, giving up"]
  | service {response : Response} (fault : 500 ≤ response.status ∧ response.status < 600)
      (exhausted : number = limit) :
      EndsCall limit path number ⟨.ok response, false⟩ (.error (.service response.status path))
        [.pollInterrupt]
  | connection {reason : String} (exhausted : number = limit) :
      EndsCall limit path number ⟨.error reason, false⟩ (.error (.connection number reason))
        [.pollInterrupt]

theorem Attempt.not_settles_iff {made : Attempt} :
    ¬made.Settles ↔ made.Fails ∧ made.raised = false := by
  simp [Settles]

/-! ## Attempts in a world -/

section Attempts

variable (world : World exchanges) (request : Request) (past : Journal exchanges)

/-- The acts of one attempt. A request that cannot be sent is not sent. -/
def sending : List (Act exchanges) :=
  match request.fault? with
  | some _ => []
  | none => [.call request]

/-- What an attempt comes to after some events, and the events that it adds. -/
def attemptAfter : Except String Response × Journal exchanges :=
  match request.fault? with
  | some reason => (.error reason, [])
  | none => (world past (.call request), [world.event past (.call request)])

/-- The events of an attempt that is repeated. -/
def roundAfter : Journal exchanges :=
  let sent := past ++ (attemptAfter world request past).2
  let polled := world.event sent .pollInterrupt
  (attemptAfter world request past).2 ++
    [polled, world.event (sent ++ [polled]) (.log .warn "Request failed, retrying")]

/-- The events of some attempts that are all repeated. -/
def roundsAfter : Nat → Journal exchanges → Journal exchanges
  | 0, _ => []
  | count + 1, past =>
    roundAfter world request past ++ roundsAfter count (past ++ roundAfter world request past)

/-- An attempt after some that are all repeated. -/
def attemptAt (index : Nat) : Attempt :=
  let before := past ++ roundsAfter world request index past
  let made := attemptAfter world request before
  ⟨made.1, world (before ++ made.2) .pollInterrupt⟩

theorem outcome_attemptAt_zero :
    (attemptAt world request past 0).outcome = (attemptAfter world request past).1 := by
  simp [attemptAt, roundsAfter]

theorem raised_attemptAt_zero : (attemptAt world request past 0).raised =
    world (past ++ (attemptAfter world request past).2) .pollInterrupt := by
  simp [attemptAt, roundsAfter]

theorem attemptAt_succ (index : Nat) : attemptAt world request past (index + 1) =
    attemptAt world request (past ++ roundAfter world request past) index := by
  simp [attemptAt, roundsAfter]

theorem play_attempt : (attempt request).play world past = attemptAfter world request past := by
  unfold attempt attemptAfter
  cases request.fault? <;> rfl

theorem deeds_attemptAfter :
    (attemptAfter world request past).2.map Event.deed = sending request := by
  unfold attemptAfter sending
  cases request.fault? <;> rfl

theorem deeds_roundAfter : (roundAfter world request past).map Event.deed =
    sending request ++ [.pollInterrupt, .log .warn "Request failed, retrying"] := by
  rw [roundAfter, List.map_append, deeds_attemptAfter]
  rfl

end Attempts

/-! ## Worlds by a script -/

/-- Whether an act looks at the interrupt flag. -/
def isPoll : Act exchanges → Bool
  | .pollInterrupt => true
  | _ => false

/-- The looks at the interrupt flag among some events. -/
def pollsIn (events : Journal exchanges) : Nat :=
  (events.map Event.deed).countP isPoll

/-- A world where attempts come to what a script tells. The flag is looked at once after every
attempt that fails, so the looks count the attempts. -/
def scripted (script : Nat → Attempt) : World exchanges := fun past deed =>
  match deed with
  | .call _ => (script (pollsIn past)).outcome
  | .pollInterrupt => (script (pollsIn past)).raised
  | other => unreachable past other

theorem pollsIn_append (first second : Journal exchanges) :
    pollsIn (first ++ second) = pollsIn first + pollsIn second := by
  rw [pollsIn, List.map_append, List.countP_append]
  rfl

section Script

variable (world : World exchanges) (request : Request)

theorem pollsIn_attemptAfter (past : Journal exchanges) :
    pollsIn (attemptAfter world request past).2 = 0 := by
  rw [pollsIn, deeds_attemptAfter, sending]
  cases request.fault? <;> rfl

theorem pollsIn_roundsAfter (count : Nat) (past : Journal exchanges) :
    pollsIn (roundsAfter world request count past) = count := by
  induction count generalizing past with
  | zero => rfl
  | succ count ih =>
      have round : pollsIn (roundAfter world request past) = 1 := by
        rw [roundAfter, pollsIn_append, pollsIn_attemptAfter]
        rfl
      rw [roundsAfter, pollsIn_append, round, ih, Nat.add_comm]

/-- Every sequence of attempts is that of a request in some world. -/
theorem attemptAt_scripted {request : Request} (sendable : request.fault? = none)
    (script : Nat → Attempt) (index : Nat) :
    attemptAt (scripted script) request [] index = script index := by
  have outcome : (attemptAfter (scripted script) request
      (roundsAfter (scripted script) request index [])).1 = (script index).outcome := by
    simp [attemptAfter, sendable, scripted, pollsIn_roundsAfter]
  simp only [attemptAt, List.nil_append]
  rw [outcome]
  simp only [scripted, pollsIn_append, pollsIn_attemptAfter]
  rw [pollsIn_roundsAfter]
  rfl

end Script

/-! ## The course of a call -/

section Judgements

variable {path : String} {number : Nat} {made : Attempt}

theorem Attempt.judge_of_not_fails (fine : ¬made.Fails) :
    ∃ response, judge path number made.outcome = .ok response ∧
      ∀ limit, made.EndsCall limit path number (.ok response) [] := by
  obtain ⟨outcome, raised⟩ := made
  cases outcome with
  | error reason => exact absurd trivial fine
  | ok response => exact ⟨response, if_neg fine, fun limit => .answered fine⟩

/-- The failure of an attempt ends the call at the limit. -/
theorem Attempt.judge_of_fails (fails : made.Fails) :
    ∃ fault, judge path number made.outcome = .error fault ∧
      (made.raised = false → made.EndsCall number path number (.error fault) [.pollInterrupt]) := by
  obtain ⟨outcome, raised⟩ := made
  cases outcome with
  | error reason =>
      refine ⟨.connection number reason, rfl, ?_⟩
      rintro rfl
      exact .connection rfl
  | ok response =>
      refine ⟨.service response.status path, if_pos fails, ?_⟩
      rintro rfl
      exact .service fails rfl

end Judgements

/-- The course of a call up to its last attempt, with the attempts numbered from some number on.
Each attempt before the last fails while the flag is down, and none follows the last one. -/
structure Course (limit : Nat) (path : String) (number : Nat) (request : Request)
    (attempts : Nat → Attempt) (last : Nat)
    (played : Except RetrieveError Response × Journal exchanges) : Prop where
  repeated : ∀ index < last, (attempts index).Fails ∧ (attempts index).raised = false
  within : limit ≠ 0 → number + last ≤ limit
  ends : ∃ closing, (attempts last).EndsCall limit path (number + last) played.1 closing ∧
    played.2.map Event.deed =
      (List.replicate last
        (sending request ++ [.pollInterrupt, .log .warn "Request failed, retrying"])).flatten ++
      sending request ++ closing

section Steps

variable {world : World exchanges} {request : Request} {past : Journal exchanges} {path : String}
  {number repetitions : Nat} {response : Response} {fault : RetrieveError}

theorem play_interrupted : (Program.interrupted : Web Bool).play world past =
    (world past .pollInterrupt, [world.event past .pollInterrupt]) := rfl

theorem play_warn (message : String) : (Program.warn message : Web Unit).play world past =
    ((), [world.event past (.log .warn message)]) := rfl

theorem play_of_answered
    (judged : judge path number (attemptAt world request past 0).outcome = .ok response) :
    (sendFrom path request number repetitions).play world past =
      (.ok response, (attemptAfter world request past).2) := by
  rw [outcome_attemptAt_zero] at judged
  rw [sendFrom.eq_def, Program.play_bind, play_attempt]
  simp only [judged, Program.play_pure, List.append_nil]

theorem play_of_interrupted
    (judged : judge path number (attemptAt world request past 0).outcome = .error fault)
    (raised : (attemptAt world request past 0).raised = true) :
    let sent := past ++ (attemptAfter world request past).2
    let polled := world.event sent .pollInterrupt
    let told := world.event (sent ++ [polled]) (.log .warn "Request interrupted, giving up")
    (sendFrom path request number repetitions).play world past =
      (.error (.interrupted path number),
        (attemptAfter world request past).2 ++ [polled, told]) := by
  rw [outcome_attemptAt_zero] at judged
  rw [raised_attemptAt_zero] at raised
  rw [sendFrom.eq_def, Program.play_bind, play_attempt]
  simp only [judged]
  rw [Program.play_bind, play_interrupted]
  simp only [raised]
  rfl

theorem play_of_exhausted
    (judged : judge path number (attemptAt world request past 0).outcome = .error fault)
    (lowered : (attemptAt world request past 0).raised = false) :
    (sendFrom path request number 0).play world past =
      (.error fault, (attemptAfter world request past).2 ++
        [world.event (past ++ (attemptAfter world request past).2) .pollInterrupt]) := by
  rw [outcome_attemptAt_zero] at judged
  rw [raised_attemptAt_zero] at lowered
  rw [sendFrom.eq_def, Program.play_bind, play_attempt]
  simp only [judged]
  rw [Program.play_bind, play_interrupted]
  simp only [lowered]
  rfl

theorem play_of_repeated
    (judged : judge path number (attemptAt world request past 0).outcome = .error fault)
    (lowered : (attemptAt world request past 0).raised = false) :
    let round := roundAfter world request past
    let rest := (sendFrom path request (number + 1) repetitions).play world (past ++ round)
    (sendFrom path request number (repetitions + 1)).play world past =
      (rest.1, round ++ rest.2) := by
  intro round rest
  rw [outcome_attemptAt_zero] at judged
  rw [raised_attemptAt_zero] at lowered
  rw [sendFrom, Program.play_bind, play_attempt]
  simp only [judged]
  rw [Program.play_bind, play_interrupted]
  simp only [lowered]
  rw [if_neg Bool.false_ne_true, Program.play_bind, play_warn]
  simp [roundAfter, round, rest]

/-- An attempt that settles the call is its last one. -/
theorem course_of_settles (settles : (attemptAt world request past 0).Settles) :
    Course (number + repetitions) path number request (attemptAt world request past) 0
      ((sendFrom path request number repetitions).play world past) where
  repeated index before := absurd before (Nat.not_lt_zero index)
  within _ := Nat.le_add_right number repetitions
  ends := by
    by_cases fails : (attemptAt world request past 0).Fails
    · obtain ⟨fault, judged, -⟩ := Attempt.judge_of_fails fails
      rw [play_of_interrupted judged (settles fails)]
      refine ⟨_, .interrupted fails (settles fails), ?_⟩
      simp [deeds_attemptAfter, World.event]
    · obtain ⟨response, judged, ends⟩ := Attempt.judge_of_not_fails fails
      rw [play_of_answered judged]
      refine ⟨[], ends _, ?_⟩
      simp [deeds_attemptAfter]

/-- At the limit an attempt is the last one in any case. -/
theorem course_of_exhausted (goesOn : ¬(attemptAt world request past 0).Settles) :
    Course number path number request (attemptAt world request past) 0
      ((sendFrom path request number 0).play world past) where
  repeated index before := absurd before (Nat.not_lt_zero index)
  within _ := Nat.le_refl number
  ends := by
    obtain ⟨fails, lowered⟩ := Attempt.not_settles_iff.1 goesOn
    obtain ⟨fault, judged, ends⟩ := Attempt.judge_of_fails fails
    rw [play_of_exhausted judged lowered]
    refine ⟨_, ends lowered, ?_⟩
    simp [deeds_attemptAfter, World.event]

/-- Below the limit the course of a call goes on after an attempt that settles nothing. -/
theorem Course.after_repeated {limit last : Nat}
    (goesOn : ¬(attemptAt world request past 0).Settles)
    (course : Course limit path (number + 1) request
      (attemptAt world request (past ++ roundAfter world request past)) last
      ((sendFrom path request (number + 1) repetitions).play world
        (past ++ roundAfter world request past))) :
    Course limit path number request (attemptAt world request past) (last + 1)
      ((sendFrom path request number (repetitions + 1)).play world past) := by
  obtain ⟨fails, lowered⟩ := Attempt.not_settles_iff.1 goesOn
  obtain ⟨fault, judged, -⟩ := Attempt.judge_of_fails fails
  obtain ⟨closing, ends, acts⟩ := course.ends
  rw [play_of_repeated judged lowered]
  constructor
  case repeated =>
    intro index before
    cases index with
    | zero => exact ⟨fails, lowered⟩
    | succ index =>
        rw [attemptAt_succ]
        exact course.repeated index (Nat.lt_of_succ_lt_succ before)
  case within =>
    intro limited
    have bounded := course.within limited
    omega
  case ends =>
    refine ⟨closing, ?_, ?_⟩
    · rw [attemptAt_succ, ← Nat.add_assoc, Nat.add_right_comm]
      exact ends
    · rw [List.map_append, acts, deeds_roundAfter, List.replicate_succ, List.flatten_cons]
      simp only [List.append_assoc]

/-- Every call runs a course. The induction is on the repetitions that are left. -/
theorem exists_course (world : World exchanges) (request : Request) (past : Journal exchanges)
    (path : String) (number repetitions : Nat) :
    ∃ last, Course (number + repetitions) path number request (attemptAt world request past) last
      ((sendFrom path request number repetitions).play world past) := by
  induction repetitions generalizing past number with
  | zero =>
      by_cases settles : (attemptAt world request past 0).Settles
      · exact ⟨0, course_of_settles settles⟩
      · exact ⟨0, course_of_exhausted settles⟩
  | succ repetitions ih =>
      by_cases settles : (attemptAt world request past 0).Settles
      · exact ⟨0, course_of_settles settles⟩
      · obtain ⟨last, course⟩ := ih (past ++ roundAfter world request past) (number + 1)
        rw [Nat.add_right_comm] at course
        exact ⟨last + 1, course.after_repeated settles⟩

end Steps

section Courses

variable {limit number last : Nat} {path : String} {request : Request} {attempts : Nat → Attempt}
  {played : Except RetrieveError Response × Journal exchanges}

/-- An attempt that settles its call ends it under any limit. -/
theorem Attempt.EndsCall.of_settles {made : Attempt} {result : Except RetrieveError Response}
    {closing : List (Act exchanges)} (ends : made.EndsCall limit path number result closing)
    (settles : made.Settles) (other : Nat) : made.EndsCall other path number result closing := by
  cases ends with
  | answered fine => exact .answered fine
  | interrupted fails raised => exact .interrupted fails raised
  | service fault => exact absurd (settles fault) Bool.false_ne_true
  | connection => exact absurd (settles trivial) Bool.false_ne_true

/-- Before the limit only an attempt that settles its call ends it. -/
theorem Attempt.EndsCall.settles {made : Attempt} {result : Except RetrieveError Response}
    {closing : List (Act exchanges)} (ends : made.EndsCall limit path number result closing)
    (early : number ≠ limit) : made.Settles := by
  cases ends with
  | answered fine => exact fun fails => absurd fails fine
  | interrupted _ raised => exact fun _ => raised
  | service _ exhausted | connection exhausted => exact absurd exhausted early

/-- A call whose attempts are settled by one within a limit runs the same course without a limit. -/
theorem Course.unlimited (course : Course limit path number request attempts last played)
    {index : Nat} (settles : (attempts index).Settles) (inside : number + index ≤ limit) :
    Course 0 path number request attempts last played := by
  obtain ⟨closing, ends, acts⟩ := course.ends
  have reached : last ≤ index := by
    apply Nat.le_of_not_lt
    intro before
    exact Attempt.not_settles_iff.2 (course.repeated index before) settles
  have settled : (attempts last).Settles := by
    by_cases same : last = index
    · rw [same]
      exact settles
    · apply ends.settles
      omega
  exact ⟨course.repeated, fun limited => absurd rfl limited, closing, ends.of_settles settled 0,
    acts⟩

/-- The request that an act sends. -/
def requestOf? : Act exchanges → Option Request
  | .call request => some request
  | _ => none

theorem requestsOf_eq (events : Journal exchanges) :
    requestsOf events = (events.map Event.deed).filterMap requestOf? := by
  rw [List.filterMap_map]
  rfl

theorem Attempt.EndsCall.requests {made : Attempt} {result : Except RetrieveError Response}
    {closing : List (Act exchanges)} (ends : made.EndsCall limit path number result closing) :
    closing.filterMap requestOf? = [] := by
  cases ends <;> rfl

/-- All attempts send the same request, if it can be sent. -/
theorem Course.requests (course : Course limit path number request attempts last played) :
    requestsOf played.2 =
      (List.replicate (last + 1) request).filter (·.fault?.isNone) := by
  obtain ⟨closing, ends, acts⟩ := course.ends
  rw [requestsOf_eq, acts, List.filterMap_append, ends.requests, List.replicate_succ']
  cases fault : request.fault? <;>
    simp [sending, requestOf?, fault, List.filterMap_flatten, List.filterMap_cons]

end Courses

/-- The request of every attempt of a call. -/
def Settings.requestFor (settings : Settings) (method : Method) (url : Url) (body : Option Json)
    (credential : Option String) : Request :=
  Request.presentLogin ⟨method, url, none, credential, settings.userAgent, body⟩

/-- A call ends at the first attempt that settles it, or with the failure of the attempt at the
limit. Without a limit it does so whenever one of the attempts that are counted settles it. -/
theorem attempts_are_exact {settings : Settings} {path : String} {url : Url}
    (located : settings.locate path = .ok url) (method : Method) (body : Option Json)
    (credential : Option String) (world : World exchanges) (past : Journal exchanges)
    (settled : settings.maxAttempts = 0 → ∃ index < Settings.countedAttempts,
      (attemptAt world (settings.requestFor method url body credential) past index).Settles) :
    let request := settings.requestFor method url body credential
    let played := (settings.send method path body credential).run.play world past
    ∃ last, Course settings.maxAttempts path 1 request (attemptAt world request past) last played ∧
      requestsOf played.2 = (List.replicate (last + 1) request).filter (·.fault?.isNone) := by
  intro request played
  have sent : played = (sendFrom path request 1 settings.repetitions).play world past := by
    have run : (settings.send method path body credential).run =
        sendFrom path request 1 settings.repetitions := by
      unfold Settings.send
      rw [located]
      rfl
    exact congrArg (fun program => Program.play world program past) run
  obtain ⟨last, course⟩ := exists_course world request past path 1 settings.repetitions
  rw [← sent] at course
  suffices limited : Course settings.maxAttempts path 1 request (attemptAt world request past) last
      played from ⟨last, limited, limited.requests⟩
  by_cases unlimited : settings.maxAttempts = 0
  · obtain ⟨index, inside, settles⟩ := settled unlimited
    rw [unlimited]
    apply course.unlimited settles
    simp [Settings.repetitions, unlimited]
    omega
  · have limit : 1 + settings.repetitions = settings.maxAttempts := by
      simp [Settings.repetitions, unlimited]
      omega
    rwa [limit] at course

/-- Without a limit a call goes through an answer of 503 and a lost connection, and ends with the
answer that follows, although the flag is up by then. -/
theorem attempts_are_exact_third :
    let settings : Settings := ⟨sampleEndpoint.withTrailingSlash, usualUserAgent, 0⟩
    let url : Url := { sampleEndpoint with path := .segments ["api", "feed"] }
    let request := settings.requestFor .get url none none
    let world := scripted fun
      | 0 => ⟨.ok ⟨503, .text ""⟩, false⟩
      | 1 => ⟨.error "connection reset", false⟩
      | _ => ⟨.ok ⟨200, .text "[]"⟩, true⟩
    let played := (settings.send .get "feed" none none).run.play world []
    settings.locate "feed" = .ok url ∧ settings.maxAttempts = 0 ∧
      (∃ index < Settings.countedAttempts, (attemptAt world request [] index).Settles) ∧
      ∃ last, Course 0 "feed" 1 request (attemptAt world request []) last played ∧
        requestsOf played.2 = (List.replicate (last + 1) request).filter (·.fault?.isNone) := by
  intro settings url request world played
  have located : settings.locate "feed" = .ok url := rfl
  have settled : ∃ index < Settings.countedAttempts,
      (attemptAt world request [] index).Settles := by
    refine ⟨2, by decide, ?_⟩
    rw [attemptAt_scripted rfl]
    exact fun _ => rfl
  exact ⟨located, rfl, settled, attempts_are_exact located .get none none world [] fun _ => settled⟩

end Harvest.Http
