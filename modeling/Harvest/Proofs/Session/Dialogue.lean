import Harvest.Proofs.Session.Provenance

/-!
Logins and questions. A given password is tried once. Otherwise the user is asked for one password
after the other, each is tried as it was entered, and the dialogue ends with the first login that is
not refused or with the first question that is not answered.
-/

namespace Harvest.Session

open Program (answered_of_play path_bind_iff path_perform_iff path_play path_pure_iff play_of_path)

/-- A password that the service refuses, and the name that it puts into the refusal. -/
structure Refusal where
  password : String
  username : String

/-- The question that a refused password answers, and its login. -/
def Refusal.events (account : String) (refusal : Refusal) : Journal retrievalService :=
  [⟨.askPassword account, some refusal.password⟩,
    ⟨.call (.login account refusal.password), .error (.badCredentials refusal.username)⟩]

/-- How a dialogue ends, and what it comes to. -/
inductive Ends (account : String) :
    Journal retrievalService → Except SessionError String → Prop where
  | answered {password : String} {outcome : Except AuthError String}
      (final : ∀ username, outcome ≠ .error (.badCredentials username)) :
      Ends account
        [⟨.askPassword account, some password⟩, ⟨.call (.login account password), outcome⟩]
        (outcome.mapError .auth)
  | aborted : Ends account [⟨.askPassword account, none⟩] (.error (.promptAborted account))

/-- A dialogue of at most some rounds: passwords that are refused, and then its end. Where every
round is refused, there is no further question. -/
inductive Alternates (account : String) (limit : Nat) :
    Journal retrievalService → Except SessionError String → Prop where
  | ended {refusals : List Refusal} {closing : Journal retrievalService}
      {obtained : Except SessionError String} (inside : refusals.length < limit)
      (ends : Ends account closing obtained) :
      Alternates account limit (refusals.flatMap (Refusal.events account) ++ closing) obtained
  | exhausted {refusals : List Refusal} (whole : refusals.length = limit) :
      Alternates account limit (refusals.flatMap (Refusal.events account))
        (.error (.promptAborted account))

/-- How an account logs in: with the given password in one login, not at all in quiet mode, and
else in a dialogue. -/
inductive LogsIn (means : LoginMeans) (account : String) :
    Option String → Journal retrievalService → Except SessionError Session → Prop where
  | given {password : String} (outcome : Except AuthError String) :
      LogsIn means account (some password) [⟨.call (.login account password), outcome⟩]
        ((outcome.mapError .auth).map (.loggedIn account))
  | quiet (silent : means.prompts = none) :
      LogsIn means account none [] (.error (.credentialsRequired account))
  | asked {limit : Nat} {said : Journal retrievalService} {obtained : Except SessionError String}
      (prompts : means.prompts = some limit) (alternates : Alternates account limit said obtained) :
      LogsIn means account none said (obtained.map (.loggedIn account))

/-- Whether a login is refused. -/
def isRefused : Event retrievalService → Bool
  | ⟨.call (.login _ _), .error (.badCredentials _)⟩ => true
  | _ => false

/-- The number of logins among some events. -/
def loginsIn (events : Journal retrievalService) : Nat := (eventsOf [.login] events).length

/-- The number of refused logins among some events. -/
def refusalsIn (events : Journal retrievalService) : Nat := events.countP isRefused

variable {world : World retrievalService} {events said : Journal retrievalService}
  {means : LoginMeans} {account : String} {limit : Nat} {obtained : Except SessionError String}

/-! ## The course of a dialogue -/

/-- One more round in front. -/
theorem Alternates.refused (alternates : Alternates account limit said obtained)
    (refusal : Refusal) :
    Alternates account (limit + 1) (refusal.events account ++ said) obtained := by
  cases alternates with
  | @ended refusals closing _ inside ends =>
      rw [← List.append_assoc, ← List.flatMap_cons]
      exact .ended (Nat.succ_lt_succ inside) ends
  | @exhausted refusals whole =>
      rw [← List.flatMap_cons]
      exact .exhausted (congrArg Nat.succ whole)

/-- A dialogue that ends in its first round. -/
theorem Ends.alternates {closing : Journal retrievalService}
    (ends : Ends account closing obtained) :
    Alternates account (limit + 1) closing obtained :=
  @Alternates.ended account (limit + 1) [] closing obtained (Nat.succ_pos limit) ends

/-- The loop of questions is a dialogue. The induction is on the rounds that are left. -/
theorem alternates_of_path (path : (loginByPrompt account limit).Path events obtained) :
    Alternates account limit (eventsOf ActKind.dialogue events) obtained := by
  induction limit generalizing events with
  | zero =>
      obtain ⟨rfl, rfl⟩ := path_pure_iff.1 path
      exact @Alternates.exhausted account 0 [] rfl
  | succ limit ih =>
      obtain ⟨asking, later, entered, rfl, asked, path⟩ := path_bind_iff.1 path
      rw [path_perform_iff.1 asked]
      cases entered with
      | none =>
          obtain ⟨rfl, rfl⟩ := path_pure_iff.1 path
          exact Ends.aborted.alternates
      | some password =>
          obtain ⟨trying, rest, outcome, rfl, tried, path⟩ := path_bind_iff.1 path
          rw [path_perform_iff.1 tried]
          cases outcome with
          | ok credential =>
              obtain ⟨rfl, rfl⟩ := path_pure_iff.1 path
              exact (@Ends.answered account password (.ok credential) nofun).alternates
          | error fault =>
              cases fault with
              | badCredentials username =>
                  obtain ⟨warning, following, _, rfl, warned, path⟩ := path_bind_iff.1 path
                  rw [path_perform_iff.1 warned]
                  exact (ih path).refused ⟨password, username⟩
              | transport fault =>
                  obtain ⟨rfl, rfl⟩ := path_pure_iff.1 path
                  exact (@Ends.answered account password (.error (.transport fault)) nofun).alternates

/-- A fresh login says what obtaining its credential does. -/
theorem path_logIn_cases {password : Option String} {result : Except SessionError Session}
    (path : (logIn means account password).Path events result) :
    ∃ obtaining obtained, (obtainCredential means account password).Path obtaining obtained ∧
      eventsOf ActKind.dialogue events = eventsOf ActKind.dialogue obtaining ∧
      result = obtained.map (.loggedIn account) := by
  obtain ⟨obtaining, later, obtained, rfl, obtains, following⟩ := path_bind_iff.1 path
  cases obtained with
  | error fault =>
      obtain ⟨rfl, rfl⟩ := path_pure_iff.1 following
      exact ⟨obtaining, _, obtains, by rw [List.append_nil], rfl⟩
  | ok credential =>
      obtain ⟨informing, rest, _, rfl, informed, returned⟩ := path_bind_iff.1 following
      obtain ⟨rfl, rfl⟩ := path_pure_iff.1 returned
      refine ⟨obtaining, _, obtains, ?_, rfl⟩
      rw [path_perform_iff.1 informed, eventsOf_append]
      exact List.append_nil _

/-- A fresh login goes as the means and the password tell. -/
theorem logsIn_of_path {password : Option String} {result : Except SessionError Session}
    (path : (logIn means account password).Path events result) :
    LogsIn means account password (eventsOf ActKind.dialogue events) result := by
  obtain ⟨obtaining, obtained, obtains, same, rfl⟩ := path_logIn_cases path
  rw [same]
  unfold obtainCredential at obtains
  cases password with
  | some password =>
      obtain ⟨trying, rest, outcome, rfl, tried, returned⟩ := path_bind_iff.1 obtains
      obtain ⟨rfl, rfl⟩ := path_pure_iff.1 returned
      rw [path_perform_iff.1 tried]
      exact .given outcome
  | none =>
      cases prompts : means.prompts with
      | none =>
          rw [prompts] at obtains
          obtain ⟨rfl, rfl⟩ := path_pure_iff.1 obtains
          exact .quiet prompts
      | some limit =>
          rw [prompts] at obtains
          exact .asked prompts (alternates_of_path obtains)

/-! ## Counts -/

section Counts

variable {first second : Journal retrievalService}

theorem loginsIn_append : loginsIn (first ++ second) = loginsIn first + loginsIn second := by
  simp [loginsIn]

theorem refusalsIn_append :
    refusalsIn (first ++ second) = refusalsIn first + refusalsIn second :=
  List.countP_append

/-- Every login of a refused password is refused. -/
theorem loginsIn_refusals (refusals : List Refusal) :
    loginsIn (refusals.flatMap (Refusal.events account)) =
      refusalsIn (refusals.flatMap (Refusal.events account)) := by
  induction refusals with
  | nil => rfl
  | cons refusal rest ih =>
      have here : loginsIn (refusal.events account) = refusalsIn (refusal.events account) := rfl
      rw [List.flatMap_cons, loginsIn_append, refusalsIn_append, here, ih]

/-- A dialogue that is given up ends without a login, and any other with one that is not refused. -/
theorem Ends.counts {closing : Journal retrievalService} (ends : Ends account closing obtained) :
    (obtained = .error (.promptAborted account) ∧ loginsIn closing = 0 ∨
        obtained ≠ .error (.promptAborted account) ∧ loginsIn closing = 1) ∧
      refusalsIn closing = 0 := by
  cases ends with
  | aborted => exact ⟨.inl ⟨rfl, rfl⟩, rfl⟩
  | @answered password outcome final =>
      cases outcome with
      | ok credential => exact ⟨.inr ⟨nofun, rfl⟩, rfl⟩
      | error fault =>
          cases fault with
          | badCredentials username => exact absurd rfl (final username)
          | transport fault => exact ⟨.inr ⟨nofun, rfl⟩, rfl⟩

/-- There is one login more than there are refusals, unless the user gives up. -/
theorem Alternates.counts (alternates : Alternates account limit said obtained) :
    (obtained = .error (.promptAborted account) → loginsIn said = refusalsIn said) ∧
      (obtained ≠ .error (.promptAborted account) → loginsIn said = refusalsIn said + 1) := by
  cases alternates with
  | exhausted whole => exact ⟨fun _ => loginsIn_refusals _, fun going => absurd rfl going⟩
  | ended inside ends =>
      obtain ⟨⟨aborted, none⟩ | ⟨going, one⟩, noRefusal⟩ := ends.counts
      · refine ⟨fun _ => ?_, fun going => absurd aborted going⟩
        rw [loginsIn_append, refusalsIn_append, loginsIn_refusals, noRefusal, none]
      · refine ⟨fun aborted => absurd aborted going, fun _ => ?_⟩
        rw [loginsIn_append, refusalsIn_append, loginsIn_refusals, noRefusal, one]

end Counts

/-- With prompts an account logs in once more than it is refused, unless the user gives up. -/
theorem LogsIn.counts {result : Except SessionError Session}
    (logsIn : LogsIn means account none said result) (prompts : means.prompts ≠ none) :
    (result = .error (.promptAborted account) → loginsIn said = refusalsIn said) ∧
      (result ≠ .error (.promptAborted account) → loginsIn said = refusalsIn said + 1) := by
  cases logsIn with
  | quiet silent => exact absurd silent prompts
  | @asked limit _ obtained _ alternates =>
      have same : obtained.map (Session.loggedIn account) = .error (.promptAborted account) ↔
          obtained = .error (.promptAborted account) := by
        cases obtained <;> simp [Except.map]
      rw [ne_eq, same]
      exact alternates.counts

/-! ## More questions -/

section More

variable {password : Option String} {result : Except SessionError Session}

/-- What is said holds all refusals. -/
theorem refusalsIn_dialogue (events : Journal retrievalService) :
    refusalsIn (eventsOf ActKind.dialogue events) = refusalsIn events := by
  unfold refusalsIn eventsOf
  rw [List.countP_filter]
  apply List.countP_congr
  rintro ⟨deed, answer⟩ -
  have spoken : isRefused ⟨deed, answer⟩ = true → deed.kind ∈ ActKind.dialogue := by
    intro refused
    cases deed with
    | call request =>
        cases request with
        | login username password => exact List.mem_cons_self
        | _ => contradiction
    | _ => contradiction
  simpa using spoken

/-- A dialogue that does not take all questions goes alike when there may be more. -/
theorem path_loginByPrompt_more (more : Nat)
    (path : (loginByPrompt account limit).Path events obtained)
    (ends : refusalsIn events < limit) :
    (loginByPrompt account (limit + more)).Path events obtained := by
  induction limit generalizing events with
  | zero => exact absurd ends (Nat.not_lt_zero _)
  | succ limit ih =>
      rw [Nat.succ_add]
      obtain ⟨asking, later, entered, rfl, asked, path⟩ := path_bind_iff.1 path
      refine path_bind_iff.2 ⟨asking, later, entered, rfl, asked, ?_⟩
      cases entered with
      | none => exact path
      | some password =>
          obtain ⟨trying, rest, outcome, rfl, tried, path⟩ := path_bind_iff.1 path
          refine path_bind_iff.2 ⟨trying, rest, outcome, rfl, tried, ?_⟩
          cases outcome with
          | ok credential => exact path
          | error fault =>
              cases fault with
              | transport fault => exact path
              | badCredentials username =>
                  obtain ⟨warning, following, _, rfl, warned, path⟩ := path_bind_iff.1 path
                  refine path_bind_iff.2 ⟨warning, following, _, rfl, warned, ih path ?_⟩
                  have one : refusalsIn
                      [⟨.call (.login account password), .error (.badCredentials username)⟩] = 1 :=
                    rfl
                  rw [path_perform_iff.1 tried] at ends
                  simp only [refusalsIn_append, one] at ends
                  omega

theorem path_logIn_more (more : Nat) (prompts : means.prompts = some limit)
    (path : (logIn means account password).Path events result) (ends : refusalsIn events < limit) :
    (logIn { means with prompts := some (limit + more) } account password).Path events result := by
  obtain ⟨obtaining, later, obtained, rfl, obtains, following⟩ := path_bind_iff.1 path
  refine path_bind_iff.2 ⟨obtaining, later, obtained, rfl, ?_, following⟩
  rw [refusalsIn_append] at ends
  unfold obtainCredential at obtains ⊢
  cases password with
  | some password => exact obtains
  | none =>
      rw [prompts] at obtains
      exact path_loginByPrompt_more more obtains (by omega)

/-- A session is established alike when there may be more questions than it takes. -/
theorem path_establishFor_more {path : Option String} (more : Nat)
    (prompts : means.prompts = some limit)
    (establishes : (establishFor means account password path).Path events result)
    (ends : refusalsIn events < limit) :
    (establishFor { means with prompts := some (limit + more) } account password path).Path events
      result := by
  unfold establishFor at establishes ⊢
  split at establishes
  · next fault unresolved => simpa only [unresolved] using establishes
  · next file resolved =>
      simp only [resolved]
      obtain ⟨resuming, later, resumed, rfl, resumes, following⟩ := path_bind_iff.1 establishes
      refine path_bind_iff.2 ⟨resuming, later, resumed, rfl, resumes, ?_⟩
      cases resumed with
      | some session => exact following
      | none =>
          rw [refusalsIn_append] at ends
          exact path_logIn_more more prompts following (by omega)

end More

/-- An account without a usable session in its file logs in exactly as the password and the prompts
tell. With a given password there is one login; in quiet mode there is none; and else each answered
question is followed by the login with that answer, until a login is not refused or a question is
not answered. Everything is said in the name of the account in lower case. Without a place for the
file nothing is said at all, and it makes no difference that more questions would have been
possible. -/
theorem logins_follow_prompts (means : LoginMeans) (account : String)
    (password path : Option String) (world : World retrievalService) :
    let name := Text.lower account
    let course := (establish means account password path).play world []
    let said := eventsOf ActKind.dialogue course.2
    (∀ fault, means.environment.resolvePath name path = .error fault →
      course = (.error (.storage fault), [])) ∧
    (∀ file, means.environment.resolvePath name path = .ok file → Unusable world file name →
      LogsIn means name password said course.1 ∧
      (password = none → means.prompts ≠ none →
        (course.1 = .error (.promptAborted name) → loginsIn said = refusalsIn said) ∧
        (course.1 ≠ .error (.promptAborted name) → loginsIn said = refusalsIn said + 1))) ∧
    ∀ limit more, means.prompts = some limit → refusalsIn said < limit →
      (establish { means with prompts := some (limit + more) } account password path).play world
        [] = course := by
  intro name course said
  refine ⟨fun fault unresolved => play_establishFor_error unresolved, ?_, ?_⟩
  · intro file resolved unusable
    let resuming := ((resume name file path.isSome).play world []).2
    let login := (logIn means name password).play world resuming
    have fresh : course = (login.1, resuming ++ login.2) :=
      play_establishFor_fresh resolved (play_resume_none unusable)
    have silent : eventsOf ActKind.dialogue resuming = [] :=
      (within_resume name file path.isSome).eventsOf_play (by decide) world []
    have spoken : said = eventsOf ActKind.dialogue login.2 := by
      have appended := congrArg (fun played => eventsOf ActKind.dialogue played.2) fresh
      simpa [silent] using appended
    have logsIn : LogsIn means name password said course.1 := by
      rw [spoken, fresh]
      exact logsIn_of_path (path_play world (logIn means name password) resuming)
    refine ⟨logsIn, ?_⟩
    rintro rfl prompts
    exact logsIn.counts prompts
  · intro limit more prompts ends
    rw [refusalsIn_dialogue] at ends
    have path := path_play world (establishFor means name password path) []
    refine play_of_path (path_establishFor_more more prompts path ends) ?_
    exact fun before deed answer after split => answered_of_play split

/-- A password is refused and the next one is right. -/
theorem logins_follow_prompts_second :
    let means : LoginMeans := ⟨⟨none, none, none⟩, some 3⟩
    let name := Text.lower "Alice"
    let world : World retrievalService := fun past deed =>
      match deed with
      | .askPassword _ => [some "wrong", some "secret", none].getD (loginsIn past) none
      | .call (.login username password) =>
        if password = "secret" then .ok "fresh" else .error (.badCredentials username)
      | other => World.steady (.error (.missing "nothing there")) none "" past other
    let course := (establish means "Alice" none (some "session")).play world []
    let said := eventsOf ActKind.dialogue course.2
    means.environment.resolvePath name (some "session") = .ok "session" ∧
      Unusable world "session" name ∧ means.prompts ≠ none ∧
      said = [⟨.askPassword name, some "wrong"⟩,
        ⟨.call (.login name "wrong"), .error (.badCredentials name)⟩,
        ⟨.askPassword name, some "secret"⟩, ⟨.call (.login name "secret"), .ok "fresh"⟩] ∧
      course.1 = .ok (.loggedIn name "fresh") ∧ LogsIn means name none said course.1 ∧
      loginsIn said = refusalsIn said + 1 ∧ refusalsIn said < 3 ∧
      (establish ⟨⟨none, none, none⟩, some 8⟩ "Alice" none (some "session")).play world [] =
        course := by
  intro means name world course said
  have unusable : Unusable world "session" name := by
    intro stored owner read
    cases read
  have reached : course.1 = .ok (.loggedIn name "fresh") := rfl
  obtain ⟨-, follows, longer⟩ := logins_follow_prompts means "Alice" none (some "session") world
  obtain ⟨logsIn, counts⟩ := follows "session" rfl unusable
  have going : course.1 ≠ .error (.promptAborted name) := by
    rw [reached]
    exact nofun
  exact ⟨rfl, unusable, nofun, rfl, reached, logsIn, (counts rfl nofun).2 going, by decide,
    longer 3 5 rfl (by decide)⟩

end Harvest.Session
