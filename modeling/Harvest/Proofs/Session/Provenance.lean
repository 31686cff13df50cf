import Harvest.Proofs.Journal
import Harvest.Proofs.Result
import Harvest.Proofs.Session.File
import Harvest.Session.Login

/-!
Where a session has its credential from. It is the one in the session file, when the service tells
that it belongs to the account, or else the answer of the last login. A file that is of no use
leaves no trace: logins, questions and the outcome are those of a missing file.
-/

namespace Harvest

open Program (Only not_path_error only_pure path_bind_iff path_perform_iff path_play path_pure_iff
  play_act play_bind within_perform within_inform within_warn)

/-- The kinds of acts that a user who logs in takes part in. -/
def ActKind.dialogue : List ActKind := [.login, .question]

/-- The kinds of acts that resume a session. -/
def ActKind.resuming : List ActKind := [.reading, .validation, .message]

/-- The kinds of acts of a fresh login. -/
def ActKind.loggingIn : List ActKind := [.login, .question, .message]

/-- Two worlds answer logins and questions alike, in view of the logins and questions before. -/
def World.SameDialogue (world other : World retrievalService) : Prop :=
  ∀ past past' deed, deed.kind ∈ ActKind.dialogue →
    eventsOf ActKind.dialogue past = eventsOf ActKind.dialogue past' →
    world past deed = other past' deed

namespace Session

/-- A credential is resumed from a file: the file holds it, the service tells that it belongs to
the account, and nobody logs in. -/
structure Resumed (account file credential : String) (events : Journal retrievalService) :
    Prop where
  stored : ∃ found stored, eventsOf [.reading] events = [⟨.readText file, found⟩] ∧
    StoredSession.ofRead found = .ok (some stored) ∧ stored.credential = credential
  validated : ∃ owner, sameName owner account = true ∧
    eventsOf [.validation] events = [⟨.call (.whoami credential), .ok (some owner)⟩]
  silent : eventsOf ActKind.dialogue events = []

/-- A credential is the answer of the last login, which is one of the account. -/
def Obtained (account credential : String) (events : Journal retrievalService) : Prop :=
  ∃ before password, eventsOf [.login] events =
    before ++ [⟨.call (.login account password), .ok credential⟩]

/-- Whatever session a file holds, its credential is not told to be the account's. -/
def Unusable (world : World retrievalService) (file account : String) : Prop :=
  ∀ stored owner, StoredSession.ofRead (world [] (.readText file)) = .ok (some stored) →
    world [world.event [] (.readText file)] (.call (.whoami stored.credential)) =
      .ok (some owner) →
    sameName owner account = false

variable {world other : World retrievalService} {past : Journal retrievalService}
  {account file : String} {isExplicit : Bool}

section Resuming

theorem play_load :
    (StoredSession.load file : Work _).play world past =
      (StoredSession.ofRead (world past (.readText file)),
        [world.event past (.readText file)]) := rfl

/-- A file is read, and the session in it is what counts. -/
theorem play_loadStored {stored : StoredSession}
    (read : StoredSession.ofRead (world past (.readText file)) = .ok (some stored)) :
    (loadStored file isExplicit).play world past =
      (some stored, [world.event past (.readText file)]) := by
  unfold loadStored
  rw [play_bind, play_load, read]
  rfl

/-- A file without a session yields none. -/
theorem play_loadStored_none
    (read : ∀ stored, StoredSession.ofRead (world past (.readText file)) ≠ .ok (some stored)) :
    ((loadStored file isExplicit).play world past).1 = none := by
  unfold loadStored
  rw [play_bind, play_load]
  cases found : StoredSession.ofRead (world past (.readText file)) with
  | error fault => rfl
  | ok session =>
      cases session with
      | some stored => exact absurd found (read stored)
      | none => cases isExplicit <;> rfl

theorem play_whoami {credential : String} :
    (Work.whoami credential).play world past = (world past (.call (.whoami credential)),
      [world.event past (.call (.whoami credential))]) := rfl

/-- A credential is the account's when the service tells a name for it that is the account's. -/
theorem play_isCredentialOf {credential owner : String}
    (answered : world past (.call (.whoami credential)) = .ok (some owner)) :
    (isCredentialOf account credential).play world past =
      (sameName owner account, [world.event past (.call (.whoami credential))]) := by
  unfold isCredentialOf
  rw [play_bind, play_whoami, answered]
  rfl

/-- A credential that the service does not know is nobody's. -/
theorem play_isCredentialOf_false {credential : String}
    (unknown : ∀ owner, world past (.call (.whoami credential)) ≠ .ok (some owner)) :
    ((isCredentialOf account credential).play world past).1 = false := by
  unfold isCredentialOf
  rw [play_bind, play_whoami]
  cases answered : world past (.call (.whoami credential)) with
  | error fault => rfl
  | ok owner =>
      cases owner with
      | some owner => exact absurd answered (unknown owner)
      | none => rfl

/-- A session is resumed when the service tells that the credential in its file is the account's. -/
theorem play_resume {stored : StoredSession} {owner : String}
    (read : StoredSession.ofRead (world past (.readText file)) = .ok (some stored))
    (answered : world (past ++ [world.event past (.readText file)])
      (.call (.whoami stored.credential)) = .ok (some owner))
    (same : sameName owner account = true) :
    ∃ message, (resume account file isExplicit).play world past =
      (some (.loggedIn account stored.credential),
        [world.event past (.readText file),
          world.event (past ++ [world.event past (.readText file)])
            (.call (.whoami stored.credential)),
          ⟨.log .info message, ()⟩]) := by
  refine ⟨s!"Loaded session from {file}.", ?_⟩
  unfold resume
  rw [play_bind, play_loadStored read]
  simp only
  rw [play_bind, play_isCredentialOf answered, same]
  rfl

/-- Otherwise no session is resumed. -/
theorem play_resume_none
    (unproven : ∀ stored owner,
      StoredSession.ofRead (world past (.readText file)) = .ok (some stored) →
      world (past ++ [world.event past (.readText file)]) (.call (.whoami stored.credential)) =
        .ok (some owner) →
      sameName owner account = false) :
    ((resume account file isExplicit).play world past).1 = none := by
  unfold resume
  rw [play_bind]
  by_cases read : ∃ stored,
      StoredSession.ofRead (world past (.readText file)) = .ok (some stored)
  · obtain ⟨stored, read⟩ := read
    have refused : ((isCredentialOf account stored.credential).play world
        (past ++ [world.event past (.readText file)])).1 = false := by
      by_cases answered : ∃ owner, world (past ++ [world.event past (.readText file)])
          (.call (.whoami stored.credential)) = .ok (some owner)
      · obtain ⟨owner, answered⟩ := answered
        rw [play_isCredentialOf answered]
        exact unproven stored owner read answered
      · exact play_isCredentialOf_false fun owner same => answered ⟨owner, same⟩
    rw [play_loadStored read]
    simp only
    rw [play_bind, refused]
    rfl
  · have nothing : ((loadStored file isExplicit).play world past).1 = none :=
      play_loadStored_none fun stored same => read ⟨stored, same⟩
    rw [nothing]
    rfl

/-- A session that is resumed has the credential of its file. -/
theorem resumed_of_play {session : Session}
    (reached : ((resume account file isExplicit).play world []).1 = some session) :
    ∃ credential, session = .loggedIn account credential ∧
      Resumed account file credential ((resume account file isExplicit).play world []).2 := by
  have proven : ¬∀ stored owner,
      StoredSession.ofRead (world [] (.readText file)) = .ok (some stored) →
      world ([] ++ [world.event [] (.readText file)]) (.call (.whoami stored.credential)) =
        .ok (some owner) →
      sameName owner account = false := by
    intro unproven
    rw [play_resume_none unproven] at reached
    contradiction
  simp only [Classical.not_forall, Bool.not_eq_false] at proven
  obtain ⟨stored, owner, read, answered, same⟩ := proven
  obtain ⟨message, played⟩ :
      ∃ message, (resume account file isExplicit).play world [] = _ :=
    play_resume read answered same
  rw [played] at reached ⊢
  refine ⟨stored.credential, (Option.some.inj reached).symm, ?_⟩
  have asked : world.event ([] ++ [world.event [] (.readText file)])
      (.call (.whoami stored.credential)) =
        ⟨.call (.whoami stored.credential), .ok (some owner)⟩ := congrArg (Event.mk _) answered
  constructor
  · exact ⟨world [] (.readText file), stored, rfl, read, rfl⟩
  · exact ⟨owner, same, by rw [asked]; rfl⟩
  · rfl

theorem within_loadStored (file : String) (isExplicit : Bool) :
    (loadStored file isExplicit).Within ActKind.resuming := by
  have read : (StoredSession.load file : Work _).Within ActKind.resuming :=
    (within_perform .reading rfl (by decide)).bind fun _ => only_pure _
  apply read.bind
  intro found
  cases found with
  | error fault => exact (within_warn (by decide) _).bind fun _ => only_pure _
  | ok session =>
      cases session with
      | some stored => exact only_pure _
      | none =>
          have ending : (do
              Program.inform "Session file does not exist yet - Logging in."
              return none : Work (Option StoredSession)).Within ActKind.resuming :=
            (within_inform (by decide) _).bind fun _ => only_pure _
          cases isExplicit with
          | false => exact ending
          | true => exact (within_warn (by decide) _).bind fun _ => ending

theorem within_isCredentialOf (account credential : String) :
    (isCredentialOf account credential).Within ActKind.resuming := by
  have asked : (Work.whoami credential).Within ActKind.resuming :=
    within_perform .validation rfl (by decide)
  apply asked.bind
  intro answer
  cases answer with
  | error fault => exact (within_warn (by decide) _).bind fun _ => only_pure _
  | ok owner => cases owner <;> exact only_pure _

/-- Whoever resumes a session neither logs in nor asks the user. -/
theorem within_resume (account file : String) (isExplicit : Bool) :
    (resume account file isExplicit).Within ActKind.resuming := by
  apply (within_loadStored file isExplicit).bind
  intro found
  cases found with
  | none => exact only_pure _
  | some stored =>
      apply (within_isCredentialOf account stored.credential).bind
      intro proven
      cases proven with
      | false => exact only_pure _
      | true => exact (within_inform (by decide) _).bind fun _ => only_pure _

end Resuming

section LoggingIn

variable {events earlier : Journal retrievalService} {credential : String}

theorem within_login (account password : String) :
    (Work.login account password).Within ActKind.loggingIn :=
  within_perform .login rfl (by decide)

theorem within_loginByPrompt (account : String) (prompts : Nat) :
    (loginByPrompt account prompts).Within ActKind.loggingIn := by
  induction prompts with
  | zero => exact only_pure _
  | succ prompts ih =>
      have asked : (Program.askPassword account : Work _).Within ActKind.loggingIn :=
        within_perform .question rfl (by decide)
      apply asked.bind
      intro answer
      cases answer with
      | none => exact only_pure _
      | some password =>
          apply (within_login account password).bind
          intro outcome
          cases outcome with
          | ok credential => exact only_pure _
          | error fault =>
              cases fault with
              | badCredentials username => exact (within_warn (by decide) _).bind fun _ => ih
              | transport fault => exact only_pure _

/-- Whoever logs in reads no file and asks for no owner of a credential. -/
theorem within_logIn (means : LoginMeans) (account : String) (password : Option String) :
    (logIn means account password).Within ActKind.loggingIn := by
  have obtained : (obtainCredential means account password).Within ActKind.loggingIn := by
    unfold obtainCredential
    cases password with
    | some password => exact (within_login account password).bind fun _ => only_pure _
    | none =>
        cases means.prompts with
        | none => exact only_pure _
        | some prompts => exact within_loginByPrompt account prompts
  apply obtained.bind
  intro outcome
  cases outcome with
  | error fault => exact only_pure _
  | ok credential => exact (within_inform (by decide) _).bind fun _ => only_pure _

/-- What happened before the last login does not matter. -/
theorem Obtained.after (obtained : Obtained account credential events) :
    Obtained account credential (earlier ++ events) := by
  obtain ⟨before, password, logins⟩ := obtained
  exact ⟨eventsOf [.login] earlier ++ before, password, by simp [logins]⟩

theorem Obtained.before (obtained : Obtained account credential events)
    (later : Journal retrievalService) (apart : eventsOf [.login] later = []) :
    Obtained account credential (events ++ later) := by
  obtain ⟨before, password, logins⟩ := obtained
  exact ⟨before, password, by simp [logins, apart]⟩

/-- A login that succeeds answers with the credential. -/
theorem path_login {password : String}
    (path : (Work.login account password).Path events (.ok credential)) :
    Obtained account credential events := by
  rw [path_perform_iff.1 path]
  exact ⟨[], password, rfl⟩

theorem path_loginByPrompt {prompts : Nat}
    (path : (loginByPrompt account prompts).Path events (.ok credential)) :
    Obtained account credential events := by
  induction prompts generalizing events with
  | zero => exact absurd path not_path_error
  | succ prompts ih =>
      obtain ⟨asking, later, answer, rfl, -, path⟩ := path_bind_iff.1 path
      cases answer with
      | none => exact absurd path not_path_error
      | some password =>
          obtain ⟨trying, rest, outcome, rfl, tried, path⟩ := path_bind_iff.1 path
          cases outcome with
          | ok other =>
              obtain ⟨rfl, same⟩ := path_pure_iff.1 path
              cases same
              exact ((path_login tried).before [] rfl).after
          | error fault =>
              cases fault with
              | badCredentials username =>
                  obtain ⟨warning, following, _, rfl, -, path⟩ := path_bind_iff.1 path
                  exact (ih path).after.after.after
              | transport fault => exact absurd path not_path_error

theorem path_obtainCredential {means : LoginMeans} {password : Option String}
    (path : (obtainCredential means account password).Path events (.ok credential)) :
    Obtained account credential events := by
  unfold obtainCredential at path
  cases password with
  | some password =>
      obtain ⟨trying, rest, tried, rfl, login, path⟩ := path_bind_iff.1 path
      obtain ⟨rfl, same⟩ := path_pure_iff.1 path
      rw [Result.mapError_eq_ok.1 same.symm] at login
      exact (path_login login).before [] rfl
  | none =>
      cases prompts : means.prompts with
      | none =>
          rw [prompts] at path
          exact absurd path not_path_error
      | some prompts =>
          rw [prompts] at path
          exact path_loginByPrompt path

/-- The session of a fresh login has the credential of the last login. -/
theorem path_logIn {means : LoginMeans} {password : Option String} {session : Session}
    (path : (logIn means account password).Path events (.ok session)) :
    ∃ credential, session = .loggedIn account credential ∧
      Obtained account credential events := by
  obtain ⟨obtaining, later, outcome, rfl, obtained, path⟩ := path_bind_iff.1 path
  cases outcome with
  | error fault => exact absurd path not_path_error
  | ok credential =>
      obtain ⟨informing, rest, _, rfl, informed, path⟩ := path_bind_iff.1 path
      obtain ⟨rfl, same⟩ := path_pure_iff.1 path
      rw [path_perform_iff.1 informed]
      exact ⟨credential, Except.ok.inj same, (path_obtainCredential obtained).before _ rfl⟩

/-- A message has one answer only. -/
theorem answer_eq_of_message {deed : Act retrievalService} (message : deed.kind = .message)
    (first second : deed.Answer) : first = second := by
  cases deed with
  | log level text => rfl
  | call request => cases request <;> cases message
  | _ => cases message

/-- What a login comes to depends on the logins and the questions alone. -/
theorem play_eq_of_sameDialogue {α : Type} {program : Work α}
    (within : program.Within ActKind.loggingIn) (same : world.SameDialogue other)
    {past past' : Journal retrievalService}
    (equal : eventsOf ActKind.dialogue past = eventsOf ActKind.dialogue past') :
    (program.play world past).1 = (program.play other past').1 ∧
      eventsOf ActKind.dialogue (program.play world past).2 =
        eventsOf ActKind.dialogue (program.play other past').2 := by
  -- The pasts differ in what is not said, so only what was said is carried along.
  induction within generalizing past past' with
  | done result => exact ⟨rfl, rfl⟩
  | @act deed next fine _ ih =>
      have answered : world past deed = other past' deed := by
        by_cases spoken : deed.kind ∈ ActKind.dialogue
        · exact same past past' deed spoken equal
        · have message : deed.kind = .message := by
            simp_all [ActKind.dialogue, ActKind.loggingIn]
          exact answer_eq_of_message message _ _
      have here : world.event past deed = other.event past' deed := congrArg (Event.mk deed) answered
      have together : eventsOf ActKind.dialogue (past ++ [world.event past deed]) =
          eventsOf ActKind.dialogue (past' ++ [other.event past' deed]) := by
        simp [equal, here]
      have later := ih (world past deed) together
      rw [play_act, play_act, ← answered]
      refine ⟨later.1, ?_⟩
      rw [eventsOf_cons, eventsOf_cons, later.2, here]

end LoggingIn

section Establishing

variable {means : LoginMeans} {password path : Option String}

/-- A session that is resumed is established. -/
theorem play_establishFor_resumed {session : Session}
    (resolved : means.environment.resolvePath account path = .ok file)
    (resumed : ((resume account file path.isSome).play world past).1 = some session) :
    (establishFor means account password path).play world past =
      (.ok session, ((resume account file path.isSome).play world past).2) := by
  unfold establishFor
  rw [resolved]
  simp only
  rw [play_bind, resumed]
  simp only [Program.play_pure, List.append_nil]

/-- There is a fresh login when no session is resumed. -/
theorem play_establishFor_fresh
    (resolved : means.environment.resolvePath account path = .ok file)
    (nothing : ((resume account file path.isSome).play world past).1 = none) :
    let resuming := ((resume account file path.isSome).play world past).2
    let login := (logIn means account password).play world (past ++ resuming)
    (establishFor means account password path).play world past =
      (login.1, resuming ++ login.2) := by
  unfold establishFor
  rw [resolved]
  simp only
  rw [play_bind, nothing]

/-- Without a place for the file there is no session. -/
theorem play_establishFor_error {fault : StorageError}
    (unresolved : means.environment.resolvePath account path = .error fault) :
    (establishFor means account password path).play world past =
      (.error (.storage fault), []) := by
  unfold establishFor
  rw [unresolved]
  rfl

/-- An established session is resumed or comes from a login. -/
theorem proven_of_play {session : Session}
    (reached : ((establishFor means account password path).play world []).1 = .ok session) :
    ∃ file credential, means.environment.resolvePath account path = .ok file ∧
      session = .loggedIn account credential ∧
      (Resumed account file credential
          ((establishFor means account password path).play world []).2 ∨
        Obtained account credential
          ((establishFor means account password path).play world []).2) := by
  cases resolved : means.environment.resolvePath account path with
  | error fault =>
      rw [play_establishFor_error resolved] at reached
      contradiction
  | ok file =>
      cases resumed : ((resume account file path.isSome).play world []).1 with
      | some other =>
          rw [play_establishFor_resumed resolved resumed] at reached ⊢
          obtain ⟨credential, same, proven⟩ := resumed_of_play resumed
          exact ⟨file, credential, rfl, (Except.ok.inj reached).symm.trans same, .inl proven⟩
      | none =>
          rw [play_establishFor_fresh resolved resumed] at reached ⊢
          simp only at reached
          have login := path_play world (logIn means account password)
            ([] ++ ((resume account file path.isSome).play world []).2)
          rw [reached] at login
          obtain ⟨credential, same, obtained⟩ := path_logIn login
          exact ⟨file, credential, rfl, same, .inr obtained.after⟩

/-- Where no session is resumed, the course depends on the logins and the questions alone. -/
theorem play_establishFor_eq
    (resolved : means.environment.resolvePath account path = .ok file)
    (nothing : ((resume account file path.isSome).play world []).1 = none)
    (nothing' : ((resume account file path.isSome).play other []).1 = none)
    (same : world.SameDialogue other) :
    ((establishFor means account password path).play world []).1 =
        ((establishFor means account password path).play other []).1 ∧
      eventsOf ActKind.dialogue ((establishFor means account password path).play world []).2 =
        eventsOf ActKind.dialogue ((establishFor means account password path).play other []).2 := by
  have silent (either : World retrievalService) : eventsOf ActKind.dialogue
      ((resume account file path.isSome).play either []).2 = [] :=
    (within_resume account file path.isSome).eventsOf_play (by decide) either []
  rw [play_establishFor_fresh resolved nothing, play_establishFor_fresh resolved nothing']
  simp only [eventsOf_append, silent, List.nil_append]
  exact play_eq_of_sameDialogue (within_logIn means account password) same
    ((silent world).trans (silent other).symm)

end Establishing

/-- An established session has a credential that is proven to be the account's: the one in the
session file, when the service tells so and nobody logs in, or the answer of the last login. A file
of no use changes neither the logins, nor the questions, nor the outcome. -/
theorem established_credential_is_proven (means : LoginMeans) (account : String)
    (password path : Option String) (world : World retrievalService) :
    let course := (establish means account password path).play world []
    (∀ session, course.1 = .ok session → ∃ file credential,
      means.environment.resolvePath (Text.lower account) path = .ok file ∧
      session = .loggedIn (Text.lower account) credential ∧
      (Resumed (Text.lower account) file credential course.2 ∨
        Obtained (Text.lower account) credential course.2)) ∧
    ∀ file other, means.environment.resolvePath (Text.lower account) path = .ok file →
      Unusable world file (Text.lower account) →
      (∃ reason, other [] (.readText file) = .error (.missing reason)) →
      world.SameDialogue other →
      let fresh := (establish means account password path).play other []
      course.1 = fresh.1 ∧
        eventsOf ActKind.dialogue course.2 = eventsOf ActKind.dialogue fresh.2 := by
  constructor
  · exact fun session reached => proven_of_play reached
  · rintro file other resolved unusable ⟨reason, missing⟩ same
    have absent : ((resume (Text.lower account) file path.isSome).play other []).1 = none := by
      apply play_resume_none
      intro stored owner read
      rw [missing] at read
      cases read
    exact play_establishFor_eq resolved (play_resume_none unusable) absent same

/-- A file with the credential of somebody else does not keep its owner from logging in. -/
theorem established_credential_is_proven_foreign :
    let means : LoginMeans := ⟨⟨none, none, none⟩, none⟩
    let foreign := World.steady (.ok (StoredSession.mk "alice" "stale").toText) (some "bob") "fresh"
    let empty := World.steady (.error (.missing "nothing there")) (some "bob") "fresh"
    let course := (establish means "Alice" (some "secret") (some "session")).play foreign []
    let fresh := (establish means "Alice" (some "secret") (some "session")).play empty []
    course.1 = .ok (.loggedIn (Text.lower "Alice") "fresh") ∧
      (Resumed (Text.lower "Alice") "session" "fresh" course.2 ∨
        Obtained (Text.lower "Alice") "fresh" course.2) ∧
      course.1 = fresh.1 ∧
      eventsOf ActKind.dialogue course.2 = eventsOf ActKind.dialogue fresh.2 := by
  intro means foreign empty course fresh
  have unusable : Unusable foreign "session" (Text.lower "Alice") := by
    intro stored owner read answered
    have other : owner = "bob" := (Option.some.inj (Except.ok.inj answered)).symm
    rw [other]
    decide
  have nothing : ((resume (Text.lower "Alice") "session" true).play foreign []).1 = none :=
    play_resume_none unusable
  have reached : course.1 = .ok (.loggedIn (Text.lower "Alice") "fresh") := by
    have played : course = _ := play_establishFor_fresh rfl nothing
    rw [played]
    rfl
  obtain ⟨proven, alike⟩ := established_credential_is_proven means "Alice" (some "secret")
    (some "session") foreign
  obtain ⟨file, credential, resolved, same, known⟩ := proven _ reached
  cases resolved
  cases same
  have spoken : foreign.SameDialogue empty := by
    intro past past' deed dialogue _
    simp only [ActKind.dialogue, List.mem_cons, List.not_mem_nil, or_false] at dialogue
    cases deed with
    | call request =>
        cases request with
        | login username password => rfl
        | _ => simp [Act.kind] at dialogue
    | askPassword username => rfl
    | _ => simp [Act.kind] at dialogue
  exact ⟨reached, known, alike "session" empty rfl unusable ⟨_, rfl⟩ spoken⟩

end Session

end Harvest
