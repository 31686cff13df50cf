import Harvest.Proofs.Files.World
import Harvest.Proofs.Run.Batch

/-!
Saved sessions are used again. A batch that ends well leaves the session of its login in its file,
and the next one finds it there: as long as the service tells that the credential is the account's,
nobody logs in.
-/

namespace Harvest.BatchConfig

open Harvest.Filter (Filters)

/-- A batch goes by a saved session: it asks once whose the credential is, nobody logs in or is
asked for a password, and the work is done with that credential. -/
structure Reuses (credential : String) (events : Journal retrievalService) : Prop where
  validated_once : ∃ owner,
    eventsOf [.validation] events = [⟨.call (.whoami credential), .ok (some owner)⟩]
  silent : eventsOf ActKind.dialogue events = []
  opened_once : eventsOf [.opening] events = [⟨.call (.openRetriever (some credential)), ()⟩]
  works_with : ∀ event ∈ events, ∀ retriever retrieval,
    event.deed = .call (.retrieve retriever retrieval) →
    retriever = Retriever.ofCredential (some credential) ∨ retriever = Retriever.anonymousCopy

variable {config : BatchConfig} {means : LoginMeans} {world : World retrievalService}
  {tree : FileTree} {account file : String}

/-- A batch with a login that ends well leaves its session in its file. -/
theorem saved_of_play {report : Report} (requested : config.login = some account)
    (ended : ((config.run means).play (world.onTree tree) []).1 = .ok report) :
    ∃ filters file credential, config.check = .ok filters ∧
      means.environment.resolvePath (Text.lower account) config.sessionFile = .ok file ∧
      eventsOf [.opening] ((config.run means).play (world.onTree tree) []).2 =
        [⟨.call (.openRetriever (some credential)), ()⟩] ∧
      (tree.after ((config.run means).play (world.onTree tree) []).2).fileAt file =
        .ok ⟨.text (StoredSession.mk (Text.lower account) credential).toText,
          FileTree.privateMode⟩ := by
  obtain ⟨filters, session, told, loop, writes, messages, checked, works⟩ := works_of_ok ended
  have kept := works.kept
  -- Of the ways to keep a session only the write that succeeds ends well after a login.
  cases kept with
  | anonymous unrequested =>
      rw [requested] at unrequested
      contradiction
  | @saved other credential file same resolved =>
      cases requested.symm.trans same
      have played : ((config.run means).play (world.onTree tree) []).2 =
          (((config.openSession means).play (world.onTree tree) []).2 ++
            ⟨.call (.openRetriever (some credential)), ()⟩ :: loop) ++
          ⟨.writePrivate file (StoredSession.mk (Text.lower account) credential).toText,
            .ok ()⟩ :: messages := by
        rw [works.events_eq]
        simp [Session.credential?]
      exact ⟨filters, file, credential, checked, resolved, works.opened_once,
        fileAt_after_play played works.written_once⟩

/-- A session in the file of an account is used when the service tells that its credential is the
account's. -/
theorem reuses_of_fileAt {filters : Filters} {stored : StoredSession} {mode : Nat}
    (checked : config.check = .ok filters) (requested : config.login = some account)
    (resolved : means.environment.resolvePath (Text.lower account) config.sessionFile = .ok file)
    (found : tree.fileAt file = .ok ⟨.text stored.toText, mode⟩)
    (confirmed : ∀ past, ∃ owner, world past (.call (.whoami stored.credential)) = .ok (some owner) ∧
      Session.sameName owner (Text.lower account) = true) :
    Reuses stored.credential ((config.run means).play (world.onTree tree) []).2 := by
  have read : StoredSession.ofRead (world.onTree tree [] (.readText file)) = .ok (some stored) := by
    have answer : world.onTree tree [] (.readText file) = .ok stored.toText :=
      FileTree.readText_of_fileAt found
    rw [answer, StoredSession.ofRead_toText]
  -- To open the session takes a look at the file and one question for the owner.
  let look := (world.onTree tree).event [] (.readText file)
  obtain ⟨owner, answered, same⟩ := confirmed [look]
  obtain ⟨message, resumed⟩ : ∃ message,
      (Session.resume (Text.lower account) file config.sessionFile.isSome).play
        (world.onTree tree) [] = (some (.loggedIn (Text.lower account) stored.credential),
          [look, ⟨.call (.whoami stored.credential), .ok (some owner)⟩, ⟨.log .info message, ()⟩]) := by
    rw [← answered]
    exact Session.play_resume read answered same
  have opened : (config.openSession means).play (world.onTree tree) [] =
      (.ok (.loggedIn (Text.lower account) stored.credential),
        [look, ⟨.call (.whoami stored.credential), .ok (some owner)⟩,
          ⟨.log .info message, ()⟩]) := by
    rw [openSession_of_login requested, Session.establish,
      Session.play_establishFor_resumed resolved (congrArg Prod.fst resumed), resumed]
  obtain ⟨report, loop, writes, messages, works⟩ :=
    works_of_play checked (congrArg Prod.fst opened)
  rw [opened] at works
  constructor
  · exact ⟨owner, works.eventsOf_eq (by decide)⟩
  · exact works.eventsOf_eq (by decide)
  · exact works.opened_once
  · intro event inside retriever retrieval asked
    have permitted := works.loop_permits event (works.mem_loop inside (congrArg Act.kind asked))
    rw [asked] at permitted
    exact permitted.imp_right And.left

/-- A saved session is found and used again. A batch with a login that ends well leaves the account
in lower case and the credential in use in the session file, for its owner alone, whatever was there
before. A later batch without a password reads them back, asks the service once whose the credential
is, and works with it, as long as the answer is the account. -/
theorem saved_session_is_reused (config : BatchConfig) (means : LoginMeans) (account : String)
    (requested : config.login = some account) (world : World retrievalService) (tree : FileTree)
    (report : Report) :
    let course := (config.run means).play (world.onTree tree) []
    let left := tree.after course.2
    course.1 = .ok report →
    ∃ file credential,
      means.environment.resolvePath (Text.lower account) config.sessionFile = .ok file ∧
      eventsOf [.opening] course.2 = [⟨.call (.openRetriever (some credential)), ()⟩] ∧
      left.fileAt file = .ok ⟨.text (StoredSession.mk (Text.lower account) credential).toText,
        FileTree.privateMode⟩ ∧
      ∀ later : World retrievalService,
        ((StoredSession.load file).play (later.onTree left) []).1 =
          .ok (some ⟨Text.lower account, credential⟩) ∧
        ∀ again : LoginMeans,
          config.sessionFile.isSome ∨ again.environment = means.environment →
          (∀ past, ∃ owner, later past (.call (.whoami credential)) = .ok (some owner) ∧
            Session.sameName owner (Text.lower account) = true) →
          Reuses credential
            (({ config with password := none }.run again).play (later.onTree left) []).2 := by
  intro course left ended
  obtain ⟨filters, file, credential, checked, resolved, opened, found⟩ :=
    saved_of_play requested ended
  refine ⟨file, credential, resolved, opened, found, fun later => ⟨?_, ?_⟩⟩
  · have read : later.onTree left [] (.readText file) =
        .ok (StoredSession.mk (Text.lower account) credential).toText :=
      FileTree.readText_of_fileAt found
    rw [Session.play_load, read, StoredSession.ofRead_toText]
  · intro again unchanged confirmed
    have resolvedAgain :
        again.environment.resolvePath (Text.lower account) config.sessionFile = .ok file := by
      rcases unchanged with explicit | same
      · obtain ⟨path, given⟩ := Option.isSome_iff_exists.1 explicit
        rw [given] at resolved ⊢
        exact resolved
      · rw [same]
        exact resolved
    have checkedAgain : ({ config with password := none } : BatchConfig).check = .ok filters :=
      checked
    exact reuses_of_fileAt checkedAgain requested resolvedAgain found confirmed

/-- A fresh login is saved, and the next batch gets by without the password. -/
theorem saved_session_is_reused_fresh :
    let config : BatchConfig := ⟨[], some "Alice", some "secret", some "session", none, none,
      ⟨BulkOptions.unlimited, ProfileOptions.usual⟩⟩
    let means : LoginMeans := ⟨⟨none, none, none⟩, none⟩
    let world := World.steady (.error (.missing "nothing there")) (some "ALICE") "fresh"
    let course := (config.run means).play (world.onTree FileTree.empty) []
    let left := FileTree.empty.after course.2
    course.1 = .ok Report.empty ∧
      left.fileAt "session" = .ok ⟨.text (StoredSession.mk (Text.lower "Alice") "fresh").toText,
        FileTree.privateMode⟩ ∧
      Reuses "fresh" (({ config with password := none }.run means).play (world.onTree left) []).2 := by
  intro config means world course left
  have ended : course.1 = .ok Report.empty := rfl
  have works : eventsOf [.opening] course.2 =
      [⟨.call (.openRetriever (some "fresh")), ()⟩] := rfl
  obtain ⟨file, credential, resolved, opened, found, reused⟩ :=
    saved_session_is_reused config means "Alice" rfl world FileTree.empty Report.empty ended
  cases resolved
  cases works.symm.trans opened
  have confirmed (past : Journal retrievalService) :
      ∃ owner, world past (.call (.whoami "fresh")) = .ok (some owner) ∧
        Session.sameName owner (Text.lower "Alice") = true :=
    ⟨"ALICE", rfl, by decide⟩
  exact ⟨ended, found, (reused world).2 means (.inl rfl) confirmed⟩

end Harvest.BatchConfig
