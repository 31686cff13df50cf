import Harvest.Proofs.Http.Absence
import Harvest.Run.Basic

/-!
The anonymous fallback over HTTP. A download of an account is repeated anonymously for a request
that is answered with 404, be it a lookup of the account or a save.
-/

namespace Harvest

open Http (Access FetchEnding Misses Request Response SavesFound Settings Unmissed answering
  exchanges overHttp requestsOf)
open Program (path_bind_iff path_play path_pure_iff)

namespace RunSettings

/-- The first download of an account, under the credential of the run. -/
def firstDownload (settings : RunSettings) (service : Settings) (account : String) :
    Http.Fetch Tally :=
  Access.profile ⟨service, settings.retriever.credential⟩ account settings.filters
    settings.options.profile

/-- The anonymous download of an account, which leaves its stories out. -/
def anonymousDownload (settings : RunSettings) (service : Settings) (account : String) :
    Http.Fetch Tally :=
  Access.profile ⟨service, none⟩ account settings.filters
    { settings.options.profile with stories := false }

/-- The message in front of the anonymous download. -/
def fallbackMessage (what : String) : String :=
  let fault := RetrieveError.notFound what
  s!"{fault.message}, trying again anonymously, helps in case you are just blocked."

/-- What a run does for an account over HTTP, with what an absence may be about. -/
inductive Downloads (settings : RunSettings) (service : Settings) (account : String)
    (about : Request → String → Prop) :
    Journal exchanges → Except RetrieveError Tally → Prop where
  /-- One download. If the run is logged in, it misses nothing. -/
  | once {events : Journal exchanges} {outcome : Except RetrieveError Tally}
      (download : (settings.firstDownload service account).run.Path events outcome)
      (unmissed : settings.retriever.isLoggedIn = true → Unmissed events) :
      Downloads settings service account about events outcome
  /-- A download under a login that ends with a request that is missed, a message, and an anonymous
  download. -/
  | again {before later : Journal exchanges} {event : Event exchanges} {request : Request}
      {what : String} {outcome : Except RetrieveError Tally}
      (loggedIn : settings.retriever.isLoggedIn = true)
      (download : (settings.firstDownload service account).run.Path (before ++ [event])
        (.error (.notFound what)))
      (unmissed : Unmissed before) (misses : Misses event request)
      (absence : about request what)
      (anonymous : (settings.anonymousDownload service account).run.Path later outcome) :
      Downloads settings service account about
        (before ++ [event] ++ ⟨.log .warn (fallbackMessage what), ()⟩ :: later) outcome

variable {settings : RunSettings} {service : Settings} {account : String}

/-- A download under a login is repeated for what it misses. -/
theorem downloads_of_overHttp {events : Journal exchanges} {outcome : Except RetrieveError Tally}
    (path : (overHttp service (settings.downloadAccount account)).Path events outcome) :
    settings.Downloads service account
      (Access.Absence ⟨service, settings.retriever.credential⟩ account) events outcome := by
  obtain ⟨before, after, first, rfl, download, following⟩ := path_bind_iff.1 path
  have ending := Access.tells_profile account settings.filters settings.options.profile before first
    download
  cases first with
  | ok tally =>
      obtain ⟨rfl, rfl⟩ := path_pure_iff.1 following
      rw [List.append_nil]
      cases ending with
      | present unmissed _ => exact .once download fun _ => unmissed
  | error fault =>
      simp only [Program.andThen] at following
      split at following
      · next again =>
          obtain ⟨hidden, loggedIn⟩ := Bool.and_eq_true_iff.1 again
          cases ending with
          | present _ found =>
              cases fault with
              | notFound what => exact absurd rfl (found what)
              | _ => contradiction
          | absent unmissed misses absence =>
              cases following with
              | act answer rest =>
                  -- The anonymous copy is made and closed without an event of its own.
                  obtain ⟨copying, following, _, rfl, copied, path⟩ := path_bind_iff.1 rest
                  obtain ⟨later, closing, _, rfl, anonymous, closed⟩ := path_bind_iff.1 path
                  obtain ⟨rfl, -⟩ := path_pure_iff.1 copied
                  obtain ⟨rfl, rfl⟩ := path_pure_iff.1 closed
                  rw [List.append_nil]
                  exact .again loggedIn download unmissed misses absence anonymous
      · next single =>
          obtain ⟨rfl, rfl⟩ := path_pure_iff.1 following
          rw [List.append_nil]
          refine .once download fun loggedIn => ?_
          cases ending with
          | present unmissed _ => exact unmissed
          | absent _ _ _ => simp [RetrieveError.isNotFound, loggedIn] at single

/-- What an absence is about may be told in other terms. -/
theorem Downloads.imp {about other : Request → String → Prop} {events : Journal exchanges}
    {outcome : Except RetrieveError Tally}
    (downloads : settings.Downloads service account about events outcome)
    (widen : ∀ event ∈ events, ∀ request what, Misses event request → about request what →
      other request what) : settings.Downloads service account other events outcome := by
  cases downloads with
  | once download unmissed => exact .once download unmissed
  | again loggedIn download unmissed misses absence anonymous =>
      refine .again loggedIn download unmissed misses (widen _ ?_ _ _ misses absence) anonymous
      exact List.mem_append_left _ List.mem_concat_self

/-- The download of an account tells of an absence exactly for an answer of 404, which ends it: for
one to a lookup the account is named, and for one to a save its route. In a run either of them leads
to an anonymous download, if the run is logged in, and nothing else does. As long as all saves are
found, both go by the account alone. -/
theorem absences_are_missed_requests (service : Settings) (account : String)
    (world : World exchanges) (past : Journal exchanges) :
    (∀ credential filters options,
      let access : Access := ⟨service, credential⟩
      let course := (access.profile account filters options).run.play world past
      FetchEnding (access.Absence account) course.2 course.1 ∧
        ((∃ what, course.1 = .error (.notFound what)) ↔ ¬Unmissed course.2) ∧
        (SavesFound course.2 → FetchEnding (access.Missing account) course.2 course.1)) ∧
    ∀ settings : RunSettings,
      let access : Access := ⟨service, settings.retriever.credential⟩
      let course := (overHttp service (settings.downloadAccount account)).play world past
      settings.Downloads service account (access.Absence account) course.2 course.1 ∧
        (SavesFound course.2 →
          settings.Downloads service account (access.Missing account) course.2 course.1) := by
  constructor
  · intro credential filters options access course
    have ending : FetchEnding (access.Absence account) course.2 course.1 :=
      Access.tells_profile account filters options _ _ (path_play world _ past)
    refine ⟨ending, ending.notFound_iff, fun found => ending.imp ?_⟩
    intro event inside request what misses absence
    exact absence.missing (found event inside request misses)
  · intro settings access course
    have downloads :
        settings.Downloads service account (access.Absence account) course.2 course.1 :=
      downloads_of_overHttp (path_play world _ past)
    refine ⟨downloads, fun found => downloads.imp ?_⟩
    intro event inside request what misses absence
    exact absence.missing (found event inside request misses)

/-- A run under a login that fetches the picture of each account. -/
def pictureRun : RunSettings :=
  ⟨.ofCredential (some "token"), .none, ⟨.unlimited, ⟨true, false, false, false⟩⟩⟩

/-- A service that shows an account to everyone but those who are logged in. -/
def concealing (request : Request) : Response :=
  if request.method = .post then ⟨200, .text "[true]"⟩
  else if request.session.isSome then ⟨404, .text ""⟩
  else ⟨200, .text "[\"alice\"]"⟩

/-- An account that is hidden from a login is downloaded anonymously. -/
theorem absences_are_missed_requests_concealed :
    let service := Settings.usual Http.sampleEndpoint
    let access : Access := ⟨service, some "token"⟩
    let course :=
      (overHttp service (pictureRun.downloadAccount "alice")).play (answering concealing) []
    SavesFound course.2 ∧ course.1.toOption = some ⟨1, 0, 0⟩ ∧
      pictureRun.Downloads service "alice" (access.Missing "alice") course.2 course.1 := by
  intro service access course
  have found : SavesFound course.2 := by
    intro event inside request misses posts
    have missed := Http.status_of_misses inside misses
    simp [concealing, posts] at missed
  have downloads :=
    (absences_are_missed_requests service "alice" (answering concealing) []).2 pictureRun
  exact ⟨found, by decide +kernel, downloads.2 found⟩

/-- A service that shows every account and lacks the routes that save something. -/
def routeless (request : Request) : Response :=
  if request.method = .post then ⟨404, .text ""⟩ else ⟨200, .text "[\"alice\"]"⟩

/-- A save that is not found is told as an absence although the account is there, and the account is
downloaded anonymously for it. -/
theorem missed_save_starts_over :
    let service := Settings.usual Http.sampleEndpoint
    let access : Access := ⟨service, some "token"⟩
    let download := (access.profile "alice" pictureRun.filters pictureRun.options.profile).run.play
      (answering routeless) []
    let course :=
      (overHttp service (pictureRun.downloadAccount "alice")).play (answering routeless) []
    download.1 = .error (.notFound "downloads/profile-pic") ∧
      (∀ event ∈ download.2, ∀ request, Misses event request →
        ¬access.LooksUp "alice" request) ∧
      (requestsOf course.2).map (fun request => (request.method, request.session)) =
        [(.get, some "token"), (.post, some "token"), (.get, none), (.post, none)] := by
  intro service access download course
  refine ⟨Http.faultOf?_eq_some.1 (by decide +kernel), ?_, by decide +kernel⟩
  rintro event inside request misses ⟨path, -, sends⟩
  have missed := Http.status_of_misses inside misses
  simp [routeless, sends.method_eq] at missed

end RunSettings

end Harvest
