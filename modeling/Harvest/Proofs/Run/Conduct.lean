import Harvest.Proofs.Run.Course

/-!
What a run may do. A run neither logs in nor writes a file: it asks the service on behalf of its
retriever or, when that is logged in, of an anonymous copy. Its targets do not even make the copy,
and they leave the downloads of accounts alone.
-/

namespace Harvest

/-- Whether a request is the download of an account. -/
def Retrieval.isProfile : Retrieval → Bool
  | .profile _ _ _ => true
  | _ => false

namespace RunSettings

/-- What the targets of a run may do: requests of its retriever, but no download of an account. -/
def PermitsTarget (settings : RunSettings) : Act retrievalService → Prop
  | .call (.retrieve retriever retrieval) =>
    retriever = settings.retriever ∧ retrieval.isProfile = false
  | .probeFile _ | .readText _ | .log _ _ => True
  | _ => False

/-- What a run may do: requests of its retriever and, when that is logged in, an anonymous copy
and requests of it. -/
def Permits (settings : RunSettings) : Act retrievalService → Prop
  | .call (.copyAnonymously retriever) =>
    retriever = settings.retriever ∧ settings.retriever.isLoggedIn = true
  | .call (.retrieve retriever _) => retriever = settings.retriever ∨
    retriever = Retriever.anonymousCopy ∧ settings.retriever.isLoggedIn = true
  | .pollInterrupt | .probeFile _ | .readText _ | .log _ _ => True
  | _ => False

variable {settings : RunSettings}

theorem PermitsTarget.permits (deed : Act retrievalService) (fine : settings.PermitsTarget deed) :
    settings.Permits deed := by
  cases deed with
  | call request =>
      cases request with
      | retrieve retriever retrieval => exact .inl fine.1
      | _ => contradiction
  | probeFile _ | readText _ | log _ _ => trivial
  | _ => contradiction

/-- Only who is logged in makes a copy. -/
theorem Permits.loggedIn_of_copying {deed : Act retrievalService} (fine : settings.Permits deed)
    (copying : deed.kind = .copying) : settings.retriever.isLoggedIn = true := by
  cases deed with
  | call request =>
      cases request with
      | copyAnonymously retriever => exact fine.2
      | _ => cases copying
  | _ => cases copying

theorem allowsTargets_permitsTarget : settings.AllowsTargets settings.PermitsTarget where
  message _ _ := trivial
  probe _ := trivial
  posts _ := ⟨rfl, rfl⟩
  stories := ⟨rfl, rfl⟩
  followees _ := ⟨rfl, rfl⟩

theorem allowsAccounts_permits : settings.AllowsAccounts settings.Permits where
  message _ _ := trivial
  poll := trivial
  profile _ := .inl rfl
  copy loggedIn := ⟨rfl, loggedIn⟩
  again loggedIn _ := .inr ⟨rfl, loggedIn⟩

theorem allowsItems_permitsTarget :
    settings.AllowsItems (fun _ => True) settings.PermitsTarget where
  read _ := trivial
  post _ _ _ _ := ⟨rfl, rfl⟩
  storyItem _ _ _ _ := ⟨rfl, rfl⟩

/-- A target is handled by what is permitted for targets. -/
theorem only_handleTarget (raw : String) (accounts : AccountSet) :
    (settings.handleTarget raw accounts).Only settings.PermitsTarget :=
  (complies_handleTarget allowsTargets_permitsTarget allowsItems_permitsTarget
    (fun _ _ _ _ _ => trivial) raw accounts).only

/-- A run does what is permitted and nothing else. -/
theorem only_run (targets : List String) : (settings.run targets).Only settings.Permits := by
  have target (raw : String) (accounts : AccountSet) :
      (settings.handleTarget raw accounts).Complies (fun _ _ => True) settings.Permits
        fun _ => True :=
    ((only_handleTarget raw accounts).imp PermitsTarget.permits).complies
  exact (complies_run allowsAccounts_permits target targets).only

end RunSettings

end Harvest
