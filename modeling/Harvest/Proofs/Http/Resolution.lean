import Harvest.Proofs.Filter.Resolution
import Harvest.Proofs.Http.Fault

/-!
Requests with fitting filters never come to a fault for want of an attribute or because of the
kind of an item, whatever the service answers.
-/

namespace Harvest

open Harvest.Filter (Filters)

/-- A retrieval fault that passes such a fault of a filter on. -/
def RetrieveError.isUnresolved : RetrieveError → Bool
  | .filter _ fault => fault.isUnresolved
  | _ => false

/-- A retrieval that comes to no such fault. -/
def Retrieved {α : Type} (result : Except RetrieveError α) : Prop :=
  ∀ fault, result = .error fault → fault.isUnresolved = false

section Retrieved

variable {α β : Type}

theorem Retrieved.ok (value : α) : Retrieved (.ok value) := Faults.ok value

theorem Retrieved.error {fault : RetrieveError} (resolved : fault.isUnresolved = false) :
    Retrieved (.error fault : Except RetrieveError α) := Faults.error resolved

theorem retrieved_map {result : Except RetrieveError α} {convert : α → β} :
    Retrieved (result.map convert) ↔ Retrieved result := faults_map

end Retrieved

/-- The filters of a retrieval fit the items that it fetches. -/
def Retrieval.Fits : Retrieval → Prop
  | .posts _ filter _ => ∀ predicate ∈ filter, predicate.Fits .post
  | .stories filter _ => ∀ predicate ∈ filter, predicate.Fits .storyItem
  | .profile _ filters _ => filters.Fit
  | _ => True

/-- A retrieval with fitting filters is answered without such a fault. -/
def ServiceCall.Kept : (request : ServiceCall) → request.Answer → Prop
  | .retrieve _ retrieval, answer => retrieval.Fits → Retrieved (retrieval.outcome answer)
  | _, _ => True

namespace Retrieval

variable {retrieval : Retrieval} {credential : Option String} {fault : RetrieveError}

theorem Fits.filters_fit (fits : retrieval.Fits) : retrieval.filters.Fit := by
  cases retrieval with
  | posts listing filter options => exact ⟨fits, nofun⟩
  | stories filter options => exact ⟨nofun, fits⟩
  | profile account filters options => exact fits
  | _ => exact ⟨nofun, nofun⟩

/-- Filters that fit do not fail like that, and nothing else does. -/
theorem MayFail.isUnresolved_eq_false (fails : retrieval.MayFail credential fault)
    (fits : retrieval.Fits) : fault.isUnresolved = false := by
  cases fails with
  | request ofRequest => cases ofRequest <;> rfl
  | @post post reason failed =>
      exact Filter.resolved_passes fits.filters_fit.post (.post post) reason failed
  | @storyItem item reason failed =>
      exact Filter.resolved_passes fits.filters_fit.storyItem (.storyItem item) reason failed
  | refused _ _ => rfl

end Retrieval

/-- Every call of the retrieval service is answered as it should be. -/
theorem Http.always_carryOut (settings : Settings) (request : ServiceCall) :
    (carryOut settings request).Always request.Kept := by
  cases request with
  | retrieve retriever retrieval =>
      exact (Access.always_carryOut ⟨settings, retriever.credential⟩ retrieval).imp
        fun _ faults fits fault failed => (faults fault failed).isUnresolved_eq_false fits
  | _ => exact Program.ensures_true _

end Harvest
