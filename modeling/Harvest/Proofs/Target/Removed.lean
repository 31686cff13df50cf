import Harvest.Proofs.Run.Batch
import Harvest.Proofs.Target.Classification

/-!
Removed targets. A batch refuses a list that spells one out before it does anything. The check goes
by the text as it is given and the classification by the text without its slashes, so a removed
target with slashes behind it passes the check and counts as an account.
-/

namespace Harvest

namespace Target

/-- A list passes the check when it spells out no removed target. -/
theorem firstRemoved?_eq_none_iff {targets : List String} :
    firstRemoved? targets = none ↔ ∀ raw ∈ targets, raw ∉ removed := by
  simp [firstRemoved?]

/-- The names of removed targets have no slashes at their end. -/
theorem stripped_of_mem_removed {name : String} (inside : name ∈ removed) :
    stripped name = name := by
  have all : ∀ name ∈ removed, stripped name = name := by decide
  exact all name inside

/-- The text of a removed target counts as an account, whatever files there are. -/
theorem classify_eq_account_of_removed {name : String} (inside : name ∈ removed)
    (isFile : String → Bool) : classify isFile name = .account name := by
  simp only [removed, List.mem_cons, List.not_mem_nil, or_false] at inside
  rcases inside with rfl | rfl <;> rfl

/-- A raw target counts as an account with the name of a removed one exactly when it is that name
with any number of slashes behind it. -/
theorem classify_eq_removed_iff {isFile : String → Bool} {raw name : String}
    (inside : name ∈ removed) :
    classify isFile raw = .account name ↔
      ∃ slashes, raw = name ++ String.ofList (List.replicate slashes '/') := by
  have whole := stripped_of_mem_removed inside
  constructor
  · intro classified
    obtain ⟨slashes, same⟩ := eq_stripped_append raw
    rw [stripped_of_classify classified] at same
    exact ⟨slashes, same⟩
  · rintro ⟨slashes, rfl⟩
    have same := stripped_slashes name slashes
    rw [whole] at same
    rw [classify_eq_of_stripped (same.trans whole.symm)]
    exact classify_eq_account_of_removed inside isFile

/-- In a list that passes the check, only slashes let a removed target through. -/
theorem classify_eq_removed_iff_of_checked {targets : List String}
    (checked : firstRemoved? targets = none) {raw name : String} (listed : raw ∈ targets)
    (inside : name ∈ removed) (isFile : String → Bool) :
    classify isFile raw = .account name ↔
      ∃ slashes, raw = name ++ String.ofList (List.replicate (slashes + 1) '/') := by
  rw [classify_eq_removed_iff inside]
  constructor
  · rintro ⟨slashes, same⟩
    cases slashes with
    | zero =>
        have spelled : raw = name := by simpa using same
        exact absurd (spelled ▸ inside) (firstRemoved?_eq_none_iff.1 checked raw listed)
    | succ slashes => exact ⟨slashes, same⟩
  · rintro ⟨slashes, same⟩
    exact ⟨slashes + 1, same⟩

end Target

namespace BatchConfig

open Target (classify firstRemoved? removed)

/-- A batch whose list spells out a removed target ends before anything happens. In a list without
one, a removed target counts as an account only with slashes behind it. -/
theorem removed_targets_are_refused (config : BatchConfig) :
    (∀ target, firstRemoved? config.targets = some target →
      ∀ means world past, (config.run means).play world past = (.error (.removedTarget target), [])) ∧
    (firstRemoved? config.targets = none ↔ ∀ raw ∈ config.targets, raw ∉ removed) ∧
    (firstRemoved? config.targets = none →
      ∀ isFile, ∀ raw ∈ config.targets, ∀ name ∈ removed,
        classify isFile raw = .account name ↔
          ∃ slashes, raw = name ++ String.ofList (List.replicate (slashes + 1) '/')) := by
  refine ⟨?_, Target.firstRemoved?_eq_none_iff, ?_⟩
  · intro target found means world past
    have checked : config.check = .error (.removedTarget target) := by
      rw [check, found]
    exact play_run_of_check checked past
  · intro checked isFile raw listed name inside
    exact Target.classify_eq_removed_iff_of_checked checked listed inside isFile

/-- A removed target behind an account ends a batch, and two slashes bring it through the check. -/
theorem removed_targets_are_refused_liked :
    let options : RunOptions := ⟨.unlimited, .usual⟩
    let refused : BatchConfig := ⟨["alice", ":feed-liked"], some "bob", none, none, none, none, options⟩
    let passing : BatchConfig :=
      ⟨["alice", ":feed-liked//"], some "bob", none, none, none, none, options⟩
    let world := World.steady (.error (.missing "nothing there")) (some "bob") "fresh"
    (refused.run ⟨⟨none, none, none⟩, some 1⟩).play world [] =
        (.error (.removedTarget ":feed-liked"), []) ∧
      firstRemoved? passing.targets = none ∧
      classify (fun _ => true) ":feed-liked//" = .account ":feed-liked" := by
  intro options refused passing world
  have checked : firstRemoved? passing.targets = none := by decide
  refine ⟨(removed_targets_are_refused refused).1 ":feed-liked" (by decide) _ world [], checked, ?_⟩
  exact ((removed_targets_are_refused passing).2.2 checked (fun _ => true) ":feed-liked//"
    (by decide) ":feed-liked" (by decide)).2 ⟨1, by decide⟩

/-- The accounts that are downloaded, in order. -/
def accountsDownloaded (events : Journal retrievalService) : List String :=
  events.filterMap fun event =>
    match event.deed with
    | .call (.retrieve _ (.profile account _ _)) => some account
    | _ => none

/-- A removed target with a slash passes the check, counts as an account whatever files there are,
and is downloaded as one. -/
theorem removed_target_passes_with_slash :
    let config : BatchConfig :=
      ⟨[":feed-all/"], none, none, none, none, none, ⟨.unlimited, .usual⟩⟩
    let world := World.steady (.error (.missing "nothing there")) none "fresh"
    firstRemoved? config.targets = none ∧
      (∀ isFile, classify isFile ":feed-all/" = .account ":feed-all") ∧
      accountsDownloaded ((config.run ⟨⟨none, none, none⟩, none⟩).play world []).2 = [":feed-all"] ∧
      ¬∀ targets isFile, firstRemoved? targets = none →
        ∀ raw ∈ targets, ∀ name ∈ removed, classify isFile raw ≠ .account name := by
  intro config world
  have checked : firstRemoved? config.targets = none := by decide
  have classified (isFile : String → Bool) : classify isFile ":feed-all/" = .account ":feed-all" :=
    (Target.classify_eq_removed_iff (by decide)).2 ⟨1, by decide⟩
  refine ⟨checked, classified, by decide +kernel, fun never => ?_⟩
  exact never _ (fun _ => false) checked ":feed-all/" (by decide) ":feed-all" (by decide)
    (classified _)

end BatchConfig

end Harvest
