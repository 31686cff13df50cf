import Harvest.Files.Tree
import Harvest.Proofs.Result

/-!
Files are found again. A new entry at a place that is no folder turns no walk aside, because every
step of a walk starts from a folder; so the path that led to the place before leads to it still.
-/

namespace Harvest.FileTree

variable {tree : FileTree} {place : Place} {entry : Entry} {path : String}

theorem entryAt_setEntry (deep : place ≠ []) :
    (tree.setEntry place entry).entryAt place = some entry := by
  rw [entryAt, if_neg deep]
  exact List.lookup_cons_self

theorem entryAt_setEntry_of_ne {other : Place} (apart : other ≠ place) :
    (tree.setEntry place entry).entryAt other = tree.entryAt other := by
  have missed : (other == place) = false := beq_eq_false_iff_ne.2 apart
  simp only [entryAt, setEntry, List.lookup_cons, missed]

/-- A step that can be taken does not start at a place without a folder. -/
theorem step_setEntry {start next : Place} {name : String}
    (noFolder : tree.entryAt place ≠ some .folder) (taken : tree.step start name = .ok next) :
    (tree.setEntry place entry).step start name = .ok next := by
  -- Nobody steps from a place without a folder, so the step starts beside the new entry.
  have apart : start ≠ place := by
    rintro rfl
    unfold step at taken
    split at taken
    · contradiction
    · contradiction
    · next folder => exact noFolder folder
  rw [← taken, step, step, entryAt_setEntry_of_ne apart]

theorem walk_setEntry {start goal : Place} {names : List String}
    (noFolder : tree.entryAt place ≠ some .folder) (walked : tree.walk start names = .ok goal) :
    (tree.setEntry place entry).walk start names = .ok goal := by
  induction names generalizing start with
  | nil => exact walked
  | cons name rest ih =>
      obtain ⟨next, taken, walked⟩ := Result.bind_eq_ok.1 walked
      exact Result.bind_eq_ok.2 ⟨next, step_setEntry noFolder taken, ih walked⟩

/-- A path leads where it led before an entry other than a folder changed. -/
theorem locate_setEntry {goal : Place} (noFolder : tree.entryAt place ≠ some .folder)
    (located : tree.locate path = .ok goal) :
    (tree.setEntry place entry).locate path = .ok goal := by
  obtain ⟨⟨start, names⟩, routed, walked⟩ := Result.bind_eq_ok.1 located
  exact Result.bind_eq_ok.2 ⟨⟨start, names⟩, routed, walk_setEntry noFolder walked⟩

/-- A file is put at the place of its path, where no folder stands. -/
theorem putFile_ok {file : StoredFile} (succeeded : (tree.putFile path file).2 = .ok ()) :
    ∃ place, tree.locate path = .ok place ∧ tree.entryAt place ≠ some .folder ∧
      (tree.putFile path file).1 = tree.setEntry place (.file file) := by
  unfold putFile at succeeded ⊢
  split at succeeded
  · contradiction
  · next place located =>
      rw [located]
      refine ⟨place, rfl, ?_⟩
      split at succeeded
      · contradiction
      · next noFolder => exact ⟨noFolder, rfl⟩

/-- A file that was put at a path is found there. -/
theorem fileAt_putFile {file : StoredFile} (succeeded : (tree.putFile path file).2 = .ok ()) :
    (tree.putFile path file).1.fileAt path = .ok file := by
  obtain ⟨place, located, noFolder, put⟩ := putFile_ok succeeded
  have deep : place ≠ [] := by
    rintro rfl
    exact noFolder rfl
  rw [put, fileAt, locate_setEntry noFolder located, Result.ok_bind, entryAt_setEntry deep]

/-- A file that was stored at a path is found there. -/
theorem fileAt_storeFile {file : StoredFile} (succeeded : (tree.storeFile path file).2 = .ok ()) :
    (tree.storeFile path file).1.fileAt path = .ok file := by
  unfold storeFile at succeeded ⊢
  split at succeeded
  · exact fileAt_putFile succeeded
  · exact fileAt_putFile succeeded
  · split at succeeded
    · contradiction
    · exact fileAt_putFile succeeded

/-- What was written for its owner is all that the file holds, and nobody else may read it,
whatever was there before. -/
theorem fileAt_writePrivate {contents : String}
    (succeeded : (tree.writePrivate path contents).2 = .ok ()) :
    (tree.writePrivate path contents).1.fileAt path = .ok ⟨.text contents, privateMode⟩ :=
  fileAt_storeFile (Result.mapError_eq_ok.1 succeeded)

/-- A file that holds text is read. -/
theorem readText_of_fileAt {contents : String} {mode : Nat}
    (found : tree.fileAt path = .ok ⟨.text contents, mode⟩) : tree.readText path = .ok contents := by
  rw [readText, found]

end Harvest.FileTree
