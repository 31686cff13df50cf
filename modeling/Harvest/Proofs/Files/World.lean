import Harvest.Proofs.Files.Tree
import Harvest.Proofs.Journal

/-!
Worlds with files. A tree of files answers what programs ask of files, as the writes before have
left it; everything else is up to the world around it.
-/

namespace Harvest

variable {α : Type}

/-- What an act leaves of a tree. Only a write changes it, and one that fails may do so too. -/
def FileTree.changedBy (tree : FileTree) : Act retrievalService → FileTree
  | .writePrivate path contents => (tree.writePrivate path contents).1
  | _ => tree

/-- What is left of a tree after some events. -/
def FileTree.after (tree : FileTree) (events : Journal retrievalService) : FileTree :=
  events.foldl (fun left event => left.changedBy event.deed) tree

/-- A world whose files are those of a tree. -/
def World.onTree (world : World retrievalService) (tree : FileTree) : World retrievalService :=
  fun past deed =>
    match deed with
    | .probeFile path => (tree.after past).isFile path
    | .readText path => (tree.after past).readText path
    | .writePrivate path contents => ((tree.after past).writePrivate path contents).2
    | other => world past other

namespace FileTree

variable {tree : FileTree}

theorem after_append (tree : FileTree) (before events : Journal retrievalService) :
    tree.after (before ++ events) = (tree.after before).after events :=
  List.foldl_append

/-- Whoever writes nothing leaves a tree alone. -/
theorem after_eq_self {events : Journal retrievalService}
    (unwritten : eventsOf [.writing] events = []) : tree.after events = tree := by
  induction events with
  | nil => rfl
  | cons event rest ih =>
      rw [eventsOf_cons] at unwritten
      split at unwritten
      · contradiction
      · next other =>
          have same : tree.changedBy event.deed = tree := by
            obtain ⟨deed, answer⟩ := event
            cases deed with
            | writePrivate path contents => exact absurd (List.mem_singleton.2 rfl) other
            | _ => rfl
          change (tree.changedBy event.deed).after rest = tree
          rw [same, ih unwritten]

end FileTree

/-- A write that succeeds in the course of a program, with no other write around it, leaves its
contents and nothing else in the file, for its owner alone. -/
theorem fileAt_after_play {world : World retrievalService} {tree : FileTree} {program : Work α}
    {before messages : Journal retrievalService} {path contents : String}
    (played : (program.play (world.onTree tree) []).2 =
      before ++ ⟨.writePrivate path contents, .ok ()⟩ :: messages)
    (only : eventsOf [.writing] (program.play (world.onTree tree) []).2 =
      [⟨.writePrivate path contents, .ok ()⟩]) :
    (tree.after (program.play (world.onTree tree) []).2).fileAt path =
      .ok ⟨.text contents, FileTree.privateMode⟩ := by
  have writing : (Act.writePrivate path contents).kind ∈ [ActKind.writing] :=
    List.mem_singleton.2 rfl
  have around : eventsOf [.writing] before = [] ∧ eventsOf [.writing] messages = [] := by
    rw [played, eventsOf_append, eventsOf_cons, if_pos writing] at only
    have size := congrArg List.length only
    simp only [List.length_append, List.length_cons, List.length_nil] at size
    exact ⟨List.length_eq_zero_iff.1 (by omega), List.length_eq_zero_iff.1 (by omega)⟩
  have answered := Program.answered_of_play played
  have succeeded : (tree.writePrivate path contents).2 = .ok () := by
    have kept : ((tree.after ([] ++ before)).writePrivate path contents).2 = .ok () :=
      answered.symm
    rwa [List.nil_append, FileTree.after_eq_self around.1] at kept
  have left : tree.after (program.play (world.onTree tree) []).2 =
      (tree.writePrivate path contents).1 := by
    rw [played, FileTree.after_append, FileTree.after_eq_self around.1]
    exact FileTree.after_eq_self around.2
  rw [left]
  exact FileTree.fileAt_writePrivate succeeded

end Harvest
