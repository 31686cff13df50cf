import Harvest.Target.Basic
import Mathlib.Data.List.DropRight

/-!
How raw targets are classified. The slashes at the end of a raw target count for nothing, and an
account is named by what is left.
-/

namespace Harvest.Target

theorem stripped_eq (raw : String) :
    stripped raw = String.ofList (raw.toList.rdropWhile (· == '/')) := rfl

/-- Slashes behind a stripped text leave it as it is. -/
theorem stripped_slashes (raw : String) (slashes : Nat) :
    stripped (stripped raw ++ String.ofList (List.replicate slashes '/')) = stripped raw := by
  simp only [stripped_eq, String.toList_append, String.toList_ofList]
  congr 1
  induction slashes with
  | zero =>
      rw [List.replicate_zero, List.append_nil]
      exact List.rdropWhile_idempotent _ _
  | succ slashes ih =>
      rw [List.replicate_succ', ← List.append_assoc, List.rdropWhile_concat_pos _ _ _ (by decide)]
      exact ih

theorem stripped_stripped (raw : String) : stripped (stripped raw) = stripped raw := by
  simpa using stripped_slashes raw 0

/-- A text is its stripped text with slashes behind it. -/
theorem eq_stripped_append (raw : String) :
    ∃ slashes, raw = stripped raw ++ String.ofList (List.replicate slashes '/') := by
  have slashes : raw.toList.rtakeWhile (· == '/') =
      List.replicate (raw.toList.rtakeWhile (· == '/')).length '/' := by
    apply List.eq_replicate_of_mem
    intro character inside
    simpa using List.mem_rtakeWhile_imp inside
  refine ⟨(raw.toList.rtakeWhile (· == '/')).length, ?_⟩
  rw [← slashes, stripped_eq, ← String.ofList_append, List.rdropWhile_append_rtakeWhile,
    String.ofList_toList]

/-- A text is classified without its slashes. -/
theorem classify_eq_of_stripped {raw other : String} (same : stripped raw = stripped other)
    (isFile : String → Bool) : classify isFile raw = classify isFile other := by
  unfold classify classifyIn
  rw [same]

/-- What a text without slashes is classified as is written as that text. -/
theorem text_ofStripped (isFile : String → Bool) (text : String) :
    (Id.run (ofStripped (fun path => pure (isFile path)) text)).text = text := by
  have sigil {first : Char} {name : List Char} (same : text.toList = first :: name) :
      String.ofList [first] ++ String.ofList name = text := by
    rw [← String.ofList_append, ← String.ofList_toList (s := text), same]
    rfl
  unfold ofStripped
  split
  · next same => exact sigil same
  · next same => exact sigil same
  · split
    · next feed => exact feed.symm
    · split
      · next stories => exact stories.symm
      · split
        · next saved => exact saved.symm
        · split
          · cases found : isFile text <;> simp only [pure_bind, found] <;> rfl
          · rfl

theorem text_classify (isFile : String → Bool) (raw : String) :
    (classify isFile raw).text = stripped raw :=
  text_ofStripped isFile (stripped raw)

/-- An account is named by the text without its slashes. -/
theorem stripped_of_classify {isFile : String → Bool} {raw name : String}
    (classified : classify isFile raw = .account name) : stripped raw = name := by
  rw [← text_classify isFile raw, classified]
  rfl

end Harvest.Target
