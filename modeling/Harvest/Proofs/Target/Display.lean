import Harvest.Proofs.Target.Classification

/-!
Targets as they are written. A classified target is written as its raw text without the slashes at
the end, so nothing else of a raw target is lost, and what is written is classified as before.
-/

namespace Harvest.Target

/-- What a target asks for, apart from any name. -/
inductive Variant where
  | followees
  | tag
  | feed
  | stories
  | saved
  | descriptorFile
  | account
  deriving DecidableEq

/-- What a target asks for. -/
def variant : Target → Variant
  | .followees _ => .followees
  | .tag _ => .tag
  | .feed => .feed
  | .stories => .stories
  | .saved => .saved
  | .descriptorFile _ => .descriptorFile
  | .account _ => .account

/-- A text is another one without the slashes at its end. -/
structure IsStrippedOf (raw text : String) : Prop where
  slashes : ∃ count, raw = text ++ String.ofList (List.replicate count '/')
  noSlash : text.toList.getLast? ≠ some '/'

/-- A text names a descriptor file: nothing that goes first claims it, it has a suffix of saved
items, and there is a file of that name. -/
structure NamesDescriptor (isFile : String → Bool) (text : String) : Prop where
  noSigil : ∀ sigil ∈ ['@', '#'], text.toList.head? ≠ some sigil
  notSpecial : text ∉ [":feed", ":stories", ":saved"]
  suffix : ∃ suffix ∈ [".json", ".json.xz"], suffix.toList <:+ text.toList
  isFile : isFile text = true

/-! ## Texts without slashes -/

section Stripped

variable {raw text : String}

theorem stripped_eq_self_iff : stripped text = text ↔ text.toList.getLast? ≠ some '/' := by
  rw [stripped_eq, ← String.toList_inj, String.toList_ofList, List.rdropWhile_eq_self_iff]
  constructor
  · intro last ends
    obtain ⟨before, split⟩ := List.getLast?_eq_some_iff.1 ends
    exact last (by simp [split]) (by simp [split])
  · intro noSlash inhabited isSlash
    apply noSlash
    rw [List.getLast?_eq_some_getLast inhabited]
    exact congrArg some (by simpa using isSlash)

/-- A text has one form without slashes. -/
theorem stripped_eq_iff : stripped raw = text ↔ IsStrippedOf raw text := by
  constructor
  · rintro rfl
    exact ⟨eq_stripped_append raw, stripped_eq_self_iff.1 (stripped_stripped raw)⟩
  · rintro ⟨⟨count, rfl⟩, noSlash⟩
    have whole := stripped_eq_self_iff.2 noSlash
    have same := stripped_slashes text count
    rwa [whole] at same

end Stripped

/-! ## Descriptor files -/

theorem hasDescriptorSuffix_iff {text : String} : hasDescriptorSuffix text = true ↔
    ∃ suffix ∈ [".json", ".json.xz"], suffix.toList <:+ text.toList := by
  have ends (suffix characters : List Char) :
      endsWith suffix characters = true ↔ suffix <:+ characters := by
    rw [endsWith, List.isPrefixOf_iff_prefix, List.reverse_prefix]
  simp [hasDescriptorSuffix, ends]

section OfStripped

variable {isFile : String → Bool} {text path : String}

/-- A text behind a sigil names no file. -/
theorem ofStripped_ne_descriptorFile {sigil : Char} (isSigil : sigil ∈ ['@', '#'])
    (starts : text.toList.head? = some sigil) :
    Id.run (ofStripped (fun path => pure (isFile path)) text) ≠ .descriptorFile path := by
  obtain ⟨name, same⟩ := List.head?_eq_some_iff.1 starts
  unfold ofStripped
  rw [same]
  simp only [List.mem_cons, List.not_mem_nil, or_false] at isSigil
  rcases isSigil with rfl | rfl <;> exact nofun

/-- A text without a sigil is a special listing, a descriptor file or an account. -/
theorem ofStripped_of_noSigil (noSigil : ∀ sigil ∈ ['@', '#'], text.toList.head? ≠ some sigil) :
    Id.run (ofStripped (fun path => pure (isFile path)) text) =
      if text = ":feed" then .feed
      else if text = ":stories" then .stories
      else if text = ":saved" then .saved
      else if hasDescriptorSuffix text = true ∧ isFile text = true then .descriptorFile text
      else .account text := by
  unfold ofStripped
  split
  · next same => exact absurd (congrArg List.head? same) (noSigil '@' (by decide))
  · next same => exact absurd (congrArg List.head? same) (noSigil '#' (by decide))
  · simp only [apply_ite Id.run, pure_bind]
    cases hasDescriptorSuffix text <;> cases isFile text <;> rfl

/-- A descriptor file is what nothing else claims. -/
theorem ofStripped_eq_descriptorFile_iff :
    Id.run (ofStripped (fun path => pure (isFile path)) text) = .descriptorFile path ↔
      path = text ∧ NamesDescriptor isFile text := by
  by_cases noSigil : ∀ sigil ∈ ['@', '#'], text.toList.head? ≠ some sigil
  · have names : NamesDescriptor isFile text ↔
        text ∉ [":feed", ":stories", ":saved"] ∧ hasDescriptorSuffix text = true ∧
          isFile text = true := by
      rw [hasDescriptorSuffix_iff]
      exact ⟨fun names => ⟨names.notSpecial, names.suffix, names.isFile⟩,
        fun ⟨notSpecial, suffix, found⟩ => ⟨noSigil, notSpecial, suffix, found⟩⟩
    rw [ofStripped_of_noSigil noSigil, names]
    split_ifs with feed stories saved found
    · simp [feed]
    · simp [stories]
    · simp [saved]
    · constructor
      · rintro ⟨⟩
        exact ⟨rfl, by simp [feed, stories, saved], found⟩
      · exact fun named => congrArg _ named.1.symm
    · constructor
      · rintro ⟨⟩
      · exact fun named => absurd named.2.2 found
  · constructor
    · intro classified
      simp only [not_forall, not_not] at noSigil
      obtain ⟨sigil, isSigil, starts⟩ := noSigil
      exact absurd classified (ofStripped_ne_descriptorFile isSigil starts)
    · exact fun ⟨_, names⟩ => absurd names.noSigil noSigil

end OfStripped

/-- Whatever files there are, a target is written as its raw text without the slashes at the end,
and what is written is classified alike. So two raw texts ask for the same exactly when they differ
in those slashes only, and a descriptor file is what nothing else claims. -/
theorem classification_keeps_text (isFile : String → Bool) :
    (∀ raw text, (classify isFile raw).text = text ↔ IsStrippedOf raw text) ∧
    (∀ raw, classify isFile (classify isFile raw).text = classify isFile raw) ∧
    (∀ raw other,
      (classify isFile raw).variant = (classify isFile other).variant ∧
          (classify isFile raw).text = (classify isFile other).text ↔
        ∃ text, IsStrippedOf raw text ∧ IsStrippedOf other text) ∧
    ∀ raw path, classify isFile raw = .descriptorFile path ↔
      IsStrippedOf raw path ∧ NamesDescriptor isFile path := by
  refine ⟨?_, ?_, ?_, ?_⟩
  · intro raw text
    rw [text_classify, stripped_eq_iff]
  · intro raw
    rw [text_classify]
    exact classify_eq_of_stripped (stripped_stripped raw) isFile
  · intro raw other
    simp only [text_classify, ← stripped_eq_iff]
    constructor
    · exact fun same => ⟨stripped other, same.2, rfl⟩
    · rintro ⟨text, rfl, same⟩
      exact ⟨congrArg variant (classify_eq_of_stripped same.symm isFile), same.symm⟩
  · intro raw path
    rw [← stripped_eq_iff]
    constructor
    · intro classified
      obtain ⟨rfl, names⟩ := ofStripped_eq_descriptorFile_iff.1 classified
      exact ⟨rfl, names⟩
    · rintro ⟨rfl, names⟩
      exact ofStripped_eq_descriptorFile_iff.2 ⟨rfl, names⟩

/-- Slashes behind a file's name lead to the file, and a sigil in front of it does not. -/
example :
    classify (fun _ => true) "a/b.json//" = .descriptorFile "a/b.json" ∧
      classify (fun _ => true) "#b.json" = .tag "b.json" ∧
      classify (fun _ => true) "///" = .account "" := by
  decide

end Harvest.Target
