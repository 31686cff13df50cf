import Harvest.Proofs.Item.Caption
import Mathlib.Data.List.DropRight

/-!
Which mentions of a caption are read. An account name ends in a word character and has no at sign
within, so a name that is read hides no mention behind it. All mentions are read, each with the
longest name that stands there.
-/

namespace Harvest

namespace Caption

/-- Word characters and dots make up account names. -/
def isNamePart (character : Char) : Bool :=
  Text.isWord character || character == '.'

/-- An account name: at most thirty word characters and dots, a word character last. -/
structure IsAccountName (name : List Char) : Prop where
  short : name.length ≤ 30
  inside : ∀ character ∈ name, isNamePart character = true
  ends : ∃ last, name.getLast? = some last ∧ Text.isWord last = true

/-- A text starts with a name, and with no longer one. -/
structure StartsWithName (characters name : List Char) : Prop where
  starts : name <+: characters
  named : IsAccountName name
  longest : ∀ other, other <+: characters → IsAccountName other → other.length ≤ name.length

/-- A mention is an at sign in front of a word character. The text starts with it, or another
character than a word character stands before it. -/
def MentionAt (text : List Char) (position : Nat) : Prop :=
  text[position]? = some '@' ∧
    (position = 0 ∨ text[position - 1]?.any (fun before => !Text.isWord before) = true) ∧
    text[position + 1]?.any Text.isWord = true

instance (text : List Char) : DecidablePred (MentionAt text) := fun _ =>
  inferInstanceAs (Decidable (_ ∧ _ ∧ _))

/-- All mentions of a text. -/
def mentionPositions (text : List Char) : List Nat :=
  (List.range text.length).filter (MentionAt text)

/-- A name stands behind a position. -/
def NameAt (text : List Char) (position : Nat) (name : List Char) : Prop :=
  StartsWithName (text.drop (position + 1)) name

section Names

variable {characters first second : List Char}

/-- There is one longest name. -/
theorem StartsWithName.unique (starts : StartsWithName characters first)
    (others : StartsWithName characters second) : first = second := by
  have shorter := others.longest first starts.starts starts.named
  have longer := starts.longest second others.starts others.named
  exact (List.prefix_of_prefix_length_le starts.starts others.starts shorter).eq_of_length_le longer

/-- What ends in a word character goes no further than the last word character of a text. -/
theorem length_le_rdropWhile (starts : first <+: characters) {last : Char}
    (ends : first.getLast? = some last) (word : Text.isWord last = true) :
    first.length ≤ (characters.rdropWhile fun character => !Text.isWord character).length := by
  induction characters using List.reverseRecOn with
  | nil => exact starts.length_le
  | append_singleton initial final ih =>
      by_cases isWord : Text.isWord final = true
      · rw [List.rdropWhile_concat_neg _ _ _ (by simp [isWord])]
        exact starts.length_le
      · rw [List.rdropWhile_concat_pos _ _ _ (by simp [isWord])]
        rcases List.prefix_concat_iff.1 starts with rfl | earlier
        · rw [List.getLast?_concat, Option.some.injEq] at ends
          exact absurd (ends ▸ word) isWord
        · exact ih earlier

/-- An account name with which a text starts is within the run from which names are cut. -/
theorem IsAccountName.starts_run (named : IsAccountName first) (starts : first <+: characters) :
    first <+: (characters.take 30).takeWhile isNamePart := by
  have within : first <+: characters.take 30 := List.prefix_take_iff.2 ⟨starts, named.short⟩
  have whole : first.takeWhile isNamePart = first :=
    List.takeWhile_eq_self_iff.2 named.inside
  obtain ⟨rest, same⟩ := within
  rw [← same, List.takeWhile_append, whole, if_pos rfl]
  exact List.prefix_append first _

/-- A name is read in front of a word character, and it is the longest one there. -/
theorem startsWithName_accountName {head : Char} {rest : List Char}
    (word : Text.isWord head = true) :
    StartsWithName (head :: rest) (accountName (head :: rest)) := by
  have part : isNamePart head = true := by simp [isNamePart, word]
  let run := ((head :: rest).take 30).takeWhile isNamePart
  have cut : accountName (head :: rest) =
      run.rdropWhile fun character => !Text.isWord character := by
    simp only [accountName, List.head?_cons, Option.map_some, Option.getD_some, word, if_true]
    rfl
  have inside : head ∈ run := by
    simp [run, part]
  have within : run <+: head :: rest := (List.takeWhile_prefix _).trans (List.take_prefix _ _)
  have kept : (run.rdropWhile fun character => !Text.isWord character) <+: run :=
    List.rdropWhile_prefix _ _
  have nonempty : run.rdropWhile (fun character => !Text.isWord character) ≠ [] := by
    intro empty
    have none := List.rdropWhile_eq_nil_iff.1 empty head inside
    simp [word] at none
  rw [cut]
  refine ⟨kept.trans within, ⟨?_, ?_, _, List.getLast?_eq_some_getLast nonempty, ?_⟩, ?_⟩
  · have short : run.length ≤ _ := (List.takeWhile_prefix _).length_le
    exact kept.length_le.trans (short.trans (List.length_take_le _ _))
  · exact fun character read => List.mem_takeWhile_imp (kept.subset read)
  · simpa using List.rdropWhile_last_not _ _ nonempty
  · intro other starts named
    obtain ⟨last, ends, word⟩ := named.ends
    exact length_le_rdropWhile (named.starts_run starts) ends word

/-- No name is read elsewhere. -/
theorem accountName_eq_nil (apart : characters.head?.any Text.isWord = false) :
    accountName characters = [] := by
  cases characters with
  | nil => rfl
  | cons head rest => simp [accountName, show Text.isWord head = false from apart]

end Names

section Mentions

variable {text : List Char} {positions : List Nat} {position : Nat}

/-- The name that is read at a mention stands there. -/
theorem MentionAt.nameAt (mentioned : MentionAt text position) :
    NameAt text position (mention.nameBehind text position) := by
  have ahead := mentioned.2.2
  rw [← List.head?_drop] at ahead
  unfold NameAt Pattern.nameBehind
  cases behind : text.drop (position + 1) with
  | nil => simp [behind] at ahead
  | cons head rest =>
      rw [behind] at ahead
      exact startsWithName_accountName ahead

/-- A position is led in at the start of a text or by the character before it. -/
theorem Pattern.led_iff {pattern : Pattern} :
    pattern.Led true text position ↔
      position = 0 ∨ text[position - 1]?.any pattern.leads = true := by
  cases position with
  | zero => exact iff_of_true rfl (.inl rfl)
  | succ before =>
      rw [Led, Nat.add_sub_cancel, ← Option.any_eq_true]
      exact (or_iff_right (Nat.succ_ne_zero before)).symm

/-- A name is read at each mention and nowhere else. -/
theorem occurs_mention_iff : mention.Occurs true text position ↔ MentionAt text position := by
  constructor
  · rintro ⟨sigil, led, named⟩
    refine ⟨sigil, Pattern.led_iff.1 led, ?_⟩
    by_contra apart
    rw [Bool.not_eq_true, ← List.head?_drop] at apart
    exact named (accountName_eq_nil apart)
  · intro mentioned
    obtain ⟨last, ends, -⟩ := mentioned.nameAt.named.ends
    exact ⟨mentioned.1, Pattern.led_iff.2 mentioned.2.1,
      List.ne_nil_of_mem (List.mem_of_getLast? ends)⟩

theorem mem_mentionPositions : position ∈ mentionPositions text ↔ MentionAt text position := by
  simp only [mentionPositions, List.mem_filter, List.mem_range, decide_eq_true_eq,
    and_iff_right_iff_imp]
  exact fun mentioned => (List.getElem?_eq_some_iff.1 mentioned.1).1

/-- A name stands in the text behind its at sign. -/
theorem NameAt.getElem? {name : List Char} {index : Nat} {character : Char}
    (starts : NameAt text position name)
    (here : name[index]? = some character) : text[position + 1 + index]? = some character := by
  obtain ⟨rest, same⟩ := starts.starts
  have inside := (List.getElem?_eq_some_iff.1 here).1
  rw [← List.getElem?_drop, ← same, List.getElem?_append_left inside, here]

/-- A mention behind another one comes after the end of its name: there is no at sign in a name,
and the word character at the end of a name leads no mention in. -/
theorem MentionAt.endOf_lt {earlier : Nat} (mentioned : MentionAt text position)
    (before : MentionAt text earlier) (behind : earlier < position) :
    mention.endOf text earlier < position := by
  have starts := before.nameAt
  obtain ⟨last, ends, word⟩ := starts.named.ends
  refine Nat.lt_of_not_le fun within => ?_
  rw [Pattern.endOf] at within
  obtain ⟨index, rfl⟩ : ∃ index, position = earlier + 1 + index :=
    ⟨position - earlier - 1, by omega⟩
  rcases Nat.lt_or_eq_of_le (Nat.le_of_add_le_add_left within) with inside | atEnd
  · have here := starts.getElem? (List.getElem?_eq_getElem inside)
    have same := Option.some.inj (mentioned.1.symm.trans here)
    have part := starts.named.inside _ (List.getElem_mem inside)
    rw [← same] at part
    exact absurd part (by decide +kernel)
  · have nonempty := List.length_pos_of_mem (List.mem_of_getLast? ends)
    rw [List.getLast?_eq_getElem?] at ends
    have here := starts.getElem? ends
    have place : earlier + 1 + index - 1 =
        earlier + 1 + ((mention.nameBehind text earlier).length - 1) := by omega
    rcases mentioned.2.1 with first | apart
    · omega
    · simp [place, here, word] at apart

/-- All mentions are read. -/
theorem eq_mentionPositions_of_reads (reads : mention.Reads true text positions) :
    positions = mentionPositions text := by
  refine reads.ascending.eq_of_mem_iff (List.pairwise_lt_range.filter _) fun position => ?_
  rw [reads.mem_iff, occurs_mention_iff]
  constructor
  · exact fun read => mem_mentionPositions.2 read.1
  · intro inside
    have mentioned := mem_mentionPositions.1 inside
    refine ⟨mentioned, fun earlier read behind => ?_⟩
    exact mentioned.endOf_lt (occurs_mention_iff.1 ((reads.mem_iff earlier).1 read).1) behind

end Mentions

end Caption

namespace Post

/-- A post without a caption has the names of an empty one. -/
theorem captionNames_eq (post : Post) (pattern : Caption.Pattern) :
    post.captionNames pattern = pattern.names (post.caption.getD "") := by
  unfold captionNames
  cases post.caption with
  | some contents => rfl
  | none => simp [Caption.Pattern.names, Caption.Pattern.namesFrom]

/-- The mentions that filters read of a post are all mentions of its caption in order. Each is shown
in lower case as the longest account name that stands there. -/
theorem caption_mentions_are_exact (post : Post) :
    let text := (post.caption.getD "").toList
    ∃ names,
      (∀ others, List.Forall₂ (Caption.NameAt text) (Caption.mentionPositions text) others ↔
        others = names) ∧
      post.captionNames Caption.mention =
        names.map (fun name => Text.lower (String.ofList name)) ∧
      post.attribute? "caption_mentions" =
        some (.texts (post.captionNames Caption.mention)) := by
  intro text
  obtain ⟨positions, reads, read⟩ := Caption.mention.exists_reads true text
  obtain rfl := Caption.eq_mentionPositions_of_reads reads
  have named : List.Forall₂ (Caption.NameAt text) (Caption.mentionPositions text)
      ((Caption.mentionPositions text).map (Caption.mention.nameBehind text)) := by
    refine List.forall₂_map_right_iff.2 (List.forall₂_same.2 fun position inside => ?_)
    exact (Caption.mem_mentionPositions.1 inside).nameAt
  refine ⟨_, fun others => ⟨fun found => ?_, fun same => same ▸ named⟩, ?_, rfl⟩
  · exact List.right_unique_forall₂' (fun _ _ _ first second => first.unique second) found named
  · rw [captionNames_eq, Caption.Pattern.names, read]

end Post

end Harvest
