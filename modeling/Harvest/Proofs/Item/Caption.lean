import Harvest.Item.Post
import Mathlib.Data.List.Sort
import Mathlib.Data.List.TakeWhile

/-!
Which names of a caption are read. A name is read at its sigil when what leads the sigil in is
behind the names read before. A hashtag that stands directly behind one that is read is therefore
not read itself, and every other hashtag is.
-/

namespace Harvest

namespace Caption

namespace Pattern

variable {pattern : Pattern} {atStart : Bool} {text : List Char}

/-- The name behind a position. -/
def nameBehind (pattern : Pattern) (text : List Char) (position : Nat) : List Char :=
  pattern.name (text.drop (position + 1))

/-- Where the name behind a position ends. -/
def endOf (pattern : Pattern) (text : List Char) (position : Nat) : Nat :=
  position + 1 + (pattern.nameBehind text position).length

/-- A position is led in by the character before it. What stands before the text tells whether its
first character is led in. -/
def Led (pattern : Pattern) (atStart : Bool) (text : List Char) : Nat → Prop
  | 0 => atStart = true
  | before + 1 => ∃ lead, text[before]? = some lead ∧ pattern.leads lead = true

/-- The sigil at a position is led in and has a name behind it. -/
structure Occurs (pattern : Pattern) (atStart : Bool) (text : List Char) (position : Nat) :
    Prop where
  sigil : text[position]? = some pattern.sigil
  led : pattern.Led atStart text position
  named : pattern.nameBehind text position ≠ []

/-- The positions at which names are read: the occurrences that come after the end of each name
read before them. -/
structure Reads (pattern : Pattern) (atStart : Bool) (text : List Char) (positions : List Nat) :
    Prop where
  ascending : positions.Pairwise (· < ·)
  mem_iff : ∀ position, position ∈ positions ↔ pattern.Occurs atStart text position ∧
    ∀ earlier ∈ positions, earlier < position → pattern.endOf text earlier < position

theorem not_occurs_zero : ¬pattern.Occurs false text 0 :=
  fun occurs => Bool.false_ne_true occurs.led

theorem not_occurs_nil {position : Nat} : ¬pattern.Occurs atStart [] position := by
  intro occurs
  simpa using occurs.sigil

theorem nameBehind_drop (width position : Nat) :
    pattern.nameBehind (text.drop width) position = pattern.nameBehind text (position + width) := by
  rw [nameBehind, nameBehind, List.drop_drop]
  congr 2
  omega

theorem endOf_drop (width position : Nat) :
    pattern.endOf (text.drop width) position + width = pattern.endOf text (position + width) := by
  rw [endOf, endOf, nameBehind_drop]
  omega

/-- Behind the first character, what occurs in a rest of a text occurs in the text. -/
theorem occurs_drop (width before : Nat) :
    pattern.Occurs false (text.drop width) (before + 1) ↔
      pattern.Occurs atStart text (before + 1 + width) := by
  have shifted : before + 1 + width = before + width + 1 := by omega
  have sigil : (text.drop width)[before + 1]? = text[before + width + 1]? := by
    rw [List.getElem?_drop]
    congr 1
    omega
  have led : pattern.Led false (text.drop width) (before + 1) ↔
      pattern.Led atStart text (before + width + 1) := by
    simp only [Led, List.getElem?_drop, Nat.add_comm width before]
  have named : pattern.nameBehind (text.drop width) (before + 1) =
      pattern.nameBehind text (before + width + 1) := by
    rw [nameBehind_drop, shifted]
  rw [shifted]
  constructor
  · intro occurs
    exact ⟨sigil ▸ occurs.sigil, led.1 occurs.led, named ▸ occurs.named⟩
  · intro occurs
    exact ⟨sigil ▸ occurs.sigil, led.2 occurs.led, named ▸ occurs.named⟩

theorem nameAt?_eq_some_iff {name : List Char} :
    pattern.nameAt? text = some name ↔
      text[0]? = some pattern.sigil ∧ pattern.nameBehind text 0 ≠ [] ∧
        name = pattern.nameBehind text 0 := by
  cases text with
  | nil => simp [nameAt?]
  | cons head rest =>
      simp only [nameAt?, nameBehind, List.getElem?_cons_zero, Option.some.injEq, Nat.zero_add,
        List.drop_succ_cons, List.drop_zero]
      split
      · next same =>
          simp only [same, true_and, List.isEmpty_iff]
          split
          · next empty => simp [empty]
          · next named => simp [named, eq_comm]
      · next other => simp [other]

theorem occurs_zero_iff :
    pattern.Occurs atStart text 0 ↔
      atStart = true ∧ pattern.nameAt? text = some (pattern.nameBehind text 0) := by
  rw [nameAt?_eq_some_iff]
  constructor
  · exact fun occurs => ⟨occurs.led, occurs.sigil, occurs.named, rfl⟩
  · rintro ⟨led, sigil, named, -⟩
    exact ⟨sigil, led, named⟩

theorem occurs_one_iff {head : Char} {rest : List Char} :
    pattern.Occurs atStart (head :: rest) 1 ↔ pattern.leads head = true ∧
      pattern.nameAt? rest = some (pattern.nameBehind (head :: rest) 1) := by
  rw [nameAt?_eq_some_iff]
  constructor
  · intro occurs
    obtain ⟨lead, same, leads⟩ := occurs.led
    obtain rfl := Option.some.inj same
    exact ⟨leads, occurs.sigil, occurs.named, rfl⟩
  · rintro ⟨leads, sigil, named, -⟩
    exact ⟨sigil, ⟨head, rfl, leads⟩, named⟩

/-- The next name is that of the first occurrence, and reading goes on at its end. -/
theorem next?_eq_some {head : Char} {rest name : List Char} {width : Nat}
    (found : pattern.next? atStart (head :: rest) = some (name, width)) :
    ∃ first, pattern.Occurs atStart (head :: rest) first ∧
      (∀ earlier < first, ¬pattern.Occurs atStart (head :: rest) earlier) ∧
      name = pattern.nameBehind (head :: rest) first ∧
      width = pattern.endOf (head :: rest) first := by
  unfold next? at found
  split at found
  · next other atHead =>
      split at atHead
      · next started =>
          obtain ⟨rfl, rfl⟩ := Prod.mk.inj (Option.some.inj found)
          obtain ⟨sigil, named, rfl⟩ := nameAt?_eq_some_iff.1 atHead
          refine ⟨0, ⟨sigil, started, named⟩, nofun, rfl, ?_⟩
          rw [endOf]
          omega
      · contradiction
  · next notAtHead =>
      dsimp only at found
      split at found
      · next leads =>
          obtain ⟨other, behind, same⟩ := Option.map_eq_some_iff.1 found
          obtain ⟨rfl, rfl⟩ := Prod.mk.inj same
          obtain ⟨sigil, named, rfl⟩ := nameAt?_eq_some_iff.1 behind
          -- Nothing occurs at the head, so the occurrence behind it is the first one.
          refine ⟨1, ⟨sigil, ⟨head, rfl, leads⟩, named⟩, ?_, rfl, ?_⟩
          · intro earlier below occurs
            obtain rfl : earlier = 0 := by omega
            obtain ⟨started, atHead⟩ := occurs_zero_iff.1 occurs
            rw [if_pos started, atHead] at notAtHead
            contradiction
          · change _ = 1 + 1 + List.length (pattern.nameBehind rest 0)
            omega
      · contradiction

/-- Where there is no next name, neither of the first two characters is the sigil of one. -/
theorem next?_eq_none {head : Char} {rest : List Char}
    (missing : pattern.next? atStart (head :: rest) = none) :
    ∀ position ≤ 1, ¬pattern.Occurs atStart (head :: rest) position := by
  unfold next? at missing
  split at missing
  · contradiction
  · next notAtHead =>
      intro position near occurs
      match position with
      | 0 =>
          obtain ⟨started, atHead⟩ := occurs_zero_iff.1 occurs
          rw [if_pos started, atHead] at notAtHead
          contradiction
      | 1 =>
          obtain ⟨leads, behind⟩ := occurs_one_iff.1 occurs
          simp [leads, behind] at missing

section Shift

variable {width : Nat} {positions : List Nat}
  (reads : pattern.Reads false (text.drop width) positions)

include reads

/-- What is read of a rest of a text comes behind the first character of the rest. -/
theorem Reads.mem_shift_iff (atStart : Bool) (position : Nat) :
    position ∈ positions.map (· + width) ↔ width < position ∧
      pattern.Occurs atStart text position ∧
      ∀ earlier ∈ positions.map (· + width), earlier < position →
        pattern.endOf text earlier < position := by
  have within (before : Nat) : before + 1 + width ∈ positions.map (· + width) ↔
      before + 1 ∈ positions := by simp
  constructor
  · intro inside
    obtain ⟨shifted, read, rfl⟩ := List.mem_map.1 inside
    obtain ⟨occurs, apart⟩ := (reads.mem_iff shifted).1 read
    cases shifted with
    | zero => exact absurd occurs not_occurs_zero
    | succ before =>
        refine ⟨by omega, (occurs_drop width before).1 occurs, ?_⟩
        intro earlier inside below
        obtain ⟨start, read, rfl⟩ := List.mem_map.1 inside
        have ends := apart start read (by omega)
        rw [← endOf_drop]
        omega
  · rintro ⟨behind, occurs, apart⟩
    obtain ⟨before, rfl⟩ : ∃ before, position = before + 1 + width :=
      ⟨position - 1 - width, by omega⟩
    refine (within before).2 ((reads.mem_iff _).2 ⟨(occurs_drop width before).2 occurs, ?_⟩)
    intro earlier read below
    have ends := apart (earlier + width) (List.mem_map_of_mem read) (by omega)
    rw [← endOf_drop] at ends
    omega

theorem Reads.ascending_shift : (positions.map (· + width)).Pairwise (· < ·) :=
  List.pairwise_map.2 (reads.ascending.imp fun below => Nat.add_lt_add_right below width)

/-- Reading goes on where nothing occurs up to there. -/
theorem Reads.skip (none : ∀ position ≤ width, ¬pattern.Occurs atStart text position) :
    pattern.Reads atStart text (positions.map (· + width)) := by
  refine ⟨reads.ascending_shift, fun position => ?_⟩
  rw [reads.mem_shift_iff atStart]
  constructor
  · exact And.right
  · intro fine
    exact ⟨Nat.lt_of_not_le fun near => none position near fine.1, fine⟩

/-- Reading goes on at the end of the first name. -/
theorem Reads.take {first : Nat} (occurs : pattern.Occurs atStart text first)
    (none : ∀ earlier < first, ¬pattern.Occurs atStart text earlier)
    (same : width = pattern.endOf text first) :
    pattern.Reads atStart text (first :: positions.map (· + width)) := by
  have shift := reads.mem_shift_iff atStart
  have ahead : first < width := by
    rw [same, endOf]
    omega
  refine ⟨List.pairwise_cons.2 ⟨?_, reads.ascending_shift⟩, fun position => ?_⟩
  · exact fun later read => ahead.trans ((shift later).1 read).1
  rw [List.mem_cons]
  constructor
  · rintro (rfl | read)
    · refine ⟨occurs, fun earlier read below => ?_⟩
      rcases List.mem_cons.1 read with rfl | read
      · omega
      · have := ((shift earlier).1 read).1
        omega
    · obtain ⟨behind, occurs, apart⟩ := (shift position).1 read
      exact ⟨occurs, List.forall_mem_cons.2 ⟨fun _ => same ▸ behind, apart⟩⟩
  · rintro ⟨occurs, apart⟩
    obtain ⟨behind, apart⟩ := List.forall_mem_cons.1 apart
    rcases Nat.lt_trichotomy position first with before | rfl | after
    · exact absurd occurs (none position before)
    · exact .inl rfl
    · exact .inr ((shift position).2 ⟨same ▸ behind after, occurs, apart⟩)

end Shift

/-- The names of a text are those behind the positions at which names are read. -/
theorem exists_reads (pattern : Pattern) (atStart : Bool) (text : List Char) :
    ∃ positions, pattern.Reads atStart text positions ∧
      pattern.namesFrom atStart text = positions.map (pattern.nameBehind text) := by
  have shifted (text : List Char) (width : Nat) (positions : List Nat) :
      positions.map (pattern.nameBehind (text.drop width)) =
        (positions.map (· + width)).map (pattern.nameBehind text) := by
    rw [List.map_map]
    exact List.map_congr_left fun position _ => nameBehind_drop width position
  fun_induction pattern.namesFrom atStart text with
  | case1 atStart =>
      exact ⟨[], ⟨.nil, fun _ => by simp [not_occurs_nil]⟩, rfl⟩
  | case2 atStart head rest name width found ih =>
      obtain ⟨first, occurs, none, rfl, same⟩ := next?_eq_some found
      obtain ⟨positions, reads, names⟩ := ih
      have rest_eq : rest.drop (width - 1) = (head :: rest).drop width := by
        have wide : width = width - 1 + 1 := by
          rw [endOf] at same
          omega
        conv_rhs => rw [wide, List.drop_succ_cons]
      rw [rest_eq] at reads names
      refine ⟨first :: positions.map (· + width), reads.take occurs none same, ?_⟩
      rw [List.map_cons, rest_eq, names, shifted]
  | case3 atStart head rest missing ih =>
      obtain ⟨positions, reads, names⟩ := ih
      have skipped : pattern.Reads false ((head :: rest).drop 1) positions := reads
      refine ⟨positions.map (· + 1), skipped.skip (next?_eq_none missing), ?_⟩
      rw [names, ← shifted]
      rfl

end Pattern

/-- The run of word characters behind a position. -/
def tagBehind (text : List Char) (position : Nat) : List Char :=
  (text.drop (position + 1)).takeWhile Text.isWord

/-- Where the run of word characters behind a position ends. -/
def tagEnd (text : List Char) (position : Nat) : Nat :=
  position + 1 + (tagBehind text position).length

/-- The hashtag at a position as attributes show it. -/
def tagAt (text : List Char) (position : Nat) : String :=
  Text.lower (String.ofList (tagBehind text position))

/-- A hashtag is a number sign in front of a word character. No ampersand stands before it. -/
def HashtagAt (text : List Char) (position : Nat) : Prop :=
  text[position]? = some '#' ∧ (position = 0 ∨ text[position - 1]? ≠ some '&') ∧
    tagBehind text position ≠ []

instance (text : List Char) : DecidablePred (HashtagAt text) := fun _ =>
  inferInstanceAs (Decidable (_ ∧ _ ∧ _))

/-- All hashtags of a text. -/
def hashtagPositions (text : List Char) : List Nat :=
  (List.range text.length).filter (HashtagAt text)

/-- The hashtags of a text that are listed: those that do not stand directly behind a listed one.
They are all of them when no two hashtags are written back to back. -/
structure Lists (text : List Char) (positions : List Nat) : Prop where
  ascending : positions.Pairwise (· < ·)
  mem_iff : ∀ position, position ∈ positions ↔
    HashtagAt text position ∧ ∀ earlier ∈ positions, position ≠ tagEnd text earlier
  whole_iff : positions = hashtagPositions text ↔
    ∀ first ∈ hashtagPositions text, ∀ second ∈ hashtagPositions text,
      second ≠ tagEnd text first

section Hashtags

variable {text : List Char} {positions : List Nat}

theorem occurs_hashtag_iff {position : Nat} :
    hashtag.Occurs true text position ↔ HashtagAt text position := by
  constructor
  · rintro ⟨sigil, led, named⟩
    refine ⟨sigil, ?_, named⟩
    cases position with
    | zero => exact .inl rfl
    | succ before =>
        obtain ⟨lead, same, leads⟩ := led
        refine .inr ?_
        rw [Nat.add_sub_cancel, same]
        simpa [hashtag] using leads
  · rintro ⟨sigil, led, named⟩
    refine ⟨sigil, ?_, named⟩
    cases position with
    | zero => rfl
    | succ before =>
        have inside : before < text.length := by
          have := (List.getElem?_eq_some_iff.1 sigil).1
          omega
        rw [Nat.add_sub_cancel, List.getElem?_eq_getElem inside] at led
        refine ⟨text[before], List.getElem?_eq_getElem inside, ?_⟩
        simpa [hashtag] using led

theorem mem_hashtagPositions {position : Nat} :
    position ∈ hashtagPositions text ↔ HashtagAt text position := by
  simp only [hashtagPositions, List.mem_filter, List.mem_range, decide_eq_true_eq,
    and_iff_right_iff_imp]
  exact fun tagged => (List.getElem?_eq_some_iff.1 tagged.1).1

/-- There are only word characters in a hashtag. -/
theorem isWord_of_lt_tagEnd {earlier position : Nat} {character : Char}
    (behind : earlier < position) (inside : position < tagEnd text earlier)
    (here : text[position]? = some character) : Text.isWord character = true := by
  obtain ⟨index, rfl⟩ : ∃ index, position = earlier + 1 + index :=
    ⟨position - earlier - 1, by omega⟩
  have within : index < (tagBehind text earlier).length := by
    rw [tagEnd] at inside
    omega
  have same : (tagBehind text earlier)[index] = character := by
    have run : tagBehind text earlier <+: text.drop (earlier + 1) := List.takeWhile_prefix _
    have found : (text.drop (earlier + 1))[index]? = some character := by
      rw [List.getElem?_drop, here]
    rw [List.IsPrefix.getElem run within]
    exact (List.getElem?_eq_some_iff.1 found).2
  exact List.mem_takeWhile_imp (same ▸ List.getElem_mem within)

/-- A hashtag is not inside of another one. -/
theorem HashtagAt.tagEnd_le {earlier position : Nat} (tagged : HashtagAt text position)
    (behind : earlier < position) : tagEnd text earlier ≤ position := by
  refine Nat.le_of_not_lt fun inside => ?_
  have word := isWord_of_lt_tagEnd behind inside tagged.1
  exact absurd word (by decide +kernel)

section Reads

variable (reads : hashtag.Reads true text positions)

include reads

/-- A hashtag is read unless it stands directly behind one that is read. -/
theorem mem_iff_of_reads (position : Nat) : position ∈ positions ↔
    HashtagAt text position ∧ ∀ earlier ∈ positions, position ≠ tagEnd text earlier := by
  rw [reads.mem_iff, occurs_hashtag_iff]
  refine and_congr_right fun tagged => forall₂_congr fun earlier _ => ?_
  change (earlier < position → tagEnd text earlier < position) ↔ _
  constructor
  · rintro apart rfl
    have ahead : earlier < tagEnd text earlier := by
      rw [tagEnd]
      omega
    exact Nat.lt_irrefl _ (apart ahead)
  · intro other behind
    exact Nat.lt_of_le_of_ne (tagged.tagEnd_le behind) other.symm

/-- What is read of a text as hashtags is what is listed. -/
theorem lists_of_reads : Lists text positions := by
  have read := mem_iff_of_reads reads
  refine ⟨reads.ascending, read, ?_⟩
  constructor
  · rintro rfl first firstTagged second secondTagged
    exact ((read second).1 secondTagged).2 first firstTagged
  · intro apart
    refine reads.ascending.eq_of_mem_iff (List.pairwise_lt_range.filter _) fun position => ?_
    rw [read]
    constructor
    · exact fun listed => mem_hashtagPositions.2 listed.1
    · intro tagged
      refine ⟨mem_hashtagPositions.1 tagged, fun earlier inside => ?_⟩
      exact apart earlier (mem_hashtagPositions.2 ((read earlier).1 inside).1) position tagged

end Reads

end Hashtags

end Caption

namespace Post

/-- The hashtags that filters read of a post are those of its caption that do not stand directly
behind one of them, in order and in lower case. -/
theorem caption_hashtags_are_listed (post : Post) :
    let text := (post.caption.getD "").toList
    ∃ positions, Caption.Lists text positions ∧
      post.captionNames Caption.hashtag = positions.map (Caption.tagAt text) ∧
      post.attribute? "caption_hashtags" =
        some (.texts (post.captionNames Caption.hashtag)) := by
  intro text
  obtain ⟨positions, reads, names⟩ := Caption.hashtag.exists_reads true text
  refine ⟨positions, Caption.lists_of_reads reads, ?_, rfl⟩
  have read : post.captionNames Caption.hashtag = Caption.hashtag.names (post.caption.getD "") := by
    unfold captionNames
    cases post.caption with
    | some contents => rfl
    | none => simp [Caption.Pattern.names, Caption.Pattern.namesFrom]
  rw [read, Caption.Pattern.names, names, List.map_map]
  rfl

/-- A post of which nothing matters but its caption. -/
def captioned (contents : String) : Post where
  shortcode := ""
  mediaId := 0
  ownerUsername := ""
  ownerId := none
  dateUtc := ⟨⟨2021, 7, 4, by decide⟩, ⟨8, 0, 0, 0, by decide⟩⟩
  dateLocal := none
  typeName := ""
  mediaCount := 1
  caption := some contents
  taggedUsers := []
  isVideo := false
  videoViewCount := none
  videoDuration := none
  viewerHasLiked := false
  likes := 0
  comments := 0
  isSponsored := false
  location := none

/-- Of three hashtags written back to back the one in the middle is lost. -/
theorem back_to_back_hashtag_is_lost :
    ¬∀ post : Post, let text := (post.caption.getD "").toList
      post.captionNames Caption.hashtag =
        (Caption.hashtagPositions text).map (Caption.tagAt text) := by
  intro kept
  have missed : (captioned "#a#b#c").captionNames Caption.hashtag = ["a", "c"] := by
    decide +kernel
  have written : (Caption.hashtagPositions "#a#b#c".toList).map
      (Caption.tagAt "#a#b#c".toList) = ["a", "b", "c"] := by decide +kernel
  have same := missed.symm.trans ((kept (captioned "#a#b#c")).trans written)
  exact absurd same (by decide)

end Post

end Harvest
