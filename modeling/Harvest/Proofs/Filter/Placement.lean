import Harvest.Proofs.Filter.Arguments
import Mathlib.Data.List.Nodup

/-!
Arguments of `datetime` as they are written, and the slots that they go to. What a call demands of
its arguments and what it makes of them depends on their slots alone, so keywords come in any order,
and a keyword does for the last position.
-/

namespace Harvest.Filter

/-- An argument as it is written: with any word as its keyword, or by its position. -/
structure Written where
  keyword : Option String
  value : Expression

namespace Written

/-- The keywords of the slots. -/
def fields : List String := ["year", "month", "day", "hour", "minute", "second"]

/-- The slot of an argument: that of its keyword, or else its position. -/
def slot (position : Nat) (argument : Written) : Nat :=
  argument.keyword.elim position fields.idxOf

/-- The slots of arguments with what goes there. -/
def placed (arguments : List Written) : List (Nat × Expression) :=
  arguments.mapIdx fun position argument => (argument.slot position, argument.value)

/-- The slots of arguments. -/
def slots (arguments : List Written) : List Nat :=
  (placed arguments).map Prod.fst

/-- What a call demands of its arguments. -/
structure Legal (arguments : List Written) : Prop where
  /-- No positional argument follows a keyword. -/
  keywordsLast : arguments.Pairwise fun first second =>
    first.keyword.isSome → second.keyword.isSome
  positionals : arguments.countP (·.keyword.isNone) ≤ 6
  known : ∀ argument ∈ arguments, ∀ word ∈ argument.keyword, word ∈ fields
  /-- No slot is given twice. -/
  apart : (slots arguments).Nodup
  /-- Year, month and day are given. -/
  date : ∀ slot < 3, slot ∈ slots arguments

/-- What a call makes of its arguments: each stands at its slot, zero stands at the slots between
them, and nothing behind the last one. -/
structure Lands (arguments : List Written) (filled : List Expression) : Prop where
  given : ∀ place ∈ placed arguments, filled[place.1]? = some place.2
  skipped : ∀ slot < filled.length, slot ∉ slots arguments →
    filled[slot]? = some (.literal (.int 0))
  last : ∃ slot ∈ slots arguments, filled.length = slot + 1

/-- Arguments in another form: the keywords in another order, or the last positional argument with
the keyword of its position. -/
inductive Rearranged : List Written → List Written → Prop where
  | order {positionals keywords others : List Written} :
      (∀ argument ∈ keywords, argument.keyword.isSome) → keywords.Perm others →
      Rearranged (positionals ++ keywords) (positionals ++ others)
  | name {positionals keywords : List Written} {word : String} (value : Expression) :
      (∀ argument ∈ keywords, argument.keyword.isSome) →
      fields[positionals.length]? = some word →
      Rearranged (positionals ++ ⟨none, value⟩ :: keywords)
        (positionals ++ ⟨some word, value⟩ :: keywords)

section Slots

variable {arguments others : List Written} {filled : List Expression}

theorem placed_append (first second : List Written) : placed (first ++ second) =
    placed first ++ second.mapIdx fun position argument =>
      (argument.slot (position + first.length), argument.value) := by
  rw [placed, List.mapIdx_append]
  rfl

theorem placed_concat (arguments : List Written) (argument : Written) :
    placed (arguments ++ [argument]) =
      placed arguments ++ [(argument.slot arguments.length, argument.value)] := by
  simp [placed_append]

/-- Keywords go to their slots wherever they stand. -/
theorem placed_append_keywords {positionals keywords : List Written}
    (named : ∀ argument ∈ keywords, argument.keyword.isSome) :
    placed (positionals ++ keywords) =
      placed positionals ++ keywords.map fun argument => (argument.slot 0, argument.value) := by
  rw [placed_append]
  congr 1
  apply List.ext_getElem?
  intro position
  rw [List.getElem?_mapIdx, List.getElem?_map]
  cases found : keywords[position]? with
  | none => rfl
  | some argument =>
      have isNamed := named argument (List.mem_of_getElem? found)
      obtain ⟨word, keyword⟩ := Option.isSome_iff_exists.1 isNamed
      simp [slot, keyword]

/-- There is one way to land. -/
theorem Lands.unique {others : List Expression} (lands : Lands arguments filled)
    (alsoLands : Lands arguments others) : filled = others := by
  have within {some : List Expression} (lands : Lands arguments some) {slot : Nat}
      (inside : slot ∈ slots arguments) : slot < some.length := by
    obtain ⟨place, placed, rfl⟩ := List.mem_map.1 inside
    exact (List.getElem?_eq_some_iff.1 (lands.given place placed)).1
  have sameLength : filled.length = others.length := by
    obtain ⟨slot, inside, length⟩ := lands.last
    obtain ⟨other, otherInside, otherLength⟩ := alsoLands.last
    have := within lands otherInside
    have := within alsoLands inside
    omega
  apply List.ext_getElem?
  intro slot
  by_cases bound : slot < filled.length
  · by_cases inside : slot ∈ slots arguments
    · obtain ⟨place, placed, rfl⟩ := List.mem_map.1 inside
      rw [lands.given place placed, alsoLands.given place placed]
    · rw [lands.skipped slot bound inside, alsoLands.skipped slot (sameLength ▸ bound) inside]
  · rw [List.getElem?_eq_none (by omega), List.getElem?_eq_none (by omega)]

/-- Where arguments land depends on their slots alone. -/
theorem Lands.of_perm (same : (placed arguments).Perm (placed others))
    (lands : Lands arguments filled) : Lands others filled where
  given place inside := lands.given place (same.mem_iff.2 inside)
  skipped slot bound absent :=
    lands.skipped slot bound fun inside => absent ((same.map Prod.fst).mem_iff.1 inside)
  last := by
    obtain ⟨slot, inside, length⟩ := lands.last
    exact ⟨slot, (same.map Prod.fst).mem_iff.1 inside, length⟩

/-- Positional arguments come before all keywords, so their positions count them. -/
theorem position_lt (ordered : arguments.Pairwise fun first second =>
    first.keyword.isSome → second.keyword.isSome) {position : Nat} {argument : Written}
    (found : arguments[position]? = some argument) (positional : argument.keyword = none) :
    position < arguments.countP (·.keyword.isNone) := by
  obtain ⟨bound, rfl⟩ := List.getElem?_eq_some_iff.1 found
  have before : ∀ earlier ∈ arguments.take (position + 1), earlier.keyword.isNone := by
    intro earlier inside
    obtain ⟨other, otherBound, rfl⟩ := List.mem_take_iff_getElem.1 inside
    rcases Nat.lt_or_eq_of_le (Nat.le_of_lt_succ (Nat.lt_of_lt_of_le otherBound
      (Nat.min_le_left _ _))) with less | same
    · have implied := List.pairwise_iff_getElem.1 ordered other position (by omega) bound less
      simpa [positional] using implied
    · simp [same, positional]
  have counted : (arguments.take (position + 1)).countP (·.keyword.isNone) ≤
      arguments.countP (·.keyword.isNone) := (List.take_sublist _ _).countP_le
  rw [List.countP_eq_length.2 before, List.length_take] at counted
  omega

theorem mem_slots {taken : Nat} : taken ∈ slots arguments ↔ ∃ position, ∃ argument : Written,
    arguments[position]? = some argument ∧ argument.slot position = taken := by
  simp only [slots, placed, List.mem_map, List.mem_mapIdx, Prod.exists, Prod.mk.injEq,
    List.getElem?_eq_some_iff]
  constructor
  · rintro ⟨_, _, ⟨position, bound, same, -⟩, rfl⟩
    exact ⟨position, _, ⟨bound, rfl⟩, same⟩
  · rintro ⟨position, _, ⟨bound, rfl⟩, same⟩
    exact ⟨_, _, ⟨position, bound, rfl, rfl⟩, same⟩

/-- Behind known keywords, every slot is one of the six when there are no more positions. -/
theorem forall_slots_lt_iff (ordered : arguments.Pairwise fun first second =>
    first.keyword.isSome → second.keyword.isSome)
    (known : ∀ argument ∈ arguments, ∀ word ∈ argument.keyword, word ∈ fields) :
    (∀ slot ∈ slots arguments, slot < 6) ↔ arguments.countP (·.keyword.isNone) ≤ 6 := by
  constructor
  · intro small
    have named : ∀ argument ∈ arguments.drop 6, ¬argument.keyword.isNone := by
      intro argument inside positional
      obtain ⟨position, found⟩ := List.mem_iff_getElem?.1 inside
      rw [List.getElem?_drop] at found
      have bound := small _ (mem_slots.2 ⟨_, _, found, rfl⟩)
      rw [slot, Option.isNone_iff_eq_none.1 positional, Option.elim_none] at bound
      omega
    rw [← List.take_append_drop 6 arguments, List.countP_append, List.countP_eq_zero.2 named]
    exact List.countP_le_length.trans (List.length_take_le _ _)
  · intro few taken inside
    obtain ⟨position, argument, found, rfl⟩ := mem_slots.1 inside
    cases keyword : argument.keyword with
    | none =>
        rw [Written.slot, keyword]
        exact (position_lt ordered found keyword).trans_le few
    | some word =>
        rw [Written.slot, keyword]
        exact List.idxOf_lt_length_of_mem (known _ (List.mem_of_getElem? found) word keyword)

/-- Another form takes the same slots. -/
theorem Rearranged.placed_perm (rearranged : Rearranged arguments others) :
    (placed arguments).Perm (placed others) := by
  cases rearranged with
  | @order positionals keywords others named same =>
      have alsoNamed : ∀ argument ∈ others, argument.keyword.isSome :=
        fun argument inside => named argument (same.mem_iff.2 inside)
      rw [placed_append_keywords named, placed_append_keywords alsoNamed]
      exact (same.map _).append_left _
  | @name positionals keywords word value named field =>
      have slotted : fields.idxOf word = positionals.length := by
        obtain ⟨bound, rfl⟩ := List.getElem?_eq_some_iff.1 field
        exact List.Nodup.idxOf_getElem (by decide) _ bound
      have split (argument : Written) : placed (positionals ++ argument :: keywords) =
          placed positionals ++ [(argument.slot positionals.length, argument.value)] ++
            keywords.map fun argument => (argument.slot 0, argument.value) := by
        rw [List.append_cons, placed_append_keywords named, placed_concat]
      rw [split, split, slot, slot, Option.elim_none, Option.elim_some, slotted]

/-- Another form of what a call takes is taken as well. -/
theorem Rearranged.legal (rearranged : Rearranged arguments others) (legal : Legal arguments) :
    Legal others := by
  have perm : (slots arguments).Perm (slots others) := rearranged.placed_perm.map Prod.fst
  have apart : (slots others).Nodup := perm.nodup_iff.1 legal.apart
  have date : ∀ slot < 3, slot ∈ slots others :=
    fun slot bound => perm.mem_iff.1 (legal.date slot bound)
  -- The slots are the same ones in another order. Only the form of the call is to be checked anew.
  obtain ⟨ordered, count, known, -, -⟩ := legal
  cases rearranged with
  | @order positionals keywords others named same =>
      have alsoNamed : ∀ argument ∈ others, argument.keyword.isSome :=
        fun argument inside => named argument (same.mem_iff.2 inside)
      refine ⟨?_, ?_, ?_, apart, date⟩
      · refine List.pairwise_append.2 ⟨(List.pairwise_append.1 ordered).1, ?_, ?_⟩
        · exact List.pairwise_of_forall_mem_list fun _ _ second inside _ => alsoNamed second inside
        · exact fun _ _ second inside _ => alsoNamed second inside
      · rwa [List.countP_append, ← same.countP_eq, ← List.countP_append]
      · intro argument inside
        apply known
        rwa [List.mem_append, same.mem_iff, ← List.mem_append]
  | @name positionals keywords word value named field =>
      refine ⟨?_, ?_, ?_, apart, date⟩
      · obtain ⟨first, second, -⟩ := List.pairwise_append.1 ordered
        refine List.pairwise_append.2 ⟨first, List.pairwise_cons.2 ⟨?_, second.of_cons⟩, ?_⟩
        · exact fun argument inside _ => named argument inside
        · exact fun _ _ => List.forall_mem_cons.2 ⟨fun _ => rfl, fun argument inside _ =>
            named argument inside⟩
      · simp only [List.countP_append, List.countP_cons, Option.isNone_none, Option.isNone_some,
          if_true, Bool.false_eq_true, if_false] at count ⊢
        omega
      · rw [List.forall_mem_append, List.forall_mem_cons] at known ⊢
        refine ⟨known.1, ?_, known.2.2⟩
        rintro _ ⟨⟩
        exact List.mem_of_getElem? field

end Slots

end Written

/-! ## Arguments whose keywords are known -/

/-- The argument as it is written. -/
def Argument.written (argument : Argument) : Written :=
  ⟨argument.keyword.map MomentPart.name, argument.value⟩

namespace Argument

open Written (slot placed slots Legal Lands)

variable {resolved : List Argument} {part : MomentPart} {value : Expression}
  {filled : List Expression}

theorem written_injective : Function.Injective written := by
  have names : Function.Injective MomentPart.name := fun part other same =>
    Option.some.inj ((MomentPart.ofName?_eq_some.2 rfl).symm.trans
      (MomentPart.ofName?_eq_some.2 same))
  rintro ⟨keyword, value⟩ ⟨other, also⟩ same
  obtain ⟨keywords, values⟩ := Written.mk.inj same
  exact congrArg₂ Argument.mk (Option.map_injective names keywords) values

/-- A field names its own part. -/
theorem idxOf_name (part : MomentPart) : Written.fields.idxOf part.name = part.index := by
  cases part <;> decide

/-- An argument goes to the part that its slot is for. -/
theorem getElem?_slot (argument : Argument) (position : Nat) :
    MomentPart.all[argument.written.slot position]? =
      argument.keyword.or MomentPart.all[position]? := by
  rcases argument with ⟨_ | part, value⟩
  · rfl
  · exact MomentPart.all_getElem?_eq_some.2 (idxOf_name part)

theorem placements_eq (resolved : List Argument) : placements resolved =
    (placed (resolved.map written)).map fun place => (MomentPart.all[place.1]?, place.2) := by
  apply List.ext_getElem?
  intro position
  simp only [placements, placed, List.getElem?_map, List.getElem?_mapIdx, Option.map_map]
  cases resolved[position]? with
  | none => rfl
  | some argument => exact congrArg some (congrArg (·, argument.value) (getElem?_slot _ _).symm)

theorem map_fst_placements (resolved : List Argument) : (placements resolved).map Prod.fst =
    (slots (resolved.map written)).map (MomentPart.all[·]?) := by
  rw [placements_eq, slots, List.map_map, List.map_map]
  rfl

theorem mem_placements : (some part, value) ∈ placements resolved ↔
    (part.index, value) ∈ placed (resolved.map written) := by
  rw [placements_eq, List.mem_map]
  constructor
  · rintro ⟨⟨slot, found⟩, inside, same⟩
    obtain ⟨slotted, rfl⟩ := Prod.mk.inj same
    rwa [← MomentPart.all_getElem?_eq_some.1 slotted]
  · intro inside
    exact ⟨_, inside, by rw [MomentPart.all_getElem?_eq_some.2 rfl]⟩

theorem isSome_given?_iff :
    (given? resolved part).isSome ↔ part.index ∈ slots (resolved.map written) := by
  rw [Option.isSome_iff_ne_none, Ne, given?_eq_none, not_not, map_fst_placements, List.mem_map]
  constructor
  · rintro ⟨slot, inside, same⟩
    rwa [← MomentPart.all_getElem?_eq_some.1 same]
  · intro inside
    exact ⟨_, inside, MomentPart.all_getElem?_eq_some.2 rfl⟩

/-- What is given for a part is what goes to its slot. -/
theorem given?_eq_some_of_mem (placed : Placed resolved)
    (inside : (part.index, value) ∈ Written.placed (resolved.map written)) :
    given? resolved part = some value := by
  obtain ⟨before, after, split⟩ := List.append_of_mem (mem_placements.2 inside)
  have apart := placed.apart
  rw [split, List.map_append, List.nodup_append] at apart
  refine List.lookup_eq_some_iff.2 ⟨before, after, split, ?_⟩
  intro earlier listed
  have different := apart.2.2 _ (List.mem_map_of_mem listed) (some part) List.mem_cons_self
  simpa using different.symm

/-- Arguments are placed when no keyword comes early and each has a slot of its own. -/
theorem placed_iff : Placed resolved ↔
    ((resolved.map written).Pairwise fun first second =>
      first.keyword.isSome → second.keyword.isSome) ∧
    (∀ slot ∈ slots (resolved.map written), slot < 6) ∧ (slots (resolved.map written)).Nodup := by
  have ordered : ((resolved.map written).Pairwise fun first second =>
      first.keyword.isSome → second.keyword.isSome) ↔
      resolved.Pairwise fun first second => first.keyword.isSome → second.keyword.isSome := by
    simp [List.pairwise_map, written]
  have slotted : (∀ placement ∈ placements resolved, placement.1.isSome) ↔
      ∀ slot ∈ slots (resolved.map written), slot < 6 := by
    have same : (∀ placement ∈ placements resolved, placement.1.isSome) ↔
        ∀ part ∈ (placements resolved).map Prod.fst, part.isSome := by
      rw [List.forall_mem_map]
    rw [same, map_fst_placements, List.forall_mem_map]
    simp [MomentPart.all]
  have apart (small : ∀ slot ∈ slots (resolved.map written), slot < 6) :
      ((placements resolved).map Prod.fst).Nodup ↔ (slots (resolved.map written)).Nodup := by
    rw [map_fst_placements]
    refine ⟨List.Nodup.of_map _, fun nodup => nodup.map_on fun slot inside other _ same => ?_⟩
    have found := List.getElem?_eq_getElem (l := MomentPart.all) (small slot inside)
    rw [MomentPart.all_getElem?_eq_some.1 found,
      MomentPart.all_getElem?_eq_some.1 (same.symm.trans found)]
  constructor
  · rintro ⟨keywordsLast, inSlots, nodup⟩
    have small := slotted.1 inSlots
    exact ⟨ordered.2 keywordsLast, small, (apart small).1 nodup⟩
  · rintro ⟨keywordsLast, small, nodup⟩
    exact ⟨ordered.1 keywordsLast, slotted.2 small, (apart small).2 nodup⟩

/-- A call takes arguments with known keywords when they are placed and name a date. -/
theorem legal_iff : Legal (resolved.map written) ↔ Placed resolved ∧
    ∀ part ∈ [MomentPart.year, .month, .day], (given? resolved part).isSome := by
  have known : ∀ argument ∈ resolved.map written, ∀ word ∈ argument.keyword,
      word ∈ Written.fields := by
    intro argument inside word keyword
    obtain ⟨⟨named, value⟩, -, rfl⟩ := List.mem_map.1 inside
    obtain ⟨part, rfl, rfl⟩ := Option.map_eq_some_iff.1 keyword
    cases part <;> decide
  have date : (∀ part ∈ [MomentPart.year, .month, .day], (given? resolved part).isSome) ↔
      ∀ slot < 3, slot ∈ slots (resolved.map written) := by
    simp only [isSome_given?_iff]
    constructor
    · intro required slot bound
      match slot with
      | 0 => exact required .year (by decide)
      | 1 => exact required .month (by decide)
      | 2 => exact required .day (by decide)
    · intro required part listed
      apply required
      revert part
      decide
  rw [placed_iff, date]
  constructor
  · rintro ⟨keywordsLast, positionals, -, apart, given⟩
    exact ⟨⟨keywordsLast, (Written.forall_slots_lt_iff keywordsLast known).2 positionals, apart⟩,
      given⟩
  · rintro ⟨⟨keywordsLast, small, apart⟩, given⟩
    exact ⟨keywordsLast, (Written.forall_slots_lt_iff keywordsLast known).1 small, known, apart,
      given⟩

section Fills

variable {isFree : MomentPart → Bool} {slot : Nat}

/-- Free slots behind the last taken one are left out. -/
theorem index_lt_of_taken (taken : isFree part = false) :
    part.index < (MomentPart.all.rdropWhile isFree).length := by
  have split : MomentPart.all.rdropWhile isFree ++ MomentPart.all.rtakeWhile isFree =
      MomentPart.all := List.rdropWhile_append_rtakeWhile
  have found : MomentPart.all[part.index]? = some part := MomentPart.all_getElem?_eq_some.2 rfl
  by_contra beyond
  rw [← split, List.getElem?_append_right (not_lt.1 beyond)] at found
  have free := List.mem_rtakeWhile_imp (List.mem_of_getElem? found)
  simp [taken] at free

/-- No other slot is left out. -/
theorem getElem?_rdropWhile_all (bound : part.index < (MomentPart.all.rdropWhile isFree).length) :
    (MomentPart.all.rdropWhile isFree)[part.index]? = some part := by
  obtain ⟨behind, split⟩ := List.rdropWhile_prefix isFree MomentPart.all
  rw [← List.getElem?_append_left bound, split, MomentPart.all_getElem?_eq_some.2 rfl]

theorem length_rdropWhile_all (isFree : MomentPart → Bool) :
    (MomentPart.all.rdropWhile isFree).length ≤ 6 :=
  (List.rdropWhile_prefix isFree MomentPart.all).length_le

/-- The last slot that is not left out is taken. -/
theorem exists_last_taken (isFree : MomentPart → Bool) (taken : isFree part = false) :
    ∃ last : MomentPart, isFree last = false ∧
      (MomentPart.all.rdropWhile isFree).length = last.index + 1 := by
  have positive := Nat.zero_lt_of_lt (index_lt_of_taken taken)
  have nonempty := List.ne_nil_of_length_pos positive
  obtain ⟨last, index⟩ := MomentPart.exists_index
    (Nat.lt_of_lt_of_le (Nat.sub_one_lt_of_lt positive) (length_rdropWhile_all isFree))
  have bound : last.index < (MomentPart.all.rdropWhile isFree).length := by omega
  have found := getElem?_rdropWhile_all bound
  rw [index, ← List.getLast?_eq_getElem?, List.getLast?_eq_some_getLast nonempty] at found
  have isTaken := List.rdropWhile_last_not isFree _ nonempty
  rw [Option.some.inj found] at isTaken
  exact ⟨last, by simpa using isTaken, by omega⟩

/-- Arguments that fill some slots land there. -/
theorem Fills.lands (fills : Fills resolved filled) : Lands (resolved.map written) filled := by
  obtain ⟨placed, required, rfl⟩ := fills
  have taken {part : MomentPart} (inside : part.index ∈ slots (resolved.map written)) :
      (given? resolved part).isNone = false := by
    simpa using isSome_given?_iff.2 inside
  constructor
  · rintro ⟨slot, value⟩ inside
    have slotted : slot ∈ slots (resolved.map written) := List.mem_map_of_mem inside
    obtain ⟨part, rfl⟩ := MomentPart.exists_index ((placed_iff.1 placed).2.1 slot slotted)
    rw [List.getElem?_map, getElem?_rdropWhile_all (index_lt_of_taken (taken slotted)),
      Option.map_some, given?_eq_some_of_mem placed inside, Option.getD_some]
  · intro slot bound absent
    rw [List.length_map] at bound
    obtain ⟨part, rfl⟩ := MomentPart.exists_index
      (Nat.lt_of_lt_of_le bound (length_rdropWhile_all _))
    rw [← isSome_given?_iff, Option.not_isSome_iff_eq_none] at absent
    rw [List.getElem?_map, getElem?_rdropWhile_all bound, Option.map_some, absent,
      Option.getD_none]
  · have year := isSome_given?_iff.1 (required .year (by decide))
    obtain ⟨last, isTaken, length⟩ :=
      exists_last_taken (fun part => (given? resolved part).isNone) (taken year)
    refine ⟨last.index, isSome_given?_iff.1 (by simpa using isTaken), ?_⟩
    rw [List.length_map, length]

theorem Fills.legal (fills : Fills resolved filled) : Legal (resolved.map written) :=
  legal_iff.2 ⟨fills.placed, fills.required⟩

end Fills

end Argument

/-- An argument with a known keyword is one of the grammar. -/
theorem Written.exists_argument {argument : Written}
    (known : ∀ word ∈ argument.keyword, word ∈ fields) :
    ∃ resolved : Argument, resolved.written = argument := by
  rcases argument with ⟨_ | word, value⟩
  · exact ⟨⟨none, value⟩, rfl⟩
  · have listed : word ∈ MomentPart.all.map MomentPart.name := known word rfl
    obtain ⟨part, -, rfl⟩ := List.mem_map.1 listed
    exact ⟨⟨some part, value⟩, rfl⟩

theorem Written.exists_arguments {arguments : List Written}
    (known : ∀ argument ∈ arguments, ∀ word ∈ argument.keyword, word ∈ fields) :
    ∃ resolved : List Argument, resolved.map Argument.written = arguments := by
  induction arguments with
  | nil => exact ⟨[], rfl⟩
  | cons argument rest ih =>
      obtain ⟨here, later⟩ := List.forall_mem_cons.1 known
      obtain ⟨first, rfl⟩ := exists_argument here
      obtain ⟨following, rfl⟩ := ih later
      exact ⟨first :: following, rfl⟩

/-- What a call takes fills its slots. -/
theorem Written.Legal.exists_fills {arguments : List Written} (legal : Legal arguments) :
    ∃ resolved filled, resolved.map Argument.written = arguments ∧
      Argument.Fills resolved filled := by
  obtain ⟨resolved, rfl⟩ := exists_arguments legal.known
  obtain ⟨placed, required⟩ := Argument.legal_iff.1 legal
  exact ⟨resolved, _, rfl, placed, required, rfl⟩

theorem Written.Legal.exists_lands {arguments : List Written} (legal : Legal arguments) :
    ∃ filled, Lands arguments filled := by
  obtain ⟨resolved, filled, rfl, fills⟩ := legal.exists_fills
  exact ⟨filled, fills.lands⟩

end Harvest.Filter
