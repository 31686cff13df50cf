import Harvest.Proofs.Filter.Grammar

/-!
The slots of a call. The state that reads arguments one by one agrees with what the whole list of
arguments says, so a list is accepted exactly when it fills the slots.
-/

namespace Harvest.Filter

namespace MomentPart

theorem ofName?_eq_some {name : String} {part : MomentPart} :
    ofName? name = some part ↔ name = part.name := by
  constructor
  · intro found
    have same := List.find?_some found
    exact (beq_iff_eq.1 same).symm
  · rintro rfl
    cases part <;> rfl

/-- The slot of a part among the arguments of `datetime`. -/
def index : MomentPart → Nat
  | .year => 0
  | .month => 1
  | .day => 2
  | .hour => 3
  | .minute => 4
  | .second => 5

theorem all_getElem?_eq_some {slot : Nat} {part : MomentPart} :
    all[slot]? = some part ↔ slot = part.index := by
  constructor
  · intro found
    match slot with
    | 0 | 1 | 2 | 3 | 4 | 5 => cases found; rfl
    | slot + 6 => cases found
  · rintro rfl
    cases part <;> rfl

theorem exists_index {slot : Nat} (small : slot < 6) : ∃ part : MomentPart, part.index = slot :=
  ⟨_, (all_getElem?_eq_some.1 (List.getElem?_eq_getElem small)).symm⟩

end MomentPart

namespace Argument

variable {done : List Argument} {argument : Argument}

theorem placements_concat (done : List Argument) (argument : Argument) :
    placements (done ++ [argument]) = placements done ++
      [(argument.keyword.or MomentPart.all[done.length]?, argument.value)] := by
  simp [placements, List.mapIdx_append]

/-- A slot that earlier arguments left empty holds the value of the next one, if it is its slot. -/
theorem given?_concat (done : List Argument) (argument : Argument) (part : MomentPart) :
    given? (done ++ [argument]) part = (given? done part).or
      (if argument.keyword.or MomentPart.all[done.length]? = some part then some argument.value
        else none) := by
  rw [given?, placements_concat, List.lookup_append]
  congr 1
  by_cases same : some part = argument.keyword.or MomentPart.all[done.length]?
  · simp [same]
  · have different : (some part == argument.keyword.or MomentPart.all[done.length]?) = false :=
      beq_false_of_ne same
    simp [List.lookup_cons, different, Ne.symm same]

theorem given?_eq_none {done : List Argument} {part : MomentPart} :
    given? done part = none ↔ some part ∉ (placements done).map Prod.fst := by
  rw [given?, List.lookup_eq_none_iff]
  constructor
  · intro absent inside
    obtain ⟨placement, listed, same⟩ := List.mem_map.1 inside
    exact absurd same.symm (by simpa using absent placement listed)
  · intro absent placement listed
    have other : placement.1 ≠ some part := fun same => absent (List.mem_map.2 ⟨_, listed, same⟩)
    simpa using other.symm

/-- One more argument is placed when it comes in order and its slot exists and is empty. -/
theorem placed_concat : Placed (done ++ [argument]) ↔
    Placed done ∧ (argument.keyword = none → ∀ earlier ∈ done, earlier.keyword = none) ∧
      ∃ part, argument.keyword.or MomentPart.all[done.length]? = some part ∧
        given? done part = none := by
  constructor
  · rintro ⟨ordered, inSlots, apart⟩
    rw [List.pairwise_append] at ordered
    rw [placements_concat] at inSlots apart
    rw [List.map_append, List.nodup_append] at apart
    have slotted := inSlots _ (List.mem_append_right _ (List.mem_singleton_self _))
    obtain ⟨part, slot⟩ := Option.isSome_iff_exists.1 slotted
    refine ⟨⟨ordered.1, ?_, apart.1⟩, ?_, part, slot, ?_⟩
    · intro placement inside
      exact inSlots placement (List.mem_append_left _ inside)
    · intro positional earlier inside
      have implied := ordered.2.2 earlier inside argument (List.mem_singleton_self _)
      simpa [positional] using implied
    · rw [given?_eq_none]
      intro inside
      exact apart.2.2 _ inside _ (List.mem_singleton_self _) slot.symm
  · rintro ⟨placed, ordered, part, slot, empty⟩
    refine ⟨?_, ?_, ?_⟩
    · rw [List.pairwise_append]
      refine ⟨placed.keywordsLast, List.pairwise_singleton _ _, ?_⟩
      intro earlier inside last same keyword
      rw [List.mem_singleton.1 same]
      by_contra positional
      rw [ordered (Option.not_isSome_iff_eq_none.1 positional) earlier inside] at keyword
      contradiction
    · intro placement inside
      rw [placements_concat, List.mem_append, List.mem_singleton] at inside
      rcases inside with inside | rfl
      · exact placed.inSlots placement inside
      · exact Option.isSome_iff_exists.2 ⟨part, slot⟩
    · rw [placements_concat, List.map_append, List.nodup_append]
      refine ⟨placed.apart, by simp, ?_⟩
      intro taken inside last same equal
      have free := given?_eq_none.1 empty
      rw [equal, List.mem_singleton.1 same, slot] at inside
      exact free inside

end Argument

namespace Arguments

variable {state next after : Arguments} {done : List Argument} {value : Expression}
  {tokens rest : List Token} {slot : Option MomentPart} {callOffset offset : Nat}

/-- The state of a call agrees with the arguments passed. -/
structure Tracks (state : Arguments) (done : List Argument) : Prop where
  placed : Argument.Placed done
  slots : state.slots = Argument.given? done
  positional : state.keywordSeen = false →
    state.positional = done.length ∧ ∀ argument ∈ done, argument.keyword = none
  keyword : state.keywordSeen = true → ∃ argument ∈ done, argument.keyword ≠ none

/-- A new call agrees with no arguments. -/
theorem tracks_empty : empty.Tracks [] where
  placed := ⟨List.Pairwise.nil, by simp [Argument.placements], by simp [Argument.placements]⟩
  slots := rfl
  positional _ := ⟨rfl, by simp⟩
  keyword seen := absurd seen (by decide)

/-- How the next argument is introduced, and the state that knows of it. -/
inductive Turns (state : Arguments) : Option MomentPart → Option MomentPart → Arguments → Prop where
  | keyword (part : MomentPart) :
      Turns state (some part) (some part) { state with keywordSeen := true }
  | position : state.keywordSeen = false →
      Turns state none MomentPart.all[state.positional]?
        { state with positional := state.positional + 1 }

theorem slot_keyword (state : Arguments) (part : MomentPart) (first second : Nat)
    (rest : List Token) :
    state.slot (⟨.name part.name, first⟩ :: ⟨.binding .plain, second⟩ :: rest) =
      .ok (some part, { state with keywordSeen := true }, rest) := by
  simp only [slot, MomentPart.ofName?_eq_some.2 rfl]

theorem slot_position (plain : startsWithKeyword tokens = false)
    (unseen : state.keywordSeen = false) :
    state.slot tokens = .ok (MomentPart.all[state.positional]?,
      { state with positional := state.positional + 1 }, tokens) := by
  unfold slot
  split
  · exact absurd plain (by simp [startsWithKeyword, startsWithBinding])
  · simp [unseen]

/-- A slot comes from a keyword or from a position. -/
theorem slot_ok (slotted : state.slot tokens = .ok (slot, next, rest)) :
    ∃ keyword intro, tokens = intro ++ rest ∧ Argument.Introduced keyword intro ∧
      state.Turns keyword slot next := by
  unfold Arguments.slot at slotted
  split at slotted
  · next word first second following =>
      split at slotted
      · next part found =>
          cases slotted
          rw [MomentPart.ofName?_eq_some.1 found]
          exact ⟨_, _, rfl, .keyword part first second, .keyword part⟩
      · contradiction
  · split at slotted
    · contradiction
    · next unseen =>
        cases slotted
        exact ⟨none, [], rfl, .position, .position (by simpa using unseen)⟩

/-- A turn for the next argument finds the slot that the whole list gives it. -/
theorem Tracks.slot_eq (tracks : state.Tracks done) {keyword : Option MomentPart}
    (turns : state.Turns keyword slot next) : slot = keyword.or MomentPart.all[done.length]? := by
  cases turns with
  | keyword => rfl
  | position unseen => rw [(tracks.positional unseen).1, Option.none_or]

/-- A turn for the next argument comes in order. -/
theorem Tracks.ordered (tracks : state.Tracks done) {keyword : Option MomentPart}
    (turns : state.Turns keyword slot next) (positional : keyword = none) :
    ∀ argument ∈ done, argument.keyword = none := by
  cases turns with
  | keyword => contradiction
  | position unseen => exact (tracks.positional unseen).2

/-- The value of the next argument goes in exactly when the longer list is placed. -/
theorem Tracks.put (tracks : state.Tracks done) {keyword : Option MomentPart}
    (turns : state.Turns keyword slot next) :
    (∃ after, next.put callOffset offset slot value = .ok after) ↔
      Argument.Placed (done ++ [⟨keyword, value⟩]) := by
  have slots : next.slots = Argument.given? done := by cases turns <;> exact tracks.slots
  rw [Argument.placed_concat, ← tracks.slot_eq turns]
  constructor
  · rintro ⟨after, stored⟩
    refine ⟨tracks.placed, tracks.ordered turns, ?_⟩
    unfold Arguments.put at stored
    split at stored
    · contradiction
    · next part =>
        refine ⟨part, rfl, ?_⟩
        by_contra taken
        rw [slots, if_pos (Option.isSome_iff_ne_none.2 taken)] at stored
        contradiction
  · rintro ⟨-, -, part, rfl, free⟩
    simp [Arguments.put, slots, free]

/-- The state after the next argument agrees with the longer list. -/
theorem Tracks.advance (tracks : state.Tracks done) {keyword : Option MomentPart}
    (turns : state.Turns keyword slot next)
    (stored : next.put callOffset offset slot value = .ok after) :
    after.Tracks (done ++ [⟨keyword, value⟩]) := by
  have placed := (tracks.put turns).1 ⟨after, stored⟩
  have slots : next.slots = Argument.given? done := by cases turns <;> exact tracks.slots
  have slotted := tracks.slot_eq turns
  -- Either no keyword was seen and all arguments stand by position, or one was seen and this one
  -- has a keyword too.
  have unseen : next.keywordSeen = false →
      next.positional = done.length + 1 ∧ keyword = none ∧
        ∀ argument ∈ done, argument.keyword = none := by
    intro unseen
    cases turns with
    | keyword => contradiction
    | position before =>
        have earlier := tracks.positional before
        exact ⟨congrArg (· + 1) earlier.1, rfl, earlier.2⟩
  have seen : next.keywordSeen = true → keyword ≠ none := by
    intro seen
    cases turns with
    | keyword => simp
    | position before => exact absurd seen (by simp [before])
  unfold Arguments.put at stored
  split at stored
  · contradiction
  · next part =>
      split at stored
      · contradiction
      · next free =>
          cases stored
          refine ⟨placed, ?_, ?_, ?_⟩
          · funext other
            rw [Argument.given?_concat, ← slotted, slots]
            by_cases same : other = part
            · subst other
              have empty : Argument.given? done part = none := by simpa [slots] using free
              simp [empty]
            · simp [same, Ne.symm same]
          · intro before
            obtain ⟨count, positional, earlier⟩ := unseen before
            refine ⟨by simpa using count, ?_⟩
            simpa [or_imp, forall_and] using ⟨earlier, positional⟩
          · intro before
            exact ⟨_, List.mem_append_right _ (List.mem_singleton_self _), seen before⟩

/-- A call ends well exactly when its arguments fill the slots. -/
theorem Tracks.finish (tracks : state.Tracks done) (slots : List Expression) :
    state.finish callOffset = .ok slots ↔ Argument.Fills done slots := by
  have filled : state.filled = fun part =>
      (Argument.given? done part).getD (.literal (.int 0)) := by
    funext part
    rw [Arguments.filled, tracks.slots]
  unfold Arguments.finish
  rw [tracks.slots, filled]
  split
  · next missing =>
      constructor
      · intro failed
        contradiction
      · rintro ⟨-, required, -⟩
        obtain ⟨part, listed, absent⟩ := List.any_eq_true.1 missing
        have given := required part listed
        simp_all
  · next complete =>
      have required : ∀ part ∈ [MomentPart.year, .month, .day],
          (Argument.given? done part).isSome := by
        intro part listed
        by_contra absent
        exact complete (List.any_eq_true.2 ⟨part, listed, by simpa using absent⟩)
      constructor
      · intro same
        cases same
        exact ⟨tracks.placed, required, rfl⟩
      · rintro ⟨-, -, rfl⟩
        rfl

/-! ## What is wrong with an argument -/

variable {place : List Token} {fault : Fault}

/-- The tokens that a slot takes are a keyword or nothing. -/
theorem slot_taken (slotted : state.slot place = .ok (slot, next, rest)) :
    ∃ taken, place = taken ++ rest ∧ (∀ token ∈ taken, token.lexeme ≠ .finish) ∧
      taken.length = if startsWithKeyword place then 2 else 0 := by
  unfold Arguments.slot at slotted
  split at slotted
  · split at slotted
    · cases slotted
      exact ⟨[_, _], rfl, by simp, rfl⟩
    · contradiction
  · next other =>
      split at slotted
      · contradiction
      · cases slotted
        refine ⟨[], rfl, by simp, ?_⟩
        unfold startsWithKeyword startsWithBinding
        split
        · split
          · exact absurd rfl (other _ _ _ _)
          · rfl
        · rfl

/-- A slot is missing at its argument. -/
theorem slot_fault (failed : state.slot place = .error fault) :
    ∃ cause, fault = faultAt place cause := by
  unfold Arguments.slot at failed
  split at failed
  · split at failed
    · contradiction
    · cases failed
      exact ⟨_, rfl⟩
  · split at failed
    · cases failed
      exact ⟨_, rfl⟩
    · contradiction

/-- A value has no place at the call or at its argument. -/
theorem put_fault (failed : state.put callOffset offset slot value = .error fault) :
    ∃ cause, fault = .atOffset callOffset cause ∨ fault = .atOffset offset cause := by
  unfold Arguments.put at failed
  split at failed
  · cases failed
    exact ⟨_, .inl rfl⟩
  · split at failed
    · cases failed
      exact ⟨_, .inr rfl⟩
    · contradiction

/-- Arguments are missing at the call. -/
theorem finish_fault (failed : state.finish callOffset = .error fault) :
    ∃ cause, fault = .atOffset callOffset cause := by
  unfold Arguments.finish at failed
  split at failed
  · cases failed
    exact ⟨_, rfl⟩
  · contradiction

end Arguments

end Harvest.Filter
