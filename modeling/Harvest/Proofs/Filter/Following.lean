import Harvest.Proofs.Filter.Routine

/-!
Routines follow parsers. From any token on, a routine with enough time comes to what the parser
makes of the tokens from there: it stops in front of the tokens that the parser leaves, it counts
the nesting as before, and its faults stand at tokens. The laws below carry this over the steps of
a routine, one law for each step, and the loops by induction on the room of the parser.
-/

namespace Harvest.Filter

/-- A fault that names a token as its place, or no place. -/
inductive Fault.StandsIn (tokens : List Token) : Fault → Prop where
  | token {token : Token} {cause : SyntaxFault} :
      token ∈ tokens → StandsIn tokens (.atOffset token.offset cause)
  | name (name : String) (kind : ItemKind) : StandsIn tokens (.unknownName name kind)

/-- The end comes last. -/
def EndsIn (tokens : List Token) : Prop :=
  ∃ body last, tokens = body ++ [⟨.finish, last⟩]

/-- What a parser reads and what a routine comes to, when the routine was at a token and a depth.
-/
inductive Comes {α : Type} (tokens : List Token) (depth start : Nat) :
    Except Fault (α × List Token) → Except Fault α × Cursor → Prop where
  | ok {result : α} {next : Nat} : start ≤ next → next < tokens.length →
      Comes tokens depth start (.ok (result, tokens.drop next)) (.ok result, ⟨next, depth⟩)
  | error {fault : Fault} {after : Cursor} : fault.StandsIn tokens →
      Comes tokens depth start (.error fault) (.error fault, after)

/-- A result leaves the cursor in front of the tokens that the parser leaves. -/
theorem Comes.stop {α : Type} {tokens rest : List Token} {depth start : Nat} {result : α}
    {outcome : Except Fault α × Cursor}
    (comes : Comes tokens depth start (.ok (result, rest)) outcome) :
    ∃ next, start ≤ next ∧ next < tokens.length ∧ rest = tokens.drop next ∧
      outcome = (.ok result, ⟨next, depth⟩) := by
  cases comes with
  | ok later inside => exact ⟨_, later, inside, rfl, rfl⟩

theorem Comes.stands {α : Type} {tokens : List Token} {depth start : Nat} {fault : Fault}
    {outcome : Except Fault α × Cursor} (comes : Comes tokens depth start (.error fault) outcome) :
    fault.StandsIn tokens ∧ ∃ after, outcome = (.error fault, after) := by
  cases comes with
  | error stands => exact ⟨stands, _, rfl⟩

/-- At a token and a depth a routine comes to what is read. -/
def FollowsAt {α : Type} (tokens : List Token) (depth start : Nat) (routine : Routine α)
    (read : Except Fault (α × List Token)) : Prop :=
  ∃ outcome, routine ⟨start, depth⟩ = some outcome ∧ Comes tokens depth start read outcome

/-- At every token a routine comes to what a parser makes of the tokens from there. -/
def Follows {α : Type} (tokens : List Token) (depth : Nat) (routine : Routine α)
    (parser : Parser α) : Prop :=
  ∀ start < tokens.length, FollowsAt tokens depth start routine (parser (tokens.drop start))

variable {α β : Type} {tokens : List Token} {depth start : Nat}

/-- Tokens without the end are not the last ones. -/
theorem EndsIn.behind (ends : EndsIn tokens) {taken rest : List Token}
    (inside : start < tokens.length) (place : tokens.drop start = taken ++ rest)
    (inner : ∀ token ∈ taken, token.lexeme ≠ .finish) :
    start + taken.length < tokens.length ∧ rest = tokens.drop (start + taken.length) := by
  have later : tokens.drop (start + taken.length) = rest := by
    rw [← List.drop_drop, place, List.drop_left]
  refine ⟨?_, later.symm⟩
  by_contra beyond
  rw [List.drop_of_length_le (by omega)] at later
  subst later
  obtain ⟨body, last, rfl⟩ := ends
  rw [List.length_append, List.length_singleton] at inside
  rw [List.drop_append_of_le_length (by omega), List.append_nil] at place
  exact inner ⟨.finish, last⟩ (place ▸ List.mem_append_right _ List.mem_cons_self) rfl

/-- A token other than the end is not the last one. -/
theorem EndsIn.next (ends : EndsIn tokens) {token : Token} {rest : List Token}
    (place : tokens.drop start = token :: rest) (inner : token.lexeme ≠ .finish) :
    start + 1 < tokens.length ∧ rest = tokens.drop (start + 1) := by
  have inside : start < tokens.length := by
    by_contra outside
    rw [List.drop_of_length_le (by omega)] at place
    contradiction
  have single : ∀ other ∈ [token], other.lexeme ≠ .finish := by simpa using inner
  exact ends.behind inside place single

/-- The tokens from a place on are room enough for what is read there. -/
theorem length_le_ahead (tokens : List Token) (start : Nat) :
    tokens.length ≤ start + (tokens.drop start).length := by
  rw [List.length_drop]
  omega

/-- A fault at the next token stands there. -/
theorem stands_ahead (inside : start < tokens.length) (fault : SyntaxFault) :
    (faultAt (tokens.drop start) fault).StandsIn tokens := by
  rw [List.drop_eq_getElem_cons inside]
  exact .token (List.getElem_mem inside)

namespace FollowsAt

variable {routine : Routine α} {read : Except Fault (α × List Token)}

theorem pure (result : α) (inside : start < tokens.length) :
    FollowsAt tokens depth start (Pure.pure result) (.ok (result, tokens.drop start)) :=
  ⟨_, rfl, .ok (Nat.le_refl _) inside⟩

theorem throw {fault : Fault} (stands : fault.StandsIn tokens) :
    FollowsAt tokens depth start (MonadExcept.throw fault : Routine α) (.error fault) :=
  ⟨_, rfl, .error stands⟩

/-- A routine goes on where the parser leaves off, at the depth where it began. -/
theorem bind {next : α → Routine β} {following : α × List Token → Except Fault (β × List Token)}
    (first : FollowsAt tokens depth start routine read)
    (second : ∀ result stop, start ≤ stop → stop < tokens.length →
      FollowsAt tokens depth stop (next result) (following (result, tokens.drop stop))) :
    FollowsAt tokens depth start (routine >>= next) (read >>= following) := by
  obtain ⟨outcome, ran, comes⟩ := first
  unfold FollowsAt
  rw [Routine.run_bind, ran]
  cases comes with
  | error stands => exact ⟨_, rfl, .error stands⟩
  | @ok result stop later inside =>
      obtain ⟨outcome, ran, comes⟩ := second result stop later inside
      refine ⟨outcome, ran, ?_⟩
      change Comes tokens depth start (following (result, tokens.drop stop)) outcome
      generalize following (result, tokens.drop stop) = read at comes
      cases comes with
      | ok more inside => exact .ok (later.trans more) inside
      | error stands => exact .error stands

theorem ahead {next : List Token → Routine α}
    (follows : FollowsAt tokens depth start (next (tokens.drop start)) read) :
    FollowsAt tokens depth start (Routine.ahead tokens >>= next) read := follows

/-- The tokens that a routine goes over are behind the place where it began. -/
theorem move {count : Nat} {next : Unit → Routine α}
    (follows : FollowsAt tokens depth (start + count) (next ()) read) :
    FollowsAt tokens depth start (Routine.move count >>= next) read := by
  obtain ⟨outcome, ran, comes⟩ := follows
  refine ⟨outcome, ran, ?_⟩
  cases comes with
  | ok more inside => exact .ok ((Nat.le_add_right start count).trans more) inside
  | error stands => exact .error stands

theorem advance {next : List Token → Routine α} (inside : start < tokens.length)
    (follows : FollowsAt tokens depth (start + 1) (next (tokens.drop start)) read) :
    FollowsAt tokens depth start (Routine.advance tokens >>= next) read := by
  unfold Routine.advance
  rw [bind_assoc]
  refine ahead ?_
  have some : (tokens.drop start).isEmpty = false := by simpa using inside
  simp only [some, Bool.false_eq_true, if_false, bind_assoc, pure_bind]
  exact move follows

theorem eat (ends : EndsIn tokens) {mark : Mark} {next : Bool → Routine α}
    (found : eat? mark (tokens.drop start) = some (tokens.drop (start + 1)) →
      start + 1 < tokens.length → FollowsAt tokens depth (start + 1) (next true) read)
    (missing : eat? mark (tokens.drop start) = none →
      FollowsAt tokens depth start (next false) read) :
    FollowsAt tokens depth start (Routine.eat tokens mark >>= next) read := by
  unfold Routine.eat
  rw [bind_assoc]
  refine ahead ?_
  cases eaten : eat? mark (tokens.drop start) with
  | none =>
      rw [pure_bind]
      exact missing eaten
  | some rest =>
      obtain ⟨offset, place⟩ := eat?_eq_some.1 eaten
      obtain ⟨inside, rfl⟩ := ends.next place nofun
      rw [bind_assoc]
      refine move ?_
      rw [pure_bind]
      exact found eaten inside

theorem expect (ends : EndsIn tokens) {mark : Mark} {what : String} {next : Unit → Routine α}
    {following : List Token → Except Fault (α × List Token)} (inside : start < tokens.length)
    (second : ∀ stop, start < stop → stop < tokens.length →
      FollowsAt tokens depth stop (next ()) (following (tokens.drop stop))) :
    FollowsAt tokens depth start (Routine.expect tokens mark what >>= next)
      (Filter.expect mark what (tokens.drop start) >>= following) := by
  unfold Routine.expect
  rw [bind_assoc]
  refine eat ends (fun found more => ?_) (fun missing => ?_)
  · simp only [Filter.expect, found]
    exact second _ (Nat.lt_succ_self start) more
  · simp only [Filter.expect, missing]
    exact ⟨_, rfl, .error (stands_ahead inside _)⟩

/-- A check that takes no token. -/
theorem liftExcept {checked : Except Fault β} {next : β → Routine α}
    {following : β → Except Fault (α × List Token)}
    (stands : ∀ fault, checked = .error fault → fault.StandsIn tokens)
    (second : ∀ value, checked = .ok value →
      FollowsAt tokens depth start (next value) (following value)) :
    FollowsAt tokens depth start (liftExcept checked >>= next) (checked >>= following) := by
  cases checked with
  | error fault => exact ⟨_, rfl, .error (stands fault rfl)⟩
  | ok value => exact second value rfl

/-- The step into the nesting is taken back. -/
theorem deeper (within : depth < nestingLimit)
    (follows : FollowsAt tokens (depth + 1) start routine read) :
    FollowsAt tokens depth start (Routine.deeper tokens routine) read := by
  obtain ⟨outcome, ran, comes⟩ := follows
  unfold FollowsAt
  rw [Routine.run_deeper, if_neg (by omega), ran]
  cases comes with
  | ok later inside => exact ⟨_, rfl, .ok later inside⟩
  | error stands => exact ⟨_, rfl, .error stands⟩

/-- At the limit there is no step into the nesting. -/
theorem tooDeep (beyond : nestingLimit ≤ depth) (inside : start < tokens.length) :
    FollowsAt tokens depth start (Routine.deeper tokens routine)
      (Filter.tooDeep (tokens.drop start)) := by
  unfold FollowsAt
  rw [Routine.run_deeper, if_pos (by omega)]
  exact ⟨_, rfl, .error (stands_ahead inside _)⟩

theorem slot (ends : EndsIn tokens) (inside : start < tokens.length) {arguments : Arguments}
    {next : Option MomentPart × Arguments → Routine α}
    {following : Option MomentPart × Arguments × List Token → Except Fault (α × List Token)}
    (second : ∀ slot turned stop, start ≤ stop → stop < tokens.length →
      FollowsAt tokens depth stop (next (slot, turned))
        (following (slot, turned, tokens.drop stop))) :
    FollowsAt tokens depth start (Routine.slot tokens arguments >>= next)
      (arguments.slot (tokens.drop start) >>= following) := by
  unfold Routine.slot
  rw [bind_assoc]
  refine .ahead ?_
  rw [bind_assoc]
  refine .liftExcept (fun fault failed => ?_) ?_
  · obtain ⟨cause, rfl⟩ := Arguments.slot_fault failed
    exact stands_ahead inside cause
  · rintro ⟨slot, turned, rest⟩ slotted
    obtain ⟨taken, place, inner, width⟩ := Arguments.slot_taken slotted
    obtain ⟨more, rfl⟩ := ends.behind inside place inner
    have follows := second slot turned _ (Nat.le_add_right start taken.length) more
    rw [width] at follows ⊢
    dsimp only
    cases keyword : startsWithKeyword (tokens.drop start) with
    | true =>
        rw [keyword, if_pos rfl] at follows
        simp only [if_true, bind_assoc, pure_bind]
        exact .move follows
    | false =>
        rw [keyword, if_neg nofun] at follows
        simp only [Bool.false_eq_true, if_false, pure_bind]
        exact follows

end FollowsAt

section Loops

variable {operand : Routine Expression} {parser : Parser Expression}

/-- An operator between operands is one token. -/
theorem Finds.single {level : Level} {operator? : List Token → Option (β × List Token)}
    {combine : β → Expression → Expression → Expression} (finds : Finds level operator? combine)
    {operator : β} {place rest : List Token} (found : operator? place = some (operator, rest)) :
    ∃ token, place = token :: rest ∧ token.lexeme ≠ .finish := by
  obtain ⟨lexeme, offset, rfl, joins⟩ := finds found
  exact ⟨_, rfl, joins.ne_finish⟩

/-- Operators that group to the left are combined as they come. -/
theorem followsAt_joined (ends : EndsIn tokens) (follows : Follows tokens depth operand parser)
    {level : Level} {operator? : List Token → Option (β × List Token)}
    {combine : β → Expression → Expression → Expression} (finds : Finds level operator? combine)
    (room time : Nat) (left : Expression) (inside : start < tokens.length)
    (enough : tokens.length ≤ start + room) (long : tokens.length ≤ start + time) :
    FollowsAt tokens depth start (Routine.joined tokens operand operator? combine time left)
      (do
        let (following, rest) ← links parser operator? room (tokens.drop start)
        return (groupLeft combine left following, rest)) := by
  induction room generalizing time left start with
  | zero => omega
  | succ room ih =>
      obtain ⟨time, rfl⟩ : ∃ less, time = less + 1 := ⟨time - 1, by omega⟩
      unfold Routine.joined links
      refine FollowsAt.ahead ?_
      cases found : operator? (tokens.drop start) with
      | none => exact .pure _ inside
      | some link =>
          obtain ⟨operator, rest⟩ := link
          obtain ⟨token, place, inner⟩ := finds.single found
          obtain ⟨more, rfl⟩ := ends.next place inner
          refine .move ?_
          dsimp only
          rw [bind_assoc]
          refine (follows _ more).bind fun right stop later inside => ?_
          dsimp only
          rw [bind_assoc]
          exact ih time (combine operator left right) inside (by omega) (by omega)

theorem followsAt_comparisons (ends : EndsIn tokens) (follows : Follows tokens depth operand parser)
    (room time : Nat) (inside : start < tokens.length)
    (enough : tokens.length ≤ start + room) (long : tokens.length ≤ start + time) :
    FollowsAt tokens depth start (Routine.comparisons tokens operand time)
      (links parser comparison? room (tokens.drop start)) := by
  induction room generalizing time start with
  | zero => omega
  | succ room ih =>
      obtain ⟨time, rfl⟩ : ∃ less, time = less + 1 := ⟨time - 1, by omega⟩
      unfold Routine.comparisons links
      refine FollowsAt.ahead ?_
      cases found : comparison? (tokens.drop start) with
      | none => exact .pure _ inside
      | some link =>
          obtain ⟨comparison, rest⟩ := link
          obtain ⟨operator, place, spelled⟩ := comparison?_sound found
          have width : comparison.lexemes.length = operator.length := by
            rw [← spelled, List.length_map]
          have positive : 0 < operator.length := by
            rw [← width]
            cases comparison <;> exact Nat.succ_pos _
          obtain ⟨more, rfl⟩ := ends.behind inside place (Comparison.lexemes_ne_finish spelled)
          dsimp only
          rw [width]
          refine .move ?_
          refine (follows _ more).bind fun right stop later inside => ?_
          exact (ih time inside (by omega) (by omega)).bind fun following _ _ inside =>
            .pure _ inside

theorem followsAt_members (ends : EndsIn tokens) (room time : Nat) (target : Expression)
    (inside : start < tokens.length) (enough : tokens.length ≤ start + room)
    (long : tokens.length ≤ start + time) :
    FollowsAt tokens depth start (Routine.members tokens time target)
      (members target room (tokens.drop start)) := by
  induction room generalizing time target start with
  | zero => omega
  | succ room ih =>
      obtain ⟨time, rfl⟩ : ∃ less, time = less + 1 := ⟨time - 1, by omega⟩
      unfold Routine.members members
      refine FollowsAt.eat ends (fun dotted more => ?_) (fun undotted => ?_)
      · simp only [dotted, if_true]
        refine FollowsAt.advance more ?_
        rcases place : tokens.drop (start + 1) with - | ⟨⟨lexeme, offset⟩, rest⟩
        · rw [List.drop_eq_nil_iff] at place
          omega
        · have listed : ⟨lexeme, offset⟩ ∈ tokens :=
            List.mem_of_mem_drop (place ▸ List.mem_cons_self)
          cases lexeme with
          | name word =>
              obtain ⟨further, rfl⟩ := ends.next place (by simp)
              dsimp only
              cases MomentPart.ofName? word with
              | some part => exact ih time _ further (by omega) (by omega)
              | none => exact .throw (.token listed)
          | _ => exact .throw (.token listed)
      · simp only [undotted]
        exact .pure _ inside

theorem followsAt_itemsFrom (ends : EndsIn tokens) (follows : Follows tokens depth operand parser)
    (room time : Nat) (inside : start < tokens.length)
    (enough : tokens.length ≤ start + room) (long : tokens.length ≤ start + time) :
    FollowsAt tokens depth start (Routine.itemsFrom tokens operand time)
      (itemsFrom parser room (tokens.drop start)) := by
  induction room generalizing time start with
  | zero => omega
  | succ room ih =>
      obtain ⟨time, rfl⟩ : ∃ less, time = less + 1 := ⟨time - 1, by omega⟩
      unfold Routine.itemsFrom itemsFrom
      refine (follows _ inside).bind fun item stop later inside => ?_
      refine .eat ends (fun closed more => ?_) (fun unclosed => ?_)
      · simp only [closed, if_true]
        exact .pure _ more
      · simp only [unclosed, Bool.false_eq_true, if_false]
        refine .expect ends inside fun next behind inside => ?_
        refine .eat ends (fun closed more => ?_) (fun unclosed => ?_)
        · simp only [closed, if_true]
          exact .pure _ more
        · simp only [unclosed, Bool.false_eq_true, if_false]
          exact (ih time inside (by omega) (by omega)).bind fun items _ _ inside => .pure _ inside

theorem followsAt_listItems (ends : EndsIn tokens) (follows : Follows tokens depth operand parser)
    {time : Nat} (inside : start < tokens.length) (long : tokens.length ≤ time) :
    FollowsAt tokens depth start (Routine.listItems tokens operand time)
      (listItems parser (tokens.drop start)) := by
  unfold Routine.listItems listItems
  refine .eat ends (fun closed more => ?_) (fun unclosed => ?_)
  · simp only [closed, if_true]
    exact .pure _ more
  · simp only [unclosed, Bool.false_eq_true, if_false]
    have room := length_le_ahead tokens start
    exact followsAt_itemsFrom ends follows _ time inside (by omega) (by omega)

theorem followsAt_argumentsFrom (ends : EndsIn tokens)
    (follows : Follows tokens depth operand parser) {callOffset : Nat}
    (called : ∀ cause, (Fault.atOffset callOffset cause).StandsIn tokens)
    (room time : Nat) (arguments : Arguments) (inside : start < tokens.length)
    (enough : tokens.length ≤ start + room) (long : tokens.length ≤ start + time) :
    FollowsAt tokens depth start (Routine.argumentsFrom tokens operand callOffset time arguments)
      (argumentsFrom parser callOffset arguments room (tokens.drop start)) := by
  induction room generalizing time start arguments with
  | zero => omega
  | succ room ih =>
      obtain ⟨time, rfl⟩ : ∃ less, time = less + 1 := ⟨time - 1, by omega⟩
      unfold Routine.argumentsFrom argumentsFrom
      refine .eat ends (fun closed more => ?_) (fun unclosed => ?_)
      · simp only [closed, if_true]
        exact .pure _ more
      · simp only [unclosed, Bool.false_eq_true, if_false]
        -- A repeated argument is a fault at its first token, which the value has gone past.
        have here := stands_ahead inside
        refine .ahead (.slot ends inside fun slot turned stop later inside => ?_)
        refine (follows _ inside).bind fun value stop later inside => ?_
        refine .liftExcept (fun fault failed => ?_) fun filled stored => ?_
        · obtain ⟨cause, rfl | rfl⟩ := Arguments.put_fault failed
          · exact called cause
          · exact here cause
        · refine .eat ends (fun separated further => ?_) (fun last => ?_)
          · simp only [separated, if_true]
            exact ih time filled further (by omega) (by omega)
          · simp only [last, Bool.false_eq_true, if_false]
            exact .expect ends inside fun stop _ inside => .pure _ inside

theorem followsAt_callSlots (ends : EndsIn tokens) (follows : Follows tokens depth operand parser)
    {callOffset : Nat} (called : ∀ cause, (Fault.atOffset callOffset cause).StandsIn tokens)
    {time : Nat} (inside : start < tokens.length) (long : tokens.length ≤ time) :
    FollowsAt tokens depth start (Routine.callSlots tokens operand callOffset time)
      (callSlots parser callOffset (tokens.drop start)) := by
  unfold Routine.callSlots callSlots
  have room := length_le_ahead tokens start
  refine (followsAt_argumentsFrom ends follows called _ time Arguments.empty inside (by omega)
    (by omega)).bind fun final stop _ inside => ?_
  rw [← bind_pure (liftExcept _)]
  refine .liftExcept (fun fault failed => ?_) fun slots _ => .pure _ inside
  obtain ⟨cause, rfl⟩ := Arguments.finish_fault failed
  exact called cause

end Loops

end Harvest.Filter
