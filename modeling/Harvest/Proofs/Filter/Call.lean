import Harvest.Proofs.Filter.Acceptance
import Harvest.Proofs.Filter.Placement

/-!
Calls of `datetime` in filters. A call is read when it takes its arguments, and then each stands at
its slot; every other call is a fault of its text. The arguments are followed one by one, because
what is wrong with one of them shows before the next is read.
-/

namespace Harvest.Filter

open Result (ok_bind)

/-- A fault at some place of a text. -/
def Fault.IsSyntax (fault : Fault) : Prop :=
  ∃ offset cause, fault = .atOffset offset cause

namespace Written

/-- The tokens before the value of an argument. -/
inductive Introduced : Option String → List Token → Prop where
  | position : Introduced none []
  | keyword (word : String) (first second : Nat) :
      Introduced (some word) [⟨.name word, first⟩, ⟨.binding .plain, second⟩]

/-- The tokens of arguments with commas between them, in a call that stands at a depth. -/
inductive Spelled (kind : ItemKind) (depth : Nat) : List Written → List Token → Prop where
  | none : Spelled kind depth [] []
  | last {keyword : Option String} {value : Expression} {intro tokens : List Token} :
      Introduced keyword intro →
      depth < nestingLimit →
      Derives kind (depth + 1) (.at .disjunction value) tokens →
      Spelled kind depth [⟨keyword, value⟩] (intro ++ tokens)
  | more {keyword : Option String} {value : Expression} {next : Written}
      {following : List Written} {intro first second : List Token} (offset : Nat) :
      Introduced keyword intro →
      depth < nestingLimit →
      Derives kind (depth + 1) (.at .disjunction value) first →
      Spelled kind depth (next :: following) second →
      Spelled kind depth (⟨keyword, value⟩ :: next :: following)
        (intro ++ first ++ ⟨.mark .comma, offset⟩ :: second)

/-- The tokens of a call. Behind an argument there may be one more comma. -/
inductive Call (kind : ItemKind) (depth : Nat) (arguments : List Written) : List Token → Prop where
  | intro {tokens comma : List Token} (name first last : Nat) :
      Spelled kind depth arguments tokens →
      TrailingComma comma →
      (arguments = [] → comma = []) →
      Call kind depth arguments
        (⟨.name datetimeName, name⟩ :: ⟨.mark .openParen, first⟩ :: tokens ++ comma ++
          [⟨.mark .closeParen, last⟩])

end Written

open Written (Introduced Spelled Call Legal Lands Rearranged)

/-- How calls with some arguments are read, wherever they stand. -/
structure ReadsCalls (kind : ItemKind) (depth steps : Nat) (arguments : List Written) : Prop where
  fills : Legal arguments → ∃ filled, Lands arguments filled
  accepts : Legal arguments → ∀ filled, Lands arguments filled →
    ∀ call rest, Call kind depth arguments call →
      atom kind (nested kind steps) (call ++ rest) = .ok (.datetime filled, rest)
  rejects : ¬Legal arguments → ∀ call rest, Call kind depth arguments call →
    ∃ fault, fault.IsSyntax ∧ atom kind (nested kind steps) (call ++ rest) = .error fault
  /-- Another form of the arguments makes the same tree. -/
  rearranged : ∀ others, Rearranged arguments others → ∀ call other tree rest,
    Call kind depth arguments call → Call kind depth others other →
      atom kind (nested kind steps) (call ++ rest) = .ok (tree, rest) →
      atom kind (nested kind steps) (other ++ rest) = .ok (tree, rest)
  /-- With one more comma at the end the outcome is the same, also where it is a fault. -/
  trailing : ∀ tokens, arguments ≠ [] → Spelled kind depth arguments tokens →
    ∀ name first comma last rest,
      atom kind (nested kind steps) (⟨.name datetimeName, name⟩ :: ⟨.mark .openParen, first⟩ ::
          tokens ++ ⟨.mark .comma, comma⟩ :: ⟨.mark .closeParen, last⟩ :: rest) =
        atom kind (nested kind steps) (⟨.name datetimeName, name⟩ :: ⟨.mark .openParen, first⟩ ::
          tokens ++ ⟨.mark .closeParen, last⟩ :: rest)

/-- How texts that are calls with some arguments are read. -/
structure ParsesCalls (kind : ItemKind) (arguments : List Written) : Prop where
  accepts : Legal arguments → ∀ filled, Lands arguments filled →
    ∀ source call last, tokenize source = .ok (call ++ [⟨.finish, last⟩]) →
      Call kind 1 arguments call → Expression.parse source kind = .ok (.datetime filled)
  rejects : ¬Legal arguments →
    ∀ source call last, tokenize source = .ok (call ++ [⟨.finish, last⟩]) →
      Call kind 1 arguments call →
        ∃ offset fault, Expression.parse source kind = .error (.syntaxFault source offset fault)

/-! ## One argument -/

/-- What comes of some arguments behind others agrees with them: they are placed, or a fault says
that they cannot be. -/
structure Agrees (done : List Argument) (arguments : List Written)
    (outcome : Except Fault Arguments) : Prop where
  ok : ∀ final, outcome = .ok final → ∃ resolved : List Argument,
    resolved.map Argument.written = arguments ∧ final.Tracks (done ++ resolved)
  error : ∀ fault, outcome = .error fault → fault.IsSyntax ∧ ∀ resolved : List Argument,
    resolved.map Argument.written = arguments → ¬Argument.Placed (done ++ resolved)

section Step

variable {kind : ItemKind} {depth : Nat} {state turned : Arguments} {done : List Argument}
  {tokens : List Token} {value : Expression}

theorem Arguments.put_error {slot : Option MomentPart} {callOffset offset : Nat} {fault : Fault}
    (failed : state.put callOffset offset slot value = .error fault) : fault.IsSyntax := by
  obtain ⟨cause, rfl | rfl⟩ := put_fault failed <;> exact ⟨_, _, rfl⟩

theorem Arguments.finish_error {callOffset : Nat} {fault : Fault}
    (failed : state.finish callOffset = .error fault) : fault.IsSyntax := by
  obtain ⟨cause, rfl⟩ := finish_fault failed
  exact ⟨_, _, rfl⟩

theorem Arguments.slot_late (plain : startsWithKeyword tokens = false)
    (seen : state.keywordSeen = true) :
    state.slot tokens = .error (faultAt tokens .positionalAfterKeyword) := by
  unfold slot
  split
  · exact absurd plain (by simp [startsWithKeyword, startsWithBinding])
  · simp [seen]

/-- A written argument is that of one argument of the grammar only. -/
theorem Argument.eq_of_written (argument : Argument) {resolved : List Argument}
    (same : resolved.map written = [argument.written]) : resolved = [argument] :=
  List.map_injective_iff.2 written_injective same

/-- The value that goes in agrees with its argument. -/
theorem Arguments.Tracks.agrees_put (tracks : state.Tracks done) {keyword slot : Option MomentPart}
    (turns : state.Turns keyword slot turned) (value : Expression) (callOffset offset : Nat) :
    Agrees done [⟨keyword.map MomentPart.name, value⟩]
      (turned.put callOffset offset slot value) where
  ok final stored := ⟨[⟨keyword, value⟩], rfl, tracks.advance turns stored⟩
  error fault failed := by
    refine ⟨Arguments.put_error failed, fun resolved same placed => ?_⟩
    obtain rfl := Argument.eq_of_written ⟨keyword, value⟩ same
    obtain ⟨after, stored⟩ := (tracks.put turns).2 placed
    rw [failed] at stored
    contradiction

/-- How the call turns to a written argument, whatever stands behind it: the argument is out of
order or has an unknown keyword, or there is a slot for it. -/
inductive Turn (state : Arguments) (done : List Argument) (argument : Written)
    (tokens spelled : List Token) : Prop where
  | fault {fault : Fault} : fault.IsSyntax →
      (∀ resolved : List Argument, resolved.map Argument.written = [argument] →
        ¬Argument.Placed (done ++ resolved)) →
      (∀ tail, startsWithBinding tail = false → state.slot (tokens ++ tail) = .error fault) →
      Turn state done argument tokens spelled
  | slot {keyword slot : Option MomentPart} {turned : Arguments} :
      argument.keyword = keyword.map MomentPart.name → state.Turns keyword slot turned →
      (∀ tail, startsWithBinding tail = false →
        state.slot (tokens ++ tail) = .ok (slot, turned, spelled ++ tail)) →
      Turn state done argument tokens spelled

variable {keyword : Option String} {intro : List Token}

theorem Written.Introduced.turn (introduced : Introduced keyword intro)
    (derived : Derives kind depth (.at .disjunction value) tokens) (tracks : state.Tracks done) :
    Turn state done ⟨keyword, value⟩ (intro ++ tokens) tokens := by
  cases introduced with
  | position =>
      cases seen : state.keywordSeen with
      | true =>
          obtain ⟨first, following, rfl, -⟩ := derived.starts
          refine .fault ⟨first.offset, _, rfl⟩ (fun resolved same placed => ?_) fun tail unbound =>
            Arguments.slot_late (derived.unbound tail unbound) seen
          obtain rfl := Argument.eq_of_written ⟨none, value⟩ same
          obtain ⟨earlier, inside, named⟩ := tracks.keyword seen
          exact named ((Argument.placed_concat.1 placed).2.1 rfl earlier inside)
      | false =>
          have unnamed : (none : Option String) = Option.map MomentPart.name none := rfl
          exact .slot unnamed (.position seen) fun tail unbound =>
            Arguments.slot_position (derived.unbound tail unbound) seen
  | keyword word first second =>
      cases found : MomentPart.ofName? word with
      | none =>
          refine .fault ⟨first, .unknownKeyword word, rfl⟩ (fun resolved same placed => ?_)
            fun tail _ => by simp only [List.cons_append, List.nil_append, Arguments.slot, found]
          obtain ⟨argument, rfl, written⟩ := List.map_eq_singleton_iff.1 same
          obtain ⟨part, -, rfl⟩ := Option.map_eq_some_iff.1 (Written.mk.inj written).1
          rw [MomentPart.ofName?_eq_some.2 rfl] at found
          contradiction
      | some part =>
          obtain rfl := MomentPart.ofName?_eq_some.1 found
          have named : some part.name = Option.map MomentPart.name (some part) := rfl
          exact .slot named (.keyword part) fun tail _ =>
            Arguments.slot_keyword state part first second (tokens ++ tail)

/-- An argument is taken, or it is at fault before what is behind it is read. -/
theorem exists_step (expression : Parser Expression) (introduced : Introduced keyword intro)
    (derived : Derives kind depth (.at .disjunction value) tokens) (tracks : state.Tracks done)
    (callOffset : Nat) : ∃ step, Agrees done [⟨keyword, value⟩] step ∧ ∀ tail room,
      expression (tokens ++ tail) = .ok (value, tail) → startsWithBinding tail = false →
      argumentsFrom expression callOffset state (room + 1) (intro ++ tokens ++ tail) =
        step >>= fun after =>
          match eat? .comma tail with
          | some rest => argumentsFrom expression callOffset after room rest
          | none => do
            let rest ← expect .closeParen "',' or ')'" tail
            return (after, rest) := by
  have starts : (Phrase.at .disjunction value).Starts (intro ++ tokens) := by
    cases introduced with
    | position => exact derived.starts
    | keyword => exact ⟨_, _, rfl, rfl⟩
  obtain ⟨first, following, same, opens⟩ := starts
  have unclosed (tail : List Token) : eat? .closeParen (intro ++ tokens ++ tail) = none :=
    Level.notClosed ⟨first, following, same, opens⟩ rfl tail
  have offset (tail : List Token) : nextOffset (intro ++ tokens ++ tail) = first.offset := by
    rw [same]
    rfl
  -- Two tokens settle the slot; if the value is a single one, the second of them is behind it.
  cases introduced.turn derived tracks with
  | @fault fault syntactic misplaced slotted =>
      refine ⟨.error fault, ⟨nofun, ?_⟩, fun tail room _ unbound => ?_⟩
      · rintro _ ⟨⟩
        exact ⟨syntactic, misplaced⟩
      · simp only [argumentsFrom, unclosed, slotted tail unbound]
        rfl
  | @slot named slot turned written turns slotted =>
      have agrees := tracks.agrees_put turns value callOffset first.offset
      rw [← show keyword = _ from written] at agrees
      refine ⟨_, agrees, fun tail room read unbound => ?_⟩
      cases joined : eat? .comma tail <;>
        simp only [argumentsFrom, unclosed, slotted tail unbound, ok_bind, read, offset, joined]

end Step

/-! ## All arguments -/

section Run

variable {kind : ItemKind} {depth steps : Nat} {arguments : List Written} {tokens : List Token}
  {done : List Argument} {state : Arguments}

/-- Each argument takes a token at least. -/
theorem Written.Spelled.length_le (spelled : Spelled kind depth arguments tokens) :
    arguments.length ≤ tokens.length := by
  have positive {value : Expression} {first : List Token}
      (derived : Derives kind (depth + 1) (.at .disjunction value) first) : 0 < first.length := by
    obtain ⟨token, following, rfl, -⟩ := derived.starts
    exact Nat.succ_pos _
  induction spelled with
  | none => exact Nat.le_refl _
  | last _ _ derived =>
      have := positive derived
      simp only [List.length_append, List.length_cons, List.length_nil]
      omega
  | more _ _ _ derived _ ih =>
      have := positive derived
      simp only [List.length_append, List.length_cons] at ih ⊢
      omega

/-- What is at fault with the first argument is at fault with all. -/
theorem Agrees.fails {argument : Written} {following : List Written} {fault : Fault}
    (agrees : Agrees done [argument] (.error fault)) :
    Agrees done (argument :: following) (.error fault) where
  ok := nofun
  error := by
    rintro _ ⟨⟩
    obtain ⟨syntactic, misplaced⟩ := agrees.error fault rfl
    refine ⟨syntactic, fun resolved same placed => ?_⟩
    obtain ⟨first, rest, rfl, here, -⟩ := List.map_eq_cons_iff.1 same
    rw [List.append_cons] at placed
    exact misplaced [first] (congrArg ([·]) here) placed.of_append

/-- Behind a first argument that is taken, the others go on. -/
theorem Agrees.cons {argument : Argument} {following : List Written}
    {outcome : Except Fault Arguments} (agrees : Agrees (done ++ [argument]) following outcome) :
    Agrees done (argument.written :: following) outcome where
  ok final reached := by
    obtain ⟨resolved, same, tracks⟩ := agrees.ok final reached
    exact ⟨argument :: resolved, congrArg (argument.written :: ·) same, by simpa using tracks⟩
  error fault failed := by
    obtain ⟨syntactic, misplaced⟩ := agrees.error fault failed
    refine ⟨syntactic, fun resolved same placed => ?_⟩
    obtain ⟨first, rest, rfl, here, later⟩ := List.map_eq_cons_iff.1 same
    obtain rfl := Argument.written_injective here
    exact misplaced rest later (by simpa using placed)

/-- The arguments of a call are read one by one, and a comma behind them changes nothing. -/
theorem Written.Spelled.run (spelled : Spelled kind depth arguments tokens)
    (budget : depth + steps = nestingLimit) (callOffset : Nat) (tracks : state.Tracks done) :
    ∃ outcome, Agrees done arguments outcome ∧ ∀ comma last rest room, TrailingComma comma →
      (arguments = [] → comma = []) → arguments.length < room →
      argumentsFrom (nested kind steps).expression callOffset state room
          (tokens ++ comma ++ ⟨.mark .closeParen, last⟩ :: rest) =
        outcome.map fun final => (final, rest) := by
  -- The state varies, because it tracks the arguments that are read already.
  induction spelled generalizing state done with
  | none =>
      refine ⟨.ok state, ⟨?_, nofun⟩, ?_⟩
      · rintro _ ⟨⟩
        exact ⟨[], rfl, by simpa using tracks⟩
      · intro comma last rest room trailing alone bound
        obtain ⟨less, rfl⟩ := Nat.exists_eq_add_one.2 bound
        rw [alone rfl]
        rfl
  | last introduced within derived =>
      obtain ⟨left, rfl, remaining⟩ := budget_step within budget
      obtain ⟨step, agrees, stepped⟩ := exists_step (nested kind (left + 1)).expression introduced
        derived tracks callOffset
      refine ⟨step, agrees, ?_⟩
      intro comma last rest room trailing _ bound
      obtain ⟨less, rfl⟩ : ∃ less, room = less + 2 := ⟨room - 2, by simp at bound; omega⟩
      have closes : (Lexeme.mark .closeParen).closes := rfl
      rw [List.append_assoc, stepped _ (less + 1)
        (derived.readable.exact remaining (trailing.stops closes last rest))
        (by cases trailing <;> rfl)]
      cases step with
      | error fault => rfl
      | ok after => cases trailing <;> rfl
  | @more keyword value next following intro first second offset introduced within derived _ ih =>
      obtain ⟨left, rfl, remaining⟩ := budget_step within budget
      obtain ⟨step, agrees, stepped⟩ := exists_step (nested kind (left + 1)).expression introduced
        derived tracks callOffset
      have closes : (Lexeme.mark .comma).closes := rfl
      have reads (rest : List Token) (room : Nat) := stepped (⟨.mark .comma, offset⟩ :: rest) room
        (derived.readable.exact remaining (Lexeme.closes_stops closes offset rest)) rfl
      cases step with
      | error fault =>
          refine ⟨.error fault, agrees.fails, ?_⟩
          intro comma last rest room _ _ bound
          obtain ⟨less, rfl⟩ := Nat.exists_eq_add_one.2 (Nat.zero_lt_of_lt bound)
          simp only [List.append_assoc, List.cons_append] at reads ⊢
          exact reads _ less
      | ok after =>
          obtain ⟨resolved, same, tracksNext⟩ := agrees.ok after rfl
          obtain ⟨argument, rfl, written⟩ := List.map_eq_singleton_iff.1 same
          obtain ⟨outcome, agreesRest, continued⟩ := ih tracksNext
          rw [← written]
          refine ⟨outcome, agreesRest.cons, ?_⟩
          intro comma last rest room trailing _ bound
          obtain ⟨less, rfl⟩ := Nat.exists_eq_add_one.2 (Nat.zero_lt_of_lt bound)
          have more := continued comma last rest less trailing (by simp) (by simpa using bound)
          simp only [List.append_assoc, List.cons_append] at reads more ⊢
          exact (reads _ less).trans more

/-- A call has one outcome, whatever closes it and stands behind it. -/
structure HasOutcome (kind : ItemKind) (steps : Nat) (arguments : List Written)
    (opened : List Token) (outcome : Except Fault (List Expression)) : Prop where
  accepts : Legal arguments → ∀ filled, Lands arguments filled → outcome = .ok filled
  rejects : ¬Legal arguments → ∃ fault, fault.IsSyntax ∧ outcome = .error fault
  reads : ∀ comma last rest, TrailingComma comma → (arguments = [] → comma = []) →
    atom kind (nested kind steps) (opened ++ comma ++ ⟨.mark .closeParen, last⟩ :: rest) =
      outcome.map fun filled => (.datetime filled, rest)

theorem Written.Spelled.hasOutcome (spelled : Spelled kind depth arguments tokens)
    (budget : depth + steps = nestingLimit) (name first : Nat) :
    ∃ outcome, HasOutcome kind steps arguments
      (⟨.name datetimeName, name⟩ :: ⟨.mark .openParen, first⟩ :: tokens) outcome := by
  obtain ⟨outcome, agrees, reads⟩ := spelled.run budget name Arguments.tracks_empty
  refine ⟨outcome >>= fun final => final.finish name, ?_, ?_, ?_⟩
  · intro legal filled lands
    obtain ⟨resolved, slots, rfl, fills⟩ := legal.exists_fills
    cases outcome with
    | error fault => exact absurd fills.placed ((agrees.error fault rfl).2 resolved rfl)
    | ok final =>
        obtain ⟨others, same, tracks⟩ := agrees.ok final rfl
        obtain rfl := List.map_injective_iff.2 Argument.written_injective same
        rw [ok_bind, (tracks.finish slots).2 fills, fills.lands.unique lands]
  · intro illegal
    cases outcome with
    | error fault => exact ⟨fault, (agrees.error fault rfl).1, rfl⟩
    | ok final =>
        obtain ⟨resolved, rfl, tracks⟩ := agrees.ok final rfl
        rw [ok_bind]
        cases finished : final.finish name with
        | error fault => exact ⟨fault, Arguments.finish_error finished, rfl⟩
        | ok slots => exact absurd ((tracks.finish slots).1 finished).legal illegal
  · intro comma last rest trailing alone
    have bound := spelled.length_le
    have read := reads comma last rest
      ((tokens ++ comma ++ ⟨.mark .closeParen, last⟩ :: rest).length + 1) trailing alone
      (by simp only [List.length_append]; omega)
    have opened : eat? .openParen (⟨.mark .openParen, first⟩ ::
        (tokens ++ comma ++ ⟨.mark .closeParen, last⟩ :: rest)) =
          some (tokens ++ comma ++ ⟨.mark .closeParen, last⟩ :: rest) := rfl
    simp only [List.cons_append, atom, namedAtom, if_true, opened, read]
    cases outcome with
    | error fault => rfl
    | ok final =>
        simp only [Except.map, ok_bind]
        cases final.finish name <;> rfl

theorem Written.Call.accepts {call : List Token} (calls : Call kind depth arguments call)
    (budget : depth + steps = nestingLimit) (legal : Legal arguments) {filled : List Expression}
    (lands : Lands arguments filled) (rest : List Token) :
    atom kind (nested kind steps) (call ++ rest) = .ok (.datetime filled, rest) := by
  obtain ⟨name, first, last, spelled, trailing, alone⟩ := calls
  obtain ⟨outcome, has⟩ := spelled.hasOutcome budget name first
  rw [List.append_assoc _ _ rest, List.singleton_append, has.reads _ _ _ trailing alone,
    has.accepts legal filled lands]
  rfl

theorem Written.Call.rejects {call : List Token} (calls : Call kind depth arguments call)
    (budget : depth + steps = nestingLimit) (illegal : ¬Legal arguments) (rest : List Token) :
    ∃ fault, fault.IsSyntax ∧ atom kind (nested kind steps) (call ++ rest) = .error fault := by
  obtain ⟨name, first, last, spelled, trailing, alone⟩ := calls
  obtain ⟨outcome, has⟩ := spelled.hasOutcome budget name first
  obtain ⟨fault, syntactic, rfl⟩ := has.rejects illegal
  refine ⟨fault, syntactic, ?_⟩
  rw [List.append_assoc _ _ rest, List.singleton_append, has.reads _ _ _ trailing alone]
  rfl

theorem readsCalls (budget : depth + steps = nestingLimit) (arguments : List Written) :
    ReadsCalls kind depth steps arguments where
  fills := Written.Legal.exists_lands
  accepts legal _ lands _ rest calls := calls.accepts budget legal lands rest
  rejects illegal _ rest calls := calls.rejects budget illegal rest
  rearranged others rearranged call other tree rest calls otherCalls read := by
    have legal : Legal arguments := by
      by_contra illegal
      obtain ⟨fault, -, failed⟩ := calls.rejects budget illegal rest
      rw [failed] at read
      contradiction
    obtain ⟨filled, lands⟩ := legal.exists_lands
    rw [calls.accepts budget legal lands] at read
    rw [← read]
    exact otherCalls.accepts budget (rearranged.legal legal)
      (lands.of_perm rearranged.placed_perm) rest
  trailing tokens given spelled name first comma last rest := by
    obtain ⟨outcome, has⟩ := spelled.hasOutcome budget name first
    have plain := has.reads [] last rest .absent (fun _ => rfl)
    have trailed := has.reads _ last rest (.present comma) (absurd · given)
    rw [List.append_nil] at plain
    rw [plain, ← trailed, List.append_assoc]
    rfl

end Run

/-! ## Whole texts -/

section Text

variable {kind : ItemKind} {depth : Nat} {arguments : List Written} {tokens call : List Token}
  {brackets : List Bool} {before : List Lexeme}

theorem Written.Introduced.audited {keyword : Option String} {intro : List Token}
    (introduced : Introduced keyword intro) (expected : Argument.Expected brackets before) :
    Audited brackets before intro := by
  cases introduced with
  | position => exact .nil
  | keyword word first second => exact expected.audited word first second

theorem Written.Spelled.audited (spelled : Spelled kind depth arguments tokens)
    (expected : Argument.Expected brackets before) : Audited brackets before tokens := by
  induction spelled generalizing before with
  | none => exact .nil
  | last introduced _ derived =>
      exact (introduced.audited expected).append (derived.audited trivial)
  | more _ introduced _ derived _ ih =>
      exact ((introduced.audited expected).append (derived.audited trivial)).append
        (.quiet rfl (ih ⟨expected.1, _, .inr rfl⟩))

/-- The audit names no mutation in a call. -/
theorem Written.Call.audited (calls : Call kind depth arguments call) :
    Audited brackets before call := by
  obtain ⟨-, -, -, spelled, trailing, -⟩ := calls
  have expected : Argument.Expected (true :: brackets)
      (.mark .openParen :: .name datetimeName :: before) := ⟨rfl, _, .inl rfl⟩
  exact .quiet rfl (.parentheses ((spelled.audited expected).append trailing.audited))

section Alone

variable {α : Type} {operand : Parser Expression}
  {operator? : List Token → Option (α × List Token)}

/-- Where no operator follows there are no links. -/
theorem operands_alone
    (ended : ∀ tree rest, operand tokens = .ok (tree, rest) → (operator? rest).isSome = false) :
    operands operand operator? tokens =
      (operand tokens).map fun read => ((read.1, []), read.2) := by
  cases read : operand tokens with
  | error fault =>
      simp only [operands, read]
      rfl
  | ok result =>
      rcases result with ⟨tree, rest⟩
      have stop : operator? rest = none := by simpa using ended tree rest read
      simp only [operands, read, ok_bind, links_stop stop]
      rfl

theorem leftLevel_alone {combine : α → Expression → Expression → Expression}
    (ended : ∀ tree rest, operand tokens = .ok (tree, rest) → (operator? rest).isSome = false) :
    leftLevel operand operator? combine tokens = operand tokens := by
  rw [leftLevel, operands_alone ended]
  cases operand tokens <;> rfl

end Alone

/-- An expression that starts with a name is an atom where nothing goes on behind that. -/
theorem disjunction_eq_atom {deeper : Nested} {word : String} {offset : Nat}
    {following : List Token} (same : tokens = ⟨.name word, offset⟩ :: following)
    (stops : ∀ tree rest, atom kind deeper tokens = .ok (tree, rest) →
      Level.disjunction.Stops rest) :
    disjunction kind deeper tokens = atom kind deeper tokens := by
  -- Each level is the next tighter one here, up to the atom.
  have ended (level : Level) (tree : Expression) (rest : List Token)
      (read : atom kind deeper tokens = .ok (tree, rest)) : level.goesOn rest = false :=
    stops tree rest read level (Nat.zero_le _)
  have atMember : memberAccess kind deeper tokens = atom kind deeper tokens := by
    cases read : atom kind deeper tokens with
    | error fault =>
        simp only [memberAccess, read]
        rfl
    | ok result =>
        rcases result with ⟨tree, rest⟩
        have last : eat? .dot rest = none := by
          simpa [Level.goesOn] using ended .member tree rest read
        simp only [memberAccess, read, ok_bind]
        cases rest.length <;> simp only [members, last]
  have atSigned : signedOperand kind deeper tokens = atom kind deeper tokens := by
    rw [← atMember, same]
    rfl
  have atProduct : product kind deeper tokens = atom kind deeper tokens := by
    rw [← atSigned] at ended ⊢
    exact leftLevel_alone (ended .product)
  have atSum : sum kind deeper tokens = atom kind deeper tokens := by
    rw [← atProduct] at ended ⊢
    exact leftLevel_alone (ended .sum)
  have atComparison : comparisonChain kind deeper tokens = atom kind deeper tokens := by
    rw [← atSum] at ended ⊢
    rw [comparisonChain, operands_alone (ended .comparison)]
    cases sum kind deeper tokens <;> rfl
  have atNegation : negation kind deeper tokens = atom kind deeper tokens := by
    rw [← atComparison, same]
    rfl
  have atConjunction : conjunction kind deeper tokens = atom kind deeper tokens := by
    rw [← atNegation] at ended ⊢
    exact leftLevel_alone (ended .conjunction)
  rw [← atConjunction] at ended ⊢
  exact leftLevel_alone (ended .disjunction)

/-- A text that is a call is what its call is. -/
theorem ofTokens_call (calls : Call kind 1 arguments call) {last : Nat}
    {outcome : Except Fault Expression}
    (read : atom kind (nested kind 63) (call ++ [⟨.finish, last⟩]) =
      outcome.map fun tree => (tree, [⟨.finish, last⟩])) :
    Expression.ofTokens kind (call ++ [⟨.finish, last⟩]) = outcome := by
  have audited : Audited [] [] call := calls.audited
  have unchanging : mutation? (call ++ [⟨.finish, last⟩]) = none := audited [⟨.finish, last⟩]
  obtain ⟨name, following, same⟩ : ∃ name following,
      call ++ [⟨.finish, last⟩] = ⟨.name datetimeName, name⟩ :: following := by
    cases calls
    exact ⟨_, _, rfl⟩
  have whole : (nested kind nestingLimit).expression (call ++ [⟨.finish, last⟩]) =
      outcome.map fun tree => (tree, [⟨.finish, last⟩]) := by
    refine (disjunction_eq_atom same fun tree rest found => ?_).trans read
    rw [read] at found
    cases outcome with
    | error fault => contradiction
    | ok result =>
        cases found
        exact Level.finish_stops .disjunction last
  have first : nextLexeme (call ++ [⟨.finish, last⟩]) = .name datetimeName := by
    rw [same]
    rfl
  simp only [Expression.ofTokens, unchanging, first, whole]
  cases outcome <;> rfl

theorem parsesCalls (kind : ItemKind) (arguments : List Written) : ParsesCalls kind arguments := by
  have reads : ReadsCalls kind 1 63 arguments := readsCalls rfl arguments
  constructor
  · intro legal filled lands source call last split calls
    have read := reads.accepts legal filled lands call [⟨.finish, last⟩] calls
    have whole : Expression.ofTokens kind (call ++ [⟨.finish, last⟩]) = .ok (.datetime filled) :=
      ofTokens_call calls read
    rw [Expression.parse, split, ok_bind, whole]
    rfl
  · intro illegal source call last split calls
    obtain ⟨_, ⟨offset, fault, rfl⟩, failed⟩ :=
      reads.rejects illegal call [⟨.finish, last⟩] calls
    have whole : Expression.ofTokens kind (call ++ [⟨.finish, last⟩]) =
        .error (.atOffset offset fault) := ofTokens_call calls failed
    refine ⟨offset, fault, ?_⟩
    rw [Expression.parse, split, ok_bind, whole]
    rfl

end Text

/-- The arguments of a call land in their slots. The call is read exactly when it takes them, in any
order of its keywords, and whatever else it is given is a fault of the text. -/
theorem arguments_land_in_slots {kind : ItemKind} {depth steps : Nat}
    (budget : depth + steps = nestingLimit) (arguments : List Written) :
    ReadsCalls kind depth steps arguments ∧ ParsesCalls kind arguments :=
  ⟨readsCalls budget arguments, parsesCalls kind arguments⟩

/-- A year at its position is followed by keywords in another order, and the hour and the minute are
skipped. -/
theorem arguments_land_in_slots_mixed :
    let number (value : Int64) : Expression := .literal (.int value)
    let arguments : List Written := [⟨none, number 2021⟩, ⟨some "second", number 5⟩,
      ⟨some "day", number 3⟩, ⟨some "month", number 7⟩]
    let filled := [number 2021, number 7, number 3, number 0, number 0, number 5]
    1 + 63 = nestingLimit ∧ Legal arguments ∧ Lands arguments filled ∧
      (∃ call, Call .post 1 arguments call ∧
        atom .post (nested .post 63) call = .ok (.datetime filled, [])) ∧
      ParsesCalls .post arguments := by
  intro number arguments filled
  obtain ⟨reads, parses⟩ : ReadsCalls .post 1 63 arguments ∧ ParsesCalls .post arguments :=
    arguments_land_in_slots rfl arguments
  have placed : Written.placed arguments =
      [(0, number 2021), (5, number 5), (2, number 3), (1, number 7)] := rfl
  have slots : Written.slots arguments = [0, 5, 2, 1] := rfl
  have legal : Legal arguments := by
    refine ⟨by decide, by decide, by decide, ?_, ?_⟩ <;> rw [slots] <;> decide
  have lands : Lands arguments filled := by
    constructor
    · rw [placed]
      simp [filled]
    · rw [slots]
      intro slot bound absent
      have between : slot = 3 ∨ slot = 4 := by
        simp [filled] at bound absent
        omega
      rcases between with rfl | rfl <;> rfl
    · exact ⟨5, by decide, rfl⟩
  have literal (value : Int64) (offset : Nat) :
      Derives .post 2 (.at .disjunction (number value)) [⟨.int value, offset⟩] :=
    .loosen (.loosen (.loosen (.loosen (.loosen (.loosen (.loosen (.loosen
      (.literal (.int value)))))))))
  have spelled : Spelled .post 1 arguments _ :=
    .more 13 .position (by decide) (literal 2021 9)
      (.more 23 (.keyword "second" 15 21) (by decide) (literal 5 22)
        (.more 30 (.keyword "day" 25 28) (by decide) (literal 3 29)
          (.last (.keyword "month" 32 37) (by decide) (literal 7 38))))
  have calls : Call .post 1 arguments _ := .intro 0 8 39 spelled .absent (fun _ => rfl)
  have read := reads.accepts legal filled lands _ [] calls
  rw [List.append_nil] at read
  exact ⟨rfl, legal, lands, ⟨_, calls, read⟩, parses⟩

end Harvest.Filter
