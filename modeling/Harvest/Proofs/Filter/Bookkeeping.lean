import Harvest.Proofs.Filter.Following
import Harvest.Proofs.Filter.Nesting
import Harvest.Proofs.Filter.Tokens

/-!
The books of the parser. The routines of every level follow the parsers of that level, with as many
steps into the nesting left as their depth leaves them. So they end wherever they begin, put the
count of the nesting back, stop in front of the end, and name places that exist.
-/

namespace Harvest.Filter

open Result (Faults mapError_eq_ok mapError_eq_error)

variable {kind : ItemKind} {tokens : List Token} {depth start time : Nat}

section Levels

variable {expression : Routine Expression} {parser : Parser Expression} {nested : Nested}

/-- The routines one step deeper follow the parsers one step deeper. -/
structure NestedFollows (kind : ItemKind) (tokens : List Token) (depth time : Nat)
    (nested : Nested) : Prop where
  expression : Follows tokens depth (Routine.expression kind tokens time) nested.expression
  negated : Follows tokens depth
    (Routine.deeper tokens (Routine.phrase kind tokens time .negation)) nested.negated
  signed : Follows tokens depth
    (Routine.deeper tokens (Routine.phrase kind tokens time .signed)) nested.signed
  items : Follows tokens depth
    (Routine.deeper tokens
      (Routine.listItems tokens (Routine.expression kind tokens time) time)) nested.items

theorem followsAt_namedAtom (ends : EndsIn tokens) (follows : Follows tokens depth expression parser)
    (long : tokens.length ≤ time) {word : String} {offset : Nat} (inside : start < tokens.length)
    (called : ∀ cause, (Fault.atOffset offset cause).StandsIn tokens) :
    FollowsAt tokens depth start (Routine.namedAtom kind tokens expression time word offset)
      (namedAtom kind parser word offset (tokens.drop start)) := by
  unfold Routine.namedAtom namedAtom
  by_cases isCall : word = datetimeName
  · simp only [isCall, if_true]
    refine .eat ends (fun opened more => ?_) (fun uncalled => ?_)
    · simp only [opened, if_true]
      have slots : FollowsAt tokens depth (start + 1)
          (do return Expression.datetime (← Routine.callSlots tokens expression offset time))
          (do
            let found ← callSlots parser offset (tokens.drop (start + 1))
            return (Expression.datetime found.1, found.2)) :=
        (followsAt_callSlots ends follows called more long).bind
          fun slots stop _ inside => .pure _ inside
      simpa only [callSlots, bind_assoc, pure_bind] using slots
    · simp only [uncalled, Bool.false_eq_true, if_false]
      exact .throw (called _)
  · simp only [isCall, if_false]
    by_cases declared : kind.declares word
    · simp only [declared, Bool.not_true, Bool.false_eq_true, if_false]
      refine .ahead ?_
      by_cases opened : (eat? .openParen (tokens.drop start)).isSome
      · simp only [opened, if_true]
        exact .throw (stands_ahead inside _)
      · simp only [opened, Bool.false_eq_true, if_false]
        exact .pure _ inside
    · simp only [declared, Bool.not_false, if_true]
      exact .throw (.name word kind)

theorem follows_atom (ends : EndsIn tokens)
    (follows : NestedFollows kind tokens depth time nested) (long : tokens.length ≤ time) :
    Follows tokens depth (Routine.phrase kind tokens (time + 1) .atom) (atom kind nested) := by
  intro start inside
  unfold Routine.phrase Routine.atom
  refine .advance inside ?_
  have here := stands_ahead inside
  rcases place : tokens.drop start with - | ⟨⟨lexeme, offset⟩, rest⟩
  · rw [List.drop_eq_nil_iff] at place
    omega
  · rw [place] at here
    -- A token that starts no atom is left to be read again.
    have other : FollowsAt tokens depth (start + 1) (do
        Routine.stepBack
        MonadExcept.throw (unexpected (← Routine.ahead tokens)))
        (.error (unexpected (⟨lexeme, offset⟩ :: rest)) :
          Except Fault (Expression × List Token)) := by
      rw [← place]
      exact ⟨_, rfl, .error (stands_ahead inside _)⟩
    have inner (solid : lexeme ≠ .finish) := ends.next place solid
    cases lexeme with
    | int | float | text =>
        obtain ⟨more, rfl⟩ := inner nofun
        exact .pure _ more
    | name word =>
        obtain ⟨more, rfl⟩ := inner nofun
        exact followsAt_namedAtom ends follows.expression long more here
    | keyword word =>
        obtain ⟨more, rfl⟩ := inner nofun
        cases word <;> first | exact .pure _ more | exact other
    | mark mark =>
        obtain ⟨more, rfl⟩ := inner nofun
        cases mark with
        | openParen =>
            refine (follows.expression _ more).bind fun tree stop _ inside => ?_
            exact .expect ends inside fun stop _ inside => .pure _ inside
        | openBracket => exact (follows.items _ more).bind fun trees stop _ inside => .pure _ inside
        | _ => exact other
    | binding | finish => exact other

theorem follows_member (ends : EndsIn tokens)
    (atoms : Follows tokens depth (Routine.phrase kind tokens time .atom) (atom kind nested))
    (long : tokens.length ≤ time) :
    Follows tokens depth (Routine.phrase kind tokens (time + 1) .member)
      (memberAccess kind nested) := by
  intro start inside
  unfold Routine.phrase memberAccess
  refine (atoms start inside).bind fun target stop _ inside => ?_
  exact followsAt_members ends _ time target inside (length_le_ahead tokens stop) (by omega)

theorem follows_signed (ends : EndsIn tokens)
    (follows : NestedFollows kind tokens depth time nested)
    (members : Follows tokens depth (Routine.phrase kind tokens time .member)
      (memberAccess kind nested)) :
    Follows tokens depth (Routine.phrase kind tokens (time + 1) .signed)
      (signedOperand kind nested) := by
  intro start inside
  have unsigned := members start inside
  unfold Routine.phrase
  refine .ahead ?_
  rcases place : tokens.drop start with - | ⟨⟨lexeme, offset⟩, rest⟩
  · rw [List.drop_eq_nil_iff] at place
    omega
  · rw [place] at unsigned
    cases lexeme with
    | mark mark =>
        obtain ⟨more, rfl⟩ := ends.next place nofun
        cases mark with
        | plus | minus =>
            exact FollowsAt.move
              ((follows.signed _ more).bind fun operand stop _ inside => .pure _ inside)
        | _ => exact unsigned
    | _ => exact unsigned

/-- A level of operators that group to the left. -/
theorem follows_leftLevel {α : Type} (ends : EndsIn tokens)
    (follows : Follows tokens depth expression parser) {level : Level}
    {operator? : List Token → Option (α × List Token)}
    {combine : α → Expression → Expression → Expression} (finds : Finds level operator? combine)
    (long : tokens.length ≤ time) :
    Follows tokens depth
      (do Routine.joined tokens expression operator? combine time (← expression))
      (leftLevel parser operator? combine) := by
  intro start inside
  unfold leftLevel operands
  rw [bind_assoc]
  refine (follows _ inside).bind fun first stop _ inside => ?_
  dsimp only
  rw [bind_assoc]
  exact followsAt_joined ends follows finds _ time first inside (length_le_ahead tokens stop)
    (by omega)

theorem follows_comparison (ends : EndsIn tokens)
    (sums : Follows tokens depth (Routine.phrase kind tokens time .sum) (sum kind nested))
    (long : tokens.length ≤ time) :
    Follows tokens depth (Routine.phrase kind tokens (time + 1) .comparison)
      (comparisonChain kind nested) := by
  intro start inside
  unfold Routine.phrase comparisonChain operands
  rw [bind_assoc]
  refine (sums _ inside).bind fun first stop _ inside => ?_
  dsimp only
  rw [bind_assoc]
  exact (followsAt_comparisons ends sums _ time inside (length_le_ahead tokens stop)
    (by omega)).bind fun following stop _ inside => .pure _ inside

theorem follows_negation (ends : EndsIn tokens)
    (follows : NestedFollows kind tokens depth time nested)
    (comparisons : Follows tokens depth (Routine.phrase kind tokens time .comparison)
      (comparisonChain kind nested)) :
    Follows tokens depth (Routine.phrase kind tokens (time + 1) .negation)
      (negation kind nested) := by
  intro start inside
  unfold Routine.phrase negation
  refine .ahead ?_
  cases eaten : eatKeyword? .not (tokens.drop start) with
  | none => exact comparisons start inside
  | some rest =>
      obtain ⟨offset, place⟩ := eatKeyword?_eq_some.1 eaten
      obtain ⟨more, rfl⟩ := ends.next place nofun
      exact FollowsAt.move
        ((follows.negated _ more).bind fun operand stop _ inside => .pure _ inside)

/-- Every level follows its parser, one unit of time after the next tighter level. -/
theorem follows_phrase (ends : EndsIn tokens) {enough : Nat}
    (follows : ∀ time, enough ≤ time → NestedFollows kind tokens depth time nested)
    (long : tokens.length ≤ enough) (level : Level) (late : enough + 9 ≤ time + level.rank) :
    Follows tokens depth (Routine.phrase kind tokens time level) (parserAt kind nested level) := by
  -- The induction is on the time, of which a level leaves one unit less to the next tighter one.
  induction time generalizing level with
  | zero =>
      have tightest := level.rank_le
      omega
  | succ time ih =>
      have tightest := level.rank_le
      have tighter (loose : level ≠ .atom) := ih level.tighter (by
        rw [Level.rank_of_tighter loose]
        omega)
      have longer : tokens.length ≤ time := by omega
      have now := follows time (by omega)
      cases level with
      | disjunction => exact follows_leftLevel ends (tighter nofun) finds_disjunction longer
      | conjunction => exact follows_leftLevel ends (tighter nofun) finds_conjunction longer
      | negation => exact follows_negation ends now (tighter nofun)
      | comparison => exact follows_comparison ends (tighter nofun) longer
      | sum => exact follows_leftLevel ends (tighter nofun) finds_sum longer
      | product => exact follows_leftLevel ends (tighter nofun) finds_product longer
      | signed => exact follows_signed ends now (tighter nofun)
      | member => exact follows_member ends (tighter nofun) longer
      | atom => exact follows_atom ends now longer

end Levels

/-- The time that is enough for some steps into the nesting. -/
def timeFor (tokens : List Token) (steps : Nat) : Nat :=
  tokens.length + 9 * steps

/-- What is left of the budget and the depth together make up the whole budget. -/
theorem follows_nested (ends : EndsIn tokens) (kind : ItemKind) (steps : Nat)
    (budget : depth + steps = nestingLimit) (late : timeFor tokens steps ≤ time) :
    NestedFollows kind tokens depth time (nested kind steps) := by
  -- A step into the nesting runs all nine levels once more before it comes to the next step.
  induction steps generalizing depth time with
  | zero =>
      constructor <;> exact fun start inside => .tooDeep (by omega) inside
  | succ steps ih =>
      unfold timeFor at late
      have inner (time : Nat) (late : timeFor tokens steps ≤ time) :=
        @ih (depth + 1) time (by omega) late
      have long : tokens.length ≤ timeFor tokens steps := Nat.le_add_right _ _
      have levels (level : Level) : Follows tokens (depth + 1)
          (Routine.phrase kind tokens time level) (parserAt kind (nested kind steps) level) := by
        refine follows_phrase ends inner long level ?_
        unfold timeFor
        omega
      have within : depth < nestingLimit := by omega
      have now := inner time (by unfold timeFor; omega)
      refine ⟨?_, ?_, ?_, ?_⟩
      · exact fun start inside => .deeper within (levels .disjunction start inside)
      · exact fun start inside => .deeper within (levels .negation start inside)
      · exact fun start inside => .deeper within (levels .signed start inside)
      · exact fun start inside => .deeper within
          (followsAt_listItems ends now.expression inside (by omega))

section Books

variable {α : Type} {cursor : Cursor}

/-- A routine that keeps the books, by what the parser reads from its cursor on. With enough time
it ends. A result takes tokens, and all of them are before the end; they spell the result, and the
cursor is behind them at the depth where it was. A fault stands at a token. -/
inductive KeepsBooks (tokens : List Token) (cursor : Cursor) (routine : Nat → Routine α)
    (spells : α → List Token → Prop) : Except Fault (α × List Token) → Prop where
  | ok {result : α} {taken rest : List Token} (enough : Nat) :
      (∀ time, enough ≤ time → routine time cursor =
        some (.ok result, ⟨cursor.position + taken.length, cursor.depth⟩)) →
      tokens.drop cursor.position = taken ++ rest →
      taken ≠ [] →
      cursor.position + taken.length < tokens.length →
      spells result taken →
      KeepsBooks tokens cursor routine spells (.ok (result, rest))
  | error {fault : Fault} (enough : Nat) :
      (∀ time, enough ≤ time → ∃ after, routine time cursor = some (.error fault, after)) →
      fault.StandsIn tokens →
      KeepsBooks tokens cursor routine spells (.error fault)

/-- A routine that follows a sound parser keeps the books. -/
theorem Follows.keepsBooks {routine : Nat → Routine α} {parser : Parser α}
    {spells : α → List Token → Prop} (enough : Nat)
    (follows : ∀ time, enough ≤ time → Follows tokens cursor.depth (routine time) parser)
    (sound : parser.Sound spells) (nonempty : ∀ result taken, spells result taken → taken ≠ [])
    (inside : cursor.position < tokens.length) :
    KeepsBooks tokens cursor routine spells (parser (tokens.drop cursor.position)) := by
  have comes (time : Nat) (late : enough ≤ time) := follows time late _ inside
  cases read : parser (tokens.drop cursor.position) with
  | error fault =>
      rw [read] at comes
      obtain ⟨_, -, ends⟩ := comes enough (Nat.le_refl _)
      refine .error enough (fun time late => ?_) ends.stands.1
      obtain ⟨_, ran, ends⟩ := comes time late
      obtain ⟨-, after, rfl⟩ := ends.stands
      exact ⟨after, ran⟩
  | ok found =>
      obtain ⟨result, rest⟩ := found
      rw [read] at comes
      obtain ⟨taken, place, spelled⟩ := sound read
      -- The place behind a result is told by the number of the tokens that are left.
      have stop (time : Nat) (late : enough ≤ time) :
          cursor.position + taken.length < tokens.length ∧ routine time cursor =
            some (.ok result, ⟨cursor.position + taken.length, cursor.depth⟩) := by
        obtain ⟨_, ran, comes⟩ := comes time late
        obtain ⟨next, later, before, left, rfl⟩ := comes.stop
        have width := congrArg List.length place
        rw [left, List.length_append, List.length_drop, List.length_drop] at width
        obtain rfl : next = cursor.position + taken.length := by omega
        exact ⟨before, ran⟩
      exact .ok enough (fun time late => (stop time late).2) place
        (nonempty result taken spelled) (stop enough (Nat.le_refl _)).1 spelled

/-- The parser of every level is sound. -/
theorem parserAt_sound {nested : Nested} (sound : nested.Sound kind depth) (level : Level) :
    (parserAt kind nested level).Sound (Spells kind depth level) := by
  cases level with
  | disjunction => exact disjunction_sound sound
  | conjunction => exact leftLevel_sound finds_conjunction (negation_sound sound)
  | negation => exact negation_sound sound
  | comparison => exact comparisonChain_sound sound
  | sum => exact sum_sound sound
  | product => exact leftLevel_sound finds_product (signedOperand_sound sound)
  | signed => exact signedOperand_sound sound
  | member => exact memberAccess_sound sound
  | atom => exact atom_sound sound

/-- The items of a list go no deeper than the budget. -/
theorem SpellsList.within {trees : List Expression} {taken : List Token}
    (spells : SpellsList kind depth trees taken) (within : depth ≤ nestingLimit) :
    ∀ tree ∈ trees, tree.Within (depth + 1) := by
  cases spells with
  | empty => exact nofun
  | items spelled =>
      obtain ⟨spelled, comma, offset, -, -, derives⟩ := spelled
      exact derives.affords within

/-- A list has its closing bracket at least. -/
theorem SpellsList.ne_nil {trees : List Expression} {taken : List Token}
    (spells : SpellsList kind depth trees taken) : taken ≠ [] := by
  cases spells with
  | empty => exact List.cons_ne_nil _ _
  | items spelled =>
      obtain ⟨spelled, comma, offset, rfl, -⟩ := spelled
      exact List.append_ne_nil_of_right_ne_nil _ (List.cons_ne_nil _ _)

/-- A call has its closing parenthesis at least. -/
theorem SpellsSlots.ne_nil {slots : List Expression} {taken : List Token}
    (spells : SpellsSlots kind depth slots taken) : taken ≠ [] := by
  obtain ⟨given, spelled, comma, offset, rfl, -⟩ := spells
  exact List.append_ne_nil_of_right_ne_nil _ (List.cons_ne_nil _ _)

/-- The slots of a call go no deeper than the budget. -/
theorem SpellsSlots.within {slots : List Expression} {taken : List Token}
    (spells : SpellsSlots kind depth slots taken) (within : depth ≤ nestingLimit) :
    ∀ slot ∈ slots, slot.Within (depth + 1) := by
  obtain ⟨given, spelled, comma, offset, -, -, derives, fills⟩ := spells
  exact fills.affords derives.arguments_within (derives.affords within)

/-- The routines of the parser at a cursor, each with what it reads and what that spells. The trees
of a level stand at the depth of the cursor, those of expressions, lists and calls one step deeper.
-/
structure BooksKept (kind : ItemKind) (tokens : List Token) (cursor : Cursor) : Prop where
  phrase (level : Level) : KeepsBooks tokens cursor
    (fun time => Routine.phrase kind tokens time level)
    (fun tree taken => Derives kind cursor.depth (.at level tree) taken ∧ tree.Within cursor.depth)
    (parserAt kind (nested kind (nestingLimit - cursor.depth)) level
      (tokens.drop cursor.position))
  expression : KeepsBooks tokens cursor (Routine.expression kind tokens)
    (fun tree taken => Derives kind (cursor.depth + 1) (.at .disjunction tree) taken ∧
      tree.Within (cursor.depth + 1))
    ((nested kind (nestingLimit - cursor.depth)).expression (tokens.drop cursor.position))
  list : KeepsBooks tokens cursor
    (fun time => Routine.listItems tokens (Routine.expression kind tokens time) time)
    (fun trees taken => SpellsList kind cursor.depth trees taken ∧
      ∀ tree ∈ trees, tree.Within (cursor.depth + 1))
    (listItems (nested kind (nestingLimit - cursor.depth)).expression
      (tokens.drop cursor.position))
  call {name : Token} : name ∈ tokens → KeepsBooks tokens cursor
    (fun time => Routine.callSlots tokens (Routine.expression kind tokens time) name.offset time)
    (fun slots taken => SpellsSlots kind cursor.depth slots taken ∧
      ∀ slot ∈ slots, slot.Within (cursor.depth + 1))
    (callSlots (nested kind (nestingLimit - cursor.depth)).expression name.offset
      (tokens.drop cursor.position))

/-- Wherever the cursor is and however deep, the books are kept from there on. -/
theorem booksKept (ends : EndsIn tokens) (kind : ItemKind)
    (inside : cursor.position < tokens.length) (within : cursor.depth ≤ nestingLimit) :
    BooksKept kind tokens cursor := by
  have budget : cursor.depth + (nestingLimit - cursor.depth) = nestingLimit := by omega
  have long : tokens.length ≤ timeFor tokens (nestingLimit - cursor.depth) := Nat.le_add_right _ _
  have follows (time : Nat) (late : timeFor tokens (nestingLimit - cursor.depth) ≤ time) :=
    follows_nested ends kind _ budget late
  have sound := nested_sound kind _ _ budget
  -- Each routine follows its parser; soundness of the parser says which tokens it takes.
  constructor
  case phrase =>
    intro level
    refine Follows.keepsBooks _ (fun time late => follows_phrase ends follows long level
      (Nat.le_trans late (Nat.le_add_right _ _))) ?_ ?_ inside
    · intro place tree rest read
      obtain ⟨taken, split, derives⟩ := parserAt_sound sound level read
      exact ⟨taken, split, derives, affords_at.1 (derives.affords within)⟩
    · rintro tree taken ⟨derives, -⟩
      exact derives.ne_nil
  case expression =>
    refine Follows.keepsBooks _ (fun time late => (follows time late).expression) ?_ ?_ inside
    · intro place tree rest read
      obtain ⟨taken, split, deeper, derives⟩ := sound.expression read
      exact ⟨taken, split, derives, affords_at.1 (derives.affords deeper)⟩
    · rintro tree taken ⟨derives, -⟩
      exact derives.ne_nil
  case list =>
    refine Follows.keepsBooks _ (fun time late start inside =>
      followsAt_listItems ends (follows time late).expression inside (long.trans late)) ?_ ?_ inside
    · intro place trees rest read
      obtain ⟨taken, split, spells⟩ := listItems_sound sound.expression read
      exact ⟨taken, split, spells, spells.within within⟩
    · rintro trees taken ⟨spells, -⟩
      exact spells.ne_nil
  case call =>
    intro name listed
    refine Follows.keepsBooks _ (fun time late start inside => followsAt_callSlots ends
      (follows time late).expression (fun _ => .token listed) inside (long.trans late)) ?_ ?_ inside
    · intro place slots rest read
      obtain ⟨taken, split, spells⟩ := callSlots_sound sound.expression read
      exact ⟨taken, split, spells, spells.within within⟩
    · rintro slots taken ⟨spells, -⟩
      exact spells.ne_nil

end Books

/-- What is no filter has a fault at a token or at the start, or assigns to a name. -/
theorem ofTokens_faults (ends : EndsIn tokens) : Faults (fun fault => fault.StandsIn tokens ∨
      (∃ cause, fault = .atOffset 0 cause) ∨ ∃ name, fault = .assignment name)
    (Expression.ofTokens kind tokens) := by
  unfold Expression.ofTokens
  cases mutation? tokens with
  | some name => exact .error (.inr (.inr ⟨name, rfl⟩))
  | none =>
      dsimp only
      split
      · exact .error (.inr (.inl ⟨_, rfl⟩))
      · have inside : 0 < tokens.length := by
          obtain ⟨body, last, rfl⟩ := ends
          rw [List.length_append]
          exact Nat.succ_pos _
        have budget : 0 + nestingLimit = nestingLimit := Nat.zero_add _
        obtain ⟨outcome, -, comes⟩ :=
          (follows_nested ends kind _ budget (Nat.le_refl _)).expression 0 inside
        rw [List.drop_zero] at comes
        refine .bind (fun fault failed => ?_) ?_
        · rw [failed] at comes
          exact .inl comes.stands.1
        · rintro ⟨tree, rest⟩ read
          rw [read] at comes
          obtain ⟨next, -, before, rfl, -⟩ := comes.stop
          dsimp only
          split
          · exact .ok _
          · exact .error (.inl (stands_ahead before _))

/-- Every fault of syntax of a text stands at a boundary between its characters. -/
theorem parse_faults (source : String) (kind : ItemKind) : Faults
    (fun failure => ∀ text offset fault, failure = .syntaxFault text offset fault →
      text = source ∧ String.Pos.Raw.IsValid source ⟨offset⟩)
    (Expression.parse source kind) := by
  have placed {offset : Nat} {cause : SyntaxFault}
      (valid : String.Pos.Raw.IsValid source ⟨offset⟩) : ∀ text place fault,
        FilterError.ofFault source (.atOffset offset cause) = .syntaxFault text place fault →
          text = source ∧ String.Pos.Raw.IsValid source ⟨place⟩ := by
    rintro _ _ _ ⟨⟩
    exact ⟨rfl, valid⟩
  unfold Expression.parse
  refine .bind (fun failure failed => ?_) fun tokens split failure failed => ?_
  · obtain ⟨fault, unsplit, rfl⟩ := mapError_eq_error.1 failed
    obtain ⟨before, after, found, same, -, rfl⟩ := tokensFrom_eq_error unsplit
    rw [Nat.zero_add]
    exact placed (isValid_of_split same)
  · obtain ⟨words, last, rfl, -⟩ := tokensFrom_finish (mapError_eq_ok.1 split)
    obtain ⟨lead, pieces, blanks, same, covered⟩ := tokensFrom_eq_ok (mapError_eq_ok.1 split)
    have covers := covers_of_row blanks same
    rw [Nat.zero_add] at covered
    rw [← covered] at covers
    obtain ⟨fault, unread, rfl⟩ := mapError_eq_error.1 failed
    rcases ofTokens_faults ⟨words, last, rfl⟩ fault unread with stands | ⟨cause, rfl⟩ | ⟨name, rfl⟩
    · cases stands with
      | token listed => exact placed (covers.boundaries _ listed)
      | name => exact nofun
    · exact placed (isValid_of_split (List.nil_append _).symm)
    · exact nofun

/-- The parser keeps its books. Over any tokens up to an end, each of its functions ends wherever it
begins and however deep it is: a result takes tokens that spell it and stops in front of the end,
with the count of the nesting as it was, and its trees stay in the budget along every path. From
depth zero only an expression is begun, and all that runs inside it is at depth one at least; so
the paths of a filter have one step less than the budget. A fault of syntax names the whole text
and a place between its characters. -/
theorem parsing_keeps_books (kind : ItemKind) :
    (∀ tokens, EndsIn tokens → ∀ cursor : Cursor, cursor.position < tokens.length →
      cursor.depth ≤ nestingLimit → BooksKept kind tokens cursor) ∧
    ∀ source,
      (∀ tree, Expression.parse source kind = .ok tree → tree.Within 1) ∧
      ∀ text offset fault,
        Expression.parse source kind = .error (.syntaxFault text offset fault) →
          text = source ∧ String.Pos.Raw.IsValid source ⟨offset⟩ := by
  refine ⟨fun tokens ends cursor => booksKept ends kind, fun source => ⟨fun tree read => ?_, ?_⟩⟩
  · obtain ⟨words, last, -, derives⟩ := parse_eq_ok.1 read
    exact affords_at.1 (derives.affords (by decide))
  · exact fun text offset fault failed => parse_faults source kind _ failed text offset fault rfl

theorem parse_not_likes : Expression.parse "not likes" .post =
    .ok (.unary .not (.read "likes")) :=
  parse_eq_ok.2 ⟨_, _, tokenize_not_likes, derives_not_likes⟩

theorem parse_not : Expression.parse "not" .post =
    .error (.syntaxFault "not" 3 (.unexpected .finish)) := by
  have split : tokensFrom 0 "not".toList = .ok [⟨.keyword .not, 0⟩, ⟨.finish, 3⟩] :=
    tokensFrom_cons rfl rfl (tokensFrom_nil 3)
  rw [Expression.parse, tokenize, split]
  rfl

/-- The words of a negated attribute keep the books at any depth, and a negation without its operand
is refused at its end. -/
theorem parsing_keeps_books_of_negation :
    EndsIn [⟨.keyword .not, 0⟩, ⟨.name "likes", 4⟩, ⟨.finish, 9⟩] ∧
      BooksKept .post [⟨.keyword .not, 0⟩, ⟨.name "likes", 4⟩, ⟨.finish, 9⟩] ⟨1, 64⟩ ∧
      Expression.parse "not likes" .post = .ok (.unary .not (.read "likes")) ∧
      (Expression.unary .not (.read "likes")).Within 1 ∧
      Expression.parse "not" .post = .error (.syntaxFault "not" 3 (.unexpected .finish)) ∧
      String.Pos.Raw.IsValid "not" ⟨3⟩ := by
  obtain ⟨books, filters⟩ := parsing_keeps_books .post
  have ends : EndsIn [⟨.keyword .not, 0⟩, ⟨.name "likes", 4⟩, ⟨.finish, 9⟩] :=
    ⟨[⟨.keyword .not, 0⟩, ⟨.name "likes", 4⟩], 9, rfl⟩
  exact ⟨ends, books _ ends ⟨1, 64⟩ (by decide) (by decide), parse_not_likes,
    (filters "not likes").1 _ parse_not_likes, parse_not, ((filters "not").2 _ _ _ parse_not).2⟩

end Harvest.Filter
