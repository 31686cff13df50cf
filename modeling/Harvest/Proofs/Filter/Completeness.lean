import Harvest.Proofs.Filter.Soundness

/-!
Reading is complete: a parser takes exactly the tokens that spell a tree, when nothing behind them
goes on with the phrase. The levels that group to the left are followed link by link, because a
derivation nests them the other way round than a loop reads them.
-/

namespace Harvest.Filter

open Harvest.Result (ok_bind)

/-- The place of a level in the order of precedence. -/
def Level.rank : Level → Nat
  | .disjunction => 0
  | .conjunction => 1
  | .negation => 2
  | .comparison => 3
  | .sum => 4
  | .product => 5
  | .signed => 6
  | .member => 7
  | .atom => 8

/-- Whether tokens go on with a phrase of a level. -/
def Level.goesOn : Level → List Token → Bool
  | .disjunction, rest => (orOperator? rest).isSome
  | .conjunction, rest => (andOperator? rest).isSome
  | .comparison, rest => (comparison? rest).isSome
  | .sum, rest => (sumOperator? rest).isSome
  | .product, rest => (productOperator? rest).isSome
  | .member, rest => (eat? .dot rest).isSome
  | .atom, rest => (eat? .openParen rest).isSome
  | .negation, _ | .signed, _ => false

/-- Tokens that go on with no phrase as tight as a level. -/
def Level.Stops (level : Level) (rest : List Token) : Prop :=
  ∀ other : Level, level.rank ≤ other.rank → other.goesOn rest = false

theorem Level.rank_tighter (level : Level) : level.rank ≤ level.tighter.rank := by
  cases level <;> decide

theorem Level.rank_of_tighter {level : Level} (loose : level ≠ .atom) :
    level.tighter.rank = level.rank + 1 := by
  cases level <;> first | rfl | contradiction

theorem Level.rank_le (level : Level) : level.rank ≤ 8 := by
  cases level <;> decide

theorem Level.Stops.tighter {level : Level} {rest : List Token} (stops : level.Stops rest) :
    level.tighter.Stops rest :=
  fun other tight => stops other (level.rank_tighter.trans tight)

theorem Level.Stops.ended {level : Level} {rest : List Token} (stops : level.Stops rest) :
    level.goesOn rest = false :=
  stops level (Nat.le_refl _)

/-- An operator ends its left operand. -/
theorem Joins.stops {level : Level} {operator : Lexeme}
    {combine : Expression → Expression → Expression} (joins : Joins level operator combine)
    (offset : Nat) (rest : List Token) : level.tighter.Stops (⟨operator, offset⟩ :: rest) := by
  intro other tight
  cases joins <;> cases other <;> first | rfl | exact absurd tight (by decide)

/-- A comparison ends its left operand. -/
theorem Comparison.lexemes_stop {comparison : Comparison} {operator : List Token}
    (spelled : operator.map Token.lexeme = comparison.lexemes) (rest : List Token) :
    Level.sum.Stops (operator ++ rest) := by
  intro other tight
  rcases operator with - | ⟨⟨lexeme, offset⟩, operator⟩
  · cases comparison <;> simp [Comparison.lexemes] at spelled
  · cases comparison <;>
      simp only [Comparison.lexemes, List.map_cons, List.cons.injEq] at spelled <;>
      rw [spelled.1] <;> cases other <;> first | rfl | exact absurd tight (by decide)

/-- The lexemes behind a whole expression. -/
def Lexeme.closes : Lexeme → Bool
  | .mark .closeParen | .mark .closeBracket | .mark .comma | .finish => true
  | _ => false

theorem Lexeme.closes_stops {lexeme : Lexeme} (closes : lexeme.closes) (offset : Nat)
    (rest : List Token) : Level.disjunction.Stops (⟨lexeme, offset⟩ :: rest) := by
  intro other _
  unfold Lexeme.closes at closes
  split at closes <;> first | (cases other <;> rfl) | contradiction

/-- A comma or the closing mark ends the last part of a list or a call. -/
theorem TrailingComma.stops {comma : List Token} (trailing : TrailingComma comma) {mark : Mark}
    (closes : (Lexeme.mark mark).closes) (offset : Nat) (rest : List Token) :
    Level.disjunction.Stops (comma ++ ⟨.mark mark, offset⟩ :: rest) := by
  cases trailing with
  | absent => exact Lexeme.closes_stops closes offset rest
  | present first => exact Lexeme.closes_stops rfl first _

section LeftLevel

variable {α : Type} {operand : Parser Expression}
  {operator? : List Token → Option (α × List Token)}
  {combine : α → Expression → Expression → Expression} {stops : List Token → Prop}

theorem links_stop {rest : List Token} (ended : operator? rest = none) (room : Nat) :
    links operand operator? room rest = .ok ([], rest) := by
  cases room with
  | zero => rfl
  | succ room => simp only [links, ended]

theorem links_step {token following rest : List Token} {operator : α} {right : Expression}
    {more : List (α × Expression)} {final : List Token} {room : Nat}
    (found : operator? token = some (operator, following))
    (read : operand following = .ok (right, rest))
    (continued : links operand operator? room rest = .ok (more, final)) :
    links operand operator? (room + 1) token = .ok ((operator, right) :: more, final) := by
  simp only [links, found, read, ok_bind, continued]
  rfl

/-- Tokens are read as an operand with some links, after which the loop goes on. -/
def Opens (operand : Parser Expression) (operator? : List Token → Option (α × List Token))
    (combine : α → Expression → Expression → Expression) (stops : List Token → Prop)
    (tree : Expression) (tokens : List Token) : Prop :=
  ∀ rest, stops rest → ∃ first following middle,
    operand (tokens ++ rest) = .ok (first, middle) ∧ groupLeft combine first following = tree ∧
      following.length + rest.length ≤ middle.length ∧
      ∀ room more final, links operand operator? room rest = .ok (more, final) →
        links operand operator? (following.length + room) middle = .ok (following ++ more, final)

theorem opens_operand {tree : Expression} {tokens : List Token}
    (read : ∀ rest, stops rest → operand (tokens ++ rest) = .ok (tree, rest)) :
    Opens operand operator? combine stops tree tokens := by
  intro rest stop
  refine ⟨tree, [], rest, read rest stop, rfl, by simp, ?_⟩
  intro room more final linked
  simpa using linked

/-- One more link goes behind the links before it. -/
theorem Opens.join {left right : Expression} {first second : List Token} {token : Token}
    {operator : α} (opens : Opens operand operator? combine stops left first)
    (found : ∀ rest, operator? (token :: rest) = some (operator, rest))
    (ends : ∀ rest, stops (token :: rest))
    (read : ∀ rest, stops rest → operand (second ++ rest) = .ok (right, rest)) :
    Opens operand operator? combine stops (combine operator left right)
      (first ++ token :: second) := by
  intro rest stop
  obtain ⟨head, following, middle, readFirst, grouped, bound, linked⟩ :=
    opens (token :: (second ++ rest)) (ends _)
  refine ⟨head, following ++ [(operator, right)], middle, by simpa using readFirst, ?_, ?_, ?_⟩
  · rw [← grouped]
    simp [groupLeft]
  · simp only [List.length_cons, List.length_append, List.length_nil] at bound ⊢
    omega
  · intro room more final continued
    have all := linked (room + 1) _ _ (links_step (found _) (read rest stop) continued)
    simpa [Nat.add_assoc, Nat.add_comm 1] using all

/-- When nothing goes on behind the links, the whole level is read. -/
theorem Opens.read {tree : Expression} {tokens rest : List Token}
    (opens : Opens operand operator? combine stops tree tokens) (stop : stops rest)
    (ended : operator? rest = none) :
    leftLevel operand operator? combine (tokens ++ rest) = .ok (tree, rest) := by
  obtain ⟨first, following, middle, readFirst, grouped, bound, linked⟩ := opens rest stop
  have all := linked (middle.length - following.length) [] rest (links_stop ended _)
  rw [Nat.add_sub_cancel' (by omega), List.append_nil] at all
  simp only [leftLevel, operands, readFirst, ok_bind, all, ← grouped]
  rfl

end LeftLevel

variable {kind : ItemKind} {depth : Nat} {deeper : Nested} {tree : Expression}
  {tokens rest : List Token}

/-- Tokens are read as an atom with some members, after which the loop goes on. -/
def OpensMembers (kind : ItemKind) (deeper : Nested) (tree : Expression)
    (tokens : List Token) : Prop :=
  ∀ rest, Level.atom.Stops rest → ∃ target middle count,
    atom kind deeper (tokens ++ rest) = .ok (target, middle) ∧
      count + rest.length ≤ middle.length ∧
      ∀ room, members target (count + room) middle = members tree room rest

/-- One more member goes behind the members before it. -/
theorem OpensMembers.part (opens : OpensMembers kind deeper tree tokens) (part : MomentPart)
    (first second : Nat) : OpensMembers kind deeper (.part tree part)
      (tokens ++ [⟨.mark .dot, first⟩, ⟨.name part.name, second⟩]) := by
  intro rest _
  have ends : Level.atom.Stops (⟨.mark .dot, first⟩ :: ⟨.name part.name, second⟩ :: rest) := by
    intro other tight
    cases other <;> first | rfl | exact absurd tight (by decide)
  obtain ⟨target, middle, count, readAtom, bound, continued⟩ := opens _ ends
  refine ⟨target, middle, count + 1, by simpa using readAtom, ?_, ?_⟩
  · simp only [List.length_cons] at bound
    omega
  · intro room
    rw [Nat.add_assoc, Nat.add_comm 1, continued]
    simp only [members, eat?, if_true, MomentPart.ofName?_eq_some.2 rfl]

/-- When no member follows, the whole access is read. -/
theorem OpensMembers.read (opens : OpensMembers kind deeper tree tokens)
    (stops : Level.member.Stops rest) :
    memberAccess kind deeper (tokens ++ rest) = .ok (tree, rest) := by
  obtain ⟨target, middle, count, readAtom, bound, continued⟩ := opens rest stops.tighter
  have ended : eat? .dot rest = none := by simpa [Level.goesOn] using stops.ended
  have all := continued (middle.length - count)
  rw [Nat.add_sub_cancel' (by omega)] at all
  have last (room : Nat) : members tree room rest = .ok (tree, rest) := by
    cases room with
    | zero => rfl
    | succ room => simp only [members, ended]
  simp only [memberAccess, readAtom, ok_bind, all, last]

/-- The parser of a level. -/
def parserAt (kind : ItemKind) (deeper : Nested) : Level → Parser Expression
  | .disjunction => disjunction kind deeper
  | .conjunction => conjunction kind deeper
  | .negation => negation kind deeper
  | .comparison => comparisonChain kind deeper
  | .sum => sum kind deeper
  | .product => product kind deeper
  | .signed => signedOperand kind deeper
  | .member => memberAccess kind deeper
  | .atom => atom kind deeper

/-- The tokens of an expression are read as its tree. A level with a loop tells what the loop has
read, so that more may follow at the same level. -/
def ReadsAt (kind : ItemKind) (deeper : Nested) (level : Level) (tree : Expression)
    (tokens : List Token) : Prop :=
  match level with
  | .disjunction => Opens (conjunction kind deeper) orOperator? (fun _ => .either)
      Level.conjunction.Stops tree tokens
  | .conjunction => Opens (negation kind deeper) andOperator? (fun _ => .both)
      Level.negation.Stops tree tokens
  | .sum => Opens (product kind deeper) sumOperator? .binary Level.product.Stops tree tokens
  | .product => Opens (signedOperand kind deeper) productOperator? .binary Level.signed.Stops
      tree tokens
  | .member => OpensMembers kind deeper tree tokens
  | .negation | .comparison | .signed | .atom =>
    ∀ rest, level.Stops rest → parserAt kind deeper level (tokens ++ rest) = .ok (tree, rest)

/-- What is read up to where it stops is read by the parser of its level. -/
theorem ReadsAt.exact {level : Level} (reads : ReadsAt kind deeper level tree tokens)
    (stops : level.Stops rest) : parserAt kind deeper level (tokens ++ rest) = .ok (tree, rest) := by
  cases level with
  | disjunction => exact Opens.read reads stops.tighter (by simpa [Level.goesOn] using stops.ended)
  | conjunction => exact Opens.read reads stops.tighter (by simpa [Level.goesOn] using stops.ended)
  | sum => exact Opens.read reads stops.tighter (by simpa [Level.goesOn] using stops.ended)
  | product => exact Opens.read reads stops.tighter (by simpa [Level.goesOn] using stops.ended)
  | member => exact OpensMembers.read reads stops
  | negation | comparison | signed | atom => exact reads rest stops

/-- A phrase of a tighter level is read at the looser level as well. -/
theorem ReadsAt.loosen {level : Level} (reads : ReadsAt kind deeper level.tighter tree tokens)
    (starts : (Phrase.at level.tighter tree).Starts tokens) :
    ReadsAt kind deeper level tree tokens := by
  obtain ⟨⟨lexeme, offset⟩, following, rfl, opens⟩ := starts
  -- A level finds none of its operators, behind the phrase or in front of it.
  cases level with
  | disjunction => exact opens_operand fun rest stops => ReadsAt.exact reads stops
  | conjunction => exact opens_operand fun rest stops => ReadsAt.exact reads stops
  | sum => exact opens_operand fun rest stops => ReadsAt.exact reads stops
  | product => exact opens_operand fun rest stops => ReadsAt.exact reads stops
  | atom => exact reads
  | member =>
      intro rest stops
      have read := ReadsAt.exact reads stops
      exact ⟨tree, rest, 0, read, by simp, by simp⟩
  | negation =>
      intro rest stops
      have read := ReadsAt.exact reads stops.tighter
      have plain : eatKeyword? .not (⟨lexeme, offset⟩ :: (following ++ rest)) = none := by
        cases lexeme with
        | keyword word => cases word <;> first | rfl | cases opens
        | _ => rfl
      change comparisonChain kind deeper _ = _ at read
      simpa only [parserAt, negation, List.cons_append, plain] using read
  | comparison =>
      intro rest stops
      have read := ReadsAt.exact reads stops.tighter
      have ended : comparison? rest = none := by simpa [Level.goesOn] using stops.ended
      change sum kind deeper _ = _ at read
      simp only [parserAt, comparisonChain, operands, read, ok_bind, links_stop ended]
      rfl
  | signed =>
      intro rest stops
      have read := ReadsAt.exact reads stops.tighter
      cases lexeme with
      | mark mark => cases mark <;> first | exact read | cases opens
      | _ => exact read

/-- What stands one step deeper is read with one step less of the budget. -/
def Readable (kind : ItemKind) (depth : Nat) : Phrase → List Token → Prop
  | .at level tree, tokens => ∀ steps, depth + steps = nestingLimit →
      ReadsAt kind (nested kind steps) level tree tokens
  | .links following, tokens => ∀ steps, depth + steps = nestingLimit →
      ∀ rest room, Level.comparison.Stops rest → following.length ≤ room →
        links (sum kind (nested kind steps)) comparison? room (tokens ++ rest) =
          .ok (following, rest)
  | .items trees, tokens => ∀ steps, depth + steps = nestingLimit →
      ∀ comma offset rest room, TrailingComma comma → trees.length ≤ room →
        itemsFrom (nested kind steps).expression room
          (tokens ++ comma ++ ⟨.mark .closeBracket, offset⟩ :: rest) = .ok (trees, rest)
  | .arguments given, tokens => ∀ steps, depth + steps = nestingLimit →
      ∀ comma offset rest room callOffset state done, TrailingComma comma →
        Arguments.Tracks state done → Argument.Placed (done ++ given) → given.length < room →
        ∃ final, final.Tracks (done ++ given) ∧
          argumentsFrom (nested kind steps).expression callOffset state room
            (tokens ++ comma ++ ⟨.mark .closeParen, offset⟩ :: rest) = .ok (final, rest)

/-- A whole expression is read up to what stops it. -/
theorem Readable.exact {level : Level} (readable : Readable kind depth (.at level tree) tokens)
    {steps : Nat} (budget : depth + steps = nestingLimit) (stops : level.Stops rest) :
    parserAt kind (nested kind steps) level (tokens ++ rest) = .ok (tree, rest) :=
  (readable steps budget).exact stops

/-- The first of some arguments is placed on its own. -/
theorem Argument.Placed.of_append {first second : List Argument}
    (placed : Argument.Placed (first ++ second)) : Argument.Placed first := by
  induction second using List.reverseRecOn with
  | nil => simpa using placed
  | append_singleton second last ih =>
      rw [← List.append_assoc] at placed
      exact ih (Argument.placed_concat.1 placed).1

/-- An argument in order is turned to and goes into its slot. -/
theorem Arguments.Tracks.accepts {state : Arguments} {done : List Argument}
    {keyword : Option MomentPart} {intro : List Token} {value : Expression}
    (tracks : state.Tracks done) (introduced : Argument.Introduced keyword intro)
    (placed : Argument.Placed (done ++ [⟨keyword, value⟩]))
    (plain : startsWithKeyword tokens = false) (callOffset offset : Nat) :
    ∃ slot turned after, state.slot (intro ++ tokens) = .ok (slot, turned, tokens) ∧
      turned.put callOffset offset slot value = .ok after ∧
      after.Tracks (done ++ [⟨keyword, value⟩]) := by
  obtain ⟨slot, turned, slotted, turns⟩ : ∃ slot turned,
      state.slot (intro ++ tokens) = .ok (slot, turned, tokens) ∧
        state.Turns keyword slot turned := by
    cases introduced with
    | keyword part first second =>
        exact ⟨_, _, Arguments.slot_keyword state part first second tokens, .keyword part⟩
    | position =>
        have unseen : state.keywordSeen = false := by
          by_contra seen
          obtain ⟨earlier, inside, named⟩ := tracks.keyword (by simpa using seen)
          exact named ((Argument.placed_concat.1 placed).2.1 rfl earlier inside)
        exact ⟨_, _, Arguments.slot_position plain unseen, .position unseen⟩
  obtain ⟨after, stored⟩ := (tracks.put turns).2 placed
  exact ⟨slot, turned, after, slotted, stored, tracks.advance turns stored⟩

/-- A budget that is not used up has a step left. -/
theorem budget_step {depth steps : Nat} (within : depth < nestingLimit)
    (budget : depth + steps = nestingLimit) :
    ∃ left, steps = left + 1 ∧ depth + 1 + left = nestingLimit :=
  ⟨steps - 1, by omega, by omega⟩

theorem comparison?_complete {comparison : Comparison} {operator : List Token}
    (spelled : operator.map Token.lexeme = comparison.lexemes) {rest : List Token}
    (plain : eatKeyword? .not rest = none) :
    comparison? (operator ++ rest) = some (comparison, rest) := by
  have single {lexeme : Lexeme} (one : operator.map Token.lexeme = [lexeme]) :
      ∃ offset, operator = [⟨lexeme, offset⟩] := by
    obtain ⟨⟨found, offset⟩, rfl, rfl⟩ := List.map_eq_singleton_iff.1 one
    exact ⟨offset, rfl⟩
  have double {first second : Lexeme} (two : operator.map Token.lexeme = [first, second]) :
      ∃ one other, operator = [⟨first, one⟩, ⟨second, other⟩] := by
    rcases operator with - | ⟨⟨_, one⟩, - | ⟨⟨_, other⟩, - | ⟨_, _⟩⟩⟩ <;> simp at two
    exact ⟨one, other, by simp [two]⟩
  cases comparison
  case notWithin | notSame =>
      obtain ⟨one, other, rfl⟩ := double spelled
      rfl
  case same =>
      obtain ⟨offset, rfl⟩ := single spelled
      simp only [List.cons_append, List.nil_append]
      unfold comparison?
      split <;> simp_all [eatKeyword?]
  all_goals
    obtain ⟨offset, rfl⟩ := single spelled
    rfl

theorem Level.opens_not {level : Level} (tight : Level.comparison.rank ≤ level.rank) :
    level.opens (.keyword .not) = false := by
  cases level <;> first | rfl | exact absurd tight (by decide)

theorem Level.opens_closing {level : Level} {mark : Mark} (closes : (Lexeme.mark mark).closes) :
    level.opens (.mark mark) = false := by
  cases mark <;> first | contradiction | (cases level <;> rfl)

/-- No operand of a comparison starts with a negation. -/
theorem Derives.plain {level : Level} (derives : Derives kind depth (.at level tree) tokens)
    (tight : Level.comparison.rank ≤ level.rank) (rest : List Token) :
    eatKeyword? .not (tokens ++ rest) = none := by
  obtain ⟨⟨lexeme, offset⟩, following, rfl, opens⟩ := derives.starts
  cases lexeme with
  | keyword word =>
      have other : word ≠ .not := by
        rintro rfl
        exact absurd opens (by simp [Level.opens_not tight])
      simp [eatKeyword?, other]
  | _ => rfl

/-- Nothing that starts like an expression starts with a closing mark. -/
theorem Level.notClosed {level : Level}
    (starts : ∃ token rest, tokens = token :: rest ∧ level.opens token.lexeme)
    {mark : Mark} (closes : (Lexeme.mark mark).closes) (rest : List Token) :
    eat? mark (tokens ++ rest) = none := by
  obtain ⟨⟨lexeme, offset⟩, following, rfl, opens⟩ := starts
  cases lexeme with
  | mark found =>
      have other : found ≠ mark := by
        rintro rfl
        exact absurd opens (by simp [Level.opens_closing closes])
      simp [eat?, other]
  | _ => rfl

/-- The links of a chain end its first operand. -/
theorem Derives.ends_operand {following : List (Comparison × Expression)}
    (derives : Derives kind depth (.links following) tokens) (rest : List Token) :
    Level.sum.Stops (tokens ++ rest) := by
  cases derives with
  | lastLink spelled =>
      rw [List.append_assoc]
      exact Comparison.lexemes_stop spelled _
  | link spelled =>
      rw [List.append_assoc, List.append_assoc]
      exact Comparison.lexemes_stop spelled _

theorem Derives.items_within {trees : List Expression}
    (derives : Derives kind depth (.items trees) tokens) : depth < nestingLimit := by
  cases derives <;> assumption

theorem signedOperand_sign {mark : Mark} {operator : UnaryOperator} (signs : Signs mark operator)
    (offset : Nat) {operand : Expression} (read : deeper.signed tokens = .ok (operand, rest)) :
    signedOperand kind deeper (⟨.mark mark, offset⟩ :: tokens) =
      .ok (.unary operator operand, rest) := by
  cases signs <;> (simp only [signedOperand, read, ok_bind]; rfl)

theorem atom_group {first last : Nat}
    (read : deeper.expression tokens = .ok (tree, ⟨.mark .closeParen, last⟩ :: rest)) :
    atom kind deeper (⟨.mark .openParen, first⟩ :: tokens) = .ok (tree, rest) := by
  have closed : expect .closeParen "')'" (⟨.mark .closeParen, last⟩ :: rest) = .ok rest := rfl
  simp only [atom, read, ok_bind, closed]
  rfl

theorem atom_list {trees : List Expression} {first : Nat}
    (read : deeper.items tokens = .ok (trees, rest)) :
    atom kind deeper (⟨.mark .openBracket, first⟩ :: tokens) = .ok (.list trees, rest) := by
  simp only [atom, read, ok_bind]
  rfl

theorem atom_call {slots : List Expression} {state : Arguments} {name first : Nat}
    (read : argumentsFrom deeper.expression name Arguments.empty (tokens.length + 1) tokens =
      .ok (state, rest)) (finished : state.finish name = .ok slots) :
    atom kind deeper (⟨.name datetimeName, name⟩ :: ⟨.mark .openParen, first⟩ :: tokens) =
      .ok (.datetime slots, rest) := by
  have opened : eat? .openParen (⟨.mark .openParen, first⟩ :: tokens) = some tokens := rfl
  simp only [atom, namedAtom, if_true, opened, read, ok_bind, finished]
  rfl

/-- One more item and the items behind its comma. -/
theorem itemsFrom_item {expression : Parser Expression} {trees : List Expression} {room offset : Nat}
    {following final : List Token}
    (read : expression tokens = .ok (tree, ⟨.mark .comma, offset⟩ :: following))
    (unclosed : eat? .closeBracket following = none)
    (continued : itemsFrom expression room following = .ok (trees, final)) :
    itemsFrom expression (room + 1) tokens = .ok (tree :: trees, final) := by
  have separated : eat? .closeBracket (⟨.mark .comma, offset⟩ :: following) = none := rfl
  have comma : expect .comma "',' or ']'" (⟨.mark .comma, offset⟩ :: following) =
      .ok following := rfl
  simp only [itemsFrom, read, ok_bind, separated, comma, unclosed, continued]
  rfl

/-- The last item and what closes the list. -/
theorem itemsFrom_last {expression : Parser Expression} {room offset : Nat} {comma : List Token}
    (trailing : TrailingComma comma)
    (read : expression tokens = .ok (tree, comma ++ ⟨.mark .closeBracket, offset⟩ :: rest)) :
    itemsFrom expression (room + 1) tokens = .ok ([tree], rest) := by
  cases trailing <;> (simp only [itemsFrom, read, ok_bind]; rfl)

/-- An argument is taken into its slot, and what comes behind it tells whether the call goes on. -/
theorem Derives.argument_taken {keyword : Option MomentPart} {value : Expression}
    {intro tail : List Token} {expression : Parser Expression} {state : Arguments}
    {done : List Argument} (derived : Derives kind (depth + 1) (.at .disjunction value) tokens)
    (introduced : Argument.Introduced keyword intro) (within : depth < nestingLimit)
    (read : expression (tokens ++ tail) = .ok (value, tail))
    (unbound : startsWithBinding tail = false) (tracks : state.Tracks done)
    (placed : Argument.Placed (done ++ [⟨keyword, value⟩])) (callOffset : Nat) :
    ∃ after, after.Tracks (done ++ [⟨keyword, value⟩]) ∧ ∀ room,
      argumentsFrom expression callOffset state (room + 1) (intro ++ tokens ++ tail) =
        match eat? .comma tail with
        | some rest => argumentsFrom expression callOffset after room rest
        | none => do
          let rest ← expect .closeParen "',' or ')'" tail
          return (after, rest) := by
  have unclosed : eat? .closeParen (intro ++ tokens ++ tail) = none :=
    Level.notClosed (Derives.lastArgument introduced within derived).starts rfl _
  obtain ⟨slot, turned, after, slotted, stored, tracksAll⟩ := tracks.accepts introduced placed
    (derived.unbound tail unbound) callOffset (nextOffset (intro ++ tokens ++ tail))
  rw [← List.append_assoc] at slotted
  refine ⟨after, tracksAll, fun room => ?_⟩
  cases joined : eat? .comma tail <;>
    simp only [argumentsFrom, unclosed, slotted, ok_bind, read, stored, joined]

/-- What a derivation spells is read. -/
theorem Derives.readable {phrase : Phrase} (derives : Derives kind depth phrase tokens) :
    Readable kind depth phrase tokens := by
  induction derives with
  | loosen derived ih =>
      intro steps budget
      exact (ih steps budget).loosen derived.starts
  | join joins _ _ left right =>
      intro steps budget
      have ends := joins.stops
      cases joins <;> exact Opens.join (left steps budget) (fun _ => rfl) (ends _)
        (fun _ stops => right.exact budget stops)
  | negate within _ ih =>
      intro steps budget rest stops
      obtain ⟨left, rfl, remaining⟩ := budget_step within budget
      have read := ih.exact remaining stops
      simp only [parserAt] at read ⊢
      simp only [negation, List.cons_append, eatKeyword?, if_true]
      change (negation kind (nested kind left) _ >>= _) = _
      rw [read]
      rfl
  | @chain _ operand following _ _ derived derivedLinks left right =>
      intro steps budget rest stops
      have first := left.exact budget (derivedLinks.ends_operand rest)
      have bound := derivedLinks.parts_le
      have more := right steps budget rest _ stops (bound.trans
        (List.sublist_append_left _ rest).length_le)
      have linked : following ≠ [] := by
        rintro rfl
        cases derivedLinks
      simp only [parserAt] at first ⊢
      rw [List.append_assoc]
      simp only [comparisonChain, operands, first, ok_bind, more]
      simp [linked]
      rfl
  | lastLink spelled derived ih =>
      intro steps budget rest room stops bound
      have ended : comparison? rest = none := by simpa [Level.goesOn] using stops.ended
      obtain ⟨left, rfl⟩ : ∃ left, room = left + 1 := ⟨room - 1, by simp at bound; omega⟩
      rw [List.append_assoc]
      exact links_step (comparison?_complete spelled (derived.plain (by decide) rest))
        (ih.exact budget stops.tighter) (links_stop ended left)
  | link spelled derived derivedLinks ih more =>
      intro steps budget rest room stops bound
      obtain ⟨left, rfl⟩ : ∃ left, room = left + 1 := ⟨room - 1, by simp at bound; omega⟩
      rw [List.append_assoc, List.append_assoc]
      exact links_step (comparison?_complete spelled (derived.plain (by decide) _))
        (ih.exact budget (derivedLinks.ends_operand rest))
        (more steps budget rest left stops (by simpa using bound))
  | sign signs within _ ih =>
      intro steps budget rest stops
      obtain ⟨left, rfl, remaining⟩ := budget_step within budget
      exact signedOperand_sign signs _ (ih.exact remaining stops)
  | part part _ ih =>
      intro steps budget
      exact OpensMembers.part (ih steps budget) part _ _
  | literal denotes =>
      intro steps budget rest stops
      cases denotes <;> rfl
  | read name declared =>
      intro steps budget rest stops
      have uncalled : eat? .openParen rest = none := by simpa [Level.goesOn] using stops.ended
      change namedAtom kind _ _ _ rest = _
      simp [namedAtom, name, declared, uncalled]
  | @group _ inner grouped first last within _ ih =>
      intro steps budget rest stops
      obtain ⟨left, rfl, remaining⟩ := budget_step within budget
      have read : (nested kind (left + 1)).expression (grouped ++ ⟨.mark .closeParen, last⟩ :: rest) =
          .ok (inner, ⟨.mark .closeParen, last⟩ :: rest) :=
        ih.exact remaining (Lexeme.closes_stops rfl last rest)
      simpa [parserAt] using atom_group read
  | emptyList within =>
      intro steps budget rest stops
      obtain ⟨left, rfl, remaining⟩ := budget_step within budget
      rfl
  | @list _ trees spelled comma _ last derived trailing ih =>
      intro steps budget rest stops
      obtain ⟨left, rfl, remaining⟩ := budget_step (Nat.lt_of_succ_lt derived.items_within) budget
      have unclosed : eat? .closeBracket (spelled ++ comma ++ ⟨.mark .closeBracket, last⟩ :: rest) =
          none := by
        rw [List.append_assoc]
        exact Level.notClosed derived.starts rfl _
      have bound := derived.parts_le
      have read := ih left remaining comma last rest
        ((spelled ++ comma ++ ⟨.mark .closeBracket, last⟩ :: rest).length + 1) trailing
        (by simp only [Phrase.parts, List.length_append] at bound ⊢; omega)
      have items : (nested kind (left + 1)).items
          (spelled ++ comma ++ ⟨.mark .closeBracket, last⟩ :: rest) = .ok (trees, rest) := by
        simp only [nested, listItems, unclosed]
        exact read
      simpa [parserAt] using atom_list items
  | lastItem within derived ih =>
      intro steps budget comma offset rest room trailing bound
      obtain ⟨left, rfl, remaining⟩ := budget_step within budget
      obtain ⟨less, rfl⟩ : ∃ less, room = less + 1 := ⟨room - 1, by simp at bound; omega⟩
      rw [List.append_assoc]
      exact itemsFrom_last trailing (ih.exact remaining (trailing.stops rfl offset rest))
  | item within derived derivedItems ih more =>
      intro steps budget comma offset rest room trailing bound
      obtain ⟨left, rfl, remaining⟩ := budget_step within budget
      obtain ⟨less, rfl⟩ : ∃ less, room = less + 1 := ⟨room - 1, by simp at bound; omega⟩
      have continued := more (left + 1) budget comma offset rest less trailing (by simpa using bound)
      simp only [List.append_assoc, List.cons_append] at continued ⊢
      exact itemsFrom_item (ih.exact remaining (Lexeme.closes_stops rfl _ _))
        (Level.notClosed derivedItems.starts rfl _) continued
  | @call _ given slots spelled comma name _ last derived fills trailing ih =>
      intro steps budget rest stops
      have bound := derived.parts_le
      obtain ⟨final, tracks, read⟩ := ih steps budget comma last rest
        ((spelled ++ comma ++ ⟨.mark .closeParen, last⟩ :: rest).length + 1) name Arguments.empty []
        trailing Arguments.tracks_empty fills.placed
        (by simp only [Phrase.parts, List.length_append] at bound ⊢; omega)
      simpa [parserAt] using atom_call read ((tracks.finish slots).2 fills)
  | lastArgument introduced within derived ih =>
      intro steps budget comma offset rest room callOffset state done trailing tracks placed bound
      obtain ⟨left, rfl, remaining⟩ := budget_step within budget
      obtain ⟨less, rfl⟩ : ∃ less, room = less + 2 := ⟨room - 2, by simp at bound; omega⟩
      have closes : (Lexeme.mark .closeParen).closes := rfl
      have read := ih.exact remaining (trailing.stops closes offset rest)
      obtain ⟨after, tracksAll, taken⟩ := derived.argument_taken introduced within read
        (by cases trailing <;> rfl) tracks placed callOffset
      rw [List.append_assoc]
      refine ⟨after, tracksAll, (taken (less + 1)).trans ?_⟩
      -- A comma leads back to the call, which ends there.
      cases trailing <;> rfl
  | @argument _ keyword value following intro first second offset introduced within derived _
      ih more =>
      intro steps budget comma last rest room callOffset state done trailing tracks placed bound
      obtain ⟨left, rfl, remaining⟩ := budget_step within budget
      obtain ⟨less, rfl⟩ : ∃ less, room = less + 1 := ⟨room - 1, by simp at bound; omega⟩
      rw [List.append_cons] at placed
      have closes : (Lexeme.mark .comma).closes := rfl
      have read := ih.exact remaining (Lexeme.closes_stops closes offset
        (second ++ (comma ++ ⟨.mark .closeParen, last⟩ :: rest)))
      obtain ⟨after, tracksNext, taken⟩ := derived.argument_taken introduced within read rfl tracks
        placed.of_append callOffset
      obtain ⟨final, tracksAll, readMore⟩ := more (left + 1) budget comma last rest less callOffset
        after _ trailing tracksNext placed (by simpa using bound)
      refine ⟨final, by simpa using tracksAll, ?_⟩
      rw [List.append_assoc] at readMore
      rw [List.append_assoc, List.append_assoc, List.cons_append]
      exact (taken less).trans readMore

end Harvest.Filter
