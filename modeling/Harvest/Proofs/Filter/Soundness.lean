import Harvest.Proofs.Filter.Arguments
import Harvest.Proofs.Result

/-!
Reading is sound: the tokens that a parser takes off the head of a list spell its result.
-/

namespace Harvest.Filter

open Harvest.Result (bind_eq_ok ok_bind)

/-- Whatever a parser takes off the head of a list spells its result. -/
def Parser.Sound {α : Type} (parser : Parser α) (spells : α → List Token → Prop) : Prop :=
  ∀ ⦃tokens result rest⦄, parser tokens = .ok (result, rest) →
    ∃ before, tokens = before ++ rest ∧ spells result before

theorem eat?_eq_some {mark : Mark} {tokens rest : List Token} :
    eat? mark tokens = some rest ↔ ∃ offset, tokens = ⟨.mark mark, offset⟩ :: rest := by
  unfold eat?
  split
  · next found offset following =>
      by_cases same : found = mark
      · simp [same]
      · simp [same]
  · next other =>
      constructor
      · intro absent
        contradiction
      · rintro ⟨offset, rfl⟩
        exact absurd rfl (other mark offset rest)

theorem eatKeyword?_eq_some {keyword : Keyword} {tokens rest : List Token} :
    eatKeyword? keyword tokens = some rest ↔
      ∃ offset, tokens = ⟨.keyword keyword, offset⟩ :: rest := by
  unfold eatKeyword?
  split
  · next found offset following =>
      by_cases same : found = keyword
      · simp [same]
      · simp [same]
  · next other =>
      constructor
      · intro absent
        contradiction
      · rintro ⟨offset, rfl⟩
        exact absurd rfl (other keyword offset rest)

theorem expect_eq_ok {mark : Mark} {what : String} {tokens rest : List Token} :
    expect mark what tokens = .ok rest ↔ ∃ offset, tokens = ⟨.mark mark, offset⟩ :: rest := by
  rw [← eat?_eq_some]
  unfold expect
  cases eat? mark tokens <;> simp

variable {kind : ItemKind} {depth : Nat}

/-- The tokens of an expression that stands at a level and a depth. -/
def Spells (kind : ItemKind) (depth : Nat) (level : Level) (tree : Expression) :
    List Token → Prop :=
  Derives kind depth (.at level tree)

/-- The tokens of a comparison operator. -/
theorem comparison?_sound {tokens rest : List Token} {comparison : Comparison}
    (found : comparison? tokens = some (comparison, rest)) :
    ∃ operator, tokens = operator ++ rest ∧
      operator.map Token.lexeme = comparison.lexemes := by
  unfold comparison? at found
  split at found <;> first
    | contradiction
    | (cases found; exact ⟨[_], rfl, rfl⟩)
    | (cases found; exact ⟨[_, _], rfl, rfl⟩)

/-- The operators of a level with their trees, as a parser finds them. -/
def Finds {α : Type} (level : Level) (operator? : List Token → Option (α × List Token))
    (combine : α → Expression → Expression → Expression) : Prop :=
  ∀ ⦃tokens operator rest⦄, operator? tokens = some (operator, rest) →
    ∃ lexeme offset, tokens = ⟨lexeme, offset⟩ :: rest ∧ Joins level lexeme (combine operator)

theorem finds_product : Finds .product productOperator? .binary := by
  intro tokens operator rest found
  unfold productOperator? at found
  split at found <;> cases found <;> exact ⟨_, _, rfl, by constructor⟩

theorem finds_sum : Finds .sum sumOperator? .binary := by
  intro tokens operator rest found
  unfold sumOperator? at found
  split at found <;> cases found <;> exact ⟨_, _, rfl, by constructor⟩

theorem finds_conjunction : Finds .conjunction andOperator? fun _ => .both := by
  intro tokens operator rest found
  obtain ⟨following, eaten, same⟩ := Option.map_eq_some_iff.1 found
  obtain ⟨offset, rfl⟩ := eatKeyword?_eq_some.1 eaten
  cases same
  exact ⟨_, offset, rfl, .both⟩

theorem finds_disjunction : Finds .disjunction orOperator? fun _ => .either := by
  intro tokens operator rest found
  obtain ⟨following, eaten, same⟩ := Option.map_eq_some_iff.1 found
  obtain ⟨offset, rfl⟩ := eatKeyword?_eq_some.1 eaten
  cases same
  exact ⟨_, offset, rfl, .either⟩

/-- A level of operators that group to the left is sound when its operands are. -/
theorem leftLevel_sound {α : Type} {level : Level} {operand : Parser Expression}
    {operator? : List Token → Option (α × List Token)}
    {combine : α → Expression → Expression → Expression}
    (finds : Finds level operator? combine)
    (sound : operand.Sound (Spells kind depth level.tighter)) :
    (leftLevel operand operator? combine).Sound (Spells kind depth level) := by
  -- The induction is on the room; the operand before the links is already derived at this level.
  have linked (room : Nat) : ∀ {tokens rest before following} {first : Expression},
      links operand operator? room tokens = .ok (following, rest) →
      Spells kind depth level first before →
      ∃ after, tokens = after ++ rest ∧
        Spells kind depth level (groupLeft combine first following) (before ++ after) := by
    induction room with
    | zero =>
        intro tokens rest before following first read spelled
        cases read
        exact ⟨[], rfl, by simpa [groupLeft] using spelled⟩
    | succ room ih =>
        intro tokens rest before following first read spelled
        unfold links at read
        split at read
        · cases read
          exact ⟨[], rfl, by simpa [groupLeft] using spelled⟩
        · next operator rightTokens found =>
            obtain ⟨⟨right, middle⟩, readRight, read⟩ := bind_eq_ok.1 read
            obtain ⟨⟨more, final⟩, readMore, read⟩ := bind_eq_ok.1 read
            cases read
            obtain ⟨lexeme, offset, rfl, joins⟩ := finds found
            obtain ⟨second, rfl, spelledRight⟩ := sound readRight
            have joined : Spells kind depth level (combine operator first right)
                (before ++ ⟨lexeme, offset⟩ :: second) := .join joins spelled spelledRight
            obtain ⟨after, rfl, spelledAll⟩ := ih readMore joined
            exact ⟨⟨lexeme, offset⟩ :: (second ++ after), by simp, by simpa [groupLeft] using spelledAll⟩
  intro tokens tree rest read
  obtain ⟨⟨⟨first, following⟩, final⟩, readAll, read⟩ := bind_eq_ok.1 read
  cases read
  obtain ⟨⟨operandTree, middle⟩, readFirst, readAll⟩ := bind_eq_ok.1 readAll
  obtain ⟨⟨more, last⟩, readLinks, readAll⟩ := bind_eq_ok.1 readAll
  cases readAll
  obtain ⟨before, rfl, spelled⟩ := sound readFirst
  obtain ⟨after, rfl, spelledAll⟩ := linked _ readLinks (.loosen spelled)
  exact ⟨before ++ after, by simp, spelledAll⟩

/-- The links of a chain; without links nothing is taken. -/
theorem links_sound {operand : Parser Expression}
    (sound : operand.Sound (Spells kind depth .sum)) (room : Nat) :
    (links operand comparison? room).Sound fun following tokens =>
      following = [] ∧ tokens = [] ∨ Derives kind depth (.links following) tokens := by
  induction room with
  | zero =>
      intro tokens following rest read
      cases read
      exact ⟨[], rfl, .inl ⟨rfl, rfl⟩⟩
  | succ room ih =>
      intro tokens following rest read
      unfold links at read
      split at read
      · cases read
        exact ⟨[], rfl, .inl ⟨rfl, rfl⟩⟩
      · next comparison rightTokens found =>
          obtain ⟨⟨right, middle⟩, readRight, read⟩ := bind_eq_ok.1 read
          obtain ⟨⟨more, final⟩, readMore, read⟩ := bind_eq_ok.1 read
          cases read
          obtain ⟨operator, rfl, spelledOperator⟩ := comparison?_sound found
          obtain ⟨first, rfl, spelledRight⟩ := sound readRight
          obtain ⟨second, rfl, ⟨rfl, rfl⟩ | spelledMore⟩ := ih readMore
          · exact ⟨operator ++ first, by simp, .inr (.lastLink spelledOperator spelledRight)⟩
          · exact ⟨operator ++ first ++ second, by simp,
              .inr (.link spelledOperator spelledRight spelledMore)⟩

/-- The tokens of an expression that stands one step deeper. -/
def SpellsDeeper (kind : ItemKind) (depth : Nat) (level : Level) (tree : Expression)
    (tokens : List Token) : Prop :=
  depth < nestingLimit ∧ Spells kind (depth + 1) level tree tokens

/-- The items of a list up to its bracket. -/
def SpellsItems (kind : ItemKind) (depth : Nat) (trees : List Expression)
    (tokens : List Token) : Prop :=
  ∃ spelled comma offset, tokens = spelled ++ comma ++ [⟨.mark .closeBracket, offset⟩] ∧
    TrailingComma comma ∧ Derives kind depth (.items trees) spelled

theorem itemsFrom_sound {expression : Parser Expression}
    (sound : expression.Sound (SpellsDeeper kind depth .disjunction)) (room : Nat) :
    (itemsFrom expression room).Sound (SpellsItems kind depth) := by
  induction room with
  | zero =>
      intro tokens trees rest read
      contradiction
  | succ room ih =>
      intro tokens trees rest read
      obtain ⟨⟨item, middle⟩, readItem, ending⟩ := bind_eq_ok.1 read
      obtain ⟨first, rfl, within, spelledItem⟩ := sound readItem
      dsimp only at ending
      split at ending
      · next following closed =>
          cases ending
          obtain ⟨offset, rfl⟩ := eat?_eq_some.1 closed
          exact ⟨_, by simp, first, [], offset, rfl, .absent, .lastItem within spelledItem⟩
      · obtain ⟨afterComma, separated, continued⟩ := bind_eq_ok.1 ending
        obtain ⟨comma, rfl⟩ := expect_eq_ok.1 separated
        split at continued
        · next following closed =>
            cases continued
            obtain ⟨offset, rfl⟩ := eat?_eq_some.1 closed
            exact ⟨first ++ [⟨.mark .comma, comma⟩] ++ [⟨.mark .closeBracket, offset⟩], by simp,
              first, _, offset, rfl, .present comma, .lastItem within spelledItem⟩
        · obtain ⟨⟨items, final⟩, readItems, finished⟩ := bind_eq_ok.1 continued
          cases finished
          obtain ⟨_, rfl, second, trailing, offset, rfl, isTrailing, spelledItems⟩ := ih readItems
          exact ⟨first ++ ⟨.mark .comma, comma⟩ :: second ++ trailing ++
              [⟨.mark .closeBracket, offset⟩], by simp, _, trailing, offset, rfl, isTrailing,
            .item within spelledItem spelledItems⟩

/-- A list after its opening bracket. -/
inductive SpellsList (kind : ItemKind) (depth : Nat) : List Expression → List Token → Prop where
  | empty (offset : Nat) : SpellsList kind depth [] [⟨.mark .closeBracket, offset⟩]
  | items {trees : List Expression} {tokens : List Token} :
      SpellsItems kind depth trees tokens → SpellsList kind depth trees tokens

theorem listItems_sound {expression : Parser Expression}
    (sound : expression.Sound (SpellsDeeper kind depth .disjunction)) :
    (listItems expression).Sound (SpellsList kind depth) := by
  intro tokens trees rest read
  unfold listItems at read
  split at read
  · next following closed =>
      cases read
      obtain ⟨offset, rfl⟩ := eat?_eq_some.1 closed
      exact ⟨[_], rfl, .empty offset⟩
  · obtain ⟨before, rfl, spelled⟩ := itemsFrom_sound sound _ read
    exact ⟨before, rfl, .items spelled⟩

/-- A list with its opening bracket is an atom. -/
theorem SpellsList.atom {trees : List Expression} {tokens : List Token}
    (spells : SpellsList kind (depth + 1) trees tokens) (within : depth < nestingLimit)
    (first : Nat) : Spells kind depth .atom (.list trees) (⟨.mark .openBracket, first⟩ :: tokens) := by
  cases spells with
  | empty => exact .emptyList within
  | items spelled =>
      obtain ⟨spelled, comma, offset, rfl, trailing, derived⟩ := spelled
      exact .list derived trailing

/-- The members behind a target. -/
theorem members_sound (room : Nat) : ∀ {tokens rest before} {target tree : Expression},
    members target room tokens = .ok (tree, rest) → Spells kind depth .member target before →
    ∃ after, tokens = after ++ rest ∧ Spells kind depth .member tree (before ++ after) := by
  induction room with
  | zero =>
      intro tokens rest before target tree read spelled
      cases read
      exact ⟨[], rfl, by simpa using spelled⟩
  | succ room ih =>
      intro tokens rest before target tree read spelled
      unfold members at read
      split at read
      · cases read
        exact ⟨[], rfl, by simpa using spelled⟩
      · next following dotted =>
          obtain ⟨dot, rfl⟩ := eat?_eq_some.1 dotted
          split at read
          · next word offset more =>
              split at read
              · next part named =>
                  rw [MomentPart.ofName?_eq_some.1 named]
                  have dotted : Spells kind depth .member (.part target part)
                      (before ++ [⟨.mark .dot, dot⟩, ⟨.name part.name, offset⟩]) :=
                    .part part spelled
                  obtain ⟨after, rfl, spelledAll⟩ := ih read dotted
                  exact ⟨_ :: _ :: after, rfl, by simpa using spelledAll⟩
              · contradiction
          · contradiction

/-- The arguments of a call up to its parenthesis. -/
inductive SpellsArguments (kind : ItemKind) (depth : Nat) : List Argument → List Token → Prop where
  | none (offset : Nat) : SpellsArguments kind depth [] [⟨.mark .closeParen, offset⟩]
  | some {given : List Argument} {spelled comma : List Token} (offset : Nat) :
      Derives kind depth (.arguments given) spelled →
      TrailingComma comma →
      SpellsArguments kind depth given (spelled ++ comma ++ [⟨.mark .closeParen, offset⟩])

/-- The arguments that are read go on from those passed. -/
theorem argumentsFrom_sound {expression : Parser Expression} {callOffset : Nat}
    (sound : expression.Sound (SpellsDeeper kind depth .disjunction)) (room : Nat) :
    ∀ {tokens rest done} {state final : Arguments},
      argumentsFrom expression callOffset state room tokens = .ok (final, rest) →
      state.Tracks done →
      ∃ given before, tokens = before ++ rest ∧ SpellsArguments kind depth given before ∧
        final.Tracks (done ++ given) := by
  induction room with
  | zero =>
      intro tokens rest done state final read
      contradiction
  | succ room ih =>
      intro tokens rest done state final read tracks
      unfold argumentsFrom at read
      split at read
      · next following closed =>
          cases read
          obtain ⟨offset, rfl⟩ := eat?_eq_some.1 closed
          exact ⟨[], [_], rfl, .none offset, by simpa using tracks⟩
      · obtain ⟨⟨slot, turned, afterIntro⟩, slotted, valued⟩ := bind_eq_ok.1 read
        obtain ⟨⟨value, afterValue⟩, readValue, placed⟩ := bind_eq_ok.1 valued
        obtain ⟨advanced, stored, ending⟩ := bind_eq_ok.1 placed
        obtain ⟨keyword, intro, rfl, introduced, turns⟩ := Arguments.slot_ok slotted
        obtain ⟨first, rfl, within, spelled⟩ := sound readValue
        -- The argument is tracked as well, so the rest of the call goes on from it.
        have next := tracks.advance turns stored
        have single := Derives.lastArgument introduced within spelled
        split at ending
        · next afterComma separated =>
            obtain ⟨comma, rfl⟩ := eat?_eq_some.1 separated
            obtain ⟨given, _, rfl, spelledGiven, tracksAll⟩ := ih ending next
            refine ⟨⟨keyword, value⟩ :: given, ?_⟩
            -- A comma with no argument behind it is the one that may trail.
            cases spelledGiven with
            | none offset =>
                exact ⟨intro ++ first ++ [⟨.mark .comma, comma⟩] ++ [⟨.mark .closeParen, offset⟩],
                  by simp, .some offset single (.present comma), by simpa using tracksAll⟩
            | @some _ second trailing offset derived isTrailing =>
                exact ⟨intro ++ first ++ ⟨.mark .comma, comma⟩ :: second ++ trailing ++
                    [⟨.mark .closeParen, offset⟩], by simp,
                  .some offset (.argument introduced within spelled derived) isTrailing,
                  by simpa using tracksAll⟩
        · obtain ⟨afterCall, closed, finished⟩ := bind_eq_ok.1 ending
          cases finished
          obtain ⟨offset, rfl⟩ := expect_eq_ok.1 closed
          exact ⟨[⟨keyword, value⟩], intro ++ first ++ [] ++ [⟨.mark .closeParen, offset⟩],
            by simp, .some offset single .absent, next⟩

/-- The slots of a call after its opening parenthesis. -/
def callSlots (expression : Parser Expression) (callOffset : Nat) : Parser (List Expression) :=
  fun tokens => do
    let (arguments, rest) ←
      argumentsFrom expression callOffset Arguments.empty (tokens.length + 1) tokens
    return (← arguments.finish callOffset, rest)

/-- The slots of a call up to its parenthesis. -/
def SpellsSlots (kind : ItemKind) (depth : Nat) (slots : List Expression)
    (tokens : List Token) : Prop :=
  ∃ given spelled comma offset, tokens = spelled ++ comma ++ [⟨.mark .closeParen, offset⟩] ∧
    TrailingComma comma ∧ Derives kind depth (.arguments given) spelled ∧
    Argument.Fills given slots

theorem callSlots_sound {expression : Parser Expression} {callOffset : Nat}
    (sound : expression.Sound (SpellsDeeper kind depth .disjunction)) :
    (callSlots expression callOffset).Sound (SpellsSlots kind depth) := by
  intro tokens slots rest read
  obtain ⟨⟨state, final⟩, readArguments, read⟩ := bind_eq_ok.1 read
  obtain ⟨finishedSlots, finished, read⟩ := bind_eq_ok.1 read
  cases read
  obtain ⟨given, _, rfl, spelled, tracks⟩ :=
    argumentsFrom_sound sound _ readArguments Arguments.tracks_empty
  have fills := (tracks.finish slots).1 finished
  cases spelled with
  | none => exact absurd (fills.required .year (by simp)) (by decide)
  | some last derived trailing =>
      exact ⟨_, rfl, given, _, _, last, rfl, trailing, derived, fills⟩

/-- The parsers one step deeper read what stands one step deeper. -/
structure Nested.Sound (kind : ItemKind) (depth : Nat) (deeper : Nested) : Prop where
  expression : deeper.expression.Sound (SpellsDeeper kind depth .disjunction)
  negated : deeper.negated.Sound (SpellsDeeper kind depth .negation)
  signed : deeper.signed.Sound (SpellsDeeper kind depth .signed)
  items : deeper.items.Sound fun trees tokens => ∀ first,
    Spells kind depth .atom (.list trees) (⟨.mark .openBracket, first⟩ :: tokens)

variable {deeper : Nested}

/-- A name is an attribute or a call. -/
theorem namedAtom_sound (sound : deeper.Sound kind depth) (word : String) (offset : Nat) :
    (namedAtom kind deeper.expression word offset).Sound fun tree tokens =>
      Spells kind depth .atom tree (⟨.name word, offset⟩ :: tokens) := by
  intro tokens tree rest read
  unfold namedAtom at read
  split at read
  · next isCall =>
      subst isCall
      split at read
      · contradiction
      · next afterParen opened =>
          obtain ⟨first, rfl⟩ := eat?_eq_some.1 opened
          obtain ⟨⟨state, final⟩, readArguments, read⟩ := bind_eq_ok.1 read
          obtain ⟨slots, finished, read⟩ := bind_eq_ok.1 read
          cases read
          have called : callSlots deeper.expression offset afterParen = .ok (slots, rest) := by
            simp only [callSlots, readArguments, ok_bind, finished]
            rfl
          obtain ⟨_, rfl, given, spelled, comma, last, rfl, trailing, derived, fills⟩ :=
            callSlots_sound sound.expression called
          exact ⟨_ :: _, rfl, .call derived fills trailing⟩
  · next isName =>
      split at read
      · contradiction
      · next declared =>
          split at read
          · contradiction
          · cases read
            exact ⟨[], rfl, .read isName (by simpa using declared)⟩

/-- A literal, a name, a parenthesised expression or a list. -/
theorem atom_sound (sound : deeper.Sound kind depth) :
    (atom kind deeper).Sound (Spells kind depth .atom) := by
  intro tokens tree rest read
  unfold atom at read
  split at read
  case h_7 word offset following =>
      obtain ⟨before, rfl, spelled⟩ := namedAtom_sound sound word offset read
      exact ⟨_ :: before, rfl, spelled⟩
  case h_8 first following =>
      obtain ⟨⟨inner, middle⟩, readInner, read⟩ := bind_eq_ok.1 read
      obtain ⟨final, closed, read⟩ := bind_eq_ok.1 read
      cases read
      obtain ⟨before, rfl, within, spelled⟩ := sound.expression readInner
      obtain ⟨last, rfl⟩ := expect_eq_ok.1 closed
      have grouped : Spells kind depth .atom tree
          (⟨.mark .openParen, first⟩ :: before ++ [⟨.mark .closeParen, last⟩]) :=
        .group within spelled
      exact ⟨⟨.mark .openParen, first⟩ :: before ++ [⟨.mark .closeParen, last⟩], by simp, grouped⟩
  case h_9 first following =>
      obtain ⟨⟨trees, middle⟩, readItems, read⟩ := bind_eq_ok.1 read
      cases read
      obtain ⟨before, rfl, spelled⟩ := sound.items readItems
      exact ⟨⟨.mark .openBracket, first⟩ :: before, rfl, spelled first⟩
  case h_10 => contradiction
  all_goals
    cases read
    exact ⟨[_], rfl, .literal (by constructor)⟩

/-- An atom and the members read from it. -/
theorem memberAccess_sound (sound : deeper.Sound kind depth) :
    (memberAccess kind deeper).Sound (Spells kind depth .member) := by
  intro tokens tree rest read
  obtain ⟨⟨target, middle⟩, readTarget, readMembers⟩ := bind_eq_ok.1 read
  obtain ⟨before, rfl, spelled⟩ := atom_sound sound readTarget
  obtain ⟨after, rfl, spelledAll⟩ := members_sound _ readMembers (.loosen spelled)
  exact ⟨before ++ after, by simp, spelledAll⟩

/-- An operand with its signs. -/
theorem signedOperand_sound (sound : deeper.Sound kind depth) :
    (signedOperand kind deeper).Sound (Spells kind depth .signed) := by
  have prefixed {mark : Mark} {operator : UnaryOperator} (signs : Signs mark operator)
      (offset : Nat) {tokens operand rest} (read : deeper.signed tokens = .ok (operand, rest)) :
      ∃ before, (⟨.mark mark, offset⟩ :: tokens : List Token) = before ++ rest ∧
        Spells kind depth .signed (.unary operator operand) before := by
    obtain ⟨before, rfl, within, spelled⟩ := sound.signed read
    exact ⟨_ :: before, rfl, .sign signs within spelled⟩
  intro tokens tree rest read
  unfold signedOperand at read
  split at read
  · next offset following =>
      obtain ⟨⟨operand, final⟩, readOperand, finished⟩ := bind_eq_ok.1 read
      cases finished
      exact prefixed .minus offset readOperand
  · next offset following =>
      obtain ⟨⟨operand, final⟩, readOperand, finished⟩ := bind_eq_ok.1 read
      cases finished
      exact prefixed .plus offset readOperand
  · obtain ⟨before, same, spelled⟩ := memberAccess_sound sound read
    exact ⟨before, same, .loosen spelled⟩

theorem sum_sound (sound : deeper.Sound kind depth) :
    (sum kind deeper).Sound (Spells kind depth .sum) :=
  leftLevel_sound finds_sum (leftLevel_sound finds_product (signedOperand_sound sound))

/-- A chain of comparisons, or a sum on its own. -/
theorem comparisonChain_sound (sound : deeper.Sound kind depth) :
    (comparisonChain kind deeper).Sound (Spells kind depth .comparison) := by
  intro tokens tree rest read
  obtain ⟨⟨⟨first, following⟩, final⟩, readAll, finished⟩ := bind_eq_ok.1 read
  cases finished
  obtain ⟨⟨operand, middle⟩, readFirst, linked⟩ := bind_eq_ok.1 readAll
  obtain ⟨⟨more, last⟩, readLinks, finished⟩ := bind_eq_ok.1 linked
  cases finished
  obtain ⟨before, rfl, spelled⟩ := sum_sound sound readFirst
  obtain ⟨after, rfl, ⟨rfl, rfl⟩ | spelledLinks⟩ := links_sound (sum_sound sound) _ readLinks
  · exact ⟨before, rfl, .loosen spelled⟩
  · refine ⟨before ++ after, by simp, ?_⟩
    have linked : following ≠ [] := by
      rintro rfl
      cases spelledLinks
    simpa [linked, Spells] using Derives.chain spelled spelledLinks

/-- A negation or a comparison. -/
theorem negation_sound (sound : deeper.Sound kind depth) :
    (negation kind deeper).Sound (Spells kind depth .negation) := by
  intro tokens tree rest read
  unfold negation at read
  split at read
  · next following negated =>
      obtain ⟨⟨operand, final⟩, readOperand, finished⟩ := bind_eq_ok.1 read
      cases finished
      obtain ⟨offset, rfl⟩ := eatKeyword?_eq_some.1 negated
      obtain ⟨before, rfl, within, spelled⟩ := sound.negated readOperand
      exact ⟨_ :: before, rfl, .negate within spelled⟩
  · obtain ⟨before, same, spelled⟩ := comparisonChain_sound sound read
    exact ⟨before, same, .loosen spelled⟩

theorem disjunction_sound (sound : deeper.Sound kind depth) :
    (disjunction kind deeper).Sound (Spells kind depth .disjunction) :=
  leftLevel_sound finds_disjunction (leftLevel_sound finds_conjunction (negation_sound sound))

/-- What is left of the budget and the depth together make up the whole budget. -/
theorem nested_sound (kind : ItemKind) (steps depth : Nat) (budget : depth + steps = nestingLimit) :
    (nested kind steps).Sound kind depth := by
  induction steps generalizing depth with
  | zero => constructor <;> (intro tokens tree rest read; contradiction)
  | succ steps ih =>
      have deeper := ih (depth + 1) (by omega)
      have within : depth < nestingLimit := by omega
      refine ⟨?_, ?_, ?_, ?_⟩
      · intro tokens tree rest read
        exact (disjunction_sound deeper read).imp fun _ spelled => ⟨spelled.1, within, spelled.2⟩
      · intro tokens tree rest read
        exact (negation_sound deeper read).imp fun _ spelled => ⟨spelled.1, within, spelled.2⟩
      · intro tokens tree rest read
        exact (signedOperand_sound deeper read).imp fun _ spelled => ⟨spelled.1, within, spelled.2⟩
      · intro tokens trees rest read
        exact (listItems_sound deeper.expression read).imp fun _ spelled =>
          ⟨spelled.1, spelled.2.atom within⟩

end Harvest.Filter
