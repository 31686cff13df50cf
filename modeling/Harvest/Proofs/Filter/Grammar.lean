import Harvest.Filter.Expression.Parse
import Mathlib.Data.List.DropRight

/-!
The grammar of filters. A derivation says which tokens spell which tree, apart from how they are
read, and it carries the depth at which they stand.
-/

namespace Harvest.Filter

/-- The levels of precedence, from the loosest to the tightest. -/
inductive Level where
  | disjunction
  | conjunction
  | negation
  | comparison
  | sum
  | product
  | signed
  | member
  | atom
  deriving DecidableEq, Repr

/-- The next tighter level. -/
def Level.tighter : Level → Level
  | .disjunction => .conjunction
  | .conjunction => .negation
  | .negation => .comparison
  | .comparison => .sum
  | .sum => .product
  | .product => .signed
  | .signed => .member
  | .member | .atom => .atom

/-- The operators that group to the left, with their levels and their trees. -/
inductive Joins : Level → Lexeme → (Expression → Expression → Expression) → Prop where
  | either : Joins .disjunction (.keyword .or) .either
  | both : Joins .conjunction (.keyword .and) .both
  | add : Joins .sum (.mark .plus) (.binary .add)
  | subtract : Joins .sum (.mark .minus) (.binary .subtract)
  | multiply : Joins .product (.mark .star) (.binary .multiply)
  | divide : Joins .product (.mark .slash) (.binary .divide)
  | floorDivide : Joins .product (.mark .doubleSlash) (.binary .floorDivide)
  | modulo : Joins .product (.mark .percent) (.binary .modulo)

/-- The signs before an operand. -/
inductive Signs : Mark → UnaryOperator → Prop where
  | minus : Signs .minus .minus
  | plus : Signs .plus .plus

/-- The lexemes of a comparison; two comparisons have two words. -/
def Comparison.lexemes : Comparison → List Lexeme
  | .equal => [.mark .equal]
  | .notEqual => [.mark .notEqual]
  | .less => [.mark .less]
  | .lessEqual => [.mark .lessEqual]
  | .greater => [.mark .greater]
  | .greaterEqual => [.mark .greaterEqual]
  | .within => [.keyword .in]
  | .notWithin => [.keyword .not, .keyword .in]
  | .same => [.keyword .is]
  | .notSame => [.keyword .is, .keyword .not]

/-- The lexemes that are values by themselves. -/
inductive Lexeme.Denotes : Lexeme → Value → Prop where
  | int (number : Int64) : Denotes (.int number) (.int number)
  | float (number : Float) : Denotes (.float number) (.float number)
  | text (contents : String) : Denotes (.text contents) (.text contents)
  | true : Denotes (.keyword .true) (.bool Bool.true)
  | false : Denotes (.keyword .false) (.bool Bool.false)
  | none : Denotes (.keyword .none) .none

/-- An argument of `datetime`, given by its position or with the name of a part. -/
structure Argument where
  keyword : Option MomentPart
  value : Expression

/-- The tokens before the value of an argument. -/
inductive Argument.Introduced : Option MomentPart → List Token → Prop where
  | position : Introduced none []
  | keyword (part : MomentPart) (first second : Nat) :
      Introduced (some part) [⟨.name part.name, first⟩, ⟨.binding .plain, second⟩]

/-- Arguments with their slots: the named part, or the part at their position. -/
def Argument.placements (arguments : List Argument) : List (Option MomentPart × Expression) :=
  arguments.mapIdx fun index argument =>
    (argument.keyword.or MomentPart.all[index]?, argument.value)

/-- The value given for a part. -/
def Argument.given? (arguments : List Argument) (part : MomentPart) : Option Expression :=
  (Argument.placements arguments).lookup (some part)

/-- Each argument has a slot of its own, and keywords come last. -/
structure Argument.Placed (arguments : List Argument) : Prop where
  keywordsLast : arguments.Pairwise fun first second =>
    first.keyword.isSome → second.keyword.isSome
  inSlots : ∀ placement ∈ Argument.placements arguments, placement.1.isSome
  apart : ((Argument.placements arguments).map Prod.fst).Nodup

/-- The arguments fill the slots of a call: year, month and day are given, a skipped slot before
the last given one holds zero, and nothing comes after the last given one. -/
structure Argument.Fills (arguments : List Argument) (slots : List Expression) : Prop where
  placed : Argument.Placed arguments
  required : ∀ part ∈ [MomentPart.year, .month, .day], (Argument.given? arguments part).isSome
  slots_eq : slots =
    (MomentPart.all.rdropWhile fun part => (Argument.given? arguments part).isNone).map
      fun part => (Argument.given? arguments part).getD (.literal (.int 0))

/-- The phrases of the grammar with what they stand for. -/
inductive Phrase where
  | at (level : Level) (tree : Expression)
  | links (links : List (Comparison × Expression))
  | items (trees : List Expression)
  | arguments (arguments : List Argument)

/-- A list or a call may end in a comma. -/
inductive TrailingComma : List Token → Prop where
  | absent : TrailingComma []
  | present (offset : Nat) : TrailingComma [⟨.mark .comma, offset⟩]

/-- The tokens that spell a phrase at a depth of nesting. A parenthesis, a prefix operator, a list,
an item and an argument each stand one step deeper than what is around them. -/
inductive Derives (kind : ItemKind) : Nat → Phrase → List Token → Prop where
  | loosen {depth : Nat} {level : Level} {tree : Expression} {tokens : List Token} :
      Derives kind depth (.at level.tighter tree) tokens →
      Derives kind depth (.at level tree) tokens
  | join {depth : Nat} {level : Level} {operator : Lexeme}
      {combine : Expression → Expression → Expression} {left right : Expression}
      {first second : List Token} {offset : Nat} :
      Joins level operator combine →
      Derives kind depth (.at level left) first →
      Derives kind depth (.at level.tighter right) second →
      Derives kind depth (.at level (combine left right)) (first ++ ⟨operator, offset⟩ :: second)
  | negate {depth : Nat} {operand : Expression} {tokens : List Token} {offset : Nat} :
      depth < nestingLimit →
      Derives kind (depth + 1) (.at .negation operand) tokens →
      Derives kind depth (.at .negation (.unary .not operand)) (⟨.keyword .not, offset⟩ :: tokens)
  | chain {depth : Nat} {operand : Expression} {following : List (Comparison × Expression)}
      {first second : List Token} :
      Derives kind depth (.at .sum operand) first →
      Derives kind depth (.links following) second →
      Derives kind depth (.at .comparison (.chain operand following)) (first ++ second)
  | lastLink {depth : Nat} {comparison : Comparison} {operand : Expression}
      {operator tokens : List Token} :
      operator.map Token.lexeme = comparison.lexemes →
      Derives kind depth (.at .sum operand) tokens →
      Derives kind depth (.links [(comparison, operand)]) (operator ++ tokens)
  | link {depth : Nat} {comparison : Comparison} {operand : Expression}
      {following : List (Comparison × Expression)} {operator first second : List Token} :
      operator.map Token.lexeme = comparison.lexemes →
      Derives kind depth (.at .sum operand) first →
      Derives kind depth (.links following) second →
      Derives kind depth (.links ((comparison, operand) :: following))
        (operator ++ first ++ second)
  | sign {depth : Nat} {mark : Mark} {operator : UnaryOperator} {operand : Expression}
      {tokens : List Token} {offset : Nat} :
      Signs mark operator →
      depth < nestingLimit →
      Derives kind (depth + 1) (.at .signed operand) tokens →
      Derives kind depth (.at .signed (.unary operator operand)) (⟨.mark mark, offset⟩ :: tokens)
  | part {depth : Nat} {target : Expression} {tokens : List Token} {first second : Nat}
      (part : MomentPart) :
      Derives kind depth (.at .member target) tokens →
      Derives kind depth (.at .member (.part target part))
        (tokens ++ [⟨.mark .dot, first⟩, ⟨.name part.name, second⟩])
  | literal {depth : Nat} {lexeme : Lexeme} {value : Value} {offset : Nat} :
      lexeme.Denotes value →
      Derives kind depth (.at .atom (.literal value)) [⟨lexeme, offset⟩]
  | read {depth : Nat} {name : String} {offset : Nat} :
      name ≠ datetimeName →
      kind.declares name →
      Derives kind depth (.at .atom (.read name)) [⟨.name name, offset⟩]
  | group {depth : Nat} {inner : Expression} {tokens : List Token} {first last : Nat} :
      depth < nestingLimit →
      Derives kind (depth + 1) (.at .disjunction inner) tokens →
      Derives kind depth (.at .atom inner)
        (⟨.mark .openParen, first⟩ :: tokens ++ [⟨.mark .closeParen, last⟩])
  | emptyList {depth : Nat} {first last : Nat} :
      depth < nestingLimit →
      Derives kind depth (.at .atom (.list []))
        [⟨.mark .openBracket, first⟩, ⟨.mark .closeBracket, last⟩]
  | list {depth : Nat} {trees : List Expression} {tokens comma : List Token} {first last : Nat} :
      Derives kind (depth + 1) (.items trees) tokens →
      TrailingComma comma →
      Derives kind depth (.at .atom (.list trees))
        (⟨.mark .openBracket, first⟩ :: tokens ++ comma ++ [⟨.mark .closeBracket, last⟩])
  | lastItem {depth : Nat} {tree : Expression} {tokens : List Token} :
      depth < nestingLimit →
      Derives kind (depth + 1) (.at .disjunction tree) tokens →
      Derives kind depth (.items [tree]) tokens
  | item {depth : Nat} {tree : Expression} {trees : List Expression}
      {first second : List Token} {offset : Nat} :
      depth < nestingLimit →
      Derives kind (depth + 1) (.at .disjunction tree) first →
      Derives kind depth (.items trees) second →
      Derives kind depth (.items (tree :: trees)) (first ++ ⟨.mark .comma, offset⟩ :: second)
  | call {depth : Nat} {arguments : List Argument} {slots : List Expression}
      {tokens comma : List Token} {name first last : Nat} :
      Derives kind depth (.arguments arguments) tokens →
      Argument.Fills arguments slots →
      TrailingComma comma →
      Derives kind depth (.at .atom (.datetime slots))
        (⟨.name datetimeName, name⟩ :: ⟨.mark .openParen, first⟩ :: tokens ++ comma ++
          [⟨.mark .closeParen, last⟩])
  | lastArgument {depth : Nat} {keyword : Option MomentPart} {value : Expression}
      {intro tokens : List Token} :
      Argument.Introduced keyword intro →
      depth < nestingLimit →
      Derives kind (depth + 1) (.at .disjunction value) tokens →
      Derives kind depth (.arguments [⟨keyword, value⟩]) (intro ++ tokens)
  | argument {depth : Nat} {keyword : Option MomentPart} {value : Expression}
      {following : List Argument} {intro first second : List Token} {offset : Nat} :
      Argument.Introduced keyword intro →
      depth < nestingLimit →
      Derives kind (depth + 1) (.at .disjunction value) first →
      Derives kind depth (.arguments following) second →
      Derives kind depth (.arguments (⟨keyword, value⟩ :: following))
        (intro ++ first ++ ⟨.mark .comma, offset⟩ :: second)

/-- An atom stands at every level. -/
theorem Derives.of_atom {kind : ItemKind} {depth : Nat} {tree : Expression} {tokens : List Token}
    (derives : Derives kind depth (.at .atom tree) tokens) (level : Level) :
    Derives kind depth (.at level tree) tokens := by
  have member : Derives kind depth (.at .member tree) tokens := .loosen derives
  have signed : Derives kind depth (.at .signed tree) tokens := .loosen member
  have product : Derives kind depth (.at .product tree) tokens := .loosen signed
  have sum : Derives kind depth (.at .sum tree) tokens := .loosen product
  have comparison : Derives kind depth (.at .comparison tree) tokens := .loosen sum
  have negation : Derives kind depth (.at .negation tree) tokens := .loosen comparison
  have conjunction : Derives kind depth (.at .conjunction tree) tokens := .loosen negation
  have disjunction : Derives kind depth (.at .disjunction tree) tokens := .loosen conjunction
  cases level <;> assumption

/-- The lexemes that a phrase of a level may start with. -/
def Level.opens : Level → Lexeme → Bool
  | _, .int _ | _, .float _ | _, .text _ | _, .name _ => true
  | _, .keyword .true | _, .keyword .false | _, .keyword .none => true
  | _, .mark .openParen | _, .mark .openBracket => true
  | .member, _ | .atom, _ => false
  | _, .mark .plus | _, .mark .minus => true
  | .disjunction, .keyword .not | .conjunction, .keyword .not | .negation, .keyword .not => true
  | _, _ => false

theorem Level.opens_of_tighter {level : Level} {lexeme : Lexeme}
    (opens : level.tighter.opens lexeme) : level.opens lexeme := by
  cases level <;> cases lexeme <;> first
    | exact opens
    | (rename_i word; cases word <;> first | exact opens | rfl)

/-- The tokens of a phrase start as its level says. -/
def Phrase.Starts : Phrase → List Token → Prop
  | .at level _, tokens => ∃ token rest, tokens = token :: rest ∧ level.opens token.lexeme
  | .links _, tokens => tokens ≠ []
  | .items _, tokens | .arguments _, tokens =>
    ∃ token rest, tokens = token :: rest ∧ Level.disjunction.opens token.lexeme

variable {kind : ItemKind} {depth : Nat} {phrase : Phrase} {tokens : List Token}

/-- No phrase is empty, and its first token tells an operand from what closes or joins. -/
theorem Derives.starts (derives : Derives kind depth phrase tokens) : phrase.Starts tokens := by
  induction derives with
  | loosen _ ih =>
      rcases ih with ⟨token, rest, same, opens⟩
      exact ⟨token, rest, same, Level.opens_of_tighter opens⟩
  | join _ _ _ ih =>
      rcases ih with ⟨token, rest, same, opens⟩
      exact ⟨token, _, by rw [same, List.cons_append], opens⟩
  | negate => exact ⟨_, _, rfl, rfl⟩
  | chain _ _ ih =>
      rcases ih with ⟨token, rest, same, opens⟩
      refine ⟨token, _, by rw [same, List.cons_append], ?_⟩
      exact @Level.opens_of_tighter .comparison _ opens
  | lastLink _ _ ih =>
      rcases ih with ⟨token, rest, same, -⟩
      simp [Phrase.Starts, same]
  | link _ _ _ ih =>
      rcases ih with ⟨token, rest, same, -⟩
      simp [Phrase.Starts, same]
  | sign signs => cases signs <;> exact ⟨_, _, rfl, rfl⟩
  | part _ _ ih =>
      rcases ih with ⟨token, rest, same, opens⟩
      exact ⟨token, _, by rw [same, List.cons_append], opens⟩
  | literal denotes => cases denotes <;> exact ⟨_, _, rfl, rfl⟩
  | read | group | emptyList | list | call => exact ⟨_, _, rfl, rfl⟩
  | lastItem _ _ ih => exact ih
  | item _ _ _ ih =>
      rcases ih with ⟨token, rest, same, opens⟩
      exact ⟨token, _, by rw [same, List.cons_append], opens⟩
  | lastArgument introduced _ _ ih =>
      cases introduced
      · exact ih
      · exact ⟨_, _, rfl, rfl⟩
  | argument introduced _ _ _ ih =>
      cases introduced
      · rcases ih with ⟨token, rest, same, opens⟩
        exact ⟨token, _, by rw [same, List.nil_append, List.cons_append], opens⟩
      · exact ⟨_, _, rfl, rfl⟩

theorem Joins.ne_finish {level : Level} {operator : Lexeme}
    {combine : Expression → Expression → Expression} (joins : Joins level operator combine) :
    operator ≠ .finish := by
  cases joins <;> exact nofun

/-- No comparison holds the end of a text. -/
theorem Comparison.lexemes_ne_finish {comparison : Comparison} {operator : List Token}
    (spelled : operator.map Token.lexeme = comparison.lexemes) :
    ∀ token ∈ operator, token.lexeme ≠ .finish := by
  intro token inside same
  have listed : token.lexeme ∈ comparison.lexemes := spelled ▸ List.mem_map_of_mem inside
  rw [same] at listed
  cases comparison <;> simp [Comparison.lexemes] at listed

/-- No phrase holds the end of a text. -/
theorem Derives.no_finish (derives : Derives kind depth phrase tokens) :
    ∀ token ∈ tokens, token.lexeme ≠ .finish := by
  have comma_no_finish (comma : List Token) (trailing : TrailingComma comma) :
      ∀ token ∈ comma, token.lexeme ≠ .finish := by
    cases trailing <;> simp
  have intro_no_finish (keyword : Option MomentPart) (intro : List Token)
      (introduced : Argument.Introduced keyword intro) :
      ∀ token ∈ intro, token.lexeme ≠ .finish := by
    cases introduced <;> simp
  induction derives with
  | loosen _ ih => exact ih
  | join joins _ _ left right =>
      simpa [or_imp, forall_and] using ⟨left, joins.ne_finish, right⟩
  | negate _ _ ih => simpa using ih
  | chain _ _ left right => simpa [or_imp, forall_and] using ⟨left, right⟩
  | lastLink spelled _ ih =>
      simpa [or_imp, forall_and] using ⟨Comparison.lexemes_ne_finish spelled, ih⟩
  | link spelled _ _ left right =>
      simpa [or_imp, forall_and] using ⟨Comparison.lexemes_ne_finish spelled, left, right⟩
  | sign _ _ _ ih => simpa using ih
  | part _ _ ih => simpa [or_imp, forall_and] using ih
  | literal denotes => cases denotes <;> simp
  | read | emptyList => simp
  | group _ _ ih => simpa [or_imp, forall_and] using ih
  | list _ trailing ih =>
      simpa [or_imp, forall_and] using ⟨ih, comma_no_finish _ trailing⟩
  | lastItem _ _ ih => exact ih
  | item _ _ _ left right => simpa [or_imp, forall_and] using ⟨left, right⟩
  | call _ _ trailing ih =>
      simpa [or_imp, forall_and] using ⟨ih, comma_no_finish _ trailing⟩
  | lastArgument introduced _ _ ih =>
      simpa [or_imp, forall_and] using ⟨intro_no_finish _ _ introduced, ih⟩
  | argument introduced _ _ _ left right =>
      simpa [or_imp, forall_and] using ⟨intro_no_finish _ _ introduced, left, right⟩

/-- The number of parts in a row that a phrase has. -/
def Phrase.parts : Phrase → Nat
  | .at _ _ => 1
  | .links following => following.length
  | .items trees => trees.length
  | .arguments given => given.length

/-- Each part takes a token at least. -/
theorem Derives.parts_le (derives : Derives kind depth phrase tokens) :
    phrase.parts ≤ tokens.length := by
  induction derives with
  | loosen _ ih | lastItem _ _ ih => exact ih
  | join | negate | sign | part | literal | read | group | emptyList | list | call =>
      simp only [Phrase.parts, List.length_append, List.length_cons, List.length_nil]
      omega
  | chain _ _ left | lastLink _ _ left | lastArgument _ _ _ left =>
      simp only [Phrase.parts, List.length_append, List.length_cons, List.length_nil] at left ⊢
      omega
  | link _ _ _ left right | item _ _ _ left right | argument _ _ _ _ left right =>
      simp only [Phrase.parts, List.length_append, List.length_cons] at left right ⊢
      omega

theorem Derives.ne_nil {level : Level} {tree : Expression}
    (derives : Derives kind depth (.at level tree) tokens) : tokens ≠ [] :=
  List.length_pos_iff.1 derives.parts_le

/-- Whether tokens start with a binding. -/
def startsWithBinding : List Token → Bool
  | ⟨.binding .plain, _⟩ :: _ => true
  | _ => false

/-- Whether tokens start with the name of an argument. -/
def startsWithKeyword : List Token → Bool
  | ⟨.name _, _⟩ :: rest => startsWithBinding rest
  | _ => false

/-- A comparison starts with no binding. -/
theorem Comparison.lexemes_noBinding {comparison : Comparison} {operator : List Token}
    (spelled : operator.map Token.lexeme = comparison.lexemes) (rest : List Token) :
    startsWithBinding (operator ++ rest) = false := by
  rcases operator with - | ⟨⟨lexeme, offset⟩, operator⟩
  · cases comparison <;> simp [Comparison.lexemes] at spelled
  · cases comparison <;>
      simp only [Comparison.lexemes, List.map_cons, List.cons.injEq] at spelled <;>
      rw [spelled.1] <;> rfl

/-- An expression does not start with the name of an argument, and links with no binding. -/
def Phrase.Unbound : Phrase → List Token → Prop
  | .at _ _, tokens => startsWithKeyword tokens = false
  | .links _, tokens => startsWithBinding tokens = false
  | _, _ => True

/-- What an expression starts with is no argument name. -/
theorem Derives.unbound (derives : Derives kind depth phrase tokens) (rest : List Token)
    (separate : startsWithBinding rest = false) : phrase.Unbound (tokens ++ rest) := by
  induction derives generalizing rest with
  | loosen _ ih => exact ih rest separate
  | join joins _ _ left =>
      simp only [List.append_assoc, List.cons_append]
      apply left
      cases joins <;> rfl
  | chain _ _ left right =>
      rw [List.append_assoc]
      exact left _ (right rest separate)
  | lastLink spelled | link spelled =>
      simp only [List.append_assoc]
      exact Comparison.lexemes_noBinding spelled _
  | part _ _ ih =>
      rw [List.append_assoc]
      exact ih _ rfl
  | literal denotes => cases denotes <;> rfl
  | read => exact separate
  | negate | sign | group | emptyList | list | call => rfl
  | lastItem | item | lastArgument | argument => trivial

end Harvest.Filter
