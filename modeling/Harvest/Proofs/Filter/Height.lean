import Harvest.Proofs.Filter.Bookkeeping
import Harvest.Proofs.Filter.Printing
import Mathlib.Data.List.Forall2

/-!
How high trees grow, and how deep their evaluation goes. The nesting budget pays for each step into
the nesting, but operators in a row and members in a row are read in loops and each of them puts
one more expression on top. So the height of a filter has a bound for each length of its chains,
and no bound for all filters.
-/

namespace Harvest.Filter

namespace Expression

mutual

/-- The number of expressions on the longest way from a tree down to a leaf. -/
def height : Expression → Nat
  | .literal _ | .read _ => 1
  | .datetime arguments => heightAll arguments + 1
  | .list items => heightAll items + 1
  | .part target _ => target.height + 1
  | .unary _ operand => operand.height + 1
  | .binary _ left right | .both left right | .either left right =>
    max left.height right.height + 1
  | .chain first following => max first.height (heightLinks following) + 1

/-- The height of the highest of some trees. -/
def heightAll : List Expression → Nat
  | [] => 0
  | tree :: rest => max tree.height (heightAll rest)

/-- The height of the highest operand of some comparisons. -/
def heightLinks : List (Comparison × Expression) → Nat
  | [] => 0
  | (_, operand) :: rest => max operand.height (heightLinks rest)

end

theorem heightAll_le {trees : List Expression} {bound : Nat} :
    heightAll trees ≤ bound ↔ ∀ tree ∈ trees, tree.height ≤ bound := by
  induction trees with
  | nil => simp [heightAll]
  | cons tree rest ih => simp [heightAll, ih]

theorem heightLinks_le {following : List (Comparison × Expression)} {bound : Nat} :
    heightLinks following ≤ bound ↔ ∀ tree ∈ following.map Prod.snd, tree.height ≤ bound := by
  induction following with
  | nil => simp [heightLinks]
  | cons link rest ih => simp [heightLinks, ih]

theorem height_pos (tree : Expression) : 0 < tree.height := by
  cases tree <;> simp [height]

/-- A tree is one higher than what is below it. -/
theorem height_le_succ {tree : Expression} {bound : Nat} :
    tree.height ≤ bound + 1 ↔ ∀ child ∈ tree.children, child.height ≤ bound := by
  cases tree <;> simp [height, children, heightAll_le, heightLinks_le]

end Expression

/-- The level that an arithmetic operator joins. -/
def BinaryOperator.level : BinaryOperator → Level
  | .add | .subtract => .sum
  | .multiply | .divide | .floorDivide | .modulo => .product

/-- How many operators of a level, or members, follow one another on top of a tree. -/
def Expression.spine (level : Level) : Expression → Nat
  | .part target _ => if level = .member then target.spine level + 1 else 0
  | .binary operator left _ => if level = operator.level then left.spine level + 1 else 0
  | .both left _ => if level = .conjunction then left.spine level + 1 else 0
  | .either left _ => if level = .disjunction then left.spine level + 1 else 0
  | _ => 0

/-- No chain of operators of one level or of members in a tree is longer than a length. -/
inductive Expression.ChainsWithin (length : Nat) : Expression → Prop where
  | intro {tree : Expression} :
      (∀ level, tree.spine level ≤ length) →
      (∀ child ∈ tree.children, child.ChainsWithin length) →
      ChainsWithin length tree

/-- Whether a level reads its phrases in a loop that puts one on top of the other. -/
def Level.grows : Level → Bool
  | .disjunction | .conjunction | .sum | .product | .member => true
  | .negation | .comparison | .signed | .atom => false

/-- What the chains of a level may add to the height of its operands. -/
def Level.growth (length : Nat) (level : Level) : Nat :=
  if level.grows then length else 0

/-- The height of the operands of a level, apart from what stands deeper in the nesting. -/
def Level.base (length : Nat) : Level → Nat
  | .atom | .member => 1
  | .signed | .product => length + 1
  | .sum => 2 * length + 1
  | .comparison | .negation | .conjunction => 3 * length + 2
  | .disjunction => 4 * length + 2

/-- The height that is left at a depth for what stands deeper. -/
def heightLeft (length depth : Nat) : Nat :=
  (nestingLimit - depth) * (5 * length + 2)

variable {kind : ItemKind} {length depth : Nat} {level : Level} {tree : Expression}

theorem heightLeft_step (length : Nat) (within : depth < nestingLimit) :
    heightLeft length depth = heightLeft length (depth + 1) + (5 * length + 2) := by
  unfold heightLeft
  rw [← Nat.succ_mul]
  congr 1
  omega

theorem Level.base_tighter (length : Nat) (level : Level) :
    level.tighter.base length + level.tighter.growth length ≤ level.base length := by
  cases level <;> simp [Level.tighter, Level.base, Level.growth, Level.grows] <;> omega

theorem Expression.ChainsWithin.spine_le (chains : tree.ChainsWithin length) (level : Level) :
    tree.spine level ≤ level.growth length := by
  obtain ⟨short, -⟩ := chains
  unfold Level.growth
  split
  · exact short level
  · next still =>
      cases tree with
      | binary operator => cases operator <;> cases level <;> first | rfl | exact absurd rfl still
      | part | both | either => cases level <;> first | rfl | exact absurd rfl still
      | _ => exact Nat.le_refl 0

/-- An operator goes on with the chain of its left operand. -/
theorem Joins.spine {operator : Lexeme} {combine : Expression → Expression → Expression}
    (joins : Joins level operator combine) (left right : Expression) :
    (combine left right).spine level = left.spine level + 1 := by
  cases joins <;> rfl

/-- The trees of a phrase are no higher than their place allows. A level that grows is given its
chain, because its left operands are phrases of the same level. -/
def Phrase.Low (length depth : Nat) : Phrase → Prop
  | .at level tree => tree.ChainsWithin length →
    tree.height ≤ tree.spine level + level.base length + heightLeft length depth
  | .links following => ∀ tree ∈ following.map Prod.snd, tree.ChainsWithin length →
    tree.height ≤ Level.sum.base length + Level.sum.growth length + heightLeft length depth
  | .items trees => ∀ tree ∈ trees, tree.ChainsWithin length →
    tree.height ≤ heightLeft length depth
  | .arguments given => ∀ tree ∈ given.map Argument.value, tree.ChainsWithin length →
    tree.height ≤ heightLeft length depth

/-- A phrase with its chain is as high as any phrase of its level. -/
theorem Phrase.Low.tallest (low : (Phrase.at level tree).Low length depth)
    (chains : tree.ChainsWithin length) :
    tree.height ≤ level.base length + level.growth length + heightLeft length depth := by
  have spine := chains.spine_le level
  have height := low chains
  omega

/-- An expression takes one step into the nesting. -/
theorem Phrase.Low.expression (low : (Phrase.at .disjunction tree).Low length (depth + 1))
    (within : depth < nestingLimit) (chains : tree.ChainsWithin length) :
    tree.height ≤ heightLeft length depth := by
  have height := low.tallest chains
  have whole : Level.disjunction.base length + Level.disjunction.growth length =
      5 * length + 2 := by
    change 4 * length + 2 + length = _
    omega
  rw [heightLeft_step length within]
  omega

theorem Expression.ChainsWithin.child {child : Expression} (chains : tree.ChainsWithin length)
    (inside : child ∈ tree.children) : child.ChainsWithin length := by
  obtain ⟨-, below⟩ := chains
  exact below child inside

/-- A tree is higher than what is below it. -/
theorem Expression.ChainsWithin.height_le (chains : tree.ChainsWithin length) {limit : Nat}
    (bound : Nat) (below : ∀ child ∈ tree.children, child.ChainsWithin length → child.height ≤ bound)
    (higher : bound < limit) : tree.height ≤ limit :=
  Nat.le_trans (height_le_succ.2 fun child inside => below child inside (chains.child inside)) higher

/-- Values of arguments and zeros are no higher than the arguments. -/
theorem Argument.Fills.low {given : List Argument} {slots : List Expression}
    (fills : Argument.Fills given slots) (within : depth < nestingLimit)
    (low : (Phrase.arguments given).Low length depth) :
    ∀ slot ∈ slots, slot.ChainsWithin length → slot.height ≤ heightLeft length depth := by
  intro slot inside chains
  rcases fills.zero_or_given inside with rfl | value
  · rw [heightLeft_step length within]
    exact Nat.le_trans (Nat.le_add_left 1 _) (Nat.le_add_left _ _)
  · exact low slot value chains

/-- What is derived is no higher than its place allows. -/
theorem Derives.low {phrase : Phrase} {tokens : List Token}
    (derives : Derives kind depth phrase tokens) : phrase.Low length depth := by
  induction derives with
  | @loosen _ level _ _ _ ih =>
      intro chains
      have height := Phrase.Low.tallest ih chains
      have tighter := level.base_tighter length
      omega
  | @join depth level _ _ left right _ _ _ joins _ _ first second =>
      intro chains
      -- The left operand has the chain without its last link, the right one is of a tighter level.
      obtain ⟨children, -⟩ := joins.children left right
      have tighter := level.base_tighter length
      refine chains.height_le (left.spine level + level.base length + heightLeft length depth)
        (fun child inside below => ?_) ?_
      · rw [children] at inside
        rcases List.mem_pair.1 inside with rfl | rfl
        · exact first below
        · have height := Phrase.Low.tallest second below
          omega
      · rw [joins.spine]
        omega
  | @negate depth _ _ _ within _ ih =>
      intro chains
      have deeper := heightLeft_step length within
      refine chains.height_le (Level.negation.base length + heightLeft length (depth + 1))
        (fun child inside below => ?_) (by omega)
      rw [List.mem_singleton.1 inside] at below ⊢
      exact Phrase.Low.tallest ih below
  | @sign depth _ _ _ _ _ _ within _ ih =>
      intro chains
      have deeper := heightLeft_step length within
      refine chains.height_le (Level.signed.base length + heightLeft length (depth + 1))
        (fun child inside below => ?_) (by omega)
      rw [List.mem_singleton.1 inside] at below ⊢
      exact Phrase.Low.tallest ih below
  | @chain depth _ _ _ _ _ _ first second =>
      intro chains
      refine chains.height_le
        (Level.sum.base length + Level.sum.growth length + heightLeft length depth)
        (fun child inside below => ?_) ?_
      · rcases List.mem_cons.1 inside with rfl | linked
        · exact Phrase.Low.tallest first below
        · exact second child linked below
      · change 2 * length + 1 + length + _ < _ + (3 * length + 2) + _
        omega
  | lastLink _ _ ih =>
      intro tree inside below
      obtain rfl := List.mem_singleton.1 inside
      exact Phrase.Low.tallest ih below
  | link _ _ _ first second =>
      intro tree inside below
      rcases List.mem_cons.1 inside with rfl | later
      · exact Phrase.Low.tallest first below
      · exact second tree later below
  | @part depth target _ _ _ _ _ ih =>
      intro chains
      refine chains.height_le
        (target.spine .member + Level.member.base length + heightLeft length depth)
        (fun child inside below => ?_) ?_
      · rw [List.mem_singleton.1 inside] at below ⊢
        exact ih below
      · change _ < target.spine .member + 1 + _ + _
        omega
  | literal | read | emptyList =>
      intro chains
      exact chains.height_le 0 nofun (Nat.add_pos_left (Nat.succ_pos _) _)
  | group within _ ih =>
      intro chains
      have height := Phrase.Low.expression ih within chains
      omega
  | @list depth _ _ _ _ _ derived _ ih =>
      intro chains
      have within := Nat.lt_of_succ_lt derived.items_within
      have deeper := heightLeft_step length within
      refine chains.height_le (heightLeft length (depth + 1)) ih ?_
      change _ < 0 + 1 + heightLeft length depth
      omega
  | @call depth _ _ _ _ _ _ _ derived fills _ ih =>
      intro chains
      refine chains.height_le (heightLeft length depth) (fills.low derived.arguments_within ih) ?_
      change _ < 0 + 1 + heightLeft length depth
      omega
  | lastItem within _ ih | lastArgument _ within _ ih =>
      intro tree inside below
      obtain rfl := List.mem_singleton.1 inside
      exact Phrase.Low.expression ih within below
  | item within _ _ first second | argument _ within _ _ first second =>
      intro tree inside below
      rcases List.mem_cons.1 inside with rfl | later
      · exact Phrase.Low.expression first within below
      · exact second tree later below

section Evaluation

variable {subject : Subject}

/-- Whether every link of a chain holds, with the operands valued by a caller. -/
def linksBy (value : Expression → ExceptT EvalError Option Value) (left : Value) :
    List (Comparison × Expression) → ExceptT EvalError Option Bool
  | [] => return true
  | (comparison, operand) :: rest => do
    let right ← value operand
    if ← liftExcept (applyComparison comparison left right) then linksBy value right rest
    else return false

/-- The value of an expression when calls of the evaluator stand in one another only so far. Beyond
that there is neither a value nor a fault. -/
def evaluateWithin (subject : Subject) : Nat → Expression → ExceptT EvalError Option Value
  | 0, _ => ExceptT.mk none
  | calls + 1, tree =>
    let value := evaluateWithin subject calls
    match tree with
    | .literal value => return value
    | .read name => liftExcept (subject.read name)
    | .datetime arguments => do liftExcept (buildMoment (← arguments.mapM value))
    | .list items => do return .list (← items.mapM value)
    | .part target part => do liftExcept (readPart (← value target) part)
    | .unary operator operand => do liftExcept (applyUnary operator (← value operand))
    | .binary operator left right => do
      let first ← value left
      let second ← value right
      liftExcept (applyBinary operator first second)
    | .chain first following => do return .bool (← linksBy value (← value first) following)
    | .both left right => do
      let first ← value left
      if first.isTrue then value right else return first
    | .either left right => do
      let first ← value left
      if first.isTrue then return first else value right

theorem liftExcept_bind {α β : Type} (first : Except EvalError α)
    (second : α → Except EvalError β) :
    (liftExcept (first >>= second) : ExceptT EvalError Option β) =
      liftExcept first >>= fun value => liftExcept (second value) := by
  cases first <;> rfl

variable {value : Expression → ExceptT EvalError Option Value}

theorem mapM_eq_evaluateAll {trees : List Expression}
    (valued : ∀ tree ∈ trees, value tree = liftExcept (evaluate subject tree)) :
    trees.mapM value = liftExcept (evaluateAll subject trees) := by
  induction trees with
  | nil => rfl
  | cons tree rest ih =>
      obtain ⟨first, others⟩ := List.forall_mem_cons.1 valued
      rw [List.mapM_cons, evaluateAll, first, ih others, liftExcept_bind]
      refine bind_congr fun head => ?_
      rw [liftExcept_bind]
      rfl

theorem linksBy_eq_evaluateLinks {following : List (Comparison × Expression)} (left : Value)
    (valued : ∀ tree ∈ following.map Prod.snd, value tree = liftExcept (evaluate subject tree)) :
    linksBy value left following = liftExcept (evaluateLinks subject left following) := by
  induction following generalizing left with
  | nil => rfl
  | cons link rest ih =>
      obtain ⟨comparison, operand⟩ := link
      obtain ⟨first, others⟩ := List.forall_mem_cons.1 valued
      rw [linksBy, evaluateLinks, first, liftExcept_bind]
      refine bind_congr fun right => ?_
      rw [liftExcept_bind]
      refine bind_congr fun holds => ?_
      cases holds with
      | true => exact ih right others
      | false => rfl

/-- Calls stand in one another no deeper than a tree is high. -/
theorem evaluateWithin_eq {calls : Nat} (enough : tree.height ≤ calls) :
    evaluateWithin subject calls tree = liftExcept (evaluate subject tree) := by
  induction calls generalizing tree with
  | zero =>
      have positive := tree.height_pos
      omega
  | succ calls ih =>
      -- What stands below the tree is lower, so the calls that are left are enough for it.
      have valued := fun child inside => @ih child (Expression.height_le_succ.1 enough child inside)
      cases tree with
      | literal | read => rfl
      | datetime arguments =>
          have values : arguments.mapM (evaluateWithin subject calls) = _ :=
            mapM_eq_evaluateAll valued
          rw [evaluateWithin, evaluate, values, liftExcept_bind]
      | list items =>
          have values : items.mapM (evaluateWithin subject calls) = _ := mapM_eq_evaluateAll valued
          rw [evaluateWithin, evaluate, values, liftExcept_bind]
          rfl
      | part target part =>
          rw [evaluateWithin, evaluate, valued target (List.mem_singleton_self _), liftExcept_bind]
      | unary operator operand =>
          rw [evaluateWithin, evaluate, valued operand (List.mem_singleton_self _), liftExcept_bind]
      | binary operator left right =>
          rw [evaluateWithin, evaluate, valued left List.mem_cons_self, liftExcept_bind]
          refine bind_congr fun first => ?_
          rw [valued right (List.mem_cons_of_mem _ (List.mem_singleton_self _)), liftExcept_bind]
      | chain first following =>
          rw [evaluateWithin, evaluate, valued first List.mem_cons_self, liftExcept_bind]
          refine bind_congr fun left => ?_
          have links : linksBy (evaluateWithin subject calls) left following = _ :=
            linksBy_eq_evaluateLinks left fun operand linked =>
              valued operand (List.mem_cons_of_mem _ linked)
          rw [links, liftExcept_bind]
          rfl
      | both left right =>
          rw [evaluateWithin, evaluate, valued left List.mem_cons_self, liftExcept_bind]
          refine bind_congr fun first => ?_
          rw [valued right (List.mem_cons_of_mem _ (List.mem_singleton_self _))]
          split <;> rfl
      | either left right =>
          rw [evaluateWithin, evaluate, valued left List.mem_cons_self, liftExcept_bind]
          refine bind_congr fun first => ?_
          rw [valued right (List.mem_cons_of_mem _ (List.mem_singleton_self _))]
          split <;> rfl

end Evaluation

section Alternatives

/-- The words of `True` with some more alternatives behind it. -/
def alternativeWords : Nat → List Keyword
  | 0 => [.true]
  | count + 1 => alternativeWords count ++ [.or, .true]

/-- The tree of `True` with some more alternatives behind it. -/
def alternatives : Nat → Expression
  | 0 => .literal (.bool true)
  | count + 1 => .either (alternatives count) (.literal (.bool true))

/-- The text of `True` with some more alternatives behind it. -/
def alternativeText (count : Nat) : String :=
  " ".intercalate ((alternativeWords count).map Keyword.word)

theorem derives_alternatives (count : Nat) {tokens : List Token}
    (spelled : tokens.map Token.lexeme = (alternativeWords count).map Lexeme.keyword) :
    Derives kind depth (.at .disjunction (alternatives count)) tokens := by
  have single (offset : Nat) (level : Level) :
      Derives kind depth (.at level (.literal (.bool true))) [⟨.keyword .true, offset⟩] :=
    (Derives.literal .true).of_atom level
  induction count generalizing tokens with
  | zero =>
      obtain ⟨⟨lexeme, offset⟩, rfl, rfl⟩ := List.map_eq_singleton_iff.1 spelled
      exact single offset .disjunction
  | succ count ih =>
      rw [alternativeWords, List.map_append] at spelled
      obtain ⟨first, second, rfl, spelledFirst, spelledSecond⟩ := List.map_eq_append_iff.1 spelled
      obtain ⟨⟨operator, place⟩, rest, rfl, rfl, spelledRest⟩ := List.map_eq_cons_iff.1 spelledSecond
      obtain ⟨⟨lexeme, offset⟩, rfl, rfl⟩ := List.map_eq_singleton_iff.1 spelledRest
      exact .join .either (ih spelledFirst) (single offset .conjunction)

theorem parse_alternatives (kind : ItemKind) (count : Nat) :
    Expression.parse (alternativeText count) kind = .ok (alternatives count) := by
  have printed : List.Forall₂ Lexeme.Printed ((alternativeWords count).map Lexeme.keyword)
      ((alternativeWords count).map Keyword.word) := by
    rw [List.forall₂_map_left_iff, List.forall₂_map_right_iff]
    exact List.forall₂_same.2 fun keyword _ => .keyword keyword
  obtain ⟨tokens, split, same⟩ := tokensFrom_printed printed 0
  obtain ⟨words, ends, rfl, spelled, last⟩ := List.map_eq_append_iff.1 same
  obtain ⟨⟨lexeme, offset⟩, rfl, rfl⟩ := List.map_eq_singleton_iff.1 last
  exact parse_eq_ok.2 ⟨words, offset, Result.mapError_eq_ok.2 split, derives_alternatives count spelled⟩

theorem height_alternatives (count : Nat) : (alternatives count).height = count + 1 := by
  induction count with
  | zero => rfl
  | succ count ih => simp [alternatives, Expression.height, ih]

/-- The evaluator goes down all the alternatives before it has the value of the first. -/
theorem evaluateWithin_alternatives (subject : Subject) (calls : Nat) :
    (evaluateWithin subject calls (alternatives calls)).run = none := by
  induction calls with
  | zero => rfl
  | succ calls ih =>
      change (evaluateWithin subject calls (alternatives calls)).run.bind _ = none
      rw [ih]
      rfl

theorem chainsWithin_alternatives {count : Nat} (short : count ≤ length) :
    (alternatives count).ChainsWithin length := by
  have spine (count : Nat) (level : Level) : (alternatives count).spine level ≤ count := by
    induction count with
    | zero => exact Nat.le_refl 0
    | succ count ih =>
        unfold alternatives Expression.spine
        split <;> omega
  induction count with
  | zero => exact .intro (fun level => (spine 0 level).trans short) nofun
  | succ count ih =>
      refine .intro (fun level => (spine _ level).trans short) fun child inside => ?_
      rcases List.mem_pair.1 inside with rfl | rfl
      · exact ih (Nat.le_of_succ_le short)
      · exact .intro (fun _ => Nat.zero_le _) nofun

end Alternatives

/-- No height bounds all filters, and no depth of calls all their evaluations: alternatives in a row
are read without a step into the nesting, and each of them puts one more expression on top. -/
theorem height_unbounded :
    (¬∃ bound, ∀ source kind tree, Expression.parse source kind = .ok tree →
      tree.height ≤ bound) ∧
    ¬∃ calls, ∀ source kind tree, Expression.parse source kind = .ok tree →
      ∀ subject, (evaluateWithin subject calls tree).run ≠ none := by
  constructor
  · rintro ⟨bound, bounded⟩
    have height := bounded _ .post _ (parse_alternatives .post bound)
    rw [height_alternatives] at height
    omega
  · rintro ⟨calls, ends⟩
    exact ends _ .post _ (parse_alternatives .post calls) ⟨.post, fun _ => none⟩
      (evaluateWithin_alternatives _ calls)

/-- The height of a filter is bounded by the nesting limit and its longest chain of operators of one
level or of members, however long its text is. Calls of the evaluator stand in one another no deeper
than that: with as many it comes to what it comes to without a limit. -/
theorem height_le_of_chains {source : String} (accepted : Expression.parse source kind = .ok tree)
    (chains : tree.ChainsWithin length) :
    tree.height ≤ nestingLimit * (5 * length + 2) ∧
      ∀ subject calls, nestingLimit * (5 * length + 2) ≤ calls →
        (evaluateWithin subject calls tree).run = some (evaluate subject tree) := by
  obtain ⟨words, last, -, derives⟩ := parse_eq_ok.1 accepted
  have height : tree.height ≤ nestingLimit * (5 * length + 2) :=
    Phrase.Low.expression derives.low (Nat.succ_pos _) chains
  refine ⟨height, fun subject calls enough => ?_⟩
  rw [evaluateWithin_eq (height.trans enough)]
  cases evaluate subject tree <;> rfl

/-- Two more alternatives are a chain of two. -/
theorem height_le_of_two_alternatives :
    Expression.parse "True or True or True" .post = .ok (alternatives 2) ∧
      (alternatives 2).ChainsWithin 2 ∧ (alternatives 2).height ≤ 768 ∧
      (evaluateWithin ⟨.post, fun _ => none⟩ 768 (alternatives 2)).run = some (.ok (.bool true)) := by
  have accepted := parse_alternatives .post 2
  have chains := chainsWithin_alternatives (Nat.le_refl 2)
  obtain ⟨height, evaluates⟩ := height_le_of_chains accepted chains
  exact ⟨accepted, chains, height, evaluates _ 768 (Nat.le_refl _)⟩

end Harvest.Filter
