import Harvest.Proofs.Filter.Resolution

/-!
What the nesting budget pays for. Along every path through a tree each prefix operator and each
call takes one step of the budget and each list takes two, and a phrase has no more steps left
than its depth leaves it. Parentheses take steps too, but leave nothing in the tree.
-/

namespace Harvest.Filter

namespace Expression

/-- The expressions directly below an expression. -/
def children : Expression → List Expression
  | .literal _ | .read _ => []
  | .datetime arguments => arguments
  | .list items => items
  | .part target _ => [target]
  | .unary _ operand => [operand]
  | .binary _ left right | .both left right | .either left right => [left, right]
  | .chain first following => first :: following.map Prod.snd

/-- The expressions on a way from a tree down to one of its leaves. -/
inductive Path : Expression → List Expression → Prop where
  | leaf {tree : Expression} : tree.children = [] → Path tree [tree]
  | step {tree child : Expression} {path : List Expression} :
      child ∈ tree.children → Path child path → Path tree (tree :: path)

/-- Whether an expression is an operator before its operand. -/
def isPrefixed : Expression → Bool
  | .unary _ _ => true
  | _ => false

/-- Whether an expression is a call. -/
def isCall : Expression → Bool
  | .datetime _ => true
  | _ => false

/-- Whether an expression is a list. -/
def isList : Expression → Bool
  | .list _ => true
  | _ => false

/-- The steps into the nesting along a path: one for a prefix operator, one for a call that has an
argument on the path, two for a list that has an item on the path. -/
def nesting (path : List Expression) : Nat :=
  path.countP isPrefixed + path.dropLast.countP isCall + 2 * path.dropLast.countP isList

/-- A tree at a depth whose paths all stay in the budget. -/
def Within (depth : Nat) (tree : Expression) : Prop :=
  ∀ path, tree.Path path → depth + nesting path ≤ nestingLimit

/-- The steps from an expression to what is directly below it. -/
def entry : Expression → Nat
  | .unary _ _ | .datetime _ => 1
  | .list _ => 2
  | _ => 0

variable {tree : Expression} {path : List Expression} {depth : Nat}

theorem Path.ne_nil (leads : tree.Path path) : path ≠ [] := by
  cases leads <;> exact List.cons_ne_nil _ _

/-- A leaf is no step, because every prefix operator has its operand. -/
theorem nesting_leaf (leaf : tree.children = []) : nesting [tree] = 0 := by
  cases tree <;> first | rfl | contradiction

theorem nesting_cons (nonempty : path ≠ []) :
    nesting (tree :: path) = tree.entry + nesting path := by
  unfold nesting
  rw [List.dropLast_cons_of_ne_nil nonempty]
  cases tree <;> simp +arith [List.countP_cons, isPrefixed, isCall, isList, entry]

/-- What is below an expression has the steps left that the expression does not take. -/
theorem within_of_children (within : depth ≤ nestingLimit)
    (below : ∀ child ∈ tree.children, child.Within (depth + tree.entry)) : tree.Within depth := by
  intro path leads
  cases leads with
  | leaf leaf => rwa [nesting_leaf leaf]
  | step inside leads =>
      have steps := below _ inside _ leads
      rw [nesting_cons leads.ne_nil]
      omega

/-- A leaf needs no step. -/
theorem within_of_leaf (leaf : tree.children = []) (within : depth ≤ nestingLimit) :
    tree.Within depth :=
  within_of_children within fun child inside => by simp [leaf] at inside

end Expression

/-- The trees of a phrase. -/
def Phrase.trees : Phrase → List Expression
  | .at _ tree => [tree]
  | .links following => following.map Prod.snd
  | .items trees => trees
  | .arguments given => given.map Argument.value

/-- The depth of the trees of a phrase. Items and arguments are expressions of their own. -/
def Phrase.treeDepth (depth : Nat) : Phrase → Nat
  | .at _ _ | .links _ => depth
  | .items _ | .arguments _ => depth + 1

variable {kind : ItemKind} {depth : Nat}

/-- The trees of a phrase go no deeper than the budget. -/
def Phrase.Affords (depth : Nat) (phrase : Phrase) : Prop :=
  ∀ tree ∈ phrase.trees, tree.Within (phrase.treeDepth depth)

theorem affords_at {level : Level} {tree : Expression} :
    (Phrase.at level tree).Affords depth ↔ tree.Within depth := by
  simp [Phrase.Affords, Phrase.trees, Phrase.treeDepth]

/-- Values of arguments and zeros are no deeper than the arguments. -/
theorem Argument.Fills.affords {arguments : List Argument} {slots : List Expression}
    (fills : Argument.Fills arguments slots) (within : depth < nestingLimit)
    (affords : (Phrase.arguments arguments).Affords depth) :
    ∀ slot ∈ slots, slot.Within (depth + 1) := by
  intro slot inside
  rcases fills.zero_or_given inside with rfl | given
  · exact Expression.within_of_leaf rfl within
  · exact affords slot given

theorem Derives.arguments_within {given : List Argument} {tokens : List Token}
    (derives : Derives kind depth (.arguments given) tokens) : depth < nestingLimit := by
  cases derives <;> assumption

theorem Joins.children {level : Level} {operator : Lexeme}
    {combine : Expression → Expression → Expression} (joins : Joins level operator combine)
    (left right : Expression) :
    (combine left right).children = [left, right] ∧ (combine left right).entry = 0 := by
  cases joins <;> exact ⟨rfl, rfl⟩

/-- What is derived at a depth goes no deeper than the budget. -/
theorem Derives.affords {phrase : Phrase} {tokens : List Token}
    (derives : Derives kind depth phrase tokens) (within : depth ≤ nestingLimit) :
    phrase.Affords depth := by
  induction derives with
  | loosen _ ih => exact ih within
  | @join _ _ _ _ left right _ _ _ joins _ _ first second =>
      obtain ⟨children, entry⟩ := joins.children left right
      refine affords_at.2 (Expression.within_of_children within fun child inside => ?_)
      rw [entry, Nat.add_zero]
      rw [children] at inside
      rcases List.mem_pair.1 inside with rfl | rfl
      · exact affords_at.1 (first within)
      · exact affords_at.1 (second within)
  | negate deeper _ ih | sign _ deeper _ ih =>
      refine affords_at.2 (Expression.within_of_children within fun child inside => ?_)
      rw [List.mem_singleton.1 inside]
      exact affords_at.1 (ih deeper)
  | chain _ _ first second =>
      refine affords_at.2 (Expression.within_of_children within fun child inside => ?_)
      rcases List.mem_cons.1 inside with rfl | linked
      · exact affords_at.1 (first within)
      · exact second within child linked
  | lastLink _ _ ih => exact fun tree inside => ih within tree inside
  | lastItem deeper _ ih | lastArgument _ deeper _ ih =>
      exact fun tree inside => ih deeper tree inside
  | link _ _ _ first second =>
      intro tree inside
      rcases List.mem_cons.1 inside with rfl | later
      · exact affords_at.1 (first within)
      · exact second within tree later
  | part _ _ ih =>
      refine affords_at.2 (Expression.within_of_children within fun child inside => ?_)
      rw [List.mem_singleton.1 inside]
      exact affords_at.1 (ih within)
  | literal | read | emptyList =>
      exact affords_at.2 (Expression.within_of_leaf rfl within)
  -- Parentheses leave nothing in the tree, so the deeper bound is more than is needed.
  | group deeper _ ih =>
      refine affords_at.2 fun path leads => ?_
      have steps := affords_at.1 (ih deeper) path leads
      omega
  | list derived _ ih =>
      have deeper := derived.items_within
      exact affords_at.2 (Expression.within_of_children within (ih (by omega)))
  | call derived fills _ ih =>
      exact affords_at.2 (Expression.within_of_children within
        (fills.affords derived.arguments_within (ih within)))
  | item deeper _ _ first second | argument _ deeper _ _ first second =>
      intro tree inside
      rcases List.mem_cons.1 inside with rfl | later
      · exact affords_at.1 (first deeper)
      · exact second within tree later

end Harvest.Filter
