import Harvest.Filter.Evaluation
import Harvest.Proofs.Result

/-!
Chained comparisons. A chain means the conjunction of its links, each a comparison of its own that
starts where the one before it ends, and it does so however the conjunction is bracketed.
-/

namespace Harvest.Filter

open Result (ok_bind)

/-- The links of a chain as single comparisons. -/
def chainLinks (first : Expression) : List (Comparison × Expression) → List Expression
  | [] => []
  | link :: rest => .chain first [link] :: chainLinks link.2 rest

/-- Expressions in a row with the brackets at the right. -/
def conjoinRight (first : Expression) : List Expression → Expression
  | [] => first
  | second :: rest => .both first (conjoinRight second rest)

/-- Expressions in a row with the brackets at the left. -/
def conjoinLeft (first : Expression) (others : List Expression) : Expression :=
  others.foldl .both first

/-- Expressions in a row, bracketed in any way. -/
inductive Conjoins : Expression → List Expression → Prop where
  | single (expression : Expression) : Conjoins expression [expression]
  | both {left right : Expression} {firsts seconds : List Expression}
      (start : Conjoins left firsts) (following : Conjoins right seconds) :
      Conjoins (.both left right) (firsts ++ seconds)

theorem conjoins_right (first : Expression) (others : List Expression) :
    Conjoins (conjoinRight first others) (first :: others) := by
  induction others generalizing first with
  | nil => exact .single first
  | cons second rest ih => exact .both (.single first) (ih second)

theorem conjoins_foldl {start : Expression} {before : List Expression}
    (conjoins : Conjoins start before) (others : List Expression) :
    Conjoins (others.foldl .both start) (before ++ others) := by
  induction others generalizing start before with
  | nil => simpa using conjoins
  | cons second rest ih => simpa using ih (conjoins.both (.single second))

theorem conjoins_left (first : Expression) (others : List Expression) :
    Conjoins (conjoinLeft first others) (first :: others) :=
  conjoins_foldl (.single first) others

section Evaluation

variable (subject : Subject)

/-- An expression comes to a truth value, or to a fault. -/
def Decides (expression : Expression) (outcome : Except EvalError Bool) : Prop :=
  evaluate subject expression = do return .bool (← outcome)

/-- Whether expressions hold one after the other; nothing after a false one is evaluated. -/
def allHold : List Expression → Except EvalError Bool
  | [] => .ok true
  | expression :: rest => do
    if (← evaluate subject expression).isTrue then allHold rest else return false

variable {subject} {left right : Expression} {first second : Except EvalError Bool}

theorem Decides.both (start : Decides subject left first) (following : Decides subject right second) :
    Decides subject (.both left right) (do if ← first then second else return false) := by
  unfold Decides at start following ⊢
  rw [evaluate, start, following]
  cases first with
  | error fault => rfl
  | ok holds => cases holds <;> rfl

/-- A chain decides by its links, from the value of its first operand on. -/
theorem decides_chain (operand : Expression) (links : List (Comparison × Expression)) :
    Decides subject (.chain operand links)
      (do evaluateLinks subject (← evaluate subject operand) links) := by
  unfold Decides
  rw [evaluate]
  cases evaluate subject operand <;> rfl

theorem allHold_append (firsts seconds : List Expression) :
    allHold subject (firsts ++ seconds) =
      (do if ← allHold subject firsts then allHold subject seconds else return false) := by
  induction firsts with
  | nil => rfl
  | cons expression rest ih =>
      rw [List.cons_append, allHold, allHold]
      cases evaluate subject expression with
      | error fault => rfl
      | ok value =>
          rw [ok_bind, ok_bind, ih]
          cases value.isTrue <;> rfl

theorem Decides.allHold_single (decides : Decides subject left first) :
    allHold subject [left] = first := by
  rw [allHold, decides]
  cases first with
  | error fault => rfl
  | ok holds => cases holds <;> rfl

/-- However it is bracketed, a conjunction decides by what it conjoins from left to right. -/
theorem Conjoins.decides {tree : Expression} {leaves : List Expression}
    (conjoins : Conjoins tree leaves)
    (each : ∀ leaf ∈ leaves, ∃ outcome, Decides subject leaf outcome) :
    Decides subject tree (allHold subject leaves) := by
  induction conjoins with
  | single expression =>
      obtain ⟨outcome, decides⟩ := each expression (List.mem_singleton_self expression)
      rw [decides.allHold_single]
      exact decides
  | both _ _ start following =>
      obtain ⟨eachFirst, eachSecond⟩ := List.forall_mem_append.1 each
      rw [allHold_append]
      exact (start eachFirst).both (following eachSecond)

theorem decides_of_mem_chainLinks {operand link : Expression}
    {links : List (Comparison × Expression)} (inside : link ∈ chainLinks operand links) :
    ∃ outcome, Decides subject link outcome := by
  induction links generalizing operand with
  | nil => cases inside
  | cons next rest ih =>
      rcases List.mem_cons.1 inside with rfl | later
      · exact ⟨_, decides_chain operand [next]⟩
      · exact ih later

/-- The links hold as the chain goes on. The induction is on the links, with the value that the
next one compares. -/
theorem allHold_chainLinks {operand : Expression} {value : Value}
    (yields : evaluate subject operand = .ok value) (links : List (Comparison × Expression)) :
    allHold subject (chainLinks operand links) = evaluateLinks subject value links := by
  induction links generalizing operand value with
  | nil => rfl
  | cons link rest ih =>
      obtain ⟨comparison, follower⟩ := link
      rw [chainLinks, allHold, evaluate, yields, ok_bind, evaluateLinks, evaluateLinks]
      cases found : evaluate subject follower with
      | error fault => rfl
      | ok right =>
          rw [ok_bind, ok_bind]
          cases applyComparison comparison value right with
          | error fault => rfl
          | ok holds =>
              cases holds with
              | false => rfl
              | true => exact ih found

/-- A fault of the first operand is a fault of the first link. -/
theorem allHold_chainLinks_cons (operand : Expression) (link : Comparison × Expression)
    (rest : List (Comparison × Expression)) :
    allHold subject (chainLinks operand (link :: rest)) =
      (do evaluateLinks subject (← evaluate subject operand) (link :: rest)) := by
  cases yields : evaluate subject operand with
  | error fault =>
      rw [chainLinks, allHold, evaluate, yields]
      rfl
  | ok value => exact allHold_chainLinks yields (link :: rest)

theorem evaluateLinks_append {value : Value} {links : List (Comparison × Expression)}
    (fails : evaluateLinks subject value links = .ok false)
    (after : List (Comparison × Expression)) :
    evaluateLinks subject value (links ++ after) = .ok false := by
  induction links generalizing value with
  | nil => cases fails
  | cons link rest ih =>
      obtain ⟨comparison, operand⟩ := link
      rw [List.cons_append]
      rw [evaluateLinks] at fails ⊢
      obtain ⟨right, found, fails⟩ := Result.bind_eq_ok.1 fails
      obtain ⟨holds, compared, fails⟩ := Result.bind_eq_ok.1 fails
      rw [found, ok_bind, compared, ok_bind]
      cases holds with
      | false => rfl
      | true => exact ih fails

end Evaluation

/-- What a chain means for an item. -/
structure MeansConjunction (subject : Subject) (first : Expression)
    (link : Comparison × Expression) (rest : List (Comparison × Expression)) : Prop where
  left : evaluate subject (conjoinLeft (.chain first [link]) (chainLinks link.2 rest)) =
    evaluate subject (.chain first (link :: rest))
  right : evaluate subject (conjoinRight (.chain first [link]) (chainLinks link.2 rest)) =
    evaluate subject (.chain first (link :: rest))
  /-- Any other brackets will do as well. -/
  bracketed : ∀ tree, Conjoins tree (chainLinks first (link :: rest)) →
    evaluate subject tree = evaluate subject (.chain first (link :: rest))
  truth : ∀ value, evaluate subject (.chain first (link :: rest)) = .ok value →
    ∃ holds, value = .bool holds
  /-- Behind a false link nothing makes a difference, faults included. -/
  cut : evaluate subject (.chain first (link :: rest)) = .ok (.bool false) →
    ∀ after, evaluate subject (.chain first (link :: rest ++ after)) = .ok (.bool false)

/-- A chained comparison means the conjunction of its links. -/
theorem chain_means_conjunction (subject : Subject) (first : Expression)
    (link : Comparison × Expression) (rest : List (Comparison × Expression)) :
    MeansConjunction subject first link rest := by
  have chain : Decides subject (.chain first (link :: rest)) _ := decides_chain first (link :: rest)
  have bracketed (tree : Expression)
      (conjoins : Conjoins tree (chainLinks first (link :: rest))) :
      evaluate subject tree = evaluate subject (.chain first (link :: rest)) := by
    have whole : Decides subject tree _ :=
      conjoins.decides fun leaf inside => decides_of_mem_chainLinks inside
    rw [allHold_chainLinks_cons] at whole
    exact whole.trans chain.symm
  refine ⟨bracketed _ (conjoins_left _ _), bracketed _ (conjoins_right _ _), bracketed, ?_, ?_⟩
  · intro value yields
    obtain ⟨holds, -, same⟩ := Result.bind_eq_ok.1 (chain.symm.trans yields)
    exact ⟨holds, (Except.ok.inj same).symm⟩
  · intro fails after
    rw [evaluate] at fails ⊢
    obtain ⟨value, yields, fails⟩ := Result.bind_eq_ok.1 fails
    obtain ⟨holds, decided, same⟩ := Result.bind_eq_ok.1 fails
    obtain rfl : holds = false := by cases same; rfl
    rw [yields, ok_bind, evaluateLinks_append decided]
    rfl

end Harvest.Filter
