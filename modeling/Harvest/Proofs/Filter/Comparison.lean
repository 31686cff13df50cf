import Harvest.Proofs.Calendar.Order
import Harvest.Proofs.Filter.Arithmetic

/-!
Comparisons of values without floating numbers. Values are equal when they are the same once truth
values are counted as integers, so equality is an equivalence. Two numbers, two texts or two moments
compare, by an order whose equals are the equal ones, and nothing else does.
-/

namespace Harvest.Filter

namespace Value

/-- Neither a value nor anything in it is a floating number. -/
inductive FloatFree : Value → Prop where
  | none : FloatFree .none
  | bool (flag : Bool) : FloatFree (.bool flag)
  | int (number : Int64) : FloatFree (.int number)
  | text (contents : String) : FloatFree (.text contents)
  | moment (stamp : DateTime) : FloatFree (.moment stamp)
  | list {items : List Value} (each : ∀ item ∈ items, item.FloatFree) : FloatFree (.list items)

mutual

/-- A value with its truth values as integers. -/
def counted : Value → Value
  | .bool flag => .int (if flag then 1 else 0)
  | .list items => .list (countedItems items)
  | value => value

/-- Items with their truth values as integers. -/
def countedItems : List Value → List Value
  | [] => []
  | item :: rest => item.counted :: countedItems rest

end

/-! ## Equality -/

section Equality

theorem equalItems_iff_forall₂ {items others : List Value} :
    equalItems items others = true ↔
      List.Forall₂ (fun item other => item.equal other = true) items others := by
  induction items generalizing others with
  | nil => cases others <;> simp [equalItems]
  | cons item rest ih => cases others <;> simp [equalItems, ih]

/-- Lists are equal as their items are. -/
theorem equalItems_iff_counted {items others : List Value}
    (each : ∀ item ∈ items, ∀ other : Value, other.FloatFree →
      (item.equal other = true ↔ item.counted = other.counted))
    (free : ∀ other ∈ others, other.FloatFree) :
    equalItems items others = true ↔ countedItems items = countedItems others := by
  induction items generalizing others with
  | nil => cases others <;> simp [equalItems, countedItems]
  | cons item rest ih =>
      cases others with
      | nil => simp [equalItems, countedItems]
      | cons other others =>
          obtain ⟨here, later⟩ := List.forall_mem_cons.1 each
          obtain ⟨freeHere, freeLater⟩ := List.forall_mem_cons.1 free
          simp [equalItems, countedItems, here other freeHere, ih later freeLater]

/-- Values are equal when they are the same with truth values counted as integers. -/
theorem equal_iff_counted {left right : Value} (leftFree : left.FloatFree)
    (rightFree : right.FloatFree) : left.equal right = true ↔ left.counted = right.counted := by
  induction leftFree generalizing right with
  | none => cases rightFree <;> simp [equal, counted, asInt?, asFloat?]
  | bool flag => cases rightFree <;> simp [equal, counted, asInt?, asFloat?]
  | int number => cases rightFree <;> simp [equal, counted, asInt?, asFloat?]
  | text contents => cases rightFree <;> simp [equal, counted, asInt?, asFloat?]
  | moment stamp => cases rightFree <;> simp [equal, counted, asInt?, asFloat?]
  | list each ih =>
      cases rightFree with
      | list free =>
          simpa [equal, counted] using
            equalItems_iff_counted (fun item inside other => ih item inside) free
      | _ => simp [equal, counted, asInt?, asFloat?]

end Equality

/-! ## Order -/

theorem countsAs_iff {value : Value} {number : Int64} :
    value.CountsAs number ↔ value.asInt? = some number := by
  constructor
  · intro counts
    exact counts.asInt?_eq
  · intro found
    cases value with
    | bool flag => cases flag <;> cases found <;> constructor
    | int contents => cases found; exact .int number
    | _ => cases found

/-- Two numbers, two texts, or two moments, and how they are ordered. -/
inductive Compares : Value → Value → Ordering → Prop where
  | numbers {first second : Value} {left right : Int64} (firstCounts : first.CountsAs left)
      (secondCounts : second.CountsAs right) :
      Compares first second (compare left.toInt right.toInt)
  | texts (first second : String) : Compares (.text first) (.text second) (compare first second)
  | moments (first second : DateTime) :
      Compares (.moment first) (.moment second) (first.compare second)

/-- Two numbers, two texts, or two moments. -/
def Comparable (first second : Value) : Prop :=
  ∃ ordering, first.Compares second ordering

section Order

variable {first second third : Value} {ordering : Ordering}

theorem Compares.compare?_eq (compares : first.Compares second ordering) :
    first.compare? second = some ordering := by
  cases compares with
  | numbers firstCounts secondCounts => cases firstCounts <;> cases secondCounts <;> rfl
  | texts => rfl
  | moments => rfl

/-- Without floating numbers nothing else has an order. -/
theorem compare?_eq_some (firstFree : first.FloatFree) (secondFree : second.FloatFree) :
    first.compare? second = some ordering ↔ first.Compares second ordering := by
  constructor
  · intro compared
    have numbers {left right : Int64} (firstCounts : first.asInt? = some left)
        (secondCounts : second.asInt? = some right)
        (same : compare left.toInt right.toInt = ordering) : first.Compares second ordering := by
      subst same
      exact .numbers (countsAs_iff.2 firstCounts) (countsAs_iff.2 secondCounts)
    cases firstFree <;> cases secondFree <;> try contradiction
    case text.text first second => cases compared; exact .texts first second
    case moment.moment first second => cases compared; exact .moments first second
    all_goals exact numbers rfl rfl (Option.some.inj compared)
  · exact Compares.compare?_eq

theorem Compares.swap (compares : first.Compares second ordering) :
    second.Compares first ordering.swap := by
  cases compares with
  | numbers firstCounts secondCounts =>
      rw [← Std.OrientedCmp.eq_swap]
      exact .numbers secondCounts firstCounts
  | texts first second =>
      rw [← Std.OrientedCmp.eq_swap]
      exact .texts second first
  | moments first second =>
      rw [← Std.OrientedCmp.eq_swap]
      exact .moments second first

/-- The equals of the order are the equal values. -/
theorem Compares.equal_iff (compares : first.Compares second ordering) :
    first.equal second = true ↔ ordering = .eq := by
  cases compares with
  | numbers firstCounts secondCounts =>
      rw [Std.LawfulEqCmp.compare_eq_iff_eq, Int64.toInt_inj]
      cases firstCounts <;> cases secondCounts <;> simp [equal, asInt?]
  | texts first second => simp [equal]
  | moments first second => simp [equal, Std.LawfulEqCmp.compare_eq_iff_eq]

theorem CountsAs.unique {left right : Int64} (counts : first.CountsAs left)
    (alsoCounts : first.CountsAs right) : left = right :=
  Option.some.inj (counts.asInt?_eq.symm.trans alsoCounts.asInt?_eq)

/-- What is less than a lesser value is less. -/
theorem Compares.trans {here there : Ordering} (earlier : first.Compares second here)
    (later : second.Compares third there) (less : here = .lt) (lesser : there = .lt) :
    first.Compares third .lt := by
  cases earlier with
  | numbers firstCounts secondCounts =>
      cases later with
      | numbers alsoSecond thirdCounts =>
          rw [← alsoSecond.unique secondCounts] at less
          rw [← Std.TransCmp.lt_trans less lesser]
          exact .numbers firstCounts thirdCounts
      | _ => cases secondCounts
  | texts first second =>
      cases later with
      | numbers secondCounts => cases secondCounts
      | texts _ third =>
          rw [← Std.TransCmp.lt_trans less lesser]
          exact .texts first third
  | moments first second =>
      cases later with
      | numbers secondCounts => cases secondCounts
      | moments _ third =>
          rw [← Std.TransCmp.lt_trans less lesser]
          exact .moments first third

end Order

end Value

/-! ## Laws -/

/-- A comparison asks for the order of its operands. -/
inductive Comparison.Orders : Comparison → Prop where
  | less : Orders .less
  | lessEqual : Orders .lessEqual
  | greater : Orders .greater
  | greaterEqual : Orders .greaterEqual

/-- A comparison succeeds, and is true. -/
def Holds (comparison : Comparison) (left right : Value) : Prop :=
  applyComparison comparison left right = .ok true

/-- What equality is among three values. -/
structure EqualityLaws (first second third : Value) : Prop where
  decides : ∃ same, applyComparison .equal first second = .ok same
  reflexive : Holds .equal first first
  symmetric : Holds .equal first second → Holds .equal second first
  transitive : Holds .equal first second → Holds .equal second third → Holds .equal first third
  numbers : ∀ left right, first.CountsAs left → second.CountsAs right →
    (Holds .equal first second ↔ left = right)
  lists : ∀ items others, first = .list items → second = .list others →
    (Holds .equal first second ↔ List.Forall₂ (Holds .equal) items others)
  opposite : ∀ same, applyComparison .equal first second = .ok same ↔
    applyComparison .notEqual first second = .ok !same

/-- What the orders are among three values. -/
structure OrderLaws (first second third : Value) : Prop where
  succeeds : first.Comparable second → ∀ comparison : Comparison, comparison.Orders →
    ∃ holds, applyComparison comparison first second = .ok holds
  faults : ¬first.Comparable second → ∀ comparison : Comparison, comparison.Orders →
    applyComparison comparison first second =
      .error (.typeMismatch comparison.spelling first.typeName second.typeName)
  numbers : ∀ left right, first.CountsAs left → second.CountsAs right →
    (Holds .less first second ↔ left.toInt < right.toInt)
  trichotomy : first.Comparable second →
    Holds .less first second ∧ ¬Holds .equal first second ∧ ¬Holds .greater first second ∨
    ¬Holds .less first second ∧ Holds .equal first second ∧ ¬Holds .greater first second ∨
    ¬Holds .less first second ∧ ¬Holds .equal first second ∧ Holds .greater first second
  lessEqual : first.Comparable second →
    (Holds .lessEqual first second ↔ Holds .less first second ∨ Holds .equal first second)
  greaterEqual : first.Comparable second →
    (Holds .greaterEqual first second ↔ Holds .greater first second ∨ Holds .equal first second)
  swapped : ∀ holds, applyComparison .less first second = .ok holds ↔
    applyComparison .greater second first = .ok holds
  swappedEqual : ∀ holds, applyComparison .lessEqual first second = .ok holds ↔
    applyComparison .greaterEqual second first = .ok holds
  transitive : Holds .less first second → Holds .less second third → Holds .less first third

/-- What membership of a value in another is. -/
structure MembershipLaws (element container : Value) : Prop where
  opposite : ∀ found, applyComparison .within element container = .ok found ↔
    applyComparison .notWithin element container = .ok !found
  decides : ∀ items, container = .list items →
    ∃ found, applyComparison .within element container = .ok found
  lists : ∀ items, container = .list items →
    (Holds .within element container ↔ ∃ item ∈ items, Holds .equal item element)

section Laws

variable {first second third : Value} {comparison : Comparison} {ordering : Ordering}

theorem holds_equal : Holds .equal first second ↔ first.equal second = true := by
  simp [Holds, applyComparison]

theorem holds_equal_iff_counted (firstFree : first.FloatFree) (secondFree : second.FloatFree) :
    Holds .equal first second ↔ first.counted = second.counted :=
  holds_equal.trans (Value.equal_iff_counted firstFree secondFree)

theorem equalityLaws (firstFree : first.FloatFree) (secondFree : second.FloatFree)
    (thirdFree : third.FloatFree) : EqualityLaws first second third where
  decides := ⟨first.equal second, rfl⟩
  reflexive := (holds_equal_iff_counted firstFree firstFree).2 rfl
  symmetric := by
    rw [holds_equal_iff_counted firstFree secondFree, holds_equal_iff_counted secondFree firstFree]
    exact Eq.symm
  transitive := by
    rw [holds_equal_iff_counted firstFree secondFree, holds_equal_iff_counted secondFree thirdFree,
      holds_equal_iff_counted firstFree thirdFree]
    exact Eq.trans
  numbers left right firstCounts secondCounts := by
    rw [holds_equal, (Value.Compares.numbers firstCounts secondCounts).equal_iff,
      Std.LawfulEqCmp.compare_eq_iff_eq, Int64.toInt_inj]
  lists items others := by
    rintro rfl rfl
    rw [holds_equal, Value.equal, Value.equalItems_iff_forall₂]
    exact ⟨.imp fun _ _ => holds_equal.2, .imp fun _ _ => holds_equal.1⟩
  opposite same := by
    cases found : first.equal second <;> cases same <;> simp [applyComparison, found]

theorem applyComparison_of_compares (orders : comparison.Orders)
    (compares : first.Compares second ordering) :
    applyComparison comparison first second = .ok (comparison.admits ordering) := by
  cases orders <;> simp [applyComparison, compares.compare?_eq]

theorem applyComparison_of_not_comparable (orders : comparison.Orders)
    (firstFree : first.FloatFree) (secondFree : second.FloatFree)
    (apart : ¬first.Comparable second) :
    applyComparison comparison first second =
      .error (.typeMismatch comparison.spelling first.typeName second.typeName) := by
  have unordered : first.compare? second = none := by
    rw [Option.eq_none_iff_forall_ne_some]
    intro ordering found
    exact apart ⟨ordering, (Value.compare?_eq_some firstFree secondFree).1 found⟩
  cases orders <;> simp [applyComparison, unordered]

theorem holds_iff_admits (orders : comparison.Orders) (compares : first.Compares second ordering) :
    Holds comparison first second ↔ comparison.admits ordering = true := by
  rw [Holds, applyComparison_of_compares orders compares, Except.ok.injEq]

/-- An order that succeeds has comparable operands. -/
theorem comparable_of_ok (firstFree : first.FloatFree) (secondFree : second.FloatFree)
    {holds : Bool} (orders : comparison.Orders)
    (compared : applyComparison comparison first second = .ok holds) :
    first.Comparable second := by
  by_contra apart
  rw [applyComparison_of_not_comparable orders firstFree secondFree apart] at compared
  contradiction

/-- An order asks of two values what its mirror image asks of them the other way round. -/
theorem applyComparison_swap {mirror : Comparison} (firstFree : first.FloatFree)
    (secondFree : second.FloatFree) (orders : comparison.Orders) (mirrors : mirror.Orders)
    (same : ∀ ordering, mirror.admits ordering.swap = comparison.admits ordering) (holds : Bool) :
    applyComparison comparison first second = .ok holds ↔
      applyComparison mirror second first = .ok holds := by
  by_cases comparable : first.Comparable second
  · obtain ⟨ordering, compares⟩ := comparable
    rw [applyComparison_of_compares orders compares,
      applyComparison_of_compares mirrors compares.swap, same]
  · have apart : ¬second.Comparable first :=
      fun ⟨ordering, compares⟩ => comparable ⟨ordering.swap, compares.swap⟩
    rw [applyComparison_of_not_comparable orders firstFree secondFree comparable,
      applyComparison_of_not_comparable mirrors secondFree firstFree apart]
    simp

theorem holds_less_iff (firstFree : first.FloatFree) (secondFree : second.FloatFree) :
    Holds .less first second ↔ first.Compares second .lt := by
  constructor
  · intro holds
    obtain ⟨ordering, compares⟩ := comparable_of_ok firstFree secondFree .less holds
    rw [holds_iff_admits .less compares] at holds
    rwa [Ordering.isLT_iff_eq_lt.1 holds] at compares
  · intro compares
    exact (holds_iff_admits .less compares).2 rfl

theorem orderLaws (firstFree : first.FloatFree) (secondFree : second.FloatFree)
    (thirdFree : third.FloatFree) : OrderLaws first second third where
  succeeds := by
    rintro ⟨ordering, compares⟩ comparison orders
    exact ⟨_, applyComparison_of_compares orders compares⟩
  faults apart comparison orders :=
    applyComparison_of_not_comparable orders firstFree secondFree apart
  numbers left right firstCounts secondCounts := by
    rw [holds_iff_admits .less (.numbers firstCounts secondCounts), Comparison.admits,
      Ordering.isLT_iff_eq_lt, compare_lt_iff_lt]
  trichotomy := by
    rintro ⟨ordering, compares⟩
    rw [holds_iff_admits .less compares, holds_iff_admits .greater compares, holds_equal,
      compares.equal_iff]
    cases ordering <;> decide
  lessEqual := by
    rintro ⟨ordering, compares⟩
    rw [holds_iff_admits .lessEqual compares, holds_iff_admits .less compares, holds_equal,
      compares.equal_iff]
    cases ordering <;> decide
  greaterEqual := by
    rintro ⟨ordering, compares⟩
    rw [holds_iff_admits .greaterEqual compares, holds_iff_admits .greater compares, holds_equal,
      compares.equal_iff]
    cases ordering <;> decide
  swapped := applyComparison_swap firstFree secondFree .less .greater (by decide)
  swappedEqual := applyComparison_swap firstFree secondFree .lessEqual .greaterEqual (by decide)
  transitive := by
    rw [holds_less_iff firstFree secondFree, holds_less_iff secondFree thirdFree,
      holds_less_iff firstFree thirdFree]
    intro earlier later
    exact earlier.trans later rfl rfl

theorem membershipLaws (element container : Value) : MembershipLaws element container where
  opposite found := by
    unfold applyComparison
    cases container.holds? element with
    | none => simp
    | some holds => cases holds <;> cases found <;> simp
  decides := by
    rintro items rfl
    exact ⟨_, rfl⟩
  lists := by
    rintro items rfl
    simp only [holds_equal]
    simp [Holds, applyComparison, Value.holds?]

end Laws

/-- Comparisons are coherent among values without floating numbers. -/
theorem comparisons_are_coherent {first second third : Value} (firstFree : first.FloatFree)
    (secondFree : second.FloatFree) (thirdFree : third.FloatFree) :
    EqualityLaws first second third ∧ OrderLaws first second third ∧
      MembershipLaws first second :=
  ⟨equalityLaws firstFree secondFree thirdFree, orderLaws firstFree secondFree thirdFree,
    membershipLaws first second⟩

/-- Falsity, one and two are in order. -/
theorem comparisons_are_coherent_numbers :
    Value.FloatFree (.bool false) ∧ Value.FloatFree (.int 1) ∧ Value.FloatFree (.int 2) ∧
      Holds .less (.bool false) (.int 1) ∧ Holds .less (.int 1) (.int 2) ∧
      EqualityLaws (.bool false) (.int 1) (.int 2) ∧ OrderLaws (.bool false) (.int 1) (.int 2) ∧
      MembershipLaws (.bool false) (.int 1) :=
  ⟨.bool false, .int 1, .int 2, rfl, rfl,
    comparisons_are_coherent (.bool false) (.int 1) (.int 2)⟩

/-- Truth is one at any depth. -/
example : Holds .within (.list [.bool true]) (.list [.none, .list [.int 1]]) := rfl

end Harvest.Filter
