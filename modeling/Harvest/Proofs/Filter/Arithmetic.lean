import Harvest.Filter.Evaluation
import Harvest.Proofs.Number.Quotient
import Harvest.Proofs.Result

/-!
Integer arithmetic of filters. A sum, a difference, a product, an opposite and a quotient toward the
floor are the exact ones where these fit a word, and overflows where they do not; a remainder belongs
to the quotient beside it.
-/

namespace Harvest.Filter

open Result (ok_bind)

/-- A value counts as an integer: an integer as itself, a truth value as one or zero. -/
inductive Value.CountsAs : Value → Int64 → Prop where
  | int (number : Int64) : CountsAs (.int number) number
  | truth : CountsAs (.bool true) 1
  | falsity : CountsAs (.bool false) 0

/-- An operation comes to an exact result where that fits a word, and overflows where it does not.
-/
structure ComputesExactly (operation : String) (exact : Int) (outcome : Except EvalError Value) :
    Prop where
  value : -2 ^ 63 ≤ exact → exact < 2 ^ 63 →
    ∃ number : Int64, number.toInt = exact ∧ outcome = .ok (.int number)
  overflow : outcome = .error (.overflow operation) ↔ ¬(-2 ^ 63 ≤ exact ∧ exact < 2 ^ 63)

/-- What arithmetic comes to on two operands that count as integers. -/
structure ComputesIntegers (left right : Int64)
    (compute : BinaryOperator → Except EvalError Value) (opposite : Except EvalError Value) :
    Prop where
  sum : ComputesExactly "+" (left.toInt + right.toInt) (compute .add)
  difference : ComputesExactly "-" (left.toInt - right.toInt) (compute .subtract)
  product : ComputesExactly "*" (left.toInt * right.toInt) (compute .multiply)
  opposite : ComputesExactly "-" (-left.toInt) opposite
  byZero : compute .floorDivide = .error .divisionByZero ↔ right = 0
  quotient : right ≠ 0 →
    ComputesExactly "//" ⌊(left.toInt : ℚ) / right.toInt⌋ (compute .floorDivide)
  /-- Behind a division toward zero that succeeds, no step toward the floor fails. -/
  steps : Word.divide? left right ≠ none → ∃ quotient remainder,
    compute .floorDivide = .ok (.int quotient) ∧ compute .modulo = .ok (.int remainder)
  /-- The remainder belongs to the quotient and is on the side of the divisor. -/
  remainder : ∀ quotient, compute .floorDivide = .ok (.int quotient) →
    ∃ remainder : Int64, compute .modulo = .ok (.int remainder) ∧
      left.toInt = quotient.toInt * right.toInt + remainder.toInt ∧
      (remainder = 0 ∨ remainder.toInt.sign = right.toInt.sign) ∧
      |remainder.toInt| < |right.toInt|

/-- The word of a result is exact. -/
theorem computesExactly_ofInt? (operation : String) (exact : Int) :
    ComputesExactly operation exact (intOrOverflow operation (Word.ofInt? exact)) := by
  constructor
  · intro lower upper
    obtain ⟨number, found, same⟩ := Word.exists_ofInt? (Word.fits_iff.2 ⟨lower, upper⟩)
    exact ⟨number, same, by rw [found, intOrOverflow]⟩
  · rw [← Word.fits_iff, ← Word.ofInt?_eq_none]
    cases Word.ofInt? exact <;> simp [intOrOverflow]

section Operands

variable {first second : Value} {left right : Int64}

theorem Value.CountsAs.asInt?_eq (counts : first.CountsAs left) : first.asInt? = some left := by
  cases counts <;> rfl

/-- Operands that count as integers are computed with as integers. -/
theorem applyBinary_of_countsAs (leftCounts : first.CountsAs left)
    (rightCounts : second.CountsAs right) (operator : BinaryOperator) :
    applyBinary operator first second = arithmeticOnInts operator left right := by
  cases leftCounts <;> cases rightCounts <;> cases operator <;> rfl

theorem applyUnary_minus_of_countsAs (counts : first.CountsAs left) :
    applyUnary .minus first = intOrOverflow "-" (Word.negate? left) := by
  cases counts <;> rfl

theorem intOrOverflow_eq_ok {operation : String} {result : Option Int64} {number : Int64} :
    intOrOverflow operation result = .ok (.int number) ↔ result = some number := by
  cases result <;> simp [intOrOverflow]

/-- A division that succeeds has a divisor other than zero. -/
theorem guarded_eq_ok {operation : String} {result : Option Int64} {number : Int64} :
    (if right = 0 then .error .divisionByZero else intOrOverflow operation result) =
      .ok (.int number) ↔ right ≠ 0 ∧ result = some number := by
  by_cases zero : right = 0
  · simp [zero]
  · simp [zero, intOrOverflow_eq_ok]

theorem floorDivide_eq_ok {quotient : Int64} :
    arithmeticOnInts .floorDivide left right = .ok (.int quotient) ↔
      right ≠ 0 ∧ Word.floorDivide? left right = some quotient :=
  guarded_eq_ok

theorem modulo_eq_ok {remainder : Int64} :
    arithmeticOnInts .modulo left right = .ok (.int remainder) ↔
      right ≠ 0 ∧ Word.floorRemainder? left right = some remainder :=
  guarded_eq_ok

theorem floorDivide_eq_divisionByZero :
    arithmeticOnInts .floorDivide left right = .error .divisionByZero ↔ right = 0 := by
  unfold arithmeticOnInts
  by_cases zero : right = 0
  · simp [zero]
  · cases Word.floorDivide? left right <;> simp [zero, intOrOverflow]

/-- A quotient toward the floor comes from a quotient toward zero. -/
theorem divide?_ne_none {quotient : Int64}
    (divides : Word.floorDivide? left right = some quotient) :
    Word.divide? left right ≠ none := by
  intro fails
  rw [Word.floorDivide?, fails] at divides
  contradiction

end Operands

/-- Both divisions toward the floor succeed with the division toward zero. -/
theorem divides_together {left right quotient : Int64}
    (divides : Word.divide? left right = some quotient) :
    ∃ floor remainder : Int64, arithmeticOnInts .floorDivide left right = .ok (.int floor) ∧
      arithmeticOnInts .modulo left right = .ok (.int remainder) ∧
      Word.IsFloorDivision left.toInt right.toInt floor.toInt remainder.toInt := by
  obtain ⟨nonzero, -⟩ := Word.divide?_eq_some.1 divides
  obtain ⟨floor, remainder, floored, rests, division⟩ := Word.floorDivide?_of_divide? divides
  exact ⟨floor, remainder, floorDivide_eq_ok.2 ⟨nonzero, floored⟩,
    modulo_eq_ok.2 ⟨nonzero, rests⟩, division⟩

theorem computesIntegers_arithmeticOnInts (left right : Int64) :
    ComputesIntegers left right (arithmeticOnInts · left right)
      (intOrOverflow "-" (Word.negate? left)) where
  sum := computesExactly_ofInt? _ _
  difference := computesExactly_ofInt? _ _
  product := computesExactly_ofInt? _ _
  opposite := computesExactly_ofInt? _ _
  byZero := floorDivide_eq_divisionByZero
  quotient nonzero := by
    have floored := computesExactly_ofInt? "//" ⌊(left.toInt : ℚ) / right.toInt⌋
    rw [← Word.floorDivide?_eq nonzero] at floored
    simpa [arithmeticOnInts, nonzero, BinaryOperator.spelling] using floored
  steps divides := by
    obtain ⟨quotient, found⟩ := Option.ne_none_iff_exists'.1 divides
    obtain ⟨floor, remainder, floored, rest, -⟩ := divides_together found
    exact ⟨floor, remainder, floored, rest⟩
  remainder quotient computed := by
    obtain ⟨-, floored⟩ := floorDivide_eq_ok.1 computed
    obtain ⟨truncated, found⟩ := Option.ne_none_iff_exists'.1 (divide?_ne_none floored)
    obtain ⟨floor, remainder, again, rest, division⟩ := divides_together found
    obtain rfl : floor = quotient := by
      have same := again.symm.trans computed
      simpa using same
    obtain ⟨side, smaller⟩ := division.remainder_bounds
    exact ⟨remainder, rest, division.split, side.imp_left Word.toInt_eq_zero_iff.1, smaller⟩

/-- Integer arithmetic in filters is exact or faults, whatever the operands are computed from. -/
theorem integers_compute_exactly {subject : Subject} {first second : Expression}
    {firstValue secondValue : Value} {left right : Int64}
    (firstYields : evaluate subject first = .ok firstValue)
    (secondYields : evaluate subject second = .ok secondValue)
    (firstCounts : firstValue.CountsAs left) (secondCounts : secondValue.CountsAs right) :
    ComputesIntegers left right (fun operator => evaluate subject (.binary operator first second))
      (evaluate subject (.unary .minus first)) := by
  have binary : (fun operator => evaluate subject (.binary operator first second)) =
      (arithmeticOnInts · left right) := by
    funext operator
    rw [evaluate, firstYields, secondYields, ok_bind, ok_bind]
    exact applyBinary_of_countsAs firstCounts secondCounts operator
  have unary : evaluate subject (.unary .minus first) =
      intOrOverflow "-" (Word.negate? left) := by
    rw [evaluate, firstYields, ok_bind]
    exact applyUnary_minus_of_countsAs firstCounts
  rw [binary, unary]
  exact computesIntegers_arithmeticOnInts left right

/-- Minus seven by two, which is the sum of two truths, goes to the floor. -/
theorem integers_compute_exactly_minus_seven :
    let subject : Subject := ⟨.post, fun _ => none⟩
    let first : Expression := .unary .minus (.literal (.int 7))
    let second : Expression := .binary .add (.literal (.bool true)) (.literal (.bool true))
    let compute := fun operator => evaluate subject (.binary operator first second)
    evaluate subject first = .ok (.int (-7)) ∧ evaluate subject second = .ok (.int 2) ∧
      (Value.int (-7)).CountsAs (-7) ∧ (Value.int 2).CountsAs 2 ∧
      compute .floorDivide = .ok (.int (-4)) ∧
      ComputesIntegers (-7) 2 compute (evaluate subject (.unary .minus first)) := by
  intro subject first second compute
  have firstYields : evaluate subject first = .ok (.int (-7)) := rfl
  have secondYields : evaluate subject second = .ok (.int 2) := rfl
  exact ⟨firstYields, secondYields, .int _, .int _, rfl,
    integers_compute_exactly firstYields secondYields (.int _) (.int _)⟩

end Harvest.Filter
