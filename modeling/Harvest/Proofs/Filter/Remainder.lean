import Harvest.Proofs.Filter.Arithmetic

/-!
Remainders in filters. A remainder is the one that belongs to the quotient toward the floor, so it
lies between zero and the divisor and fits a word. It is computed behind a quotient toward zero, so
it fails where that one does not fit, which is for the least word by minus one alone.
-/

namespace Harvest.Filter

open Result (ok_bind)

/-- The only operands whose quotient does not fit a word. -/
def ExceedsWords (left right : Int64) : Prop := left = Int64.minValue ∧ right = -1

/-- What a remainder comes to on two operands that count as integers. -/
structure LeavesRemainder (left right : Int64)
    (compute : BinaryOperator → Except EvalError Value) : Prop where
  fails : (∃ fault, compute .modulo = .error fault) ↔ right = 0 ∨ ExceedsWords left right
  byZero : compute .modulo = .error .divisionByZero ↔ right = 0
  overflow : compute .modulo = .error (.overflow "%") ↔ ExceedsWords left right
  /-- A remainder fails to fit exactly where the quotient does. -/
  quotient : compute .floorDivide = .error (.overflow "//") ↔ ExceedsWords left right
  remainder : right ≠ 0 → ¬ExceedsWords left right → ∃ remainder : Int64,
    compute .modulo = .ok (.int remainder) ∧
      remainder.toInt = left.toInt - ⌊(left.toInt : ℚ) / right.toInt⌋ * right.toInt ∧
      (0 ≤ remainder ∧ remainder < right ∨ right < remainder ∧ remainder ≤ 0)

section Operands

variable {left right : Int64}

theorem not_exceedsWords_zero : ¬ExceedsWords left 0 := by
  rintro ⟨-, zero⟩
  exact absurd zero (by decide)

/-- By zero both divisions fail. -/
theorem arithmeticOnInts_by_zero :
    arithmeticOnInts .floorDivide left 0 = .error .divisionByZero ∧
      arithmeticOnInts .modulo left 0 = .error .divisionByZero := ⟨rfl, rfl⟩

/-- Without a quotient toward zero both divisions overflow. -/
theorem arithmeticOnInts_of_exceedsWords (exceeds : ExceedsWords left right) :
    arithmeticOnInts .floorDivide left right = .error (.overflow "//") ∧
      arithmeticOnInts .modulo left right = .error (.overflow "%") := by
  obtain ⟨rfl, rfl⟩ := exceeds
  exact ⟨rfl, rfl⟩

/-- Behind a quotient toward zero both divisions succeed, and the remainder is exact. -/
theorem arithmeticOnInts_of_not_exceedsWords (nonzero : right ≠ 0)
    (fits : ¬ExceedsWords left right) :
    ∃ floor remainder : Int64, arithmeticOnInts .floorDivide left right = .ok (.int floor) ∧
      arithmeticOnInts .modulo left right = .ok (.int remainder) ∧
      remainder.toInt = left.toInt - ⌊(left.toInt : ℚ) / right.toInt⌋ * right.toInt ∧
      (0 ≤ remainder ∧ remainder < right ∨ right < remainder ∧ remainder ≤ 0) := by
  obtain ⟨truncated, divides⟩ :=
    Option.ne_none_iff_exists'.1 (mt (Word.divide?_eq_none_iff nonzero).1 fits)
  obtain ⟨floor, remainder, floored, rests, division⟩ := divides_together divides
  refine ⟨floor, remainder, floored, rests, ?_, ?_⟩
  · rw [division.floor_eq]
    exact eq_sub_of_add_eq' division.split.symm
  · simpa only [Int64.le_iff_toInt_le, Int64.lt_iff_toInt_lt, Int64.toInt_zero] using
      division.within

theorem leavesRemainder_arithmeticOnInts (left right : Int64) :
    LeavesRemainder left right (arithmeticOnInts · left right) := by
  by_cases zero : right = 0
  · subst zero
    obtain ⟨floored, rests⟩ := @arithmeticOnInts_by_zero left
    constructor <;> simp [floored, rests, not_exceedsWords_zero]
  · by_cases exceeds : ExceedsWords left right
    · obtain ⟨floored, rests⟩ := arithmeticOnInts_of_exceedsWords exceeds
      constructor <;> simp [floored, rests, exceeds, zero]
    · obtain ⟨floor, remainder, floored, rests, exact, within⟩ :=
        arithmeticOnInts_of_not_exceedsWords zero exceeds
      constructor <;> simp [floored, rests, exceeds, zero, exact, within]

end Operands

/-- A remainder in a filter is the exact one, between zero and the divisor, whatever the operands
are computed from. There is none by zero, and it overflows only where the quotient does, for the
least word by minus one. -/
theorem remainders_are_exact {subject : Subject} {first second : Expression}
    {firstValue secondValue : Value} {left right : Int64}
    (firstYields : evaluate subject first = .ok firstValue)
    (secondYields : evaluate subject second = .ok secondValue)
    (firstCounts : firstValue.CountsAs left) (secondCounts : secondValue.CountsAs right) :
    LeavesRemainder left right fun operator =>
      evaluate subject (.binary operator first second) := by
  have binary : (fun operator => evaluate subject (.binary operator first second)) =
      (arithmeticOnInts · left right) := by
    funext operator
    rw [evaluate, firstYields, secondYields, ok_bind, ok_bind]
    exact applyBinary_of_countsAs firstCounts secondCounts operator
  rw [binary]
  exact leavesRemainder_arithmeticOnInts left right

/-- The least word by seven leaves six. -/
theorem remainders_are_exact_least :
    let subject : Subject := ⟨.post, fun _ => none⟩
    let first : Expression := .binary .subtract
      (.unary .minus (.literal (.int 9223372036854775807))) (.literal (.bool true))
    let second : Expression := .literal (.int 7)
    let compute := fun operator => evaluate subject (.binary operator first second)
    evaluate subject first = .ok (.int Int64.minValue) ∧
      evaluate subject second = .ok (.int 7) ∧
      (Value.int Int64.minValue).CountsAs Int64.minValue ∧ (Value.int 7).CountsAs 7 ∧
      compute .modulo = .ok (.int 6) ∧ LeavesRemainder Int64.minValue 7 compute := by
  intro subject first second compute
  have firstYields : evaluate subject first = .ok (.int Int64.minValue) := rfl
  have secondYields : evaluate subject second = .ok (.int 7) := rfl
  exact ⟨firstYields, secondYields, .int _, .int _, rfl,
    remainders_are_exact firstYields secondYields (.int _) (.int _)⟩

/-- The least word by minus one leaves nothing, and its remainder overflows all the same. -/
theorem least_by_minus_one_overflows :
    let subject : Subject := ⟨.post, fun _ => none⟩
    let remainder := fun left right : Int64 =>
      evaluate subject (.binary .modulo (.literal (.int left)) (.literal (.int right)))
    remainder Int64.minValue (-1) = .error (.overflow "%") ∧
      Int64.minValue.toInt.fmod (-1) = 0 ∧
      ¬∀ left right, (∃ fault, remainder left right = .error fault) ↔ right = 0 := by
  intro subject remainder
  have overflows : remainder Int64.minValue (-1) = .error (.overflow "%") := rfl
  refine ⟨overflows, by decide, fun onlyByZero => ?_⟩
  have zero : (-1 : Int64) = 0 := (onlyByZero Int64.minValue (-1)).1 ⟨_, overflows⟩
  exact absurd zero (by decide)

end Harvest.Filter
