import Harvest.Proofs.Number.Word
import Mathlib.Data.Rat.Floor

/-!
Quotients of words. A quotient toward the floor is the word of the exact one wherever that fits: it
comes out of the quotient toward zero, and no step behind that one fails.
-/

namespace Harvest.Word

/-! ## Quotients of integers -/

/-- A quotient toward the floor, and a remainder on the side of the divisor. -/
structure IsFloorDivision (dividend divisor quotient remainder : Int) : Prop where
  split : dividend = quotient * divisor + remainder
  within : 0 ≤ remainder ∧ remainder < divisor ∨ divisor < remainder ∧ remainder ≤ 0

section Division

variable {dividend divisor quotient remainder : Int}

theorem IsFloorDivision.floor_eq
    (division : IsFloorDivision dividend divisor quotient remainder) :
    ⌊(dividend : ℚ) / divisor⌋ = quotient := by
  have split : (dividend : ℚ) = quotient * divisor + remainder := by exact_mod_cast division.split
  rw [Int.floor_eq_iff, split]
  rcases division.within with ⟨lower, upper⟩ | ⟨lower, upper⟩
  · have positive : (0 : ℚ) < divisor := by exact_mod_cast lower.trans_lt upper
    have least : (0 : ℚ) ≤ remainder := by exact_mod_cast lower
    have most : (remainder : ℚ) < divisor := by exact_mod_cast upper
    rw [le_div_iff₀ positive, div_lt_iff₀ positive]
    constructor <;> linarith
  · have negative : (divisor : ℚ) < 0 := by exact_mod_cast lower.trans_le upper
    have least : (divisor : ℚ) < remainder := by exact_mod_cast lower
    have most : (remainder : ℚ) ≤ 0 := by exact_mod_cast upper
    rw [le_div_iff_of_neg negative, div_lt_iff_of_neg negative]
    constructor <;> linarith

/-- A remainder on the side of its divisor is smaller than it. -/
theorem IsFloorDivision.remainder_bounds
    (division : IsFloorDivision dividend divisor quotient remainder) :
    (remainder = 0 ∨ remainder.sign = divisor.sign) ∧ |remainder| < |divisor| := by
  rcases division.within with ⟨lower, upper⟩ | ⟨lower, upper⟩
  · rw [abs_of_nonneg lower, abs_of_nonneg (lower.trans upper.le)]
    refine ⟨?_, upper⟩
    rcases lower.eq_or_lt with zero | positive
    · exact .inl zero.symm
    · exact .inr (by rw [Int.sign_eq_one_of_pos positive,
        Int.sign_eq_one_of_pos (positive.trans upper)])
  · rw [abs_of_nonpos upper, abs_of_nonpos (lower.le.trans upper)]
    refine ⟨?_, by omega⟩
    rcases upper.eq_or_lt with zero | negative
    · exact .inl zero
    · exact .inr (by rw [Int.sign_eq_neg_one_of_neg negative,
        Int.sign_eq_neg_one_of_neg (lower.trans negative)])

/-- What a quotient toward zero leaves is smaller than the divisor and on the side of the dividend.
-/
theorem tmod_bounds (dividend : Int) (nonzero : divisor ≠ 0) :
    (dividend.tmod divisor).natAbs < divisor.natAbs ∧
      (0 ≤ dividend → 0 ≤ dividend.tmod divisor) ∧
      (dividend ≤ 0 → dividend.tmod divisor ≤ 0) := by
  refine ⟨?_, Int.tmod_nonneg divisor, fun negative => ?_⟩
  · rw [Int.natAbs_tmod]
    exact Nat.mod_lt _ (Int.natAbs_pos.2 nonzero)
  · have opposite := Int.tmod_nonneg divisor (Int.neg_nonneg.2 negative)
    rw [Int.neg_tmod] at opposite
    omega

/-- A quotient toward zero is one toward the floor if it leaves nothing, or if dividend and divisor
are on the same side of zero. -/
theorem isFloorDivision_tdiv (nonzero : divisor ≠ 0)
    (same : dividend.tmod divisor = 0 ∨ (dividend < 0 ↔ divisor < 0)) :
    IsFloorDivision dividend divisor (dividend.tdiv divisor) (dividend.tmod divisor) := by
  have bounds := tmod_bounds dividend nonzero
  refine ⟨(Int.tdiv_mul_add_tmod dividend divisor).symm, ?_⟩
  omega

/-- Otherwise the quotient toward the floor is one less. -/
theorem isFloorDivision_tdiv_sub_one (nonzero : divisor ≠ 0)
    (leaves : dividend.tmod divisor ≠ 0) (opposed : ¬(dividend < 0 ↔ divisor < 0)) :
    IsFloorDivision dividend divisor (dividend.tdiv divisor - 1)
      (dividend.tmod divisor + divisor) := by
  have bounds := tmod_bounds dividend nonzero
  have split := Int.tdiv_mul_add_tmod dividend divisor
  refine ⟨?_, ?_⟩
  · rw [Int.sub_mul]
    omega
  · omega

/-- Of two numbers on different sides of zero the quotient is not positive. -/
theorem tdiv_nonpos_of_opposed (opposed : ¬(dividend < 0 ↔ divisor < 0)) :
    dividend.tdiv divisor ≤ 0 := by
  by_cases negative : dividend < 0
  · have opposite := Int.tdiv_nonneg (a := -dividend) (b := divisor) (by omega) (by omega)
    rw [Int.neg_tdiv] at opposite
    omega
  · exact Int.tdiv_nonpos_of_nonneg_of_nonpos (by omega) (by omega)

/-- A quotient by more than one is at most half of the dividend. -/
theorem natAbs_tdiv_le_half (large : 1 < divisor.natAbs) :
    (dividend.tdiv divisor).natAbs ≤ dividend.natAbs / 2 := by
  rw [Int.natAbs_tdiv]
  exact Nat.div_le_div_left large (by decide)

/-- A quotient that leaves something is at most half of the dividend. -/
theorem natAbs_tdiv_le (nonzero : divisor ≠ 0) (leaves : dividend.tmod divisor ≠ 0) :
    (dividend.tdiv divisor).natAbs ≤ dividend.natAbs / 2 := by
  have bound := (tmod_bounds dividend nonzero).1
  exact natAbs_tdiv_le_half (by omega)

end Division

/-! ## Quotients of words -/

section Quotients

variable {left right quotient : Int64}

theorem areOpposed_iff : areOpposed left right = true ↔ ¬(left.toInt < 0 ↔ right.toInt < 0) := by
  simp only [areOpposed, bne_iff_ne, ne_eq, decide_eq_decide, Int64.lt_iff_toInt_lt,
    Int64.toInt_zero]

theorem divide?_eq_some : divide? left right = some quotient ↔
    right ≠ 0 ∧ quotient.toInt = left.toInt.tdiv right.toInt := by
  unfold divide?
  split
  · next zero => simp [zero]
  · next nonzero => simp [nonzero, ofInt?_eq_some]

/-- Of all quotients of words only the opposite of the least word does not fit. -/
theorem divide?_eq_none_iff (nonzero : right ≠ 0) :
    divide? left right = none ↔ left = Int64.minValue ∧ right = -1 := by
  have lower := left.le_toInt
  have upper := left.toInt_lt
  have divisor : right.toInt ≠ 0 := mt toInt_eq_zero_iff.1 nonzero
  have minusOne : (-1 : Int64).toInt = -1 := by decide
  rw [divide?, if_neg nonzero, ofInt?_eq_none, fits_iff, ← Int64.toInt_inj, ← Int64.toInt_inj,
    Int64.toInt_minValue, minusOne]
  constructor
  · intro exceeds
    have unit : ¬1 < right.toInt.natAbs := by
      intro large
      have half : (left.toInt.tdiv right.toInt).natAbs ≤ left.toInt.natAbs / 2 :=
        natAbs_tdiv_le_half large
      omega
    rcases (by omega : right.toInt = 1 ∨ right.toInt = -1) with one | opposite
    · rw [one, Int.tdiv_one] at exceeds
      omega
    · rw [opposite, Int.tdiv_neg, Int.tdiv_one] at exceeds
      omega
  · rintro ⟨least, opposite⟩
    rw [least, opposite]
    decide

/-- What is left of a quotient always fits. -/
theorem remainder?_of_divide? (divides : divide? left right = some quotient) :
    ∃ remainder : Int64, remainder? left right = some remainder ∧
      remainder.toInt = left.toInt.tmod right.toInt := by
  obtain ⟨nonzero, -⟩ := divide?_eq_some.1 divides
  have bounds := (tmod_bounds left.toInt (mt toInt_eq_zero_iff.1 nonzero)).1
  have lower := right.le_toInt
  have upper := right.toInt_lt
  have fits : Fits (left.toInt.tmod right.toInt) := fits_iff.2 (by omega)
  obtain ⟨remainder, found, same⟩ := exists_ofInt? fits
  refine ⟨remainder, ?_, same⟩
  rw [remainder?, divides]
  exact found

/-- A quotient that leaves something is not the least word. -/
theorem subtract?_one_of_divide? (divides : divide? left right = some quotient)
    (leaves : left.toInt.tmod right.toInt ≠ 0) :
    ∃ floor : Int64, subtract? quotient 1 = some floor ∧
      floor.toInt = left.toInt.tdiv right.toInt - 1 := by
  obtain ⟨nonzero, same⟩ := divide?_eq_some.1 divides
  have half := natAbs_tdiv_le (mt toInt_eq_zero_iff.1 nonzero) leaves
  have lower := left.le_toInt
  have upper := left.toInt_lt
  have fits : Fits (left.toInt.tdiv right.toInt - 1) := fits_iff.2 (by omega)
  rw [subtract?, same]
  exact exists_ofInt? fits

/-- A remainder on the other side of zero than its divisor moves over to it. -/
theorem add?_of_opposed {first second : Int64} (opposed : areOpposed first second = true) :
    ∃ sum : Int64, add? first second = some sum ∧ sum.toInt = first.toInt + second.toInt := by
  rw [areOpposed_iff] at opposed
  have lowers := first.le_toInt
  have uppers := first.toInt_lt
  have lower := second.le_toInt
  have upper := second.toInt_lt
  have fits : Fits (first.toInt + second.toInt) := fits_iff.2 (by omega)
  exact exists_ofInt? fits

/-- Where there is a quotient toward zero, both divisions toward the floor succeed: no step behind
it fails. -/
theorem floorDivide?_of_divide? (divides : divide? left right = some quotient) :
    ∃ floor remainder : Int64, floorDivide? left right = some floor ∧
      floorRemainder? left right = some remainder ∧
      IsFloorDivision left.toInt right.toInt floor.toInt remainder.toInt := by
  obtain ⟨nonzero, quotientSame⟩ := divide?_eq_some.1 divides
  obtain ⟨remainder, leaves, remainderSame⟩ := remainder?_of_divide? divides
  have divisor : right.toInt ≠ 0 := mt toInt_eq_zero_iff.1 nonzero
  have bounds := tmod_bounds left.toInt divisor
  have nothing : remainder = 0 ↔ left.toInt.tmod right.toInt = 0 := by
    rw [← toInt_eq_zero_iff, remainderSame]
  unfold floorDivide? floorRemainder?
  simp only [divides, leaves, Option.bind_eq_bind, Option.bind_some]
  by_cases whole : remainder = 0
  · have stays := isFloorDivision_tdiv divisor (.inl (nothing.1 whole))
    rw [← quotientSame, ← remainderSame] at stays
    exact ⟨quotient, remainder, by simp [whole], by simp [whole], stays⟩
  · have something := mt nothing.2 whole
    -- the remainder is on the side of the dividend, so both tests for opposed sides agree
    have sameSide : areOpposed remainder right = areOpposed left right := by
      rw [Bool.eq_iff_iff, areOpposed_iff, areOpposed_iff]
      omega
    cases opposed : areOpposed left right with
    | false =>
        have agree : left.toInt < 0 ↔ right.toInt < 0 := by
          simpa [areOpposed_iff] using (Bool.eq_false_iff.1 opposed)
        have stays := isFloorDivision_tdiv divisor (.inr agree)
        rw [← quotientSame, ← remainderSame] at stays
        exact ⟨quotient, remainder, by simp, by simp [sameSide, opposed], stays⟩
    | true =>
        obtain ⟨floor, lowered, floorSame⟩ := subtract?_one_of_divide? divides something
        obtain ⟨moved, added, movedSame⟩ := add?_of_opposed (sameSide.trans opposed)
        have moves := isFloorDivision_tdiv_sub_one divisor something (areOpposed_iff.1 opposed)
        rw [← floorSame, ← remainderSame, ← movedSame] at moves
        refine ⟨floor, moved, ?_, ?_, moves⟩
        · simpa [whole] using lowered
        · simpa [whole, sameSide, opposed] using added

/-- Without a quotient toward zero there is none toward the floor that fits. -/
theorem not_fits_floor_of_divide? (nonzero : right ≠ 0) (fails : divide? left right = none) :
    ¬Fits ⌊(left.toInt : ℚ) / right.toInt⌋ := by
  rw [divide?, if_neg nonzero, ofInt?_eq_none] at fails
  have divisor : right.toInt ≠ 0 := mt toInt_eq_zero_iff.1 nonzero
  have smaller := Int.natAbs_tdiv_le_natAbs left.toInt right.toInt
  have lower := left.le_toInt
  have upper := left.toInt_lt
  have positive : 0 < left.toInt.tdiv right.toInt := by
    rw [fits_iff] at fails
    omega
  have agree : left.toInt < 0 ↔ right.toInt < 0 := by
    by_contra opposed
    have notPositive := tdiv_nonpos_of_opposed opposed
    omega
  rw [(isFloorDivision_tdiv divisor (.inr agree)).floor_eq]
  exact fails

/-- A quotient toward the floor is the word of the exact one. -/
theorem floorDivide?_eq (nonzero : right ≠ 0) :
    floorDivide? left right = ofInt? ⌊(left.toInt : ℚ) / right.toInt⌋ := by
  cases divides : divide? left right with
  | none =>
      rw [ofInt?_eq_none.2 (not_fits_floor_of_divide? nonzero divides), floorDivide?, divides]
      rfl
  | some quotient =>
      obtain ⟨floor, remainder, found, -, division⟩ := floorDivide?_of_divide? divides
      rw [found, division.floor_eq, ofInt?_toInt]

example : floorDivide? (-7) 2 = some (-4) ∧ floorDivide? Int64.minValue (-1) = none := by decide

end Quotients

end Harvest.Word
