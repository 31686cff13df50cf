import Harvest.Number.Word
import Mathlib.Algebra.Ring.Int.Defs

/-!
Signed words and the integers that they stand for. A word is the word of its integer, and an integer
has a word where it fits.
-/

namespace Harvest.Word

theorem fits_iff {number : Int} : Fits number ↔ -2 ^ 63 ≤ number ∧ number < 2 ^ 63 := by
  unfold Fits least greatest
  omega

/-- A word stands for an integer that fits. -/
theorem fits_toInt (word : Int64) : Fits word.toInt :=
  fits_iff.2 ⟨word.le_toInt, word.toInt_lt⟩

theorem ofInt?_toInt (word : Int64) : ofInt? word.toInt = some word := by
  rw [ofInt?, if_pos (fits_toInt word), Int64.ofInt_toInt]

/-- Only the least word has no opposite. -/
theorem fits_neg_toInt {word : Int64} (notLeast : word ≠ Int64.minValue) : Fits (-word.toInt) := by
  have lower := word.le_toInt
  have upper := word.toInt_lt
  have apart : word.toInt ≠ -2 ^ 63 := by
    rw [← Int64.toInt_minValue]
    exact fun same => notLeast (Int64.toInt_inj.1 same)
  exact fits_iff.2 (by omega)

/-- The word of an integer that fits stands for it. -/
theorem toInt_ofInt {number : Int} (fits : Fits number) : (Int64.ofInt number).toInt = number := by
  obtain ⟨lower, upper⟩ := fits_iff.1 fits
  exact Int64.toInt_ofInt_of_le lower upper

variable {number : Int} {word : Int64}

theorem ofInt?_eq_some : ofInt? number = some word ↔ word.toInt = number := by
  constructor
  · intro found
    unfold ofInt? at found
    split at found
    · next fits =>
        rw [← Option.some.inj found]
        exact toInt_ofInt fits
    · contradiction
  · rintro rfl
    exact ofInt?_toInt word

theorem ofInt?_eq_none : ofInt? number = none ↔ ¬Fits number := by
  simp [ofInt?]

theorem exists_ofInt? (fits : Fits number) :
    ∃ word : Int64, ofInt? number = some word ∧ word.toInt = number :=
  ⟨Int64.ofInt number, if_pos fits, toInt_ofInt fits⟩

theorem toInt_eq_zero_iff : word.toInt = 0 ↔ word = 0 := by
  rw [← Int64.toInt_zero, Int64.toInt_inj]

end Harvest.Word
