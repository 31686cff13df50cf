import Harvest.Number.Digits
import Mathlib.Data.List.TakeWhile

/-!
Numbers and their digits. The decimal digits of a number stand for it, also with zeros before them.
-/

namespace Harvest

section Runs

variable {belongs : Char → Bool} {run rest : List Char}

/-- A run of characters ends where another kind of character starts. -/
theorem takeWhile_run_append (inside : ∀ character ∈ run, belongs character = true)
    (ends : ∀ next ∈ rest.head?, belongs next = false) :
    (run ++ rest).takeWhile belongs = run := by
  rw [List.takeWhile_append_of_pos inside]
  cases rest with
  | nil => simp
  | cons next rest => simp [ends next rfl]

theorem dropWhile_run_append (inside : ∀ character ∈ run, belongs character = true)
    (ends : ∀ next ∈ rest.head?, belongs next = false) :
    (run ++ rest).dropWhile belongs = rest := by
  rw [List.dropWhile_append_of_pos inside]
  cases rest with
  | nil => rfl
  | cons next rest => simp [ends next rfl]

end Runs

namespace Digits

theorem decimal_eq_ofDigitChars (digits : List Char) :
    decimal digits = Nat.ofDigitChars 10 digits 0 := by
  unfold decimal Nat.ofDigitChars
  congr 1
  funext value digit
  rw [Nat.mul_comm]

/-- The decimal digits of a number stand for it. -/
theorem decimal_toDigits (number : Nat) : decimal (Nat.toDigits 10 number) = number := by
  rw [decimal_eq_ofDigitChars]
  exact Nat.ofDigitChars_ten_toDigits

/-- Whatever holds of the ten digits holds of every digit. -/
theorem forall_isDigit (property : Char → Prop)
    (each : ∀ value : Fin 10, property (Nat.digitChar value)) {digit : Char}
    (isDigit : digit.isDigit = true) : property digit := by
  have bounds : 48 ≤ digit.toNat ∧ digit.toNat ≤ 57 := by
    simpa [Char.isDigit, UInt32.le_iff_toNat_le] using isDigit
  have spelled : ∀ value : Fin 10, Char.ofNat (48 + value) = Nat.digitChar value := by decide
  have same := spelled ⟨digit.toNat - 48, by omega⟩
  rw [Nat.add_sub_cancel' bounds.1, Char.ofNat_toNat] at same
  rw [same]
  exact each _

/-- Zeros before the digits of a number add nothing. -/
theorem decimal_zeros_append (zeros : Nat) (digits : List Char) :
    decimal (List.replicate zeros '0' ++ digits) = decimal digits := by
  induction zeros with
  | zero => rfl
  | succ zeros ih => simpa [List.replicate_succ, decimal] using ih

theorem isDigit_of_mem_toDigits {number : Nat} {digit : Char}
    (inside : digit ∈ Nat.toDigits 10 number) : digit.isDigit = true :=
  Nat.isDigit_of_mem_toDigits (by decide) (by decide) inside

end Digits

end Harvest
