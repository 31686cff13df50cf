/-!
Digits. A run of digits stands for a number in its base, and its first digit weighs most.
-/

namespace Harvest.Digits

/-- The value of a digit in a base up to sixteen. -/
def valueOf? (digit : Char) : Option Nat :=
  if digit.isDigit then some (digit.toNat - '0'.toNat)
  else if 'a' ≤ digit ∧ digit ≤ 'f' then some (digit.toNat - 'a'.toNat + 10)
  else if 'A' ≤ digit ∧ digit ≤ 'F' then some (digit.toNat - 'A'.toNat + 10)
  else none

/-- The number of a run of digits, if all of them belong to the base. -/
def read? (base : Nat) (digits : List Char) : Option Nat :=
  digits.foldlM (fun value digit => do
    let next ← valueOf? digit
    guard (next < base)
    return value * base + next) 0

/-- The number of a run of decimal digits. -/
def decimal (digits : List Char) : Nat :=
  digits.foldl (fun value digit => value * 10 + (digit.toNat - '0'.toNat)) 0

/-- One and some zeros in decimal digits. -/
def powerOfTen (zeros : Nat) : Nat :=
  Nat.pow 10 zeros

end Harvest.Digits
