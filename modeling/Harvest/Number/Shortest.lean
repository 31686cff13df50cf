import Harvest.Number.Binary64

/-!
The shortest decimal text of a floating number. Among the decimals that read back as the number
the fewest digits win, of those the nearest, and of two equally near the larger. The text is
always positional.
-/

namespace Harvest.Shortest

/-- A decimal stands for `digits * 10 ^ exponent`. -/
structure Decimal where
  digits : Nat
  exponent : Int

/-- The decimals that read back as a number lie around `centre`, in units of `2 ^ exponent`. -/
structure Neighbourhood where
  lower : Nat
  centre : Nat
  upper : Nat
  exponent : Int
  closed : Bool

/-- A power of two has a nearer neighbour below; the ends read back when the significand is even. -/
def Neighbourhood.around (significand : Nat) (exponent : Int) : Neighbourhood :=
  let boundary := significand = 1 <<< Binary64.fractionBits ∧ Binary64.lowestExponent < exponent
  { lower := 4 * significand - (if boundary then 1 else 2)
    centre := 4 * significand
    upper := 4 * significand + 2
    exponent := exponent - 2
    closed := significand % 2 = 0 }

/-- A decimal and a dyadic number on a common grid of naturals. -/
def onGrid (decimal : Decimal) (significand : Nat) (exponent : Int) : Nat × Nat :=
  ((decimal.digits * Digits.powerOfTen decimal.exponent.toNat) <<< (-exponent).toNat,
    (significand <<< exponent.toNat) * Digits.powerOfTen (-decimal.exponent).toNat)

/-- A decimal reads back when it lies in the neighbourhood. -/
def Neighbourhood.holds (range : Neighbourhood) (decimal : Decimal) : Bool :=
  let (point, lower) := onGrid decimal range.lower range.exponent
  let (_, upper) := onGrid decimal range.upper range.exponent
  if range.closed then lower ≤ point && point ≤ upper else lower < point && point < upper

/-- The number of decimal digits before the point, or minus the zeros that follow it. -/
def magnitude (significand : Nat) (exponent : Int) : Int :=
  let numerator := significand <<< exponent.toNat
  let denominator := 1 <<< (-exponent).toNat
  if denominator ≤ numerator then (Nat.toDigits 10 (numerator / denominator)).length
  else
    let reach := (Nat.toDigits 10 (denominator / numerator)).length
    if denominator ≤ numerator * Digits.powerOfTen (reach - 1) then 2 - (reach : Int) else 1 - (reach : Int)

/-- The candidate of a grid: the nearer of the two neighbours that read back. -/
def Neighbourhood.candidate (range : Neighbourhood) (place : Int) : Option Decimal :=
  let (scale, value) := onGrid ⟨1, place⟩ range.centre range.exponent
  let below : Decimal := ⟨value / scale, place⟩
  let above : Decimal := ⟨value / scale + 1, place⟩
  let lowHolds := range.holds below
  if range.holds above && (!lowHolds || scale ≤ 2 * (value % scale)) then some above
  else if lowHolds then some below
  else none

/-- The first grid with a candidate, from one digit to seventeen. -/
def decimal (significand : Nat) (exponent : Int) : Decimal :=
  let range := Neighbourhood.around significand exponent
  let leading := magnitude significand exponent
  ((List.range 17).findSome? fun (count : Nat) => range.candidate (leading - (count + 1 : Int))).getD
    ⟨significand, exponent⟩

/-- A decimal as positional text without needless zeros. -/
def Decimal.text (decimal : Decimal) : String :=
  if 0 ≤ decimal.exponent then
    String.ofList (Nat.toDigits 10 (decimal.digits * Digits.powerOfTen decimal.exponent.toNat))
  else
    let places := (-decimal.exponent).toNat
    let whole := decimal.digits / Digits.powerOfTen places
    let fraction := Nat.toDigits 10 (decimal.digits % Digits.powerOfTen places)
    let padded := List.replicate (places - fraction.length) '0' ++ fraction
    let kept := (padded.reverse.dropWhile (· == '0')).reverse
    let whole := Nat.toDigits 10 whole
    String.ofList (if kept.isEmpty then whole else whole ++ '.' :: kept)

/-- The text of a floating number. -/
def text (number : Float) : String :=
  match Binary64.read number.toBits with
  | .notANumber => "NaN"
  | .infinite negative => if negative then "-inf" else "inf"
  | .finite negative significand exponent =>
    let body := if significand = 0 then "0" else (decimal significand exponent).text
    if negative then "-" ++ body else body

end Harvest.Shortest
