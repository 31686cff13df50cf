import Harvest.Number.Digits

/-!
The 64-bit binary floating format as exact rational arithmetic. A bit pattern reads as a
significand times a power of two, and a quotient of naturals rounds to the nearest pattern.
-/

namespace Harvest.Binary64

/-- Every exponent stays at or above the exponent of the smallest positive number. -/
def lowestExponent : Int := -1074

/-- A full significand has this many bits below its leading bit. -/
def fractionBits : Nat := 52

/-- A bit pattern is not a number, an infinity, or a sign with `significand * 2 ^ exponent`. -/
inductive Reading where
  | notANumber
  | infinite (negative : Bool)
  | finite (negative : Bool) (significand : Nat) (exponent : Int)

/-- The pattern splits into a sign, eleven exponent bits and fifty-two fraction bits. -/
def read (bits : UInt64) : Reading :=
  let negative := bits >>> 63 == 1
  let biased := ((bits >>> 52) &&& 0x7ff).toNat
  let fraction := (bits &&& 0xfffffffffffff).toNat
  if biased = 2047 then
    if fraction = 0 then .infinite negative else .notANumber
  else if biased = 0 then .finite negative fraction lowestExponent
  else .finite negative (fraction + (1 <<< fractionBits)) (biased - 1 + lowestExponent)

/-- A quotient rounds to the nearest natural, and a half goes to the even neighbour. -/
def divideEven (numerator denominator : Nat) : Nat :=
  let quotient := numerator / denominator
  let doubled := 2 * (numerator % denominator)
  if doubled < denominator then quotient
  else if denominator < doubled then quotient + 1
  else quotient + quotient % 2

/-- A quotient over a power of two rounds to the nearest natural. -/
def scaledEven (numerator denominator : Nat) (exponent : Int) : Nat :=
  if exponent < 0 then divideEven (numerator <<< exponent.natAbs) denominator
  else divideEven numerator (denominator <<< exponent.natAbs)

/-- The exponent that leaves a quotient with a full significand, or the lowest exponent. -/
def exponentFor (numerator denominator : Nat) : Int :=
  let guess : Int := numerator.log2 - denominator.log2 - 53
  let wide :=
    if guess < 0 then (numerator <<< guess.natAbs) / denominator
    else numerator / (denominator <<< guess.natAbs)
  max lowestExponent (if wide < 1 <<< 53 then guess else guess + 1)

/-- The pattern of a positive magnitude; a carry out of the significand raises the exponent. -/
def magnitudeBits (significand : Nat) (exponent : Int) : Nat :=
  if significand < 1 <<< fractionBits then significand
  else
    let bits := ((exponent - lowestExponent + 1).toNat <<< fractionBits) +
      (significand - (1 <<< fractionBits))
    min bits (2047 <<< fractionBits)

/-- The number nearest to a quotient of naturals, with the given sign. -/
def ofRatio (negative : Bool) (numerator denominator : Nat) : Float :=
  let magnitude :=
    if numerator = 0 ∨ denominator = 0 then 0
    else
      let exponent := exponentFor numerator denominator
      magnitudeBits (scaledEven numerator denominator exponent) exponent
  Float.ofBits (UInt64.ofNat (if negative then magnitude + (1 <<< 63) else magnitude))

/-- The number nearest to `digits * 10 ^ exponent`. -/
def ofDecimal (negative : Bool) (digits : Nat) (exponent : Int) : Float :=
  if exponent < 0 then ofRatio negative digits (Digits.powerOfTen exponent.natAbs)
  else ofRatio negative (digits * Digits.powerOfTen exponent.natAbs) 1

/-- The number nearest to an integer. -/
def ofInt (value : Int) : Float := ofRatio (value < 0) value.natAbs 1

end Harvest.Binary64
