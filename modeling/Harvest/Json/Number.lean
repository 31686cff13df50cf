import Harvest.Json.Basic
import Harvest.Number.Binary64
import Harvest.Number.Word

/-!
Reading numbers. A number without fraction and exponent that fits 64 bits is an integer; any
other is a significand of at most 64 bits, digits beyond it being dropped, scaled by a power of
ten in floating arithmetic.
-/

namespace Harvest.Json.Number

/-- Digits enter a significand while it fits an unsigned 64-bit word. -/
def accumulate (significand : Nat) : List Char → Nat × List Char
  | [] => (significand, [])
  | digit :: rest =>
    let next := significand * 10 + (digit.toNat - '0'.toNat)
    if next < UInt64.size then accumulate next rest else (significand, digit :: rest)

/-- Scaling divides by the largest representable power of ten while the exponent is below it. -/
def scaleDown (number : Float) (exponent : Nat) : Nat → Float
  | 0 => 0
  | rounds + 1 =>
    if exponent ≤ 308 then number / Binary64.ofDecimal false 1 exponent
    else scaleDown (number / Binary64.ofDecimal false 1 308) (exponent - 308) rounds

/-- A significand of 64 bits vanishes within this many divisions. -/
def scaleRounds : Nat := 4

/-- A significand times a power of ten, unless it exceeds the largest finite number. -/
def scale (significand : Nat) (exponent : Int) : Option Float :=
  let number := Binary64.ofInt significand
  if exponent < 0 then some (scaleDown number exponent.natAbs scaleRounds)
  else if 308 < exponent then if significand = 0 then some number else none
  else
    let scaled := number * Binary64.ofDecimal false 1 exponent
    if scaled.isInf then none else some scaled

/-- A floating number or, out of range, nothing readable. -/
def ofScaled (negative : Bool) (scaled : Option Float) : Json :=
  match scaled with
  | none => .unreadable
  | some number => .float (if negative then -number else number)

/-- An exponent has a sign and at least one digit. -/
def readExponent : List Char → Option ((Bool × List Char) × List Char)
  | 'e' :: rest | 'E' :: rest =>
    let (negative, rest) := match rest with
      | '+' :: rest => (false, rest)
      | '-' :: rest => (true, rest)
      | rest => (false, rest)
    let digits := rest.takeWhile Char.isDigit
    if digits.isEmpty then none else some ((negative, digits), rest.dropWhile Char.isDigit)
  | rest => some ((false, []), rest)

/-- A fraction has at least one digit. -/
def readFraction : List Char → Option (List Char × List Char)
  | '.' :: rest =>
    let digits := rest.takeWhile Char.isDigit
    if digits.isEmpty then none else some (digits, rest.dropWhile Char.isDigit)
  | rest => some ([], rest)

/-- The largest exponent that is told from others. -/
def largestExponent : Nat := 0x7fffffff

/-- An exponent beyond the largest leaves zero or is out of range. -/
def applyExponent (significand : Nat) (start : Int) (negative : Bool) (digits : List Char) :
    Option Float :=
  let exponent := Digits.decimal digits
  if exponent ≤ largestExponent then
    scale significand (if negative then start - exponent else start + exponent)
  else if significand ≠ 0 ∧ !negative then none
  else some 0

/-- An unsigned word, a negative signed word, or a floating number. -/
def ofDigits (negative : Bool) (significand : Nat) : Json :=
  if !negative then .int significand
  else if significand = 0 ∨ ¬Word.Fits (-significand) then
    .float (-(Binary64.ofInt significand))
  else .int (-significand)

/-- A number at the head of a text and what follows it. -/
def read (characters : List Char) : Option (Json × List Char) := do
  let (negative, unsigned) := match characters with
    | '-' :: rest => (true, rest)
    | rest => (false, rest)
  let whole := unsigned.takeWhile Char.isDigit
  guard (!whole.isEmpty)
  guard (whole.length = 1 ∨ whole.head? ≠ some '0')
  let (fraction, afterFraction) ← readFraction (unsigned.dropWhile Char.isDigit)
  let ((lowered, power), rest) ← readExponent afterFraction
  let (significand, dropped) := accumulate 0 whole
  let (precise, ignored) := accumulate significand fraction
  let start : Int := dropped.length - (fraction.length - ignored.length)
  let value :=
    if fraction.isEmpty && power.isEmpty && dropped.isEmpty then ofDigits negative significand
    else if power.isEmpty then ofScaled negative (scale precise start)
    else ofScaled negative (applyExponent precise start lowered power)
  return (value, rest)

end Harvest.Json.Number
