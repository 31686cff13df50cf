/-!
Punycode writes a label of a domain name in ASCII: first its ASCII characters, then where the
others stand, as differences in numbers with a digit threshold that adapts.
-/

namespace Harvest.Punycode

/-- A digit of base 36. -/
def digit (value : Nat) : Char :=
  if value < 26 then Char.ofNat ('a'.toNat + value) else Char.ofNat ('0'.toNat + (value - 26))

/-- The threshold of the digit at a position. -/
def threshold (position bias : Nat) : Nat :=
  min 26 (max 1 (position - bias))

/-- A difference as digits, from a position on. -/
def digits (fuel value position bias : Nat) : List Char :=
  match fuel with
  | 0 => []
  | fuel + 1 =>
    let least := threshold position bias
    if value < least then [digit value]
    else
      digit (least + (value - least) % (36 - least)) ::
        digits fuel ((value - least) / (36 - least)) (position + 36) bias

/-- A large difference shrinks by 35, and the bias grows by 36 each time. -/
def shrink (fuel delta bias : Nat) : Nat × Nat :=
  match fuel with
  | 0 => (delta, bias)
  | fuel + 1 => if 455 < delta then shrink fuel (delta / 35) (bias + 36) else (delta, bias)

/-- The bias after a difference. -/
def adapt (delta count : Nat) (isFirst : Bool) : Nat :=
  let halved := if isFirst then delta / 700 else delta / 2
  let (rest, bias) := shrink (halved + halved / count + 1) (halved + halved / count) 0
  bias + 36 * rest / (rest + 38)

/-- What the encoder carries along a round. -/
structure Progress where
  delta : Nat
  bias : Nat
  handled : Nat
  isFirst : Bool
  output : List Char

/-- One character of a round for a code point: smaller ones widen the difference, and the code
point itself is written. -/
def visit (point : Nat) (progress : Progress) (code : Nat) : Progress :=
  if code < point then { progress with delta := progress.delta + 1 }
  else if code = point then
    { delta := 0
      bias := adapt progress.delta (progress.handled + 1) progress.isFirst
      handled := progress.handled + 1
      isFirst := false
      output := progress.output ++ digits (progress.delta + 1) progress.delta 36 progress.bias }
  else progress

/-- Rounds for the code points of a label in ascending order. -/
def rounds (codes : List Nat) : List Nat → Nat → Progress → List Char
  | [], _, progress => progress.output
  | point :: rest, reached, progress =>
    let widened :=
      { progress with delta := progress.delta + (point - reached) * (progress.handled + 1) }
    let done := codes.foldl (visit point) widened
    rounds codes rest (point + 1) { done with delta := done.delta + 1 }

/-- A label in ASCII, without the mark that announces it. -/
def encode (label : List Char) : List Char :=
  let codes := label.map Char.toNat
  let basic := label.filter fun character => character.toNat < 0x80
  let points := ((codes.filter (0x80 ≤ ·)).mergeSort).eraseDups
  let front := if basic.isEmpty then [] else basic ++ ['-']
  rounds codes points 0x80 ⟨0, 72, basic.length, true, front⟩

/-! ## Reading -/

/-- The value of a digit in lower case. -/
def digitValue? (character : Char) : Option Nat :=
  if character.isLower then some (character.toNat - 'a'.toNat)
  else if character.isDigit then some (character.toNat - '0'.toNat + 26)
  else none

/-- What the decoder carries along: the text so far, the code point that was inserted last, the
index of the next insertion before and after the digits of the current number, and the weight and
the position of the next digit. -/
structure Reading where
  text : List Char
  code : Nat
  start : Nat
  index : Nat
  bias : Nat
  weight : Nat
  position : Nat

/-- The reading of a label before its first number. -/
def Reading.initial (text : List Char) : Reading :=
  ⟨text, 0x80, 0, 0, 72, 1, 36⟩

/-- A reading is complete behind the last digit of a number. -/
def Reading.isComplete (reading : Reading) : Bool :=
  reading.position == 36

/-- The reading behind a number: an index beyond the text goes on with higher code points. -/
def Reading.insert? (reading : Reading) : Option Reading := do
  let count := reading.text.length + 1
  let code := reading.code + reading.index / count
  let place := reading.index % count
  guard (Nat.isValidChar code)
  return {
    text := reading.text.insertIdx place (Char.ofNat code)
    code := code
    start := place + 1
    index := place + 1
    bias := adapt (reading.index - reading.start) count (reading.start == 0)
    weight := 1
    position := 36 }

/-- The reading behind a digit. Numbers and weights are words. -/
def Reading.next? (reading : Reading) (character : Char) : Option Reading := do
  let value ← digitValue? character
  let index := reading.index + value * reading.weight
  guard (index < UInt32.size)
  let least := threshold reading.position reading.bias
  if value < least then Reading.insert? { reading with index := index }
  else
    let weight := reading.weight * (36 - least)
    guard (weight < UInt32.size)
    return { reading with index := index, weight := weight, position := reading.position + 36 }

/-- The label that a text in ASCII encodes. ASCII characters stand before the last hyphen. -/
def decode? (characters : List Char) : Option (List Char) := do
  let numbers := (characters.reverse.takeWhile (· != '-')).reverse
  let front := (characters.reverse.dropWhile (· != '-')).reverse
  guard (front ≠ ['-'])
  let reading ← numbers.foldlM Reading.next? (.initial front.dropLast)
  guard reading.isComplete
  return reading.text

end Harvest.Punycode
