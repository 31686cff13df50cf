/-!
Signed words of 64 bits with exact arithmetic: an operation yields the word of its exact result
when there is one.
-/

namespace Harvest.Word

/-- The least signed word. -/
def least : Int := -0x8000000000000000

/-- The greatest signed word. -/
def greatest : Int := 0x7fffffffffffffff

/-- An integer fits a signed word of 64 bits. -/
def Fits (number : Int) : Prop :=
  least ≤ number ∧ number ≤ greatest

instance (number : Int) : Decidable (Fits number) := by
  unfold Fits
  infer_instance

/-- The word of an integer that fits. -/
def ofInt? (number : Int) : Option Int64 :=
  if Fits number then some (Int64.ofInt number) else none

/-- The sum of two words. -/
def add? (left right : Int64) : Option Int64 :=
  ofInt? (left.toInt + right.toInt)

/-- The difference of two words. -/
def subtract? (left right : Int64) : Option Int64 :=
  ofInt? (left.toInt - right.toInt)

/-- The product of two words. -/
def multiply? (left right : Int64) : Option Int64 :=
  ofInt? (left.toInt * right.toInt)

/-- The opposite of a word. -/
def negate? (number : Int64) : Option Int64 :=
  ofInt? (-number.toInt)

/-- The quotient of two words toward zero; there is none by zero. -/
def divide? (left right : Int64) : Option Int64 :=
  if right = 0 then none else ofInt? (left.toInt.tdiv right.toInt)

/-- What the quotient toward zero leaves; without a quotient there is no remainder. -/
def remainder? (left right : Int64) : Option Int64 := do
  let _ ← divide? left right
  ofInt? (left.toInt.tmod right.toInt)

/-- Two words are on different sides of zero, which itself counts as positive. -/
def areOpposed (left right : Int64) : Bool :=
  (left < 0) != (right < 0)

/-- The quotient toward the floor. It is one less than the quotient toward zero when that one is
negative and leaves something. -/
def floorDivide? (left right : Int64) : Option Int64 := do
  let quotient ← divide? left right
  let remainder ← remainder? left right
  if remainder != 0 && areOpposed left right then subtract? quotient 1 else some quotient

/-- What the quotient toward the floor leaves. A remainder on the other side of zero than the
divisor moves over by the divisor. -/
def floorRemainder? (left right : Int64) : Option Int64 := do
  let remainder ← remainder? left right
  if remainder != 0 && areOpposed remainder right then add? remainder right else some remainder

end Harvest.Word
