/-!
Bytes in base 64.
-/

namespace Harvest.Text.Base64

/-- The digits in ascending order. -/
def alphabet : List Char :=
  "ABCDEFGHIJKLMNOPQRSTUVWXYZabcdefghijklmnopqrstuvwxyz0123456789+/".toList

/-- The four digits of three bytes. -/
def digits (first second third : UInt8) : List Char :=
  let value := (first.toNat * 256 + second.toNat) * 256 + third.toNat
  [value / 262144, value / 4096 % 64, value / 64 % 64, value % 64].map (alphabet.getD · 'A')

/-- Three bytes at a time. Equals signs stand for digits that would hold no byte. -/
def encode : List UInt8 → List Char
  | first :: second :: third :: rest => digits first second third ++ encode rest
  | [first, second] => (digits first second 0).take 3 ++ ['=']
  | [first] => (digits first 0 0).take 2 ++ ['=', '=']
  | [] => []

end Harvest.Text.Base64
