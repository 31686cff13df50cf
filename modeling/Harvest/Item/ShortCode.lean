/-!
Short codes write the magnitude of a media id in base 64.
-/

namespace Harvest.ShortCode

/-- The digits of short codes in ascending order. -/
def alphabet : List Char :=
  "ABCDEFGHIJKLMNOPQRSTUVWXYZabcdefghijklmnopqrstuvwxyz0123456789-_".toList

/-- The digit of a number below sixty-four. -/
def digit (value : Nat) : Char :=
  alphabet.getD value 'A'

/-- The digits of a positive number, the highest first. -/
def digits (number : Nat) : List Char :=
  if number = 0 then [] else digits (number / 64) ++ [digit (number % 64)]

/-- The short code of a media id. -/
def ofMediaId (mediaId : Int64) : String :=
  let magnitude := mediaId.toInt.natAbs
  if magnitude = 0 then "A" else String.ofList (digits magnitude)

end Harvest.ShortCode
