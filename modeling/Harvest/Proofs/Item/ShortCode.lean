import Harvest.Item.ShortCode
import Mathlib.Data.Nat.Digits.Lemmas

/-!
Short codes stand for magnitudes. A code is read as a number in base 64, and no code but that of
zero starts with the letter for zero, so every magnitude has a code of its own and longer codes
stand for larger magnitudes.
-/

namespace Harvest.ShortCode

/-- The number that letters stand for. The first letter weighs most. -/
def value (letters : List Char) : Nat :=
  letters.foldl (fun number letter => 64 * number + alphabet.idxOf letter) 0

/-- A text is the code of a magnitude. -/
structure Encodes (magnitude : Nat) (code : String) : Prop where
  letters : ∀ letter ∈ code.toList, letter ∈ alphabet
  nonempty : 1 ≤ code.length
  short : code.length ≤ 11
  value_eq : value code.toList = magnitude
  /-- Only the code of zero starts with the letter for zero. -/
  leading : code.toList.head? = some 'A' → magnitude = 0

/-- What the codes of all media ids have in common. -/
structure Faithful (encode : Int64 → String) : Prop where
  encodes : ∀ mediaId, Encodes mediaId.toInt.natAbs (encode mediaId)
  shared : ∀ first second, encode first = encode second ↔
    first.toInt.natAbs = second.toInt.natAbs
  longer : ∀ first second, (encode first).length < (encode second).length →
    first.toInt.natAbs < second.toInt.natAbs

theorem nodup_alphabet : alphabet.Nodup := by decide

section Digits

variable {number : Nat}

theorem digit_eq_getElem (small : number < alphabet.length) : digit number = alphabet[number] := by
  rw [digit, List.getD_eq_getElem?_getD, List.getElem?_eq_getElem small, Option.getD_some]

theorem digit_mem (small : number < 64) : digit number ∈ alphabet := by
  rw [digit_eq_getElem small]
  exact List.getElem_mem _

/-- A letter stands for the number that it is the digit of. -/
theorem idxOf_digit (small : number < 64) : alphabet.idxOf (digit number) = number := by
  rw [digit_eq_getElem small]
  exact nodup_alphabet.idxOf_getElem number small

theorem value_append_singleton (letters : List Char) (letter : Char) :
    value (letters ++ [letter]) = 64 * value letters + alphabet.idxOf letter := by
  simp only [value, List.foldl_append, List.foldl_cons, List.foldl_nil]

/-- The digits are those of the number in base 64, in the other order. -/
theorem digits_eq (number : Nat) : digits number = ((Nat.digits 64 number).map digit).reverse := by
  induction number using digits.induct with
  | case1 => rw [digits]; rfl
  | case2 number positive ih =>
      rw [digits, if_neg positive, ih,
        Nat.digits_def' (by decide) (Nat.pos_of_ne_zero positive), List.map_cons, List.reverse_cons]

/-- The digits of a number stand for it. -/
theorem value_digits (number : Nat) : value (digits number) = number := by
  induction number using digits.induct with
  | case1 => rw [digits]; rfl
  | case2 number positive ih =>
      rw [digits, if_neg positive, value_append_singleton, ih,
        idxOf_digit (Nat.mod_lt number (by decide)), Nat.div_add_mod]

theorem mem_alphabet_of_mem_digits {letter : Char} (inside : letter ∈ digits number) :
    letter ∈ alphabet := by
  rw [digits_eq, List.mem_reverse, List.mem_map] at inside
  obtain ⟨value, place, rfl⟩ := inside
  exact digit_mem (Nat.digits_lt_base (by decide) place)

/-- A positive number has a first digit, which is not zero. -/
theorem head?_digits (positive : number ≠ 0) : (digits number).head? ≠ some 'A' := by
  intro leading
  have nonempty : Nat.digits 64 number ≠ [] := Nat.digits_ne_nil_iff_ne_zero.2 positive
  have last := Nat.getLast_digit_ne_zero 64 positive
  have small := Nat.digits_lt_base (by decide) (List.getLast_mem nonempty)
  rw [digits_eq, List.head?_reverse, List.getLast?_map,
    List.getLast?_eq_some_getLast nonempty] at leading
  have zero := idxOf_digit small
  rw [Option.some.inj leading] at zero
  exact last zero.symm

end Digits

/-- The code of a magnitude. -/
def ofMagnitude (magnitude : Nat) : String :=
  if magnitude = 0 then "A" else String.ofList (digits magnitude)

theorem toList_ofMagnitude (magnitude : Nat) :
    (ofMagnitude magnitude).toList = if magnitude = 0 then ['A'] else digits magnitude := by
  unfold ofMagnitude
  split
  · rfl
  · exact String.toList_ofList

/-- A magnitude below a power of 64 has no more digits, except that zero has one. -/
theorem length_ofMagnitude_le_iff {magnitude length : Nat} (positive : 0 < length) :
    (ofMagnitude magnitude).length ≤ length ↔ magnitude < 64 ^ length := by
  rw [← String.length_toList, toList_ofMagnitude]
  split
  · next zero => simp [zero]; omega
  · rw [digits_eq, List.length_reverse, List.length_map, Nat.digits_length_le_iff (by decide)]

theorem length_ofMagnitude_pos (magnitude : Nat) : 0 < (ofMagnitude magnitude).length := by
  rw [← String.length_toList, toList_ofMagnitude]
  split
  · exact Nat.one_pos
  · next positive =>
      rw [digits_eq, List.length_reverse, List.length_map, List.length_pos_iff]
      exact Nat.digits_ne_nil_iff_ne_zero.2 positive

theorem encodes_ofMagnitude {magnitude : Nat} (fits : magnitude < 64 ^ 11) :
    Encodes magnitude (ofMagnitude magnitude) where
  letters letter inside := by
    rw [toList_ofMagnitude] at inside
    split at inside
    · rw [List.mem_singleton.1 inside]
      decide
    · exact mem_alphabet_of_mem_digits inside
  nonempty := length_ofMagnitude_pos magnitude
  short := (length_ofMagnitude_le_iff (by decide)).2 fits
  value_eq := by
    rw [toList_ofMagnitude]
    split
    · next zero => rw [zero]; decide
    · exact value_digits magnitude
  leading starts := by
    rw [toList_ofMagnitude] at starts
    split at starts
    · assumption
    · next positive => exact absurd starts (head?_digits positive)

theorem natAbs_toInt_lt (mediaId : Int64) : mediaId.toInt.natAbs < 64 ^ 11 := by
  have lower := mediaId.le_toInt
  have upper := mediaId.toInt_lt
  omega

/-- A magnitude with a longer code is larger. -/
theorem lt_of_length_ofMagnitude_lt {first second : Nat}
    (longer : (ofMagnitude first).length < (ofMagnitude second).length) : first < second := by
  have positive := length_ofMagnitude_pos first
  have below := (length_ofMagnitude_le_iff positive).1 (Nat.le_refl _)
  have above := mt (length_ofMagnitude_le_iff positive).2 (Nat.not_le.2 longer)
  omega

/-- The short code of every media id is one to eleven letters that stand for its magnitude in base
64, without the letter for zero in front of other letters. So media ids share a code exactly when
they have one magnitude, and a longer code stands for a larger one. -/
theorem short_codes_are_faithful : Faithful ofMediaId where
  encodes mediaId := encodes_ofMagnitude (natAbs_toInt_lt mediaId)
  shared first second := by
    constructor
    · intro same
      have firstValue := (encodes_ofMagnitude (natAbs_toInt_lt first)).value_eq
      have secondValue := (encodes_ofMagnitude (natAbs_toInt_lt second)).value_eq
      change ofMagnitude first.toInt.natAbs = ofMagnitude second.toInt.natAbs at same
      rw [← firstValue, ← secondValue, same]
    · exact congrArg ofMagnitude
  longer _ _ := lt_of_length_ofMagnitude_lt

end Harvest.ShortCode
