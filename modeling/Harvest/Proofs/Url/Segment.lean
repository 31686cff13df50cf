import Harvest.Url.Basic

/-!
Names as segments of a path. The escapes of a name read back as its bytes, so different names have
different segments, and a segment has no slash. Only two names stand for folders.
-/

namespace Harvest

/-- A text is known by its bytes. -/
theorem utf8_injective {first second : List Char}
    (same : first.flatMap String.utf8EncodeChar = second.flatMap String.utf8EncodeChar) :
    first = second := by
  have encoded : first.utf8Encode = second.utf8Encode := congrArg List.toByteArray same
  have decoded := congrArg ByteArray.utf8Decode? encoded
  simpa using decoded

namespace Percent

theorem valueOf?_hexDigit {value : Nat} (small : value < 16) :
    Digits.valueOf? (hexDigit value) = some value := by
  have all : ∀ digit : Fin 16, Digits.valueOf? (hexDigit digit) = some digit.val := by decide
  exact all ⟨value, small⟩

/-- An escape reads back as its byte. -/
theorem decode_encodeByte (byte : UInt8) (rest : List Char) :
    decode (encodeByte byte ++ rest) = byte :: decode rest := by
  have bound : byte.toNat < 256 := byte.toNat_lt
  have high := valueOf?_hexDigit (show byte.toNat / 16 < 16 by omega)
  have low := valueOf?_hexDigit (show byte.toNat % 16 < 16 by omega)
  have whole : 16 * (byte.toNat / 16) + byte.toNat % 16 = byte.toNat := Nat.div_add_mod _ 16
  simp only [encodeByte, List.cons_append, List.nil_append, decode, high, low, whole,
    UInt8.ofNat_toNat]

theorem decode_encodeBytes (bytes : List UInt8) (rest : List Char) :
    decode (bytes.flatMap encodeByte ++ rest) = bytes ++ decode rest := by
  induction bytes with
  | nil => rfl
  | cons byte bytes ih =>
      rw [List.flatMap_cons, List.append_assoc, decode_encodeByte, ih, List.cons_append]

/-- A character that starts no escape stands for itself. -/
theorem decode_cons {character : Char} (plain : character ≠ '%') (rest : List Char) :
    decode (character :: rest) = String.utf8EncodeChar character ++ decode rest := by
  rw [decode]
  intro first second others same
  exact absurd same plain

/-- An escaped text reads back as its bytes when percent signs are escaped. -/
theorem decode_encode {isPlain : Char → Bool} (escaped : isPlain '%' = false)
    (characters : List Char) :
    decode (encode isPlain characters) = characters.flatMap String.utf8EncodeChar := by
  induction characters with
  | nil => rfl
  | cons character rest ih =>
      have split : encode isPlain (character :: rest) =
          (if isPlain character then [character] else encodeCharacter character) ++
            encode isPlain rest := rfl
      rw [split, List.flatMap_cons, ← ih]
      by_cases plain : isPlain character
      · have apart : character ≠ '%' := by
          rintro rfl
          rw [escaped] at plain
          contradiction
        rw [if_pos plain, List.singleton_append, decode_cons apart]
      · rw [if_neg plain, encodeCharacter, decode_encodeBytes]

/-- The bytes of a segment are those of its name. -/
theorem decode_segment (name : String) :
    decode (segment name).toList = name.toList.flatMap String.utf8EncodeChar := by
  rw [segment, String.toList_ofList]
  exact decode_encode rfl name.toList

/-- Different names have different segments. -/
theorem segment_injective {name other : String} (same : segment name = segment other) :
    name = other := by
  have bytes : name.toList.flatMap String.utf8EncodeChar = _ :=
    (decode_segment name).symm.trans (same ▸ decode_segment other)
  exact String.toList_injective (utf8_injective bytes)

theorem hexDigit_ne_slash {value : Nat} (small : value < 16) : hexDigit value ≠ '/' := by
  have all : ∀ digit : Fin 16, hexDigit digit ≠ '/' := by decide
  exact all ⟨value, small⟩

/-- A segment has no slash. -/
theorem slash_notMem_segment (name : String) : '/' ∉ (segment name).toList := by
  rw [segment, String.toList_ofList, encode, List.mem_flatMap]
  rintro ⟨character, -, inside⟩
  split at inside
  · next plain =>
      rw [← List.mem_singleton.1 inside] at plain
      contradiction
  · obtain ⟨byte, -, written⟩ := List.mem_flatMap.1 inside
    have bound : byte.toNat < 256 := byte.toNat_lt
    simp only [encodeByte, List.mem_cons, List.not_mem_nil, or_false] at written
    rcases written with percent | high | low
    · contradiction
    · exact hexDigit_ne_slash (by omega) high.symm
    · exact hexDigit_ne_slash (by omega) low.symm

end Percent

namespace Url

/-- The one name whose segment stands for the folder itself. -/
theorem isSingleDot_segment {name : String} :
    isSingleDot (Percent.segment name) = true ↔ name = "." := by
  constructor
  · intro dots
    have bytes : ∀ text ∈ [".", "%2e", "%2E"],
        Percent.decode text.toList = ".".toList.flatMap String.utf8EncodeChar := by decide
    have read := bytes _ (List.contains_iff_mem.1 dots)
    rw [Percent.decode_segment] at read
    exact String.toList_injective (utf8_injective read)
  · rintro rfl
    decide

/-- The one name whose segment stands for the folder around it. -/
theorem isDoubleDot_segment {name : String} :
    isDoubleDot (Percent.segment name) = true ↔ name = ".." := by
  constructor
  · intro dots
    have bytes : ∀ text ∈ ["..", ".%2e", ".%2E", "%2e.", "%2E.", "%2e%2e", "%2e%2E", "%2E%2e",
        "%2E%2E"], Percent.decode text.toList = "..".toList.flatMap String.utf8EncodeChar := by
      decide
    have read := bytes _ (List.contains_iff_mem.1 dots)
    rw [Percent.decode_segment] at read
    exact String.toList_injective (utf8_injective read)
  · rintro rfl
    decide

end Url

end Harvest
