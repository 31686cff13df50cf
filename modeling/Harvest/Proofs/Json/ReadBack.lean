import Harvest.Json.Read
import Harvest.Json.Write
import Mathlib.Data.Option.Basic

/-!
What is written is read back: text in quotes, whatever its characters, and objects of texts.
-/

namespace Harvest.Json

/-- How a written character is read: a control character without a letter of its own comes as a
number, and any other character as itself. -/
def pieceOf : Char → Piece
  | '\x08' => .plain '\x08'
  | '\x0c' => .plain '\x0c'
  | '\n' => .plain '\n'
  | '\r' => .plain '\r'
  | '\t' => .plain '\t'
  | character => if character.toNat < 0x20 then .escaped character.toNat else .plain character

/-- Hexadecimal digits are read back. -/
theorem valueOf?_digitChar {digit : Nat} (small : digit < 16) :
    Digits.valueOf? (Nat.digitChar digit) = some digit := by
  have all : ∀ digit : Fin 16, Digits.valueOf? (Nat.digitChar digit) = some digit.val := by decide
  exact all ⟨digit, small⟩

/-- A letter behind a backslash stands for its character. -/
theorem readPieces_letter {letter character : Char} (notNumber : letter ≠ 'u')
    (stands : escapeCharacter? letter = some character) (rest : List Char) :
    readPieces ('\\' :: letter :: rest) =
      (readPieces rest).map fun read => (.plain character :: read.1, read.2) := by
  rw [readPieces, stands]
  · cases readPieces rest <;> rfl
  · rintro first second third fourth remaining rfl
    contradiction

/-- Four digits behind a backslash and a `u` stand for a unit. -/
theorem readPieces_number {high low : Nat} (highSmall : high < 16) (lowSmall : low < 16)
    (rest : List Char) :
    readPieces ('\\' :: 'u' :: '0' :: '0' :: Nat.digitChar high :: Nat.digitChar low :: rest) =
      (readPieces rest).map fun read => (.escaped (16 * high + low) :: read.1, read.2) := by
  have zero : Digits.valueOf? '0' = some 0 := rfl
  rw [readPieces, zero, valueOf?_digitChar highSmall, valueOf?_digitChar lowSmall]
  cases readPieces rest with
  | none => rfl
  | some read => simp

/-- Any other character but a quote stands for itself. -/
theorem readPieces_plain {character : Char} (notQuote : character ≠ '"')
    (notBackslash : character ≠ '\\') (visible : 0x20 ≤ character.toNat) (rest : List Char) :
    readPieces (character :: rest) =
      (readPieces rest).map fun read => (.plain character :: read.1, read.2) := by
  have passes : (guard (character ≠ '\\' ∧ 0x20 ≤ character.toNat) : Option Unit) = some () :=
    if_pos ⟨notBackslash, visible⟩
  rw [readPieces, passes]
  · cases readPieces rest <;> rfl
  · exact notQuote
  · rintro first second third fourth remaining rfl
    contradiction
  · rintro letter remaining rfl
    contradiction

theorem readPieces_writeCharacter (character : Char) (rest : List Char) :
    readPieces (writeCharacter character ++ rest) =
      (readPieces rest).map fun read => (pieceOf character :: read.1, read.2) := by
  unfold writeCharacter
  split
  · exact readPieces_letter (by decide) rfl rest
  · exact readPieces_letter (by decide) rfl rest
  · exact readPieces_letter (by decide) rfl rest
  · exact readPieces_letter (by decide) rfl rest
  · exact readPieces_letter (by decide) rfl rest
  · exact readPieces_letter (by decide) rfl rest
  · exact readPieces_letter (by decide) rfl rest
  · next notQuote notBackslash _ _ _ _ _ =>
    have piece : pieceOf character =
        if character.toNat < 0x20 then .escaped character.toNat else .plain character := by
      rw [pieceOf] <;> assumption
    rw [piece]
    split
    · next control =>
      have parts : 16 * (character.toNat / 16) + character.toNat % 16 = character.toNat := by omega
      have number := readPieces_number (by omega : character.toNat / 16 < 16)
        (by omega : character.toNat % 16 < 16) rest
      rw [parts] at number
      exact number
    · next visible => exact readPieces_plain notQuote notBackslash (by omega) rest

/-- The pieces of a written text end at its closing quote. -/
theorem readPieces_written (characters rest : List Char) :
    readPieces (characters.flatMap writeCharacter ++ '"' :: rest) =
      some (characters.map pieceOf, rest) := by
  induction characters with
  | nil => rfl
  | cons character others ih =>
      rw [List.flatMap_cons, List.append_assoc, readPieces_writeCharacter, ih]
      rfl

/-- A character is read as itself, or by a number that is no surrogate. -/
theorem pieceOf_cases (character : Char) :
    pieceOf character = .plain character ∨
      pieceOf character = .escaped character.toNat ∧ character.toNat < 0xd800 := by
  unfold pieceOf
  split
  · exact .inl rfl
  · exact .inl rfl
  · exact .inl rfl
  · exact .inl rfl
  · exact .inl rfl
  · split
    · next control => exact .inr ⟨rfl, by omega⟩
    · exact .inl rfl

/-- A number that is no surrogate is a character on its own. -/
theorem joinPieces_escaped {codeUnit : Nat} (small : codeUnit < 0xd800) (rest : List Piece) :
    joinPieces (.escaped codeUnit :: rest) =
      (joinPieces rest).map (Char.ofNat codeUnit :: ·) := by
  have passes : (guard (codeUnit < 0xd800 ∨ 0xe000 ≤ codeUnit) : Option Unit) = some () :=
    if_pos (.inl small)
  by_cases paired : ∃ low others, rest = .escaped low :: others
  · obtain ⟨low, others, rfl⟩ := paired
    rw [joinPieces, if_neg (by omega), passes]
    cases joinPieces (.escaped low :: others) <;> rfl
  · rw [joinPieces, passes]
    · cases joinPieces rest <;> rfl
    · exact fun low others same => paired ⟨low, others, same⟩

/-- The pieces of a text form the text. -/
theorem joinPieces_pieceOf (characters : List Char) :
    joinPieces (characters.map pieceOf) = some characters := by
  induction characters with
  | nil => rfl
  | cons character others ih =>
      rw [List.map_cons]
      rcases pieceOf_cases character with plain | ⟨escaped, small⟩
      · rw [plain, joinPieces, ih]
        rfl
      · rw [escaped, joinPieces_escaped small, ih, Char.ofNat_toNat]
        rfl

/-- A text in quotes is read back. -/
theorem readText_written (contents : String) (rest : List Char) :
    readText (contents.toList.flatMap writeCharacter ++ '"' :: rest) =
      some (some contents, rest) := by
  unfold readText
  rw [readPieces_written]
  simp only [Option.bind_eq_bind, Option.bind_some, joinPieces_pieceOf]
  simp

theorem skipBlanks_cons {character : Char} (solid : isBlank character = false)
    (rest : List Char) : skipBlanks (character :: rest) = character :: rest := by
  simp [skipBlanks, solid]

theorem writeText_append (contents : String) (rest : List Char) :
    writeText contents ++ rest = '"' :: (contents.toList.flatMap writeCharacter ++ '"' :: rest) := by
  simp [writeText]

/-- A written text is read back as a document. -/
theorem readValue_writeText (fuel : Nat) (contents : String) (rest : List Char) :
    readValue (fuel + 1) (writeText contents ++ rest) = some (.text contents, rest) := by
  rw [writeText_append, readValue, skipBlanks_cons rfl]
  simp only [readText_written]
  rfl

/-- An object of texts. -/
def ofTexts (entries : List (String × String)) : List (String × Json) :=
  entries.map fun entry => (entry.1, .text entry.2)

/-- The members of an object of texts are read back up to the closing brace. -/
theorem readMembers_ofTexts (first : String × String) (others : List (String × String))
    {fuel : Nat} (enough : others.length + 2 ≤ fuel) (rest : List Char) :
    readMembers fuel (writeMembers (ofTexts (first :: others)) ++ '}' :: rest) =
      some ((ofTexts (first :: others)).map fun entry => (some entry.1, entry.2), rest) := by
  induction others generalizing first fuel with
  | nil =>
      obtain ⟨fuel, rfl⟩ : ∃ less, fuel = less + 2 := ⟨fuel - 2, by simp at enough; omega⟩
      have written : writeMembers (ofTexts [first]) ++ '}' :: rest =
          writeText first.1 ++ ':' :: (writeText first.2 ++ '}' :: rest) := by
        simp [ofTexts, writeMembers, write]
      rw [written, writeText_append, readMembers, skipBlanks_cons rfl]
      simp only [readText_written, Option.bind_eq_bind, Option.bind_some]
      rw [skipBlanks_cons rfl]
      simp only [readValue_writeText, Option.bind_some]
      rw [skipBlanks_cons rfl]
      rfl
  | cons second others ih =>
      obtain ⟨fuel, rfl⟩ : ∃ less, fuel = less + 2 := ⟨fuel - 2, by simp at enough; omega⟩
      have written : writeMembers (ofTexts (first :: second :: others)) ++ '}' :: rest =
          writeText first.1 ++ ':' :: (writeText first.2 ++ ',' ::
            (writeMembers (ofTexts (second :: others)) ++ '}' :: rest)) := by
        simp [ofTexts, writeMembers, write]
      rw [written, writeText_append, readMembers, skipBlanks_cons rfl]
      simp only [readText_written, Option.bind_eq_bind, Option.bind_some]
      rw [skipBlanks_cons rfl]
      simp only [readValue_writeText, Option.bind_some]
      rw [skipBlanks_cons rfl]
      simp only
      rw [ih second (by simp at enough ⊢; omega)]
      rfl

/-- The members of an object start with a quote. -/
theorem writeMembers_ofTexts (first : String × String) (others : List (String × String)) :
    ∃ tail, writeMembers (ofTexts (first :: others)) = '"' :: tail := by
  cases others with
  | nil => exact ⟨_, rfl⟩
  | cons second others => exact ⟨_, rfl⟩

/-- An object with readable keys is readable. -/
theorem objectOf_readable (members : List (String × Json)) :
    objectOf (members.map fun entry => (some entry.1, entry.2)) = .object members := by
  have readable : (members.map fun entry => (some entry.1, entry.2)).mapM
      (fun entry : Option String × Json => entry.1.map fun key => (key, entry.2)) =
        some members := by
    induction members with
    | nil => rfl
    | cons first others ih =>
        rw [List.map_cons, List.mapM_cons, ih]
        rfl
  unfold objectOf
  rw [readable]

/-- A member takes at least one character. -/
theorem length_le_length_writeMembers (members : List (String × Json)) :
    members.length ≤ (writeMembers members).length := by
  induction members with
  | nil => exact Nat.zero_le _
  | cons first others ih =>
      cases others with
      | nil =>
          simp only [writeMembers, writeText, List.length_append, List.length_cons]
          omega
      | cons second others =>
          simp only [writeMembers, List.length_append, List.length_cons] at ih ⊢
          omega

/-- An object of texts is read back from its text. -/
theorem ofText?_toText_ofTexts (entries : List (String × String)) :
    ofText? (toText (.object (ofTexts entries))) = some (.object (ofTexts entries)) := by
  have written : write (.object (ofTexts entries)) =
      '{' :: (writeMembers (ofTexts entries) ++ ['}']) := rfl
  have bound := length_le_length_writeMembers (ofTexts entries)
  have size : (ofTexts entries).length = entries.length := List.length_map _
  unfold ofText? toText
  rw [String.toList_ofList, String.length_ofList, written]
  generalize room : 2 * _ + 2 = fuel
  obtain ⟨fuel, rfl⟩ : ∃ less, fuel = less + 1 := ⟨fuel - 1, by omega⟩
  -- There is room for every member, because each takes some characters.
  have enough : entries.length + 1 ≤ fuel := by
    simp only [List.length_cons, List.length_append, List.length_nil] at room
    omega
  have read : readValue (fuel + 1) ('{' :: (writeMembers (ofTexts entries) ++ ['}'])) =
      some (.object (ofTexts entries), []) := by
    rw [readValue, skipBlanks_cons rfl]
    cases entries with
    | nil => rfl
    | cons first others =>
        have members := readMembers_ofTexts first others enough []
        obtain ⟨tail, opened⟩ := writeMembers_ofTexts first others
        rw [opened, List.cons_append] at members ⊢
        simp only
        rw [skipBlanks_cons rfl]
        split
        · next closed => cases closed
        · rw [members]
          simp only [Option.bind_eq_bind, Option.bind_some, objectOf_readable]
          rfl
  rw [read]
  rfl

end Harvest.Json
