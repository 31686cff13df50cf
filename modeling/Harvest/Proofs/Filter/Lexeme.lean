import Harvest.Filter.Token.Scan
import Harvest.Proofs.Number.Digits
import Harvest.Proofs.Number.Word
import Harvest.Proofs.Result
import Mathlib.Data.String.Basic

/-!
The lexeme at the head of a text. It ends where its characters end, so it is the same lexeme with
nothing behind it, and it never ends in a blank. Where there is none, the fault stands at a
character of the text. The tokens of a text are its first lexeme and the tokens behind that.
-/

namespace Harvest.Filter

open Result (bind_eq_ok ok_bind)

section Bytes

theorem byteLength_eq_utf8Len (characters : List Char) :
    byteLength characters = String.utf8Len characters := by
  induction characters with
  | nil => rfl
  | cons character rest ih => rw [byteLength, String.utf8Len, ih, Nat.add_comm]

theorem byteLength_append (first second : List Char) :
    byteLength (first ++ second) = byteLength first + byteLength second := by
  simp only [byteLength_eq_utf8Len, String.utf8Len_append]

theorem byteLength_toList (text : String) : byteLength text.toList = text.utf8ByteSize := by
  rw [byteLength_eq_utf8Len, String.utf8Len_toList]

/-- A digit takes one byte. -/
theorem byteLength_digits {digits : List Char}
    (inside : ∀ digit ∈ digits, digit.isDigit = true) : byteLength digits = digits.length := by
  induction digits with
  | nil => rfl
  | cons digit rest ih =>
      obtain ⟨isDigit, others⟩ := List.forall_mem_cons.1 inside
      have single : digit.utf8Size = 1 :=
        Digits.forall_isDigit (fun digit => digit.utf8Size = 1) (by decide) isDigit
      rw [byteLength, single, ih others, List.length_cons, Nat.add_comm]

end Bytes

/-- The last of some characters is no blank. -/
def EndsSolid (characters : List Char) : Prop :=
  ∀ last ∈ characters.getLast?, isBlank last = false

/-- Characters without blanks do not end in one. -/
theorem EndsSolid.of_forall {characters : List Char} {belongs : Char → Bool}
    (solid : ∀ character, belongs character = true → isBlank character = false)
    (inside : ∀ character ∈ characters, belongs character = true) : EndsSolid characters :=
  fun last ended => solid last (inside last (List.mem_of_mem_getLast? ended))

theorem isBlank_of_isWordPart {character : Char} (part : isWordPart character = true) :
    isBlank character = false := by
  by_contra blank
  simp only [isBlank, Bool.not_eq_false, Bool.or_eq_true, beq_iff_eq] at blank
  rcases blank with (((rfl | rfl) | rfl) | rfl) | rfl <;> exact absurd part (by decide)

theorem isWordPart_of_isWordStart {character : Char} (starts : isWordStart character = true) :
    isWordPart character = true := by
  simp only [isWordStart, Bool.or_eq_true] at starts
  rcases starts with letter | underscore
  · simp [isWordPart, Char.isAlphanum, letter]
  · simp [isWordPart, underscore]

/-- Nothing goes on behind the end. -/
theorem head?_nil_apart (belongs : Char → Bool) :
    ∀ next ∈ ([] : List Char).head?, belongs next = false := by
  simp

section Numbers

variable {whole fraction rest : List Char}

theorem fractionDigits_point (inside : ∀ digit ∈ fraction, digit.isDigit = true)
    (ends : ∀ next ∈ rest.head?, next.isDigit = false) :
    fractionDigits ('.' :: (fraction ++ rest)) = fraction :=
  takeWhile_run_append inside ends

/-- Digits, a point and digits are a floating number, up to what is no digit. -/
theorem numberAt_fraction (offset : Nat) (inside : ∀ digit ∈ whole, digit.isDigit = true)
    (decimals : ∀ digit ∈ fraction, digit.isDigit = true) (nonempty : fraction ≠ [])
    (ends : ∀ next ∈ rest.head?, next.isDigit = false) :
    numberAt offset (whole ++ '.' :: (fraction ++ rest)) =
      .ok (.float (Binary64.ofDecimal false (Digits.decimal (whole ++ fraction))
        (-fraction.length)), whole.length + 1 + fraction.length) := by
  have point : ∀ next ∈ ('.' :: (fraction ++ rest)).head?, next.isDigit = false := by
    rintro _ ⟨⟩
    rfl
  simp only [numberAt, takeWhile_run_append inside point, dropWhile_run_append inside point,
    fractionDigits_point decimals ends, List.isEmpty_eq_false_iff.2 nonempty, Bool.not_false,
    if_true]

/-- Digits are an integer, up to what is no digit, no word and no fraction. -/
theorem numberAt_whole (offset : Nat) (inside : ∀ digit ∈ whole, digit.isDigit = true)
    (ends : ∀ next ∈ rest.head?, next.isDigit = false) (noFraction : fractionDigits rest = [])
    (noWord : ∀ next ∈ rest.head?, isWordStart next = false) :
    numberAt offset (whole ++ rest) =
      match Word.ofInt? (Digits.decimal whole) with
      | some number => .ok (.int number, whole.length)
      | none => .error (.atOffset offset (.integerOutOfRange (String.ofList whole))) := by
  have apart : (rest.head?.map isWordStart).getD false = false := by
    cases rest with
    | nil => rfl
    | cons next rest => exact noWord next rfl
  cases fits : Word.ofInt? (Digits.decimal whole) <;>
    simp only [numberAt, takeWhile_run_append inside ends, dropWhile_run_append inside ends,
      noFraction, apart, List.isEmpty_nil, Bool.not_true, Bool.false_eq_true, if_false, fits]

/-- An integer is read from its digits. -/
theorem numberAt_toDigits (offset : Nat) {number : Nat} (fits : Word.Fits number)
    (ends : ∀ next ∈ rest.head?, next.isDigit = false) (noFraction : fractionDigits rest = [])
    (noWord : ∀ next ∈ rest.head?, isWordStart next = false) :
    numberAt offset (Nat.toDigits 10 number ++ rest) =
      .ok (.int (Int64.ofInt number), (Nat.toDigits 10 number).length) := by
  rw [numberAt_whole offset (fun _ => Digits.isDigit_of_mem_toDigits) ends noFraction noWord,
    Digits.decimal_toDigits, Word.ofInt?, if_pos fits]

end Numbers

section Quoted

variable {quote : Char}

/-- A character that is neither the quote nor a backslash stands for itself. -/
theorem quotedText?_plain {character : Char} (notQuote : character ≠ quote)
    (notBackslash : character ≠ '\\') (following : List Char) :
    quotedText? quote (character :: following) =
      (quotedText? quote following).map fun read => (character :: read.1, read.2 + 1) := by
  rw [quotedText?, if_neg notBackslash, if_neg notQuote]
  rintro escaped rest rfl
  exact absurd rfl notBackslash

/-- The quote ends the text. -/
theorem quotedText?_close (notBackslash : quote ≠ '\\') (following : List Char) :
    quotedText? quote (quote :: following) = some ([], 1) := by
  rw [quotedText?, if_neg notBackslash, if_pos rfl]
  rintro escaped rest rfl
  exact absurd rfl notBackslash

end Quoted

section Heads

variable {offset : Nat} {head : Char} {tail rest : List Char}

/-- Digits are no blanks and start no word and no text. -/
theorem digit_apart {digit : Char} (isDigit : digit.isDigit = true) :
    isBlank digit = false ∧ isWordStart digit = false ∧ digit ≠ '=' :=
  Digits.forall_isDigit (fun digit => isBlank digit = false ∧ isWordStart digit = false ∧
    digit ≠ '=') (by decide) isDigit

/-- A word is read up to what goes on with no word. -/
theorem lexemeAt_word (offset : Nat) (starts : isWordStart head = true)
    (goesOn : ∀ character ∈ tail, isWordPart character = true)
    (ends : ∀ next ∈ rest.head?, isWordPart next = false) :
    lexemeAt offset head (tail ++ rest) =
      .ok (.ofWord (String.ofList (head :: tail)), tail.length + 1) := by
  simp only [lexemeAt, starts, if_true, takeWhile_run_append goesOn ends, List.length_cons]

theorem lexemeAt_digit (isDigit : head.isDigit = true) :
    lexemeAt offset head rest = numberAt offset (head :: rest) := by
  rw [lexemeAt, (digit_apart isDigit).2.1, isDigit, if_neg Bool.false_ne_true, if_pos rfl]

/-- The digits of an integer that fits a word are read as the integer. -/
theorem lexemeAt_toDigits {number : Nat} (fits : Word.Fits number) :
    ∃ head tail, Nat.toDigits 10 number = head :: tail ∧ isBlank head = false ∧
      ∀ offset rest, (∀ next ∈ rest.head?, next.isDigit = false) → fractionDigits rest = [] →
        (∀ next ∈ rest.head?, isWordStart next = false) →
        lexemeAt offset head (tail ++ rest) =
          .ok (.int (Int64.ofInt number), tail.length + 1) := by
  have nonempty : Nat.toDigits 10 number ≠ [] := Nat.toDigits_ne_nil
  obtain ⟨head, tail, same⟩ := List.exists_cons_of_ne_nil nonempty
  have isDigit : head.isDigit = true :=
    Digits.isDigit_of_mem_toDigits (same ▸ List.mem_cons_self : head ∈ Nat.toDigits 10 number)
  refine ⟨head, tail, same, (digit_apart isDigit).1, fun offset rest ends noFraction noWord => ?_⟩
  have read := numberAt_toDigits offset fits ends noFraction noWord
  rw [same] at read
  rw [lexemeAt_digit isDigit]
  exact read

theorem lexemeAt_quote (quotes : head = '"' ∨ head = '\'') :
    lexemeAt offset head rest =
      match quotedText? head rest with
      | some (contents, width) => .ok (.text (String.ofList contents), width + 1)
      | none => .error (.atOffset offset .unterminatedText) := by
  rcases quotes with rfl | rfl <;> rfl

theorem lexemeAt_operator (noWord : ¬isWordStart head = true) (noDigit : ¬head.isDigit = true)
    (noQuote : ¬(head = '"' ∨ head = '\'')) :
    lexemeAt offset head rest =
      match operator? (head :: rest) with
      | some found => .ok found
      | none => .error (.atOffset offset (.unexpectedCharacter head)) := by
  cases found : operator? (head :: rest) <;>
    simp only [lexemeAt, if_neg noWord, if_neg noDigit, if_neg noQuote, found]

end Heads

/-- A lexeme that some characters are by themselves; the last of them is no blank. -/
structure Lexeme.WrittenAs (lexeme : Lexeme) (head : Char) (tail : List Char) : Prop where
  found : ∀ offset, lexemeAt offset head tail = .ok (lexeme, tail.length + 1)
  solid : EndsSolid (head :: tail)

section Forms

variable {offset width : Nat} {head : Char} {rest : List Char} {lexeme : Lexeme}

/-- A number takes its digits, and a fraction with its point. -/
theorem numberAt_ok (isDigit : head.isDigit = true)
    (found : numberAt offset (head :: rest) = .ok (lexeme, width)) :
    ∃ tail following, rest = tail ++ following ∧ width = tail.length + 1 ∧
      (∀ offset, numberAt offset (head :: tail) = .ok (lexeme, width)) ∧
      EndsSolid (head :: tail) := by
  have solid (character : Char) (digit : character.isDigit = true) : isBlank character = false :=
    (digit_apart digit).1
  have digits : ∀ digit ∈ head :: rest.takeWhile Char.isDigit, digit.isDigit = true :=
    List.forall_mem_cons.2 ⟨isDigit, fun _ => List.mem_takeWhile_imp⟩
  have split := (List.takeWhile_append_dropWhile (p := Char.isDigit) (l := rest)).symm
  simp only [numberAt, List.takeWhile_cons_of_pos isDigit, List.dropWhile_cons_of_pos isDigit]
    at found
  -- Only these three facts are needed of the digits and of what is behind them.
  generalize rest.takeWhile Char.isDigit = whole at found digits split
  generalize rest.dropWhile Char.isDigit = behind at found split
  split at found
  · next fractional =>
      cases found
      obtain ⟨more, rfl⟩ : ∃ more, behind = '.' :: more := by
        unfold fractionDigits at fractional
        split at fractional
        · next more => exact ⟨more, rfl⟩
        · simp at fractional
      have decimals : ∀ digit ∈ more.takeWhile Char.isDigit, digit.isDigit = true :=
        fun _ => List.mem_takeWhile_imp
      have ended := (List.takeWhile_append_dropWhile (p := Char.isDigit) (l := more)).symm
      simp only [fractionDigits] at fractional ⊢
      generalize more.takeWhile Char.isDigit = fraction at fractional decimals ended ⊢
      have nonempty : fraction ≠ [] := by simpa using fractional
      refine ⟨whole ++ '.' :: fraction, more.dropWhile Char.isDigit, ?_, ?_, fun offset => ?_, ?_⟩
      · rw [split, List.append_assoc, List.cons_append, ← ended]
      · simp only [List.length_append, List.length_cons]
        omega
      · have alone := numberAt_fraction offset digits decimals nonempty
          (head?_nil_apart Char.isDigit)
        rwa [List.append_nil] at alone
      · intro last isLast
        rw [← List.cons_append, List.getLast?_append_cons,
          List.getLast?_cons_of_ne_nil nonempty] at isLast
        exact solid last (decimals last (List.mem_of_mem_getLast? isLast))
  · split at found
    · cases found
    · split at found
      · next number fits =>
          cases found
          refine ⟨whole, behind, split, rfl, fun offset => ?_, .of_forall solid digits⟩
          have alone := numberAt_whole offset digits (head?_nil_apart Char.isDigit) rfl
            (head?_nil_apart isWordStart)
          rwa [List.append_nil, fits] at alone
      · cases found

/-- Quoted text takes its characters up to the closing quote. -/
theorem quotedText?_eq_some {quote : Char} {contents characters : List Char}
    (found : quotedText? quote characters = some (contents, width)) :
    ∃ taken following, characters = taken ++ following ∧ width = taken.length ∧
      quotedText? quote taken = some (contents, width) ∧ taken.getLast? = some quote := by
  induction characters using quotedText?.induct quote generalizing contents width with
  | case1 => contradiction
  | case2 escaped rest ih =>
      obtain ⟨⟨others, more⟩, read, same⟩ := Option.map_eq_some_iff.1 found
      cases same
      obtain ⟨taken, following, rfl, rfl, alone, closed⟩ := ih read
      refine ⟨'\\' :: escaped :: taken, following, rfl, rfl, ?_, ?_⟩
      · rw [quotedText?, alone, Option.map_some]
      · rw [List.getLast?_cons, List.getLast?_cons, closed, Option.getD_some, Option.getD_some]
  | case3 rest unpaired =>
      rw [quotedText?, if_pos rfl] at found
      · contradiction
      · exact unpaired
  | case4 rest unpaired notBackslash =>
      rw [quotedText?_close notBackslash] at found
      cases found
      exact ⟨[quote], rest, rfl, rfl, quotedText?_close notBackslash [], rfl⟩
  | case5 character rest unpaired notBackslash notQuote ih =>
      rw [quotedText?_plain notQuote notBackslash] at found
      obtain ⟨⟨others, more⟩, read, same⟩ := Option.map_eq_some_iff.1 found
      cases same
      obtain ⟨taken, following, rfl, rfl, alone, closed⟩ := ih read
      refine ⟨character :: taken, following, rfl, rfl, ?_, ?_⟩
      · rw [quotedText?_plain notQuote notBackslash, alone, Option.map_some]
      · rw [List.getLast?_cons, closed, Option.getD_some]

/-- An operator takes its spelling. -/
theorem operator?_eq_some (found : operator? (head :: rest) = some (lexeme, width)) :
    ∃ tail following, rest = tail ++ following ∧ width = tail.length + 1 ∧
      operator? (head :: tail) = some (lexeme, width) ∧ EndsSolid (head :: tail) := by
  unfold operator? at found
  split at found <;> cases found
  all_goals
    rename_i spelled
    cases spelled
  all_goals first
    | exact ⟨[], _, rfl, rfl, rfl, by simp [EndsSolid, isBlank]⟩
    | exact ⟨[_], _, rfl, rfl, rfl, by simp [EndsSolid, isBlank]⟩
    | exact ⟨[_, _], _, rfl, rfl, rfl, by simp [EndsSolid, isBlank]⟩

end Forms

section Lexemes

variable {offset width : Nat} {head : Char} {rest : List Char} {lexeme : Lexeme}

/-- A lexeme takes some characters off a text, and it is theirs with nothing behind them. -/
theorem lexemeAt_ok (found : lexemeAt offset head rest = .ok (lexeme, width)) :
    ∃ tail following, rest = tail ++ following ∧ width = tail.length + 1 ∧
      lexeme.WrittenAs head tail := by
  -- The cases are those of the lexer, in its order.
  by_cases starts : isWordStart head = true
  · simp only [lexemeAt, if_pos starts] at found
    cases found
    have goesOn : ∀ character ∈ rest.takeWhile isWordPart, isWordPart character = true :=
      fun _ => List.mem_takeWhile_imp
    refine ⟨rest.takeWhile isWordPart, rest.dropWhile isWordPart,
      List.takeWhile_append_dropWhile.symm, rfl, fun offset => ?_, ?_⟩
    · have alone := lexemeAt_word offset starts goesOn (head?_nil_apart isWordPart)
      rwa [List.append_nil] at alone
    · exact .of_forall (fun _ => isBlank_of_isWordPart)
        (List.forall_mem_cons.2 ⟨isWordPart_of_isWordStart starts, goesOn⟩)
  by_cases isDigit : head.isDigit = true
  · rw [lexemeAt_digit isDigit] at found
    obtain ⟨tail, following, split, rfl, alone, solid⟩ := numberAt_ok isDigit found
    exact ⟨tail, following, split, rfl, fun offset => by rw [lexemeAt_digit isDigit, alone], solid⟩
  by_cases quotes : head = '"' ∨ head = '\''
  · rw [lexemeAt_quote quotes] at found
    split at found
    · next contents more read =>
        cases found
        obtain ⟨taken, following, split, rfl, alone, closed⟩ := quotedText?_eq_some read
        refine ⟨taken, following, split, rfl, fun offset => ?_, fun last isLast => ?_⟩
        · rw [lexemeAt_quote quotes, alone]
        · rw [List.getLast?_cons, closed, Option.getD_some, Option.mem_some_iff] at isLast
          rcases quotes with rfl | rfl <;> subst isLast <;> rfl
    · contradiction
  · rw [lexemeAt_operator starts isDigit quotes] at found
    split at found
    · next read =>
        cases found
        obtain ⟨tail, following, split, rfl, alone, solid⟩ := operator?_eq_some read
        exact ⟨tail, following, split, rfl,
          fun offset => by rw [lexemeAt_operator starts isDigit quotes, alone], solid⟩
    · contradiction

/-- A fault of a number stands at its first character, or at a word that touches its end. -/
theorem numberAt_error {fault : Fault} {characters : List Char} (nonempty : characters ≠ [])
    (failed : numberAt offset characters = .error fault) :
    ∃ before after found, characters = before ++ after ∧ after ≠ [] ∧
      fault = .atOffset (offset + byteLength before) found := by
  have digits : ∀ digit ∈ characters.takeWhile Char.isDigit, digit.isDigit = true :=
    fun _ => List.mem_takeWhile_imp
  have split := (List.takeWhile_append_dropWhile (p := Char.isDigit) (l := characters)).symm
  simp only [numberAt] at failed
  split at failed
  · contradiction
  · split at failed
    · next glued =>
        cases failed
        refine ⟨_, _, .gluedNumber, split, ?_, by rw [byteLength_digits digits]⟩
        intro ended
        rw [ended] at glued
        contradiction
    · split at failed
      · contradiction
      · cases failed
        exact ⟨[], characters, _, rfl, nonempty, rfl⟩

/-- Where there is no lexeme, the fault stands at a character of the text. -/
theorem lexemeAt_error {fault : Fault} (failed : lexemeAt offset head rest = .error fault) :
    ∃ before after found, head :: rest = before ++ after ∧ after ≠ [] ∧
      fault = .atOffset (offset + byteLength before) found := by
  have here (found : SyntaxFault) : ∃ before after found', head :: rest = before ++ after ∧
      after ≠ [] ∧ Fault.atOffset offset found = .atOffset (offset + byteLength before) found' :=
    ⟨[], head :: rest, found, rfl, List.cons_ne_nil _ _, rfl⟩
  unfold lexemeAt at failed
  split at failed
  · contradiction
  · split at failed
    · exact numberAt_error (List.cons_ne_nil _ _) failed
    · split at failed
      · split at failed
        · contradiction
        · cases failed
          exact here _
      · split at failed
        · contradiction
        · cases failed
          exact here _

end Lexemes

section Tokens

theorem Lexeme.ofWord_ne_finish (spelling : String) : Lexeme.ofWord spelling ≠ .finish := by
  unfold Lexeme.ofWord
  split <;> simp

theorem numberAt_ne_finish {offset width : Nat} {characters : List Char} {lexeme : Lexeme}
    (found : numberAt offset characters = .ok (lexeme, width)) : lexeme ≠ .finish := by
  simp only [numberAt] at found
  split at found
  · cases found
    simp
  · split at found
    · contradiction
    · split at found
      · cases found
        simp
      · contradiction

theorem operator?_ne_finish {characters : List Char} {lexeme : Lexeme} {width : Nat}
    (found : operator? characters = some (lexeme, width)) : lexeme ≠ .finish := by
  unfold operator? at found
  split at found <;> cases found <;> simp

/-- No text spells the end. -/
theorem lexemeAt_ne_finish {offset width : Nat} {head : Char} {rest : List Char} {lexeme : Lexeme}
    (found : lexemeAt offset head rest = .ok (lexeme, width)) : lexeme ≠ .finish := by
  simp only [lexemeAt] at found
  split at found
  · cases found
    exact Lexeme.ofWord_ne_finish _
  · split at found
    · exact numberAt_ne_finish found
    · split at found
      · split at found
        · cases found
          simp
        · contradiction
      · split at found
        · next spelled =>
            cases found
            exact operator?_ne_finish spelled
        · contradiction

theorem tokensFrom_nil (offset : Nat) : tokensFrom offset [] = .ok [⟨.finish, offset⟩] := by
  rw [tokensFrom]

/-- A blank is passed over. -/
theorem tokensFrom_blank (offset : Nat) {head : Char} (blank : isBlank head = true)
    (rest : List Char) : tokensFrom offset (head :: rest) = tokensFrom (offset + 1) rest := by
  rw [tokensFrom, if_pos blank]

/-- A token and the tokens behind it. -/
theorem tokensFrom_cons {offset width : Nat} {head : Char} {rest : List Char} {lexeme : Lexeme}
    {following : List Token} (solid : isBlank head = false)
    (found : lexemeAt offset head rest = .ok (lexeme, width))
    (split : tokensFrom (offset + byteLength ((head :: rest).take width)) (rest.drop (width - 1)) =
      .ok following) :
    tokensFrom offset (head :: rest) = .ok (⟨lexeme, offset⟩ :: following) := by
  rw [tokensFrom, solid, if_neg Bool.false_ne_true, found, ok_bind]
  simp only [split]
  rfl

/-- The end comes once, behind the words of a text. -/
theorem tokensFrom_finish {offset : Nat} {characters : List Char} {tokens : List Token}
    (split : tokensFrom offset characters = .ok tokens) :
    ∃ words last, tokens = words ++ [⟨.finish, last⟩] ∧ ∀ word ∈ words, word.lexeme ≠ .finish := by
  induction offset, characters using tokensFrom.induct generalizing tokens with
  | case1 offset =>
      rw [tokensFrom_nil] at split
      cases split
      exact ⟨[], offset, rfl, by simp⟩
  | case2 offset head rest blank ih =>
      rw [tokensFrom_blank offset blank] at split
      exact ih split
  | case3 offset head rest solid ih =>
      rw [tokensFrom, if_neg solid] at split
      obtain ⟨⟨lexeme, width⟩, found, following⟩ := bind_eq_ok.1 split
      obtain ⟨later, splitLater, finished⟩ := bind_eq_ok.1 following
      cases finished
      obtain ⟨words, last, rfl, inside⟩ := ih width splitLater
      exact ⟨⟨lexeme, offset⟩ :: words, last, rfl,
        List.forall_mem_cons.2 ⟨lexemeAt_ne_finish found, inside⟩⟩

/-- A lexeme takes its characters and leaves the rest. -/
theorem tokensFrom_lexeme {offset : Nat} {head : Char} (tail : List Char) {rest : List Char}
    {lexeme : Lexeme} {following : List Token} (solid : isBlank head = false)
    (found : lexemeAt offset head (tail ++ rest) = .ok (lexeme, tail.length + 1))
    (split : tokensFrom (offset + byteLength (head :: tail)) rest = .ok following) :
    tokensFrom offset (head :: tail ++ rest) = .ok (⟨lexeme, offset⟩ :: following) := by
  refine tokensFrom_cons solid found ?_
  simpa using split

end Tokens

end Harvest.Filter
