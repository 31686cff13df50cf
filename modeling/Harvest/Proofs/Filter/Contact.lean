import Harvest.Proofs.Filter.Tokens

/-!
What stands directly behind a number. A letter or an underscore at the end of an integer is a fault
at that letter, so no word touches an integer. Behind a fraction it starts a word of its own.
-/

namespace Harvest.Filter

open Result (bind_eq_ok bind_eq_error mapError_eq_ok mapError_eq_error ok_bind)

/-- Reading from an offset takes blanks and lexemes off a text and comes to a rest. What a lexeme is
depends on all that follows it, so each step sees the rest as well. -/
inductive ReadsTo : Nat → List Char → List Char → Prop where
  | nothing (offset : Nat) (rest : List Char) : ReadsTo offset [] rest
  | blank {offset : Nat} {head : Char} {taken rest : List Char} (blank : isBlank head = true)
      (reads : ReadsTo (offset + 1) taken rest) : ReadsTo offset (head :: taken) rest
  | lexeme {offset : Nat} {head : Char} {tail taken rest : List Char} {lexeme : Lexeme}
      (solid : isBlank head = false)
      (found : lexemeAt offset head (tail ++ (taken ++ rest)) = .ok (lexeme, tail.length + 1))
      (reads : ReadsTo (offset + byteLength (head :: tail)) taken rest) :
      ReadsTo offset (head :: tail ++ taken) rest

/-- Integers. -/
def Lexeme.IsInteger : Lexeme → Prop
  | .int _ => True
  | _ => False

/-- Numbers with a fraction. -/
def Lexeme.IsFraction : Lexeme → Prop
  | .float _ => True
  | _ => False

/-- Names and keywords. -/
def Lexeme.IsWord : Lexeme → Prop
  | .name _ | .keyword _ => True
  | _ => False

/-- No blank stands in front of the second of two tokens. -/
def Touching (source : String) (first second : Token) : Prop :=
  EndsSolid (textBetween source first.offset second.offset).toList

/-- A run of digits. -/
structure IsDigits (run : List Char) : Prop where
  nonempty : run ≠ []
  inside : ∀ digit ∈ run, digit.isDigit = true

/-- A number as it is written: digits, and for a fraction a point and more digits. -/
inductive IsNumeral : List Char → Prop where
  | whole {whole : List Char} (digits : IsDigits whole) : IsNumeral whole
  | fraction {whole fraction : List Char} (digits : IsDigits whole) (decimals : IsDigits fraction) :
      IsNumeral (whole ++ '.' :: fraction)

/-- Reading comes to a number with a character directly behind it. -/
def Reaches (source : String) (taken number : List Char) (next : Char) : Prop :=
  ∃ rest, source.toList = taken ++ (number ++ next :: rest) ∧
    ReadsTo 0 taken (number ++ next :: rest)

/-- At an offset of a text a letter or an underscore stands at the end of an integer. -/
def GluedAt (source : String) (offset : Nat) : Prop :=
  ∃ taken whole letter, Reaches source taken whole letter ∧ IsDigits whole ∧
    isWordStart letter = true ∧ offset = byteLength (taken ++ whole)

/-- How numbers and words of a text stand to each other. -/
structure KeepsWordsOff (source : String) : Prop where
  /-- No word touches an integer. -/
  apart : ∀ {earlier first second later},
    tokenize source = .ok (earlier ++ first :: second :: later) → first.lexeme.IsInteger →
      second.lexeme.IsWord → ¬Touching source first second
  /-- A letter at the end of an integer is a fault at that letter, and only there is that fault. -/
  refused : ∀ offset, tokenize source = .error (.syntaxFault source offset .gluedNumber) ↔
    GluedAt source offset
  /-- A letter at the end of a fraction starts a word that touches it. -/
  admitted : ∀ {taken whole fraction letter tokens},
    Reaches source taken (whole ++ '.' :: fraction) letter → IsDigits whole → IsDigits fraction →
      isWordStart letter = true → tokenize source = .ok tokens →
        ∃ earlier first second later, tokens = earlier ++ first :: second :: later ∧
          first.offset = byteLength taken ∧ first.lexeme.IsFraction ∧ second.lexeme.IsWord ∧
          Touching source first second
  /-- No other letter is read at all, be it behind an integer or behind a fraction. -/
  foreign : ∀ {taken number letter}, Reaches source taken number letter → IsNumeral number →
    128 ≤ letter.toNat → ∃ offset fault, tokenize source = .error (.syntaxFault source offset fault)

section Steps

variable {offset : Nat} {head : Char} {tail taken rest : List Char}

/-- The tokens of a text are its first lexeme and the tokens of the rest. -/
theorem tokensFrom_step {lexeme : Lexeme} (solid : isBlank head = false)
    (found : lexemeAt offset head (tail ++ rest) = .ok (lexeme, tail.length + 1)) :
    tokensFrom offset (head :: tail ++ rest) =
      (tokensFrom (offset + byteLength (head :: tail)) rest).map (⟨lexeme, offset⟩ :: ·) := by
  rw [List.cons_append, tokensFrom, solid, if_neg Bool.false_ne_true, found, ok_bind]
  simp only [Nat.add_sub_cancel, List.drop_left, List.take_succ_cons, List.take_left]
  cases tokensFrom (offset + byteLength (head :: tail)) rest <;> rfl

/-- Where there is no lexeme, a text does not split. -/
theorem tokensFrom_fault {fault : Fault} (solid : isBlank head = false)
    (failed : lexemeAt offset head rest = .error fault) :
    tokensFrom offset (head :: rest) = .error fault := by
  rw [tokensFrom, solid, if_neg Bool.false_ne_true, failed]
  rfl

/-- The outcome of a text is that of the rest to which its reading comes, with the tokens before. -/
theorem ReadsTo.tokensFrom (reads : ReadsTo offset taken rest) :
    ∃ earlier, Filter.tokensFrom offset (taken ++ rest) =
      (Filter.tokensFrom (offset + byteLength taken) rest).map (earlier ++ ·) := by
  induction reads with
  | nothing offset rest =>
      refine ⟨[], ?_⟩
      rw [List.nil_append, byteLength, Nat.add_zero]
      cases Filter.tokensFrom offset rest <;> rfl
  | @blank offset head taken rest blank _ ih =>
      obtain ⟨earlier, same⟩ := ih
      refine ⟨earlier, ?_⟩
      rw [List.cons_append, tokensFrom_blank offset blank, same, byteLength_blank blank,
        Nat.add_assoc]
  | @lexeme offset head tail taken rest lexeme solid found _ ih =>
      obtain ⟨earlier, same⟩ := ih
      refine ⟨⟨lexeme, offset⟩ :: earlier, ?_⟩
      rw [List.append_assoc, tokensFrom_step solid found, same, byteLength_append, Nat.add_assoc]
      cases Filter.tokensFrom _ rest <;> rfl

/-- What cannot be read behind the point to which a reading comes is a fault of the whole text. -/
theorem ReadsTo.fault {fault : Fault} (reads : ReadsTo offset taken (head :: rest))
    (solid : isBlank head = false)
    (failed : lexemeAt (offset + byteLength taken) head rest = .error fault) :
    Filter.tokensFrom offset (taken ++ head :: rest) = .error fault := by
  obtain ⟨earlier, same⟩ := reads.tokensFrom
  rw [same, tokensFrom_fault solid failed]
  rfl

/-- A fault stands where reading comes to what is no lexeme. -/
theorem exists_readsTo_of_error {characters : List Char} {fault : Fault}
    (failed : tokensFrom offset characters = .error fault) :
    ∃ taken head rest, characters = taken ++ head :: rest ∧ ReadsTo offset taken (head :: rest) ∧
      isBlank head = false ∧ lexemeAt (offset + byteLength taken) head rest = .error fault := by
  induction offset, characters using tokensFrom.induct with
  | case1 offset =>
      rw [tokensFrom_nil] at failed
      contradiction
  | case2 offset head rest blank ih =>
      rw [tokensFrom_blank offset blank] at failed
      obtain ⟨taken, next, behind, rfl, reads, solid, missing⟩ := ih failed
      refine ⟨head :: taken, next, behind, rfl, .blank blank reads, solid, ?_⟩
      rwa [byteLength_blank blank, ← Nat.add_assoc]
  | case3 offset head rest solid ih =>
      rw [tokensFrom, if_neg solid] at failed
      replace solid : isBlank head = false := by simpa using solid
      rcases bind_eq_error.1 failed with missing | ⟨⟨lexeme, width⟩, found, following⟩
      · exact ⟨[], head, rest, rfl, .nothing _ _, solid, missing⟩
      · rcases bind_eq_error.1 following with later | ⟨_, _, finished⟩
        · obtain ⟨tail, behind, rfl, rfl, -⟩ := lexemeAt_ok found
          obtain ⟨taken, next, others, same, reads, apart, missing⟩ := ih _ later
          rw [Nat.add_sub_cancel, List.drop_left] at same
          rw [List.take_succ_cons, List.take_left] at reads missing
          subst same
          refine ⟨head :: tail ++ taken, next, others, ?_, .lexeme solid found reads, apart, ?_⟩
          · rw [List.append_assoc, List.cons_append]
          · rwa [byteLength_append, ← Nat.add_assoc]
        · contradiction

/-- The first token of a text stands behind blanks, and it is the end or the lexeme there. -/
theorem tokensFrom_eq_cons {characters : List Char} {token : Token} {later : List Token}
    (split : tokensFrom offset characters = .ok (token :: later)) :
    ∃ blanks rest, characters = blanks ++ rest ∧
      (∀ character ∈ blanks, isBlank character = true) ∧
      token.offset = offset + byteLength blanks ∧
      (later = [] ∧ token.lexeme = .finish ∨
        ∃ head tail behind, rest = head :: tail ++ behind ∧
          lexemeAt token.offset head (tail ++ behind) = .ok (token.lexeme, tail.length + 1) ∧
          tokensFrom (token.offset + byteLength (head :: tail)) behind = .ok later) := by
  induction offset, characters using tokensFrom.induct with
  | case1 offset =>
      rw [tokensFrom_nil] at split
      cases split
      exact ⟨[], [], rfl, List.forall_mem_nil _, rfl, .inl ⟨rfl, rfl⟩⟩
  | case2 offset head rest blank ih =>
      rw [tokensFrom_blank offset blank] at split
      obtain ⟨blanks, behind, rfl, only, place, stands⟩ := ih split
      refine ⟨head :: blanks, behind, rfl, List.forall_mem_cons.2 ⟨blank, only⟩, ?_, stands⟩
      rw [place, byteLength_blank blank, Nat.add_assoc]
  | case3 offset head rest solid _ =>
      rw [tokensFrom, if_neg solid] at split
      obtain ⟨⟨lexeme, width⟩, found, following⟩ := bind_eq_ok.1 split
      obtain ⟨others, splitLater, finished⟩ := bind_eq_ok.1 following
      cases finished
      obtain ⟨tail, behind, rfl, rfl, -⟩ := lexemeAt_ok found
      rw [Nat.add_sub_cancel, List.drop_left, List.take_succ_cons, List.take_left] at splitLater
      refine ⟨[], _, rfl, List.forall_mem_nil _, rfl, .inr ?_⟩
      exact ⟨head, tail, behind, rfl, found, splitLater⟩

/-- The tokens from any one on are those of a rest of the text. -/
theorem exists_rest_of_tokensFrom {characters : List Char} {earlier later : List Token}
    {token : Token} (split : tokensFrom offset characters = .ok (earlier ++ token :: later)) :
    ∃ taken rest, characters = taken ++ rest ∧
      tokensFrom (offset + byteLength taken) rest = .ok (token :: later) := by
  induction earlier generalizing offset characters with
  | nil => exact ⟨[], characters, rfl, split⟩
  | cons first others ih =>
      obtain ⟨blanks, rest, rfl, -, place, ended | ⟨head, tail, behind, rfl, -, following⟩⟩ :=
        tokensFrom_eq_cons split
      · simp at ended
      · obtain ⟨taken, final, rfl, same⟩ := ih following
        refine ⟨blanks ++ (head :: tail ++ taken), final, by simp, ?_⟩
        rwa [byteLength_append, byteLength_append, ← Nat.add_assoc, ← Nat.add_assoc, ← place]

end Steps

section Numbers

variable {offset width : Nat} {head letter : Char} {whole fraction rest : List Char}

/-- No digit starts a word. -/
theorem isDigit_of_isWordStart (starts : isWordStart letter = true) : letter.isDigit = false := by
  refine Bool.eq_false_iff.2 fun isDigit => ?_
  rw [(digit_apart isDigit).2.1] at starts
  contradiction

/-- A run of digits starts with a digit, which is no blank. -/
theorem IsDigits.exists_cons (digits : IsDigits whole) :
    ∃ head tail, whole = head :: tail ∧ head.isDigit = true ∧ isBlank head = false := by
  obtain ⟨head, tail, rfl⟩ := List.exists_cons_of_ne_nil digits.nonempty
  have isDigit := digits.inside head List.mem_cons_self
  exact ⟨head, tail, rfl, isDigit, (digit_apart isDigit).1⟩

/-- There is no fraction without a point. -/
theorem fractionDigits_of_ne_point (noPoint : letter ≠ '.') :
    fractionDigits (letter :: rest) = [] := by
  unfold fractionDigits
  split
  · next same =>
      cases same
      contradiction
  · rfl

/-- A letter at the end of an integer is a fault. -/
theorem numberAt_glued (digits : IsDigits whole) (starts : isWordStart letter = true) :
    numberAt offset (whole ++ letter :: rest) =
      .error (.atOffset (offset + byteLength whole) .gluedNumber) := by
  have ends : ∀ next ∈ (letter :: rest).head?, next.isDigit = false := by
    rintro _ ⟨⟩
    exact isDigit_of_isWordStart starts
  have noFraction : fractionDigits (letter :: rest) = [] := by
    refine fractionDigits_of_ne_point ?_
    rintro rfl
    contradiction
  simp only [numberAt, takeWhile_run_append digits.inside ends,
    dropWhile_run_append digits.inside ends, noFraction, List.isEmpty_nil, Bool.not_true,
    Bool.false_eq_true, if_false, List.head?_cons, Option.map_some, Option.getD_some, starts,
    if_true, byteLength_digits digits.inside]

/-- What starts with neither a letter nor a digit is no integer and no word, and no number is
glued there. -/
theorem lexemeAt_symbol (noWord : ¬isWordStart head = true) (noDigit : ¬head.isDigit = true) :
    (∀ lexeme width, lexemeAt offset head rest = .ok (lexeme, width) →
      ¬lexeme.IsInteger ∧ ¬lexeme.IsWord) ∧
      ∀ place, lexemeAt offset head rest ≠ .error (.atOffset place .gluedNumber) := by
  have spelled {lexeme : Lexeme} {width : Nat}
      (found : operator? (head :: rest) = some (lexeme, width)) :
      ¬lexeme.IsInteger ∧ ¬lexeme.IsWord := by
    unfold operator? at found
    split at found <;> cases found <;> exact ⟨id, id⟩
  by_cases quotes : head = '"' ∨ head = '\''
  · rw [lexemeAt_quote quotes]
    split
    · exact ⟨by rintro _ _ ⟨⟩; exact ⟨id, id⟩, nofun⟩
    · exact ⟨nofun, by rintro place ⟨⟩⟩
  · rw [lexemeAt_operator noWord noDigit quotes]
    split
    · next found => exact ⟨by rintro _ _ ⟨⟩; exact spelled found, nofun⟩
    · exact ⟨nofun, by rintro place ⟨⟩⟩

theorem lexemeAt_start (offset : Nat) (rest : List Char) (starts : isWordStart head = true) :
    ∃ spelling width, lexemeAt offset head rest = .ok (.ofWord spelling, width) := by
  rw [lexemeAt, if_pos starts]
  exact ⟨_, _, rfl⟩

theorem Lexeme.isWord_ofWord (spelling : String) : (Lexeme.ofWord spelling).IsWord := by
  unfold Lexeme.ofWord
  split <;> trivial

theorem Lexeme.IsWord.not_isInteger {lexeme : Lexeme} (word : lexeme.IsWord) :
    ¬lexeme.IsInteger := by
  cases lexeme <;> first | exact id | exact absurd word id

/-- A number is no word. -/
theorem not_isWord_of_numberAt {characters : List Char} {lexeme : Lexeme}
    (found : numberAt offset characters = .ok (lexeme, width)) : ¬lexeme.IsWord := by
  simp only [numberAt] at found
  split at found
  · cases found
    exact id
  · split at found
    · contradiction
    · split at found
      · cases found
        exact id
      · contradiction

/-- A word begins with a word start. -/
theorem isWordStart_of_isWord {lexeme : Lexeme} (word : lexeme.IsWord)
    (found : lexemeAt offset head rest = .ok (lexeme, width)) : isWordStart head = true := by
  by_contra noWord
  by_cases isDigit : head.isDigit = true
  · rw [lexemeAt_digit isDigit] at found
    exact not_isWord_of_numberAt found word
  · exact ((lexemeAt_symbol noWord isDigit).1 _ _ found).2 word

/-- A fault of a glued number stands at a letter at the end of an integer. -/
theorem lexemeAt_glued {place : Nat}
    (failed : lexemeAt offset head rest = .error (.atOffset place .gluedNumber)) :
    ∃ whole letter behind, head :: rest = whole ++ letter :: behind ∧ IsDigits whole ∧
      isWordStart letter = true ∧ place = offset + byteLength whole := by
  by_cases starts : isWordStart head = true
  · obtain ⟨spelling, width, found⟩ := lexemeAt_start offset rest starts
    rw [found] at failed
    contradiction
  by_cases isDigit : head.isDigit = true
  · rw [lexemeAt_digit isDigit] at failed
    have inside : ∀ digit ∈ (head :: rest).takeWhile Char.isDigit, digit.isDigit = true :=
      fun _ => List.mem_takeWhile_imp
    have split := (List.takeWhile_append_dropWhile (p := Char.isDigit) (l := head :: rest)).symm
    simp only [numberAt] at failed
    split at failed
    · contradiction
    · split at failed
      · next glued =>
          cases failed
          cases behind : (head :: rest).dropWhile Char.isDigit with
          | nil => simp [behind] at glued
          | cons letter others =>
              rw [behind] at split
              refine ⟨_, letter, others, split, ⟨?_, inside⟩, ?_, ?_⟩
              · simp [List.takeWhile_cons_of_pos isDigit]
              · simpa [behind] using glued
              · rw [byteLength_digits inside]
      · split at failed <;> cases failed
  · exact absurd failed ((lexemeAt_symbol starts isDigit).2 place)

/-- Behind an integer there is no word start. -/
theorem not_isWordStart_behind {tail : List Char} {lexeme : Lexeme} (integer : lexeme.IsInteger)
    (found : lexemeAt offset head (tail ++ letter :: rest) = .ok (lexeme, tail.length + 1)) :
    ¬isWordStart letter = true := by
  intro glued
  -- Only a number is an integer, and the lexer takes none that touches the letter.
  by_cases starts : isWordStart head = true
  · obtain ⟨spelling, width, same⟩ :=
      lexemeAt_start offset (tail ++ letter :: rest) starts
    rw [same] at found
    cases found
    exact (Lexeme.isWord_ofWord spelling).not_isInteger integer
  by_cases isDigit : head.isDigit = true
  · rw [lexemeAt_digit isDigit] at found
    have split := (List.takeWhile_append_dropWhile (p := Char.isDigit)
      (l := head :: (tail ++ letter :: rest)))
    simp only [numberAt] at found
    split at found
    · injection found with same
      injection same with fractional
      rw [← fractional] at integer
      exact integer
    · split at found
      · contradiction
      · next apart =>
          split at found
          · injection found with same
            injection same with _ width
            have behind : (head :: (tail ++ letter :: rest)).dropWhile Char.isDigit =
                letter :: rest := by
              rw [← List.cons_append] at split
              exact (List.append_inj split (by simpa using width)).2
            simp [behind, glued] at apart
          · contradiction
  · exact ((lexemeAt_symbol starts isDigit).1 _ _ found).1 integer

/-- A letter beyond ASCII is none of the characters that lexemes start with. -/
theorem ne_of_foreign (foreign : 128 ≤ letter.toNat) (other : Char) (ascii : other.toNat < 128) :
    letter ≠ other := by
  rintro rfl
  omega

/-- A word starts with an ASCII character. -/
theorem toNat_lt_of_isWordStart (starts : isWordStart letter = true) : letter.toNat < 128 := by
  rcases Bool.or_eq_true_iff.1 starts with letters | underscore
  · rcases Bool.or_eq_true_iff.1 letters with upper | lower
    · have inside : 'A'.val ≤ letter.val ∧ letter.val ≤ 'Z'.val := of_decide_eq_true upper
      exact (UInt32.le_iff_toNat_le.1 inside.2).trans_lt (by decide)
    · have inside : letter.val ≤ 'z'.val := of_decide_eq_true (Bool.and_eq_true_iff.1 lower).2
      exact (UInt32.le_iff_toNat_le.1 inside).trans_lt (by decide)
  · rw [eq_of_beq underscore]
    decide

theorem foreign_apart (foreign : 128 ≤ letter.toNat) :
    isWordStart letter = false ∧ letter.isDigit = false ∧ letter ≠ '.' := by
  refine ⟨Bool.eq_false_iff.2 fun starts => ?_, Bool.eq_false_iff.2 ?_,
    ne_of_foreign foreign '.' (by decide)⟩
  · exact absurd (toNat_lt_of_isWordStart starts) (Nat.not_lt.2 foreign)
  · simp only [ne_eq, Char.isDigit, Bool.and_eq_true, decide_eq_true_eq, UInt32.le_iff_toNat_le,
      ge_iff_le]
    rintro ⟨-, upper⟩
    exact absurd (foreign.trans upper) (by decide)

theorem foreign_solid (foreign : 128 ≤ letter.toNat) : isBlank letter = false := by
  refine Bool.eq_false_iff.2 fun blank => ?_
  simp only [isBlank, Bool.or_eq_true, beq_iff_eq] at blank
  rcases blank with (((rfl | rfl) | rfl) | rfl) | rfl <;> exact absurd foreign (by decide)

/-- A letter beyond ASCII starts no lexeme. -/
theorem lexemeAt_foreign (offset : Nat) (rest : List Char) (foreign : 128 ≤ letter.toNat) :
    lexemeAt offset letter rest = .error (.atOffset offset (.unexpectedCharacter letter)) := by
  obtain ⟨noWord, noDigit, -⟩ := foreign_apart foreign
  have noQuote : ¬(letter = '"' ∨ letter = '\'') := by
    rintro (same | same)
    · exact ne_of_foreign foreign '"' (by decide) same
    · exact ne_of_foreign foreign '\'' (by decide) same
  have noOperator : operator? (letter :: rest) = none := by
    unfold operator?
    split
    all_goals first
      | rfl
      | next same =>
          injection same with here
          exact absurd here (ne_of_foreign foreign _ (by decide))
  rw [lexemeAt_operator (Bool.eq_false_iff.1 noWord) (Bool.eq_false_iff.1 noDigit) noQuote,
    noOperator]

end Numbers

section Sources

variable {source : String} {taken whole fraction number : List Char} {letter : Char}

theorem tokenize_eq_ok {tokens : List Token} :
    tokenize source = .ok tokens ↔ tokensFrom 0 source.toList = .ok tokens :=
  mapError_eq_ok

theorem tokenize_eq_error {offset : Nat} {fault : SyntaxFault} :
    tokenize source = .error (.syntaxFault source offset fault) ↔
      tokensFrom 0 source.toList = .error (.atOffset offset fault) := by
  refine mapError_eq_error.trans ⟨?_, fun failed => ⟨_, failed, rfl⟩⟩
  rintro ⟨cause, failed, same⟩
  cases cause with
  | atOffset place found =>
      injection same with _ place found
      rw [failed, place, found]
  | _ => contradiction

/-- A token that is read is followed by the blanks up to the next one. -/
theorem exists_gap {earlier later : List Token} {first second : Token}
    (split : tokensFrom 0 source.toList = .ok (earlier ++ first :: second :: later)) :
    ∃ before head tail gap behind, source.toList = before ++ (head :: tail ++ gap) ++ behind ∧
      first.offset = byteLength before ∧
      lexemeAt first.offset head (tail ++ (gap ++ behind)) = .ok (first.lexeme, tail.length + 1) ∧
      (∀ character ∈ gap, isBlank character = true) ∧
      second.offset = byteLength before + byteLength (head :: tail ++ gap) ∧
      (second.lexeme = .finish ∨ ∃ next rest width, behind = next :: rest ∧
        lexemeAt second.offset next rest = .ok (second.lexeme, width)) := by
  obtain ⟨taken, rest, covers, here⟩ := exists_rest_of_tokensFrom split
  obtain ⟨blanks, rest, rfl, -, place, ended | ⟨head, tail, behind, rfl, found, following⟩⟩ :=
    tokensFrom_eq_cons here
  · simp at ended
  obtain ⟨gap, behind, rfl, only, nextPlace, stands⟩ := tokensFrom_eq_cons following
  have start : first.offset = byteLength (taken ++ blanks) := by
    rw [place, byteLength_append, Nat.zero_add]
  refine ⟨taken ++ blanks, head, tail, gap, behind, by simp [covers], start, found, only, ?_, ?_⟩
  · rw [nextPlace, start, byteLength_append (head :: tail), Nat.add_assoc]
  · rcases stands with ⟨-, finish⟩ | ⟨next, others, rest, rfl, read, -⟩
    · exact .inl finish
    · exact .inr ⟨next, others ++ rest, _, rfl, read⟩

/-- No word touches an integer. -/
theorem not_touching_integer {earlier later : List Token} {first second : Token}
    (split : tokensFrom 0 source.toList = .ok (earlier ++ first :: second :: later))
    (integer : first.lexeme.IsInteger) (word : second.lexeme.IsWord) :
    ¬Touching source first second := by
  obtain ⟨before, head, tail, gap, behind, covers, start, found, only, place, stands⟩ :=
    exists_gap split
  intro touching
  rw [Touching, start, place, textBetween_of_split covers, String.toList_ofList] at touching
  -- A gap would end in a blank in front of the second token.
  have noGap : gap = [] := by
    by_contra nonempty
    have blank := only _ (List.getLast_mem nonempty)
    have solid := touching (gap.getLast nonempty) (by simp [nonempty,
      List.getLast?_eq_some_getLast])
    rw [blank] at solid
    contradiction
  subst noGap
  obtain finish | ⟨next, rest, width, rfl, read⟩ := stands
  · rw [finish] at word
    exact word
  · exact not_isWordStart_behind integer found (isWordStart_of_isWord word read)

/-- The fault of a glued number stands where a letter does, at the end of an integer. -/
theorem gluedNumber_iff (offset : Nat) :
    tokenize source = .error (.syntaxFault source offset .gluedNumber) ↔ GluedAt source offset := by
  rw [tokenize_eq_error]
  constructor
  · intro failed
    obtain ⟨taken, head, rest, covers, reads, -, missing⟩ := exists_readsTo_of_error failed
    obtain ⟨whole, letter, behind, same, digits, starts, place⟩ := lexemeAt_glued missing
    rw [same] at covers reads
    refine ⟨taken, whole, letter, ⟨behind, covers, reads⟩, digits, starts, ?_⟩
    rw [place, byteLength_append, Nat.zero_add]
  · rintro ⟨taken, whole, letter, ⟨rest, covers, reads⟩, digits, starts, rfl⟩
    obtain ⟨head, tail, rfl, isDigit, solid⟩ := digits.exists_cons
    have failed : lexemeAt (0 + byteLength taken) head (tail ++ letter :: rest) = _ :=
      (lexemeAt_digit isDigit).trans (numberAt_glued digits starts)
    have refused := reads.fault solid failed
    rw [Nat.zero_add, ← byteLength_append] at refused
    rwa [covers]

/-- A fraction is read up to what is no digit. -/
theorem lexemeAt_fraction (offset : Nat) {head : Char} {tail rest : List Char}
    (digits : IsDigits (head :: tail)) (decimals : IsDigits fraction)
    (ends : ∀ next ∈ rest.head?, next.isDigit = false) :
    ∃ number, lexemeAt offset head (tail ++ '.' :: fraction ++ rest) =
      .ok (.float number, (tail ++ '.' :: fraction).length + 1) := by
  have read := numberAt_fraction offset digits.inside decimals.inside
    decimals.nonempty ends
  have width : (head :: tail).length + 1 + fraction.length =
      (tail ++ '.' :: fraction).length + 1 := by
    simp only [List.length_cons, List.length_append]
    omega
  rw [width] at read
  rw [lexemeAt_digit (digits.inside head List.mem_cons_self), List.append_assoc, List.cons_append]
  exact ⟨_, read⟩

/-- A fraction ends in a digit. -/
theorem endsSolid_fraction (before : List Char) (decimals : IsDigits fraction) :
    EndsSolid (before ++ '.' :: fraction) := by
  intro last isLast
  rw [List.getLast?_append_cons, List.getLast?_cons_of_ne_nil decimals.nonempty] at isLast
  exact (digit_apart (decimals.inside last (List.mem_of_mem_getLast? isLast))).1

/-- A letter starts a word. -/
theorem tokensFrom_word {offset : Nat} {rest : List Char} {tokens : List Token}
    (starts : isWordStart letter = true) (split : tokensFrom offset (letter :: rest) = .ok tokens) :
    ∃ spelling later, tokens = ⟨.ofWord spelling, offset⟩ :: later := by
  have solid := isBlank_of_isWordPart (isWordPart_of_isWordStart starts)
  obtain ⟨spelling, width, found⟩ := lexemeAt_start offset rest starts
  rw [tokensFrom, solid, if_neg Bool.false_ne_true, found, ok_bind] at split
  obtain ⟨later, -, finished⟩ := bind_eq_ok.1 split
  cases finished
  exact ⟨spelling, later, rfl⟩

/-- A letter at the end of a fraction starts a word that touches it. -/
theorem word_touches_fraction {tokens : List Token}
    (reaches : Reaches source taken (whole ++ '.' :: fraction) letter) (digits : IsDigits whole)
    (decimals : IsDigits fraction) (starts : isWordStart letter = true)
    (split : tokenize source = .ok tokens) :
    ∃ earlier first second later, tokens = earlier ++ first :: second :: later ∧
      first.offset = byteLength taken ∧ first.lexeme.IsFraction ∧ second.lexeme.IsWord ∧
      Touching source first second := by
  obtain ⟨rest, covers, reads⟩ := reaches
  obtain ⟨head, tail, rfl, -, solid⟩ := digits.exists_cons
  have ends : ∀ next ∈ (letter :: rest).head?, next.isDigit = false := by
    rintro _ ⟨⟩
    exact isDigit_of_isWordStart starts
  obtain ⟨number, found⟩ := lexemeAt_fraction (byteLength taken) digits decimals ends
  obtain ⟨earlier, whole⟩ := reads.tokensFrom
  rw [Nat.zero_add] at whole
  have step := tokensFrom_step solid found
  rw [tokenize_eq_ok, covers, whole] at split
  change (tokensFrom _ (head :: (tail ++ '.' :: fraction) ++ letter :: rest)).map _ = _ at split
  rw [step] at split
  -- What is left starts with the letter, so the next token is a word at that place.
  cases behind : tokensFrom (byteLength taken + byteLength (head :: (tail ++ '.' :: fraction)))
      (letter :: rest) with
  | error fault =>
      rw [behind] at split
      contradiction
  | ok following =>
      obtain ⟨spelling, later, rfl⟩ := tokensFrom_word starts behind
      rw [behind] at split
      cases split
      refine ⟨earlier, _, _, later, rfl, rfl, trivial, Lexeme.isWord_ofWord spelling, ?_⟩
      have between : source.toList =
          taken ++ (head :: (tail ++ '.' :: fraction)) ++ letter :: rest := by simp [covers]
      rw [Touching, textBetween_of_split between, String.toList_ofList]
      exact endsSolid_fraction (head :: tail) decimals

/-- Up to a letter beyond ASCII, a number is read or out of range. -/
theorem lexemeAt_numeral (offset : Nat) (rest : List Char) (numeral : IsNumeral number)
    (foreign : 128 ≤ letter.toNat) :
    ∃ head tail, number = head :: tail ∧ isBlank head = false ∧
      ((∃ lexeme, lexemeAt offset head (tail ++ letter :: rest) = .ok (lexeme, tail.length + 1)) ∨
        ∃ fault, lexemeAt offset head (tail ++ letter :: rest) =
          .error (.atOffset offset fault)) := by
  obtain ⟨noWord, noDigit, noPoint⟩ := foreign_apart foreign
  have ends : ∀ next ∈ (letter :: rest).head?, next.isDigit = false := by
    rintro _ ⟨⟩
    exact noDigit
  cases numeral with
  | fraction digits decimals =>
      obtain ⟨head, tail, rfl, -, solid⟩ := digits.exists_cons
      obtain ⟨value, found⟩ := lexemeAt_fraction offset digits decimals ends
      exact ⟨head, _, rfl, solid, .inl ⟨_, found⟩⟩
  | whole digits =>
      obtain ⟨head, tail, rfl, isDigit, solid⟩ := digits.exists_cons
      have read := numberAt_whole offset digits.inside ends
        (fractionDigits_of_ne_point noPoint) (by rintro _ ⟨⟩; exact noWord)
      refine ⟨head, tail, rfl, solid, ?_⟩
      rw [lexemeAt_digit isDigit]
      split at read
      · exact .inl ⟨_, read⟩
      · exact .inr ⟨_, read⟩

/-- A letter beyond ASCII behind a number is a fault. -/
theorem foreign_refused (reaches : Reaches source taken number letter) (numeral : IsNumeral number)
    (foreign : 128 ≤ letter.toNat) :
    ∃ offset fault, tokenize source = .error (.syntaxFault source offset fault) := by
  obtain ⟨rest, covers, reads⟩ := reaches
  obtain ⟨head, tail, rfl, solid, ⟨lexeme, found⟩ | ⟨fault, failed⟩⟩ :=
    lexemeAt_numeral (0 + byteLength taken) rest numeral foreign
  · obtain ⟨earlier, whole⟩ := reads.tokensFrom
    have behind := tokensFrom_fault (foreign_solid foreign)
      (lexemeAt_foreign (0 + byteLength taken + byteLength (head :: tail)) rest foreign)
    rw [← covers, tokensFrom_step solid found, behind] at whole
    exact ⟨_, _, tokenize_eq_error.2 whole⟩
  · have refused : tokensFrom 0 (taken ++ (head :: tail ++ letter :: rest)) = _ :=
      reads.fault solid failed
    rw [← covers] at refused
    exact ⟨_, fault, tokenize_eq_error.2 refused⟩

end Sources

/-- In every text words and numbers stand to each other as follows. A letter or an underscore at
the end of an integer is a fault at that letter, so that no word touches an integer; at the end of
a fraction it starts a word that touches the fraction. A letter beyond ASCII is a fault behind
either. -/
theorem words_keep_off_integers (source : String) : KeepsWordsOff source where
  apart split := not_touching_integer (tokenize_eq_ok.1 split)
  refused := gluedNumber_iff
  admitted := word_touches_fraction
  foreign := foreign_refused

/-- A word touches the fraction in front of it. -/
theorem word_is_glued_to_fraction :
    ¬∀ source earlier first second later,
      tokenize source = .ok (earlier ++ first :: second :: later) →
        first.lexeme.IsInteger ∨ first.lexeme.IsFraction → second.lexeme.IsWord →
          ¬Touching source first second := by
  intro apart
  have reaches : Reaches "1.5abc" [] (['1'] ++ '.' :: ['5']) 'a' :=
    ⟨['b', 'c'], rfl, .nothing _ _⟩
  have splits : (tokenize "1.5abc").isOk = true := by decide +kernel
  cases split : tokenize "1.5abc" with
  | error fault =>
      rw [split] at splits
      contradiction
  | ok tokens =>
      have digits : IsDigits ['1'] := ⟨List.cons_ne_nil _ _, List.forall_mem_singleton.2 rfl⟩
      have decimals : IsDigits ['5'] := ⟨List.cons_ne_nil _ _, List.forall_mem_singleton.2 rfl⟩
      obtain ⟨earlier, first, second, later, rfl, -, fractional, word, touching⟩ :=
        word_touches_fraction reaches digits decimals rfl split
      exact apart "1.5abc" earlier first second later split (.inr fractional) word touching

end Harvest.Filter
