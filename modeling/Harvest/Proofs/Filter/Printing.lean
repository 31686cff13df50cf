import Harvest.Proofs.Filter.Lexeme

/-!
Lexemes that are written are read again. Between single spaces no lexeme runs into the next, and
text in quotes of either kind holds every character, because a backslash stands before each quote
and each backslash.
-/

namespace Harvest.Filter

open Result (mapError_eq_ok)

/-- A character inside quotes, behind a backslash if it is a backslash or the quote. -/
def escapedFor (quote character : Char) : List Char :=
  if character = quote ∨ character = '\\' then ['\\', character] else [character]

/-- A text between two quotes. -/
def inQuotes (quote : Char) (contents : String) : String :=
  String.ofList (quote :: (contents.toList.flatMap (escapedFor quote) ++ [quote]))

/-- The texts of a lexeme: a name of ASCII letters, digits and underscores, a natural number in
decimal digits, text in quotes of either kind, and the one spelling of everything else. -/
inductive Lexeme.Printed : Lexeme → String → Prop where
  | name {head : Char} {tail : List Char} :
      (head.isAlpha = true ∨ head = '_') →
      (∀ character ∈ tail, character.isAlphanum = true ∨ character = '_') →
      (∀ keyword : Keyword, keyword.word ≠ String.ofList (head :: tail)) →
      Printed (.name (String.ofList (head :: tail))) (String.ofList (head :: tail))
  | int {number : Int64} : 0 ≤ number.toInt → Printed (.int number) (toString number.toInt)
  | text {quote : Char} (contents : String) :
      quote = '\'' ∨ quote = '"' → Printed (.text contents) (inQuotes quote contents)
  | keyword (keyword : Keyword) : Printed (.keyword keyword) keyword.word
  | mark (mark : Mark) : Printed (.mark mark) mark.spelling
  | binding (operator : Binding) : Printed (.binding operator) operator.spelling

/-- Nothing or a space comes next. -/
def Separate (rest : List Char) : Prop :=
  ∀ next ∈ rest.head?, next = ' '

section Forms

variable {rest : List Char}

theorem Separate.ends (separate : Separate rest) (belongs : Char → Bool)
    (space : belongs ' ' = false) : ∀ next ∈ rest.head?, belongs next = false := by
  intro next first
  rw [separate next first]
  exact space

theorem Separate.fractionDigits_eq (separate : Separate rest) : fractionDigits rest = [] := by
  unfold fractionDigits
  split
  · next following => exact absurd (separate '.' rfl) (by decide)
  · rfl

/-- Characters in quotes are read back up to the closing quote. -/
theorem quotedText?_escapedFor {quote : Char} (notBackslash : quote ≠ '\\')
    (plain : unescape quote = quote) (characters rest : List Char) :
    quotedText? quote (characters.flatMap (escapedFor quote) ++ quote :: rest) =
      some (characters, (characters.flatMap (escapedFor quote)).length + 1) := by
  induction characters with
  | nil => exact quotedText?_close notBackslash rest
  | cons character others ih =>
      rw [List.flatMap_cons, List.append_assoc, escapedFor]
      split
      · next escaped =>
          have same : unescape character = character := by
            rcases escaped with rfl | rfl
            · exact plain
            · rfl
          simp only [List.cons_append, List.nil_append, quotedText?, ih, Option.map_some, same,
            List.length_cons]
      · next unescaped =>
          rw [not_or] at unescaped
          rw [List.singleton_append, quotedText?_plain unescaped.1 unescaped.2, ih]
          simp only [Option.map_some, List.singleton_append, List.length_cons]

/-- A word that is no keyword is a name. -/
theorem ofWord_of_ne {word : String} (other : ∀ keyword : Keyword, keyword.word ≠ word) :
    Lexeme.ofWord word = .name word := by
  have unknown : Keyword.ofWord? word = none := by
    rw [Keyword.ofWord?, List.find?_eq_none]
    intro keyword _
    simpa using other keyword
  rw [Lexeme.ofWord, unknown]

/-- A keyword is read from its word. -/
theorem ofWord_word (keyword : Keyword) : Lexeme.ofWord keyword.word = .keyword keyword := by
  cases keyword <;> rfl

end Forms

/-- The text of a lexeme is read as the lexeme with nothing or a space behind it. -/
def Lexeme.ReadFrom (lexeme : Lexeme) (characters : List Char) : Prop :=
  ∃ head tail, characters = head :: tail ∧ isBlank head = false ∧
    ∀ offset rest, Separate rest →
      lexemeAt offset head (tail ++ rest) = .ok (lexeme, tail.length + 1)

/-- A word is read up to the space behind it. -/
theorem readFrom_word {head : Char} {tail : List Char} (starts : isWordStart head = true)
    (goesOn : ∀ character ∈ tail, isWordPart character = true) :
    (Lexeme.ofWord (String.ofList (head :: tail))).ReadFrom (head :: tail) :=
  ⟨head, tail, rfl, isBlank_of_isWordPart (isWordPart_of_isWordStart starts),
    fun offset _ separate => lexemeAt_word offset starts goesOn (separate.ends isWordPart rfl)⟩

/-- An operator is read as itself if it is with nothing and with a space behind it. -/
theorem readFrom_operator {lexeme : Lexeme} {head : Char} {tail : List Char}
    (solid : isBlank head = false) (last : ∀ offset, lexemeAt offset head tail =
      .ok (lexeme, tail.length + 1))
    (spaced : ∀ offset rest, lexemeAt offset head (tail ++ ' ' :: rest) =
      .ok (lexeme, tail.length + 1)) : lexeme.ReadFrom (head :: tail) := by
  refine ⟨head, tail, rfl, solid, fun offset rest separate => ?_⟩
  cases rest with
  | nil =>
      rw [List.append_nil]
      exact last offset
  | cons next rest =>
      rw [separate next rfl]
      exact spaced offset rest

theorem Lexeme.Printed.readFrom {lexeme : Lexeme} {text : String}
    (printed : lexeme.Printed text) : lexeme.ReadFrom text.toList := by
  cases printed with
  | @name head tail starts goesOn other =>
      have read : (Lexeme.ofWord (String.ofList (head :: tail))).ReadFrom (head :: tail) :=
        readFrom_word (by simpa [isWordStart] using starts) (by simpa [isWordPart] using goesOn)
      rw [ofWord_of_ne other] at read
      rwa [String.toList_ofList]
  | @int number natural =>
      have same : (number.toInt.toNat : Int) = number.toInt := Int.toNat_of_nonneg natural
      have fits : Word.Fits (number.toInt.toNat : Int) := same ▸ Word.fits_toInt number
      obtain ⟨head, tail, digits, solid, read⟩ := lexemeAt_toDigits fits
      rw [same, Int64.ofInt_toInt] at read
      refine ⟨head, tail, ?_, solid, fun offset rest separate => ?_⟩
      · rw [← digits, ← Nat.toList_repr, ← same]
        rfl
      · exact read offset rest (separate.ends Char.isDigit rfl) separate.fractionDigits_eq
          (separate.ends isWordStart rfl)
  | @text quote contents quotes =>
      have marks : quote = '"' ∨ quote = '\'' := quotes.symm
      have plain : quote ≠ '\\' ∧ unescape quote = quote ∧ isBlank quote = false := by
        rcases quotes with rfl | rfl <;> decide
      rw [inQuotes, String.toList_ofList]
      refine ⟨_, _, rfl, plain.2.2, fun offset rest _ => ?_⟩
      rw [List.append_assoc, List.singleton_append, lexemeAt_quote marks,
        quotedText?_escapedFor plain.1 plain.2.1, List.length_append]
      simp only [String.ofList_toList, List.length_singleton]
  | keyword keyword =>
      rw [← ofWord_word]
      cases keyword <;> exact readFrom_word rfl (List.all_eq_true.1 rfl)
  | mark mark => cases mark <;> exact readFrom_operator rfl (fun _ => rfl) (fun _ _ => rfl)
  | binding operator =>
      cases operator <;> exact readFrom_operator rfl (fun _ => rfl) (fun _ _ => rfl)

/-- A lexeme that is read goes before the tokens behind it. -/
theorem Lexeme.ReadFrom.tokensFrom {lexeme : Lexeme} {characters rest : List Char}
    (read : lexeme.ReadFrom characters) (separate : Separate rest) (offset : Nat)
    {following : List Token}
    (split : Filter.tokensFrom (offset + byteLength characters) rest = .ok following) :
    Filter.tokensFrom offset (characters ++ rest) = .ok (⟨lexeme, offset⟩ :: following) := by
  obtain ⟨head, tail, rfl, solid, found⟩ := read
  exact tokensFrom_lexeme tail solid (found offset rest separate) split

/-- Lexemes with a space between each two are read one by one, from any offset. -/
theorem tokensFrom_printed {lexemes : List Lexeme} {texts : List String}
    (printed : List.Forall₂ Lexeme.Printed lexemes texts) (offset : Nat) :
    ∃ tokens, tokensFrom offset (" ".intercalate texts).toList = .ok tokens ∧
      tokens.map Token.lexeme = lexemes ++ [.finish] := by
  induction printed generalizing offset with
  | nil => exact ⟨_, tokensFrom_nil offset, rfl⟩
  | @cons lexeme text others texts first rest ih =>
      cases rest with
      | nil =>
          have separate : Separate [] := by simp [Separate]
          have split := first.readFrom.tokensFrom separate offset (tokensFrom_nil _)
          rw [List.append_nil] at split
          exact ⟨[⟨lexeme, offset⟩, ⟨.finish, _⟩], by simpa using split, rfl⟩
      | @cons next nextText others texts second rest =>
          obtain ⟨tokens, split, same⟩ := ih (offset + byteLength text.toList + 1)
          have space : isBlank ' ' = true := rfl
          rw [← tokensFrom_blank _ space] at split
          have all := first.readFrom.tokensFrom (by rintro _ ⟨⟩; rfl) offset split
          exact ⟨⟨lexeme, offset⟩ :: tokens, by simpa [String.intercalate_cons_cons] using all,
            congrArg (lexeme :: ·) same⟩

/-- Lexemes that are written with single spaces between them are read again as the same lexemes,
with the end behind them: names, natural numbers that fit a word, texts of any characters in
quotes of either kind, keywords, marks and bindings, in any order. -/
theorem printed_tokens_read_back {lexemes : List Lexeme} {texts : List String}
    (printed : List.Forall₂ Lexeme.Printed lexemes texts) :
    ∃ tokens, tokenize (" ".intercalate texts) = .ok tokens ∧
      tokens.map Token.lexeme = lexemes ++ [.finish] := by
  obtain ⟨tokens, split, same⟩ := tokensFrom_printed printed 0
  exact ⟨tokens, mapError_eq_ok.2 split, same⟩

/-- A name, two divisions, a text with both quotes, a backslash and a line end, an assignment. -/
theorem printed_tokens_read_back_mixed :
    let lexemes : List Lexeme := [.name "del_", .mark .slash, .mark .doubleSlash,
      .text "\"é'\\\n", .int 9223372036854775807, .binding .plain]
    let texts := ["del_", "/", "//", "'\"é\\'\\\\\n'", "9223372036854775807", "="]
    List.Forall₂ Lexeme.Printed lexemes texts ∧
      ∃ tokens, tokenize "del_ / // '\"é\\'\\\\\n' 9223372036854775807 =" = .ok tokens ∧
        tokens.map Token.lexeme = lexemes ++ [.finish] := by
  intro lexemes texts
  have letters : ∀ character ∈ ['e', 'l', '_'],
      character.isAlphanum = true ∨ character = '_' := by
    intro character inside
    simp only [List.mem_cons, List.not_mem_nil, or_false] at inside
    rcases inside with rfl | rfl | rfl
    · exact .inl rfl
    · exact .inl rfl
    · exact .inr rfl
  have name : Lexeme.Printed (.name "del_") "del_" :=
    .name (.inl rfl) letters (fun keyword => by cases keyword <;> decide)
  have quoted : Lexeme.Printed (.text "\"é'\\\n") "'\"é\\'\\\\\n'" :=
    .text "\"é'\\\n" (.inl rfl)
  have number : Lexeme.Printed (.int 9223372036854775807) "9223372036854775807" :=
    .int (by decide)
  have printed : List.Forall₂ Lexeme.Printed lexemes texts :=
    .cons name (.cons (.mark .slash) (.cons (.mark .doubleSlash) (.cons quoted
      (.cons number (.cons (.binding .plain) .nil)))))
  exact ⟨printed, printed_tokens_read_back printed⟩

end Harvest.Filter
