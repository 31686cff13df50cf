import Harvest.Proofs.Filter.Acceptance

/-!
Values that are shown are read back. The text of a value without floating numbers and moments is
a filter that yields the value, because what is written in quotes is read without the quotes and
a comma or a bracket ends a number or a word.
-/

namespace Harvest.Filter

open Harvest.Result (ok_bind)

/-- The values that a filter can spell, with lists in lists up to a depth: the least integer has no
text, and neither has a character that is shown by its number. -/
inductive Value.Written : Nat → Value → Prop where
  | none {depth : Nat} : Written depth .none
  | bool {depth : Nat} (flag : Bool) : Written depth (.bool flag)
  | int {depth : Nat} {number : Int64} : number ≠ Int64.minValue → Written depth (.int number)
  | text {depth : Nat} {contents : String} :
      (∀ character ∈ contents.toList,
        Text.quoteCharacter character ≠ Text.escapeByNumber character) →
      Written depth (.text contents)
  | list {depth : Nat} {items : List Value} :
      (∀ item ∈ items, Written depth item) → Written (depth + 1) (.list items)

section Scanning

/-- Text behind a value: the end, or what separates the items of a list and closes it. -/
def Apart (rest : List Char) : Prop :=
  ∀ next ∈ rest.head?, next = ',' ∨ next = ']'

theorem apart_nil : Apart [] := by simp [Apart]

theorem apart_comma (rest : List Char) : Apart (',' :: rest) := by simp [Apart]

theorem apart_bracket (rest : List Char) : Apart (']' :: rest) := by simp [Apart]

/-- What stands apart goes on with no word and no number. -/
theorem Apart.ends {rest : List Char} (apart : Apart rest) (belongs : Char → Bool)
    (comma : belongs ',' = false) (bracket : belongs ']' = false) :
    ∀ next ∈ rest.head?, belongs next = false := by
  intro next first
  rcases apart next first with rfl | rfl
  · exact comma
  · exact bracket

/-- Characters are read as tokens, wherever the text behind them starts apart. -/
def Scans (offset : Nat) (characters : List Char) (words : List Token) (behind : Nat) : Prop :=
  ∀ rest following, Apart rest → tokensFrom behind rest = .ok following →
    tokensFrom offset (characters ++ rest) = .ok (words ++ following)

/-- A lexeme that is found whatever stands apart behind it is one token. -/
theorem scans_lexeme {head : Char} {tail : List Char} {lexeme : Lexeme}
    (solid : isBlank head = false) (offset : Nat)
    (found : ∀ rest, Apart rest →
      lexemeAt offset head (tail ++ rest) = .ok (lexeme, tail.length + 1)) :
    Scans offset (head :: tail) [⟨lexeme, offset⟩] (offset + byteLength (head :: tail)) :=
  fun _ _ apart split => tokensFrom_lexeme tail solid (found _ apart) split

end Scanning

section Lexemes

variable {rest : List Char}

/-- No fraction starts with what stands apart. -/
theorem Apart.fractionDigits_eq (apart : Apart rest) : fractionDigits rest = [] := by
  unfold fractionDigits
  split
  · next following => exact absurd (apart '.' rfl) (by decide)
  · rfl

/-- A quoted character is read back, unless it is shown by its number. -/
theorem quotedText?_quoteCharacter {character : Char}
    (shown : Text.quoteCharacter character ≠ Text.escapeByNumber character)
    (following : List Char) :
    quotedText? '"' (Text.quoteCharacter character ++ following) =
      (quotedText? '"' following).map fun read =>
        (character :: read.1, read.2 + (Text.quoteCharacter character).length) := by
  unfold Text.quoteCharacter at shown ⊢
  split
  · rfl
  · rfl
  · rfl
  · rfl
  · rfl
  · rfl
  · next _ _ _ _ notQuote notBackslash =>
      split
      · next escaped => simp [escaped] at shown
      · exact quotedText?_plain notQuote notBackslash following

/-- Characters in quotes are read back up to the closing quote. -/
theorem quotedText?_quoteCharacters {characters : List Char}
    (shown : ∀ character ∈ characters,
      Text.quoteCharacter character ≠ Text.escapeByNumber character) (rest : List Char) :
    quotedText? '"' (characters.flatMap Text.quoteCharacter ++ '"' :: rest) =
      some (characters, (characters.flatMap Text.quoteCharacter).length + 1) := by
  induction characters with
  | nil => rfl
  | cons character others ih =>
      rw [List.flatMap_cons, List.append_assoc,
        quotedText?_quoteCharacter (shown character List.mem_cons_self),
        ih fun other inside => shown other (List.mem_cons_of_mem character inside)]
      simp only [Option.map_some, List.length_append]
      congr 2
      omega

end Lexemes

section Phrases

variable {kind : ItemKind} {depth : Nat}

/-- A text spells a phrase at a depth wherever it stands. -/
def SpelledBy (kind : ItemKind) (depth : Nat) (phrase : Phrase) (text : String) : Prop :=
  ∀ offset, ∃ words behind, Derives kind depth phrase words ∧
    Scans offset text.toList words behind

/-- What spells an operand spells an expression. -/
theorem SpelledBy.loosen {tree : Expression} {text : String} {level : Level}
    (spelled : SpelledBy kind depth (.at level.tighter tree) text) :
    SpelledBy kind depth (.at level tree) text := by
  intro offset
  obtain ⟨words, behind, derives, scans⟩ := spelled offset
  exact ⟨words, behind, .loosen derives, scans⟩

/-- What spells a signed operand spells a whole expression. -/
theorem SpelledBy.whole {tree : Expression} {text : String}
    (spelled : SpelledBy kind depth (.at .signed tree) text) :
    SpelledBy kind depth (.at .disjunction tree) text :=
  .loosen (.loosen (.loosen (.loosen (.loosen (.loosen spelled)))))

/-- What spells an atom spells a whole expression. -/
theorem SpelledBy.atom {tree : Expression} {text : String}
    (spelled : SpelledBy kind depth (.at .atom tree) text) :
    SpelledBy kind depth (.at .disjunction tree) text :=
  .whole (.loosen (.loosen spelled))

/-- A lexeme that denotes a value spells it. -/
theorem spelledBy_literal {text : String} {head : Char} {tail : List Char} {lexeme : Lexeme}
    {value : Value} (denotes : lexeme.Denotes value) (spelling : text.toList = head :: tail)
    (solid : isBlank head = false)
    (found : ∀ offset rest, Apart rest →
      lexemeAt offset head (tail ++ rest) = .ok (lexeme, tail.length + 1)) :
    SpelledBy kind depth (.at .atom (.literal value)) text :=
  fun offset => ⟨_, _, .literal denotes, spelling ▸ scans_lexeme solid offset (found offset)⟩

/-- A keyword that denotes a value spells it. -/
theorem spelledBy_keyword {text : String} {head : Char} {tail : List Char} {keyword : Keyword}
    {value : Value} (denotes : (Lexeme.keyword keyword).Denotes value)
    (spelling : text.toList = head :: tail) (starts : isWordStart head)
    (goesOn : tail.all isWordPart = true) (solid : isBlank head = false)
    (known : Lexeme.ofWord text = .keyword keyword) :
    SpelledBy kind depth (.at .atom (.literal value)) text := by
  refine spelledBy_literal denotes spelling solid fun offset rest apart => ?_
  rw [lexemeAt_word offset starts (List.all_eq_true.1 goesOn)
    (apart.ends isWordPart (by decide) (by decide)), ← spelling, String.ofList_toList, known]

/-- A natural number that fits a word is spelled by its digits. -/
theorem spelledBy_digits {number : Nat} (fits : Word.Fits number) :
    SpelledBy kind depth (.at .atom (.literal (.int (Int64.ofInt number)))) number.repr := by
  obtain ⟨head, tail, digits, solid, read⟩ := lexemeAt_toDigits fits
  refine spelledBy_literal (.int _) (Nat.toList_repr.trans digits) solid
    fun offset rest apart => ?_
  exact read offset rest (apart.ends Char.isDigit (by decide) (by decide))
    apart.fractionDigits_eq (apart.ends isWordStart (by decide) (by decide))

/-- Text in quotes spells its contents, unless a character is shown by its number. -/
theorem spelledBy_quote {contents : String}
    (shown : ∀ character ∈ contents.toList,
      Text.quoteCharacter character ≠ Text.escapeByNumber character) :
    SpelledBy kind depth (.at .atom (.literal (.text contents))) (Text.quote contents) := by
  have spelling : (Text.quote contents).toList =
      '"' :: (contents.toList.flatMap Text.quoteCharacter ++ ['"']) := String.toList_ofList
  refine spelledBy_literal (.text contents) spelling rfl fun offset rest _ => ?_
  have read := quotedText?_quoteCharacters shown rest
  simp only [lexemeAt, List.append_assoc, List.singleton_append, read, String.ofList_toList,
    List.length_append, List.length_singleton]
  rfl

/-- A minus is an operator of its own, unless it is part of a binding. -/
theorem lexemeAt_minus (offset : Nat) {rest : List Char} (apart : ∀ next ∈ rest.head?, next ≠ '=') :
    lexemeAt offset '-' rest = .ok (.mark .minus, 1) := by
  have found : operator? ('-' :: rest) = some (.mark .minus, 1) := by
    rw [operator?]
    rintro tail ⟨⟩
    exact apart '=' rfl rfl
  simp only [lexemeAt, found]
  rfl

/-- A minus before a number spells its negative, one step deeper. -/
theorem spelledBy_minus {tree : Expression} {number : Nat} (within : depth < nestingLimit)
    (spelled : SpelledBy kind (depth + 1) (.at .signed tree) number.repr) :
    SpelledBy kind depth (.at .signed (.unary .minus tree)) ("-" ++ number.repr) := by
  intro offset
  obtain ⟨words, behind, derives, scans⟩ := spelled (offset + 1)
  have signed : Derives kind depth (.at .signed (.unary .minus tree))
      (⟨.mark .minus, offset⟩ :: words) := .sign .minus within derives
  refine ⟨_, behind, signed, fun rest following apart split => ?_⟩
  have noBinding : ∀ next ∈ (number.repr.toList ++ rest).head?, next ≠ '=' := by
    intro next first
    rw [Nat.toList_repr, List.head?_append_of_ne_nil _ Nat.toDigits_ne_nil] at first
    exact (digit_apart (Digits.isDigit_of_mem_toDigits (List.mem_of_mem_head? first))).2.2
  rw [String.toList_append]
  exact tokensFrom_lexeme [] rfl (lexemeAt_minus offset noBinding)
    (scans rest following apart split)

theorem spelledBy_emptyList (within : depth < nestingLimit) :
    SpelledBy kind depth (.at .atom (.list [])) "[]" := by
  intro offset
  have derives : Derives kind depth (.at .atom (.list []))
      [⟨.mark .openBracket, offset⟩, ⟨.mark .closeBracket, offset + 1⟩] := .emptyList within
  refine ⟨_, offset + 2, derives, fun rest following apart split => ?_⟩
  exact tokensFrom_lexeme [] rfl rfl (tokensFrom_lexeme [] rfl rfl split)

/-- Brackets around items spell a list. -/
theorem spelledBy_list {trees : List Expression} {text : String}
    (spelled : SpelledBy kind (depth + 1) (.items trees) text) :
    SpelledBy kind depth (.at .atom (.list trees)) ("[" ++ text ++ "]") := by
  intro offset
  obtain ⟨words, behind, derives, scans⟩ := spelled (offset + 1)
  have bracketed : Derives kind depth (.at .atom (.list trees))
      (⟨.mark .openBracket, offset⟩ :: words ++ [] ++ [⟨.mark .closeBracket, behind⟩]) :=
    .list derives .absent
  refine ⟨_, behind + 1, bracketed, fun rest following apart split => ?_⟩
  have closed : tokensFrom behind (']' :: rest) = .ok (⟨.mark .closeBracket, behind⟩ :: following) :=
    tokensFrom_lexeme [] rfl rfl split
  have opened := scans _ _ (apart_bracket rest) closed
  have all : tokensFrom offset ('[' :: (text.toList ++ ']' :: rest)) = _ :=
    tokensFrom_lexeme [] rfl rfl opened
  simpa using all

/-- The last item of a list stands one step deeper. -/
theorem spelledBy_lastItem {tree : Expression} {text : String} (within : depth < nestingLimit)
    (spelled : SpelledBy kind (depth + 1) (.at .disjunction tree) text) :
    SpelledBy kind depth (.items [tree]) text := by
  intro offset
  obtain ⟨words, behind, derives, scans⟩ := spelled offset
  exact ⟨words, behind, .lastItem within derives, scans⟩

/-- A comma and a blank separate an item from the items behind it. -/
theorem spelledBy_item {tree : Expression} {trees : List Expression} {first second : String}
    (within : depth < nestingLimit)
    (spelled : SpelledBy kind (depth + 1) (.at .disjunction tree) first)
    (others : SpelledBy kind depth (.items trees) second) :
    SpelledBy kind depth (.items (tree :: trees)) (first ++ ", " ++ second) := by
  intro offset
  obtain ⟨words, comma, derives, scans⟩ := spelled offset
  obtain ⟨more, behind, derivesMore, scansMore⟩ := others (comma + 1 + 1)
  have separated : Derives kind depth (.items (tree :: trees))
      (words ++ ⟨.mark .comma, comma⟩ :: more) := .item within derives derivesMore
  refine ⟨_, behind, separated, fun rest following apart split => ?_⟩
  have blank : isBlank ' ' = true := rfl
  have spaced := (tokensFrom_blank (comma + 1) blank _).trans (scansMore rest following apart split)
  have scanned : tokensFrom comma (',' :: ' ' :: (second.toList ++ rest)) =
      .ok (⟨.mark .comma, comma⟩ :: (more ++ following)) := tokensFrom_lexeme [] rfl rfl spaced
  have all := scans _ _ (apart_comma _) scanned
  simpa using all

end Phrases

section Values

variable {kind : ItemKind} {depth : Nat}

/-- A value is the value of an expression that its text spells. -/
def Value.ReadsBack (kind : ItemKind) (depth : Nat) (value : Value) : Prop :=
  ∃ tree, (∀ subject, evaluate subject tree = .ok value) ∧
    SpelledBy kind depth (.at .disjunction tree) value.display

/-- Items that are read back one by one are read back in a row. -/
theorem items_readBack (within : depth < nestingLimit) {first : Value} {others : List Value}
    (each : ∀ item ∈ first :: others, item.ReadsBack kind (depth + 1)) :
    ∃ trees, (∀ subject, evaluateAll subject trees = .ok (first :: others)) ∧
      SpelledBy kind depth (.items trees) (Value.displayItems (first :: others)) := by
  obtain ⟨tree, yields, spelled⟩ := each first List.mem_cons_self
  induction others generalizing first tree with
  | nil =>
      refine ⟨[tree], fun subject => ?_, spelledBy_lastItem within spelled⟩
      simp only [evaluateAll, yields, ok_bind]
      rfl
  | cons second others ih =>
      have rest : ∀ item ∈ second :: others, item.ReadsBack kind (depth + 1) :=
        fun item inside => each item (List.mem_cons_of_mem first inside)
      obtain ⟨next, yieldsNext, spelledNext⟩ := rest second List.mem_cons_self
      obtain ⟨trees, yieldAll, spelledAll⟩ := ih rest next yieldsNext spelledNext
      refine ⟨tree :: trees, fun subject => ?_, spelledBy_item within spelled spelledAll⟩
      rw [evaluateAll, yields, ok_bind, yieldAll]
      rfl

/-- An integer reads back as its digits, behind a minus if it is negative; only the least integer
has no opposite. -/
theorem readsBack_int (within : depth < nestingLimit) {number : Int64}
    (notLeast : number ≠ Int64.minValue) : (Value.int number).ReadsBack kind depth := by
  have shown : (Value.int number).display = number.toInt.repr := by
    rw [Value.display, Int.toString_eq_repr]
  unfold Value.ReadsBack
  rw [shown, Int.repr_eq_if]
  split
  · next positive =>
      have same : (number.toInt.toNat : Int) = number.toInt := Int.toNat_of_nonneg positive
      have fits : Word.Fits (number.toInt.toNat : Int) := same ▸ Word.fits_toInt number
      have word : Int64.ofInt (number.toInt.toNat : Int) = number := by
        rw [same, Int64.ofInt_toInt]
      refine ⟨_, fun subject => ?_, .atom (spelledBy_digits fits)⟩
      rw [evaluate, word]
  · next negative =>
      have same : ((-number.toInt).toNat : Int) = -number.toInt := Int.toNat_of_nonneg (by omega)
      have fits : Word.Fits ((-number.toInt).toNat : Int) := same ▸ Word.fits_neg_toInt notLeast
      have opposite : -(Int64.ofInt ((-number.toInt).toNat : Int)).toInt = number.toInt := by
        rw [Word.toInt_ofInt fits, same, Int.neg_neg]
      refine ⟨_, fun subject => ?_,
        .whole (spelledBy_minus within (.loosen (.loosen (spelledBy_digits fits))))⟩
      simp only [evaluate, ok_bind, applyUnary, Value.asInt?, Word.negate?, opposite,
        Word.ofInt?_toInt, intOrOverflow]

/-- A value that can be written reads back, with two steps of the nesting for each list. -/
theorem Value.Written.readsBack {value : Value} {nesting : Nat} (written : Written nesting value) :
    ∀ {depth}, depth + 2 * nesting < nestingLimit → value.ReadsBack kind depth := by
  induction written with
  | none =>
      intro depth _
      exact ⟨_, fun subject => by rw [evaluate],
        .atom (spelledBy_keyword .none rfl rfl rfl rfl rfl)⟩
  | bool flag =>
      intro depth _
      cases flag with
      | true =>
          exact ⟨_, fun subject => by rw [evaluate],
            .atom (spelledBy_keyword .true rfl rfl rfl rfl rfl)⟩
      | false =>
          exact ⟨_, fun subject => by rw [evaluate],
            .atom (spelledBy_keyword .false rfl rfl rfl rfl rfl)⟩
  | int notLeast =>
      intro depth budget
      exact readsBack_int (by omega) notLeast
  | text shown =>
      intro depth _
      exact ⟨_, fun subject => by rw [evaluate], .atom (spelledBy_quote shown)⟩
  | @list nesting items _ ih =>
      intro depth budget
      cases items with
      | nil =>
          exact ⟨_, fun subject => by rw [evaluate, evaluateAll, ok_bind]; rfl,
            .atom (spelledBy_emptyList (by omega))⟩
      | cons first others =>
          have each : ∀ item ∈ first :: others, item.ReadsBack kind (depth + 1 + 1) :=
            fun item inside => ih item inside (by omega)
          obtain ⟨trees, yieldAll, spelled⟩ := items_readBack (by omega) each
          exact ⟨.list trees, fun subject => by rw [evaluate, yieldAll, ok_bind]; rfl,
            .atom (spelledBy_list spelled)⟩

/-- A filter that shows a value yields the value: every value of `None`, truth values, integers
but the least, texts without characters shown by number, and lists of them up to 31 deep. -/
theorem shown_value_reads_back {value : Value} (written : value.Written 31) (kind : ItemKind) :
    ∃ predicate, Predicate.compile value.display kind = .ok predicate ∧
      ∀ subject, evaluate subject predicate.root = .ok value ∧
        (subject.kind = kind → predicate.test subject = .ok value.isTrue) := by
  have reads : value.ReadsBack kind 1 := written.readsBack (by decide)
  obtain ⟨tree, yields, spelled⟩ := reads
  obtain ⟨words, behind, derives, scans⟩ := spelled 0
  have split : tokensFrom 0 value.display.toList = .ok (words ++ [⟨.finish, behind⟩]) := by
    have all := scans [] [⟨.finish, behind⟩] apart_nil (tokensFrom_nil behind)
    rwa [List.append_nil] at all
  have tokenized : tokenize value.display = .ok (words ++ [⟨.finish, behind⟩]) := by
    rw [tokenize, split]
    rfl
  refine ⟨⟨value.display, kind, tree⟩,
    compile_eq_ok.2 ⟨rfl, rfl, words, behind, tokenized, derives⟩,
    fun subject => ⟨yields subject, ?_⟩⟩
  intro same
  simp only [Predicate.test, same, if_true, yields, ok_bind]
  rfl

/-- A list with a negative number, a text with a quote and a line end, and a list. -/
theorem shown_value_reads_back_list :
    let value : Value := .list [.int (-5), .text "a\"b\n", .list [.bool false, .none]]
    value.Written 31 ∧
      ∃ predicate, Predicate.compile "[-5, \"a\\\"b\\n\", [False, None]]" .post = .ok predicate ∧
        ∀ subject, evaluate subject predicate.root = .ok value ∧
          (subject.kind = .post → predicate.test subject = .ok true) := by
  intro value
  have inner : (Value.list [.bool false, .none]).Written 30 :=
    .list (by simpa using ⟨.bool false, .none⟩)
  have shown : ("a\"b\n".toList.all fun character =>
      Text.quoteCharacter character ≠ Text.escapeByNumber character) = true := by decide +kernel
  have written : value.Written 31 :=
    .list (by simpa using ⟨.int (by decide), .text (by simpa using shown), inner⟩)
  have spelling : value.display = "[-5, \"a\\\"b\\n\", [False, None]]" := by decide +kernel
  have reads := shown_value_reads_back written .post
  rw [spelling] at reads
  exact ⟨written, reads⟩

end Values

end Harvest.Filter
