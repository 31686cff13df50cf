import Harvest.Filter.Predicate
import Harvest.Proofs.Filter.Completeness
import Harvest.Proofs.Filter.Lexeme
import Harvest.Proofs.Filter.Soundness

/-!
The compiler accepts the texts that the grammar derives, with the trees that it gives them. The
audit for mutations comes before the parser, so a derivation also has to pass the audit.
-/

namespace Harvest.Filter

open Result

/-- These lexemes bind nothing and open or close no bracket. -/
def Lexeme.quiet : Lexeme → Bool
  | .binding _ | .keyword .del => false
  | .mark .openParen | .mark .openBracket | .mark .closeParen | .mark .closeBracket => false
  | _ => true

/-- The audit passes over some tokens and leaves the brackets as they were. -/
def Audited (brackets : List Bool) (before : List Lexeme) (tokens : List Token) : Prop :=
  ∀ rest, mutationAfter brackets before (tokens ++ rest) =
    mutationAfter brackets ((tokens.map Token.lexeme).reverse ++ before) rest

section Audit

variable {kind : ItemKind} {depth : Nat} {phrase : Phrase} {tokens first second : List Token}
  {brackets : List Bool} {before : List Lexeme}

theorem Audited.nil : Audited brackets before [] := fun _ => rfl

theorem Audited.append (left : Audited brackets before first)
    (right : Audited brackets ((first.map Token.lexeme).reverse ++ before) second) :
    Audited brackets before (first ++ second) := by
  intro rest
  rw [List.append_assoc, left, right]
  simp

/-- A quiet token concerns no later one. -/
theorem Audited.quiet {lexeme : Lexeme} {offset : Nat} (quiet : lexeme.quiet)
    (following : Audited brackets (lexeme :: before) tokens) :
    Audited brackets before (⟨lexeme, offset⟩ :: tokens) := by
  intro rest
  have passed : mutationAfter brackets before (⟨lexeme, offset⟩ :: (tokens ++ rest)) =
      mutationAfter brackets (lexeme :: before) (tokens ++ rest) := by
    cases lexeme with
    | keyword word => cases word <;> first | rfl | contradiction
    | mark mark => cases mark <;> first | rfl | contradiction
    | binding => contradiction
    | _ => rfl
  rw [List.cons_append, passed, following]
  simp

theorem Audited.quietAll (quiet : ∀ token ∈ tokens, token.lexeme.quiet) :
    Audited brackets before tokens := by
  induction tokens generalizing before with
  | nil => exact .nil
  | cons token tokens ih =>
      exact .quiet (quiet token List.mem_cons_self)
        (ih fun other inside => quiet other (List.mem_cons_of_mem token inside))

/-- Parentheses are audited with the bracket that opens them. -/
theorem Audited.parentheses {opening closing : Nat}
    (inside : Audited (opensCall before :: brackets) (.mark .openParen :: before) tokens) :
    Audited brackets before
      (⟨.mark .openParen, opening⟩ :: tokens ++ [⟨.mark .closeParen, closing⟩]) := by
  intro rest
  have opened := inside (⟨.mark .closeParen, closing⟩ :: rest)
  simp only [List.cons_append, List.append_assoc, List.nil_append]
  change mutationAfter (opensCall before :: brackets) (.mark .openParen :: before) _ = _
  rw [opened]
  simp [mutationAfter]

/-- Square brackets open no call. -/
theorem Audited.squareBrackets {opening closing : Nat}
    (inside : Audited (false :: brackets) (.mark .openBracket :: before) tokens) :
    Audited brackets before
      (⟨.mark .openBracket, opening⟩ :: tokens ++ [⟨.mark .closeBracket, closing⟩]) := by
  intro rest
  have opened := inside (⟨.mark .closeBracket, closing⟩ :: rest)
  simp only [List.cons_append, List.append_assoc, List.nil_append]
  change mutationAfter (false :: brackets) (.mark .openBracket :: before) _ = _
  rw [opened]
  simp [mutationAfter]

/-- An argument stands inside the parentheses of a call, behind the opening one or a comma. -/
def Argument.Expected (brackets : List Bool) (before : List Lexeme) : Prop :=
  brackets.head? = some true ∧
    ∃ earlier, before = .mark .openParen :: earlier ∨ before = .mark .comma :: earlier

/-- The audit takes a word before an argument for its keyword. -/
theorem Argument.Expected.audited (expected : Argument.Expected brackets before) (word : String)
    (first second : Nat) :
    Audited brackets before [⟨.name word, first⟩, ⟨.binding .plain, second⟩] := by
  intro rest
  rcases expected with ⟨called, earlier, rfl | rfl⟩ <;>
    simp [mutationAfter, called, endsInKeyword]

theorem Argument.Introduced.audited {keyword : Option MomentPart} {intro : List Token}
    (introduced : Argument.Introduced keyword intro) (expected : Argument.Expected brackets before) :
    Audited brackets before intro := by
  cases introduced with
  | position => exact .nil
  | keyword part first second => exact expected.audited part.name first second

theorem TrailingComma.audited (trailing : TrailingComma tokens) : Audited brackets before tokens := by
  cases trailing <;> exact .quietAll (by simp [Lexeme.quiet])

theorem Joins.quiet {level : Level} {operator : Lexeme}
    {combine : Expression → Expression → Expression} (joins : Joins level operator combine) :
    operator.quiet := by
  cases joins <;> rfl

theorem Comparison.quiet {comparison : Comparison}
    (spelled : tokens.map Token.lexeme = comparison.lexemes) :
    ∀ token ∈ tokens, token.lexeme.quiet := by
  have quiet : ∀ lexeme ∈ comparison.lexemes, lexeme.quiet := by
    cases comparison <;> simp [Comparison.lexemes, Lexeme.quiet]
  intro token inside
  exact quiet token.lexeme (spelled ▸ List.mem_map_of_mem inside)

/-- Where the audit can meet a phrase; only arguments depend on what is around them. -/
def Phrase.Expected : Phrase → List Bool → List Lexeme → Prop
  | .arguments _, brackets, before => Argument.Expected brackets before
  | _, _, _ => True

/-- The audit names no mutation in what a derivation spells. -/
theorem Derives.audited (derives : Derives kind depth phrase tokens) {brackets : List Bool}
    {before : List Lexeme} (expected : phrase.Expected brackets before) :
    Audited brackets before tokens := by
  induction derives generalizing brackets before with
  | loosen _ ih | lastItem _ _ ih => exact ih trivial
  | join joins _ _ left right => exact (left trivial).append (.quiet joins.quiet (right trivial))
  | negate _ _ ih => exact .quiet rfl (ih trivial)
  | chain _ _ left right => exact (left trivial).append (right trivial)
  | lastLink spelled _ ih => exact (Audited.quietAll (Comparison.quiet spelled)).append (ih trivial)
  | link spelled _ _ left right =>
      exact ((Audited.quietAll (Comparison.quiet spelled)).append (left trivial)).append
        (right trivial)
  | sign signs _ _ ih => cases signs <;> exact .quiet rfl (ih trivial)
  | part part _ ih => exact (ih trivial).append (.quietAll (by simp [Lexeme.quiet]))
  | literal denotes => cases denotes <;> exact .quiet rfl .nil
  | read => exact .quiet rfl .nil
  | group _ _ ih => exact .parentheses (ih trivial)
  | emptyList =>
      have inside (outer : List Lexeme) : Audited (false :: brackets) outer [] := .nil
      exact .squareBrackets (inside _)
  | list _ trailing ih =>
      rw [List.cons_append]
      exact .squareBrackets ((ih trivial).append trailing.audited)
  | item _ _ _ left right => exact (left trivial).append (.quiet rfl (right trivial))
  | call _ _ trailing ih =>
      have expected : Argument.Expected (true :: brackets)
          (.mark .openParen :: .name datetimeName :: before) := ⟨rfl, _, .inl rfl⟩
      exact .quiet rfl (.parentheses ((ih expected).append trailing.audited))
  | lastArgument introduced _ _ ih => exact (introduced.audited expected).append (ih trivial)
  | argument introduced _ _ _ left right =>
      have following (earlier : List Lexeme) :
          Argument.Expected brackets (.mark .comma :: earlier) := ⟨expected.1, _, .inr rfl⟩
      exact ((introduced.audited expected).append (left trivial)).append
        (.quiet rfl (right (following _)))

end Audit

variable {kind : ItemKind} {tree : Expression}

/-- Tokens are read when the audit passes and the parser gets from a first word to the end. -/
theorem ofTokens_eq_ok {tokens : List Token} :
    Expression.ofTokens kind tokens = .ok tree ↔
      mutation? tokens = none ∧ nextLexeme tokens ≠ .finish ∧
        ∃ rest, (nested kind nestingLimit).expression tokens = .ok (tree, rest) ∧
          nextLexeme rest = .finish := by
  unfold Expression.ofTokens
  cases mutation? tokens with
  | some name => simp [throw, throwThe, MonadExceptOf.throw]
  | none =>
      by_cases empty : nextLexeme tokens = .finish
      · simp [empty, throw, throwThe, MonadExceptOf.throw]
      · simp only [empty, bind_eq_ok, Prod.exists, ne_eq, not_false_eq_true, true_and]
        constructor
        · rintro ⟨found, rest, read, ended⟩
          split at ended
          · next finish =>
              cases ended
              exact ⟨rest, read, finish⟩
          · contradiction
        · rintro ⟨rest, read, finish⟩
          exact ⟨tree, rest, read, by simp only [finish]; rfl⟩

/-- Words that stop before the same end are the same words. -/
theorem words_eq {words before rest : List Token} {last : Nat}
    (inside : ∀ word ∈ words, word.lexeme ≠ .finish)
    (passed : ∀ word ∈ before, word.lexeme ≠ .finish) (ended : nextLexeme rest = .finish)
    (same : words ++ [⟨.finish, last⟩] = before ++ rest) : words = before := by
  rcases List.append_eq_append_iff.1 same with ⟨more, rfl, left⟩ | ⟨more, rfl, right⟩
  · cases more with
    | nil => simp
    | cons token more =>
        have first : token = ⟨.finish, last⟩ := (List.cons.inj left).1.symm
        exact absurd (congrArg Token.lexeme first) (passed token (by simp))
  · cases more with
    | nil => simp
    | cons token more =>
        rw [right] at ended
        exact absurd ended (inside token (by simp))

/-- The audit lets every derivable text through. -/
theorem Derives.mutation_none {words : List Token}
    (derives : Derives kind 1 (.at .disjunction tree) words) (last : Nat) :
    mutation? (words ++ [⟨.finish, last⟩]) = none := by
  have audited : Audited [] [] words := derives.audited trivial
  exact audited [⟨.finish, last⟩]

/-- The end stops a phrase of any level. -/
theorem Level.finish_stops (level : Level) (last : Nat) : level.Stops [⟨.finish, last⟩] := by
  intro other _
  cases other <;> rfl

/-- Words are read as a tree exactly when the grammar derives them with that tree. -/
theorem ofTokens_eq_ok_iff_derives {words : List Token} {last : Nat}
    (inside : ∀ word ∈ words, word.lexeme ≠ .finish) :
    Expression.ofTokens kind (words ++ [⟨.finish, last⟩]) = .ok tree ↔
      Derives kind 1 (.at .disjunction tree) words := by
  rw [ofTokens_eq_ok]
  constructor
  · rintro ⟨-, -, rest, read, ended⟩
    obtain ⟨before, same, -, derives⟩ :=
      (nested_sound kind nestingLimit 0 (Nat.zero_add _)).expression read
    rw [words_eq inside derives.no_finish ended same]
    exact derives
  · intro derives
    have read : (nested kind nestingLimit).expression (words ++ [⟨.finish, last⟩]) =
        .ok (tree, [⟨.finish, last⟩]) :=
      (derives.readable (nestingLimit - 1) rfl).exact (Level.finish_stops .disjunction last)
    obtain ⟨first, following, rfl, -⟩ := derives.starts
    exact ⟨derives.mutation_none last, inside first List.mem_cons_self, _, read, rfl⟩

/-- A text is read as a tree exactly when its words are derived with that tree. -/
theorem parse_eq_ok {source : String} :
    Expression.parse source kind = .ok tree ↔
      ∃ words last, tokenize source = .ok (words ++ [⟨.finish, last⟩]) ∧
        Derives kind 1 (.at .disjunction tree) words := by
  simp only [Expression.parse, bind_eq_ok, mapError_eq_ok]
  constructor
  · rintro ⟨tokens, split, read⟩
    obtain ⟨words, last, rfl, inside⟩ := tokensFrom_finish (mapError_eq_ok.1 split)
    exact ⟨words, last, split, (ofTokens_eq_ok_iff_derives inside).1 read⟩
  · rintro ⟨words, last, split, derives⟩
    exact ⟨_, split, (ofTokens_eq_ok_iff_derives derives.no_finish).2 derives⟩

/-- A compiled predicate keeps its text and its kind, and its tree is derived. -/
theorem compile_eq_ok {source : String} {predicate : Predicate} :
    Predicate.compile source kind = .ok predicate ↔
      predicate.source = source ∧ predicate.kind = kind ∧
        ∃ words last, tokenize source = .ok (words ++ [⟨.finish, last⟩]) ∧
          Derives kind 1 (.at .disjunction predicate.root) words := by
  rcases predicate with ⟨text, of, tree⟩
  rw [Predicate.compile, bind_eq_ok]
  constructor
  · rintro ⟨root, read, finished⟩
    cases finished
    exact ⟨rfl, rfl, parse_eq_ok.1 read⟩
  · rintro ⟨rfl, rfl, derived⟩
    exact ⟨tree, parse_eq_ok.2 derived, rfl⟩

/-- The compiler accepts exactly its grammar: it succeeds when the words before the end are derived
at depth one, with the tree of the derivation, and no derivable text fails the audit. -/
theorem compile_accepts_iff_derives (source : String) (kind : ItemKind) :
    (∀ predicate, Predicate.compile source kind = .ok predicate ↔
      predicate.source = source ∧ predicate.kind = kind ∧
        ∃ words last, tokenize source = .ok (words ++ [⟨.finish, last⟩]) ∧
          Derives kind 1 (.at .disjunction predicate.root) words) ∧
    ∀ tree words last, tokenize source = .ok (words ++ [⟨.finish, last⟩]) →
      Derives kind 1 (.at .disjunction tree) words →
      mutation? (words ++ [⟨.finish, last⟩]) = none :=
  ⟨fun _ => compile_eq_ok, fun _ _ last _ derives => derives.mutation_none last⟩

theorem tokenize_not_likes : tokenize "not likes" =
    .ok ([⟨.keyword .not, 0⟩, ⟨.name "likes", 4⟩] ++ [⟨.finish, 9⟩]) := by
  have name : tokensFrom 4 "likes".toList = .ok [⟨.name "likes", 4⟩, ⟨.finish, 9⟩] :=
    tokensFrom_cons rfl rfl (tokensFrom_nil 9)
  have split : tokensFrom 0 "not likes".toList =
      .ok [⟨.keyword .not, 0⟩, ⟨.name "likes", 4⟩, ⟨.finish, 9⟩] :=
    tokensFrom_cons rfl rfl ((tokensFrom_blank 3 rfl _).trans name)
  unfold tokenize
  rw [split]
  rfl

theorem derives_not_likes : Derives .post 1 (.at .disjunction (.unary .not (.read "likes")))
    [⟨.keyword .not, 0⟩, ⟨.name "likes", 4⟩] := by
  have read : Derives .post 2 (.at .atom (.read "likes")) [⟨.name "likes", 4⟩] :=
    .read (by decide) (by decide)
  exact .loosen (.loosen (.negate (by decide) (read.of_atom .negation)))

/-- A negated attribute is a filter for posts. -/
theorem compile_accepts_not_likes :
    (∃ predicate, Predicate.compile "not likes" .post = .ok predicate) ∧
      mutation? [⟨.keyword .not, 0⟩, ⟨.name "likes", 4⟩, ⟨.finish, 9⟩] = none := by
  obtain ⟨accepts, audit⟩ := compile_accepts_iff_derives "not likes" .post
  exact ⟨⟨⟨"not likes", .post, _⟩,
      (accepts _).2 ⟨rfl, rfl, _, _, tokenize_not_likes, derives_not_likes⟩⟩,
    audit _ _ _ tokenize_not_likes derives_not_likes⟩

end Harvest.Filter
