import Harvest.Proofs.Filter.Fault

/-!
When a filter is refused because it mutates something. The audit comes before the parser and looks
at tokens alone, so what else is wrong with a text does not matter. Brackets are told by what
stands between them: the innermost open one is followed by brackets that are closed again.
-/

namespace Harvest.Filter

open Result (Faults bind_eq_error mapError_eq_error)

/-- The lexemes that open a bracket. -/
def Lexeme.opensBracket : Lexeme → Bool
  | .mark .openParen | .mark .openBracket => true
  | _ => false

/-- The lexemes that close a bracket, whatever its kind. -/
def Lexeme.closesBracket : Lexeme → Bool
  | .mark .closeParen | .mark .closeBracket => true
  | _ => false

/-- Lexemes whose brackets are all closed again, by brackets of any kind. -/
inductive Balanced : List Lexeme → Prop where
  | nil : Balanced []
  | plain {lexeme : Lexeme} {rest : List Lexeme} :
      lexeme.opensBracket = false → lexeme.closesBracket = false → Balanced rest →
      Balanced (lexeme :: rest)
  | bracketed {opening closing : Lexeme} {inside rest : List Lexeme} :
      opening.opensBracket → closing.closesBracket → Balanced inside → Balanced rest →
      Balanced (opening :: inside ++ closing :: rest)

/-- The innermost bracket that is open behind some lexemes is the parenthesis of a `datetime`
call. -/
def InsideCall (passed : List Lexeme) : Prop :=
  ∃ before inside,
    passed = before ++ [.name datetimeName, .mark .openParen] ++ inside ∧ Balanced inside

/-- The last of some lexemes is a name behind an opening parenthesis or a comma. -/
def EndsInKeyword (passed : List Lexeme) : Prop :=
  ∃ before separator word,
    passed = before ++ [.mark separator, .name word] ∧ (separator = .openParen ∨ separator = .comma)

/-- A lexeme mutates something behind those passed: a deletion and every operator that rebinds, and
an assignment unless it gives an argument of `datetime` its keyword. -/
inductive Mutates (passed : List Lexeme) : Lexeme → Prop where
  | delete : Mutates passed (.keyword .del)
  | rebind {operator : Binding} : operator ≠ .plain → Mutates passed (.binding operator)
  | assign : ¬(EndsInKeyword passed ∧ InsideCall passed) → Mutates passed (.binding .plain)

/-- Some token mutates something behind those before it. -/
def HoldsMutation (tokens : List Token) : Prop :=
  ∃ before token after, tokens = before ++ token :: after ∧
    Mutates (before.map Token.lexeme) token.lexeme

theorem Balanced.append {first second : List Lexeme} (left : Balanced first)
    (right : Balanced second) : Balanced (first ++ second) := by
  induction left with
  | nil => exact right
  | plain notOpening notClosing _ ih => exact .plain notOpening notClosing ih
  | bracketed opens closes inside _ _ ih =>
      rw [List.append_assoc, List.cons_append]
      exact .bracketed opens closes inside ih

/-- The brackets that are open behind some lexemes, of which the latest comes first. -/
def openBrackets : List Lexeme → List Bool
  | [] => []
  | .mark .openParen :: before => opensCall before :: openBrackets before
  | .mark .openBracket :: before => false :: openBrackets before
  | .mark .closeParen :: before | .mark .closeBracket :: before => (openBrackets before).tail
  | _ :: before => openBrackets before

section OpenBrackets

variable {lexeme : Lexeme} {before : List Lexeme}

/-- The one bracket that opens a call is the parenthesis behind the name of the function. -/
def callOpened (lexeme : Lexeme) (before : List Lexeme) : Bool :=
  match lexeme with
  | .mark .openParen => opensCall before
  | _ => false

theorem openBrackets_of_opens (opens : lexeme.opensBracket) :
    openBrackets (lexeme :: before) = callOpened lexeme before :: openBrackets before := by
  unfold Lexeme.opensBracket at opens
  split at opens
  · rfl
  · rfl
  · contradiction

theorem openBrackets_of_closes (closes : lexeme.closesBracket) :
    openBrackets (lexeme :: before) = (openBrackets before).tail := by
  unfold Lexeme.closesBracket at closes
  split at closes
  · rfl
  · rfl
  · contradiction

theorem openBrackets_of_plain (notOpening : lexeme.opensBracket = false)
    (notClosing : lexeme.closesBracket = false) :
    openBrackets (lexeme :: before) = openBrackets before := by
  cases lexeme with
  | mark mark => cases mark <;> first | rfl | contradiction
  | _ => rfl

/-- Lexemes whose brackets are closed again leave the open brackets as they were. -/
theorem Balanced.openBrackets_eq {inside : List Lexeme} (balanced : Balanced inside)
    (before : List Lexeme) : openBrackets (inside.reverse ++ before) = openBrackets before := by
  induction balanced generalizing before with
  | nil => rfl
  | plain notOpening notClosing _ ih =>
      rw [List.reverse_cons, List.append_assoc, ih]
      exact openBrackets_of_plain notOpening notClosing
  | @bracketed opening closing inside rest opens closes _ _ within following =>
      have reversed : (opening :: inside ++ closing :: rest).reverse ++ before =
          rest.reverse ++ closing :: (inside.reverse ++ opening :: before) := by simp
      rw [reversed, following, openBrackets_of_closes closes, within, openBrackets_of_opens opens,
        List.tail_cons]

/-- The first of the open brackets is the latest that nothing behind it closes. -/
theorem innermost_of_openBrackets {called : Bool} {outer : List Bool} (before : List Lexeme)
    (open_eq : openBrackets before = called :: outer) :
    ∃ inside opening earlier, before = inside.reverse ++ opening :: earlier ∧ Balanced inside ∧
      opening.opensBracket ∧ callOpened opening earlier = called ∧
      openBrackets earlier = outer := by
  -- Behind a closing bracket the innermost bracket is found twice, the second time before the first
  -- one, so the induction is on the length.
  induction length : before.length using Nat.strongRecOn generalizing before called outer with
  | ind length ih =>
  subst length
  cases before with
  | nil => contradiction
  | cons lexeme before =>
  by_cases opens : lexeme.opensBracket
  · rw [openBrackets_of_opens opens] at open_eq
    obtain ⟨same, rest⟩ := List.cons.inj open_eq
    exact ⟨[], lexeme, before, rfl, .nil, opens, same, rest⟩
  · rw [Bool.not_eq_true] at opens
    by_cases closes : lexeme.closesBracket
    · rw [openBrackets_of_closes closes] at open_eq
      cases passed : openBrackets before with
      | nil =>
          rw [passed] at open_eq
          contradiction
      | cons innermost others =>
          rw [passed, List.tail_cons] at open_eq
          obtain ⟨inside, closed, middle, rfl, balanced, opening, -, remaining⟩ :=
            ih _ (by simp) before passed rfl
          obtain ⟨between, opening', earlier, rfl, balanced', opens', called', outer'⟩ :=
            ih _ (by simp; omega) middle (remaining.trans open_eq) rfl
          refine ⟨between ++ (closed :: inside ++ [lexeme]), opening', earlier, by simp, ?_, opens',
            called', outer'⟩
          exact balanced'.append (.bracketed opening closes balanced .nil)
    · rw [Bool.not_eq_true] at closes
      rw [openBrackets_of_plain opens closes] at open_eq
      obtain ⟨inside, opening, earlier, rfl, balanced, opened, called', outer'⟩ :=
        ih _ (by simp) before open_eq rfl
      refine ⟨inside ++ [lexeme], opening, earlier, by simp, ?_, opened, called', outer'⟩
      exact balanced.append (.plain opens closes .nil)

theorem opensCall_iff :
    opensCall before = true ↔ ∃ earlier, before = .name datetimeName :: earlier := by
  cases before with
  | nil => simp [opensCall]
  | cons lexeme earlier => cases lexeme <;> simp [opensCall, Lexeme.name?]

/-- The audit takes the innermost open bracket for a call exactly when it is the one of a call. -/
theorem openBrackets_head_iff {passed : List Lexeme} :
    (openBrackets passed.reverse).head? = some true ↔ InsideCall passed := by
  constructor
  · intro called
    obtain ⟨outer, open_eq⟩ := List.head?_eq_some_iff.1 called
    obtain ⟨inside, opening, earlier, reversed, balanced, -, opened, -⟩ :=
      innermost_of_openBrackets _ open_eq
    unfold callOpened at opened
    split at opened
    · obtain ⟨earliest, rfl⟩ := opensCall_iff.1 opened
      refine ⟨earliest.reverse, inside, ?_, balanced⟩
      simpa using congrArg List.reverse reversed
    · contradiction
  · rintro ⟨before, inside, rfl, balanced⟩
    have reversed : (before ++ [Lexeme.name datetimeName, .mark .openParen] ++ inside).reverse =
        inside.reverse ++ .mark .openParen :: .name datetimeName :: before.reverse := by simp
    rw [reversed, balanced.openBrackets_eq, openBrackets_of_opens rfl]
    simp [callOpened, opensCall, Lexeme.name?]

theorem endsInKeyword_iff {passed : List Lexeme} :
    endsInKeyword passed.reverse = true ↔ EndsInKeyword passed := by
  constructor
  · intro ends
    unfold endsInKeyword at ends
    split at ends
    · next word earlier reversed =>
        exact ⟨earlier.reverse, .openParen, word, by simpa using congrArg List.reverse reversed,
          .inl rfl⟩
    · next word earlier reversed =>
        exact ⟨earlier.reverse, .comma, word, by simpa using congrArg List.reverse reversed,
          .inr rfl⟩
    · contradiction
  · rintro ⟨before, separator, word, rfl, rfl | rfl⟩ <;> simp [endsInKeyword]

end OpenBrackets

section Audit

variable {passed : List Lexeme} {token : Token} {rest : List Token}

/-- The audit stops at a token that mutates something. -/
theorem mutationAfter_of_mutates (mutates : Mutates passed token.lexeme) :
    (mutationAfter (openBrackets passed.reverse) passed.reverse (token :: rest)).isSome := by
  rcases token with ⟨lexeme, offset⟩
  cases mutates with
  | delete => rfl
  | rebind rebinds => simp [mutationAfter, rebinds]
  | assign misplaced =>
      have refused : ¬((openBrackets passed.reverse).head? = some true ∧
          endsInKeyword passed.reverse) := by
        rw [openBrackets_head_iff, endsInKeyword_iff, and_comm]
        exact misplaced
      simp only [mutationAfter, true_and, if_neg refused, Option.isSome_some]

/-- The audit passes every other token. -/
theorem mutationAfter_of_not_mutates (harmless : ¬Mutates passed token.lexeme) :
    mutationAfter (openBrackets passed.reverse) passed.reverse (token :: rest) =
      mutationAfter (openBrackets (passed ++ [token.lexeme]).reverse)
        (passed ++ [token.lexeme]).reverse rest := by
  rw [List.reverse_append, List.reverse_singleton, List.singleton_append]
  rcases token with ⟨lexeme, offset⟩
  cases lexeme with
  | mark mark => cases mark <;> rfl
  | keyword word =>
      cases word with
      | del => exact absurd .delete harmless
      | _ => rfl
  | binding operator =>
      have plain : operator = .plain :=
        Decidable.byContradiction fun rebinds => harmless (.rebind rebinds)
      subst plain
      have placed : (openBrackets passed.reverse).head? = some true ∧
          endsInKeyword passed.reverse := by
        rw [openBrackets_head_iff, endsInKeyword_iff, and_comm]
        exact Classical.byContradiction fun misplaced => harmless (.assign misplaced)
      simp only [mutationAfter, true_and, if_pos placed]
      rfl
  | _ => rfl

/-- The audit names a mutation exactly when some token mutates something. -/
theorem mutationAfter_isSome_iff (passed : List Lexeme) (tokens : List Token) :
    (mutationAfter (openBrackets passed.reverse) passed.reverse tokens).isSome ↔
      ∃ before token after, tokens = before ++ token :: after ∧
        Mutates (passed ++ before.map Token.lexeme) token.lexeme := by
  induction tokens generalizing passed with
  | nil => simp [mutationAfter]
  | cons token rest ih =>
      by_cases mutates : Mutates passed token.lexeme
      · simp only [mutationAfter_of_mutates mutates, true_iff]
        exact ⟨[], token, rest, rfl, by simpa using mutates⟩
      · rw [mutationAfter_of_not_mutates mutates, ih]
        constructor
        · rintro ⟨before, later, after, rfl, found⟩
          exact ⟨token :: before, later, after, rfl, by simpa using found⟩
        · rintro ⟨before, later, after, split, found⟩
          cases before with
          | nil =>
              obtain ⟨rfl, -⟩ := List.cons.inj split
              exact absurd (by simpa using found) mutates
          | cons first before =>
              obtain ⟨rfl, rfl⟩ := List.cons.inj split
              exact ⟨before, later, after, rfl, by simpa using found⟩

theorem mutation?_isSome_iff {tokens : List Token} :
    (mutation? tokens).isSome ↔ HoldsMutation tokens :=
  mutationAfter_isSome_iff [] tokens

end Audit

/-- Without a mutation, whatever is wrong with tokens is found by reading them. -/
theorem reads_ofTokens (kind : ItemKind) {tokens : List Token} (noMutation : mutation? tokens = none) :
    Faults Fault.IsReading (Expression.ofTokens kind tokens) := by
  rw [Expression.ofTokens, noMutation]
  dsimp only
  split
  · exact .error (Fault.isReading_atOffset _ _)
  · refine ((reads_nested kind nestingLimit).expression tokens).bind fun _ _ => ?_
    split
    · exact .ok _
    · exact .error (Fault.isReading_atOffset _ _)

/-- Tokens are refused as a mutation exactly when they hold one, whatever else is wrong. -/
theorem ofTokens_assignment_iff (kind : ItemKind) {tokens : List Token} :
    (∃ name, Expression.ofTokens kind tokens = .error (.assignment name)) ↔
      HoldsMutation tokens := by
  rw [← mutation?_isSome_iff]
  cases noMutation : mutation? tokens with
  | some name =>
      refine ⟨fun _ => rfl, fun _ => ⟨name, ?_⟩⟩
      rw [Expression.ofTokens, noMutation]
      rfl
  | none =>
      simp only [Option.isSome_none, Bool.false_eq_true, iff_false, not_exists]
      exact fun name refused => reads_ofTokens kind noMutation _ refused name rfl

theorem ofFault_eq_assignment_iff {source name : String} {fault : Fault} :
    FilterError.ofFault source fault = .assignment name ↔ fault = .assignment name := by
  cases fault <;> simp [FilterError.ofFault]

/-- A text is refused as a mutation when its tokens are. -/
theorem compile_eq_assignment_iff {source name : String} (kind : ItemKind) :
    Predicate.compile source kind = .error (.assignment name) ↔
      ∃ tokens, tokenize source = .ok tokens ∧
        Expression.ofTokens kind tokens = .error (.assignment name) := by
  have split : tokenize source ≠ .error (.assignment name) := by
    intro refused
    obtain ⟨fault, found, named⟩ := mapError_eq_error.1 refused
    exact reads_tokensFrom 0 source.toList fault found name (ofFault_eq_assignment_iff.1 named)
  have finished (tree : Expression) :
      (pure ⟨source, kind, tree⟩ : Except FilterError Predicate) ≠
        .error (.assignment name) := nofun
  simp only [Predicate.compile, Expression.parse, bind_eq_error, mapError_eq_error,
    ofFault_eq_assignment_iff, exists_eq_right, split, finished, false_or, and_false, exists_false,
    or_false]

/-- A filter is refused as a mutation exactly when its text splits into tokens of which one deletes,
rebinds, or assigns anywhere but to a keyword of a `datetime` call. Nothing else that is wrong
with the text matters, neither before nor behind that token. -/
theorem compile_refuses_mutations (source : String) (kind : ItemKind) :
    (∃ name, Predicate.compile source kind = .error (.assignment name)) ↔
      ∃ tokens, tokenize source = .ok tokens ∧ HoldsMutation tokens := by
  simp only [compile_eq_assignment_iff, ← ofTokens_assignment_iff kind]
  constructor
  · rintro ⟨name, tokens, split, refused⟩
    exact ⟨tokens, split, name, refused⟩
  · rintro ⟨tokens, split, name, refused⟩
    exact ⟨name, tokens, split, refused⟩

end Harvest.Filter
