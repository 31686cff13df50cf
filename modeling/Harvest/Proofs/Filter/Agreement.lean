import Harvest.Proofs.Filter.Resolution

/-!
A filter sees only the attributes that it names. What its tree reads stands as a name in its text,
so items that agree on those attributes cannot be told apart by it.
-/

namespace Harvest.Filter

/-- A name stands among some tokens. -/
def Named (tokens : List Token) (name : String) : Prop :=
  ∃ token ∈ tokens, token.lexeme = .name name

theorem Named.of_subset {tokens others : List Token} {name : String} (named : Named tokens name)
    (subset : tokens ⊆ others) : Named others name := by
  obtain ⟨token, inside, same⟩ := named
  exact ⟨token, subset inside, same⟩

/-- What a derivation reads is named among its tokens. -/
theorem Derives.named {kind : ItemKind} {depth : Nat} {phrase : Phrase} {tokens : List Token}
    (derives : Derives kind depth phrase tokens) : ∀ name ∈ phrase.reads, Named tokens name := by
  induction derives with
  | literal | emptyList => simp [Phrase.reads, Expression.reads, readsAll]
  | read =>
      intro name read
      obtain rfl : name = _ := by simpa [Phrase.reads, Expression.reads] using read
      exact ⟨_, List.mem_singleton_self _, rfl⟩
  | loosen _ ih | negate _ _ ih | sign _ _ _ ih | part _ _ ih | group _ _ ih | list _ _ ih
  | lastLink _ _ ih | lastItem _ _ ih | lastArgument _ _ _ ih =>
      intro name read
      have inside := ih name
        (by simpa [Phrase.reads, Expression.reads, readsLinks, readsAll] using read)
      exact inside.of_subset fun token among => by simp [among]
  | call _ fills _ ih =>
      intro name read
      have inside := ih name (fills.reads (by simpa [Phrase.reads, Expression.reads] using read))
      exact inside.of_subset fun token among => by simp [among]
  | join joins _ _ left right =>
      intro name read
      simp only [Phrase.reads, joins.reads, List.mem_append] at read
      rcases read with read | read
      · exact (left name read).of_subset fun token among => by simp [among]
      · exact (right name read).of_subset fun token among => by simp [among]
  | chain _ _ left right | link _ _ _ left right | item _ _ _ left right
  | argument _ _ _ _ left right =>
      intro name read
      simp only [Phrase.reads, Expression.reads, readsLinks, readsAll, List.map_cons,
        List.mem_append] at read
      rcases read with read | read
      · exact (left name read).of_subset fun token among => by simp [among]
      · exact (right name read).of_subset fun token among => by simp [among]

/-- Two subjects of a kind have the same values for some attributes, or lack them both. -/
structure Subject.Agree (first second : Subject) (names : String → Prop) : Prop where
  kind_eq : first.kind = second.kind
  read_eq : ∀ name, names name → first.read? name = second.read? name

section Agree

variable {first second : Subject} {names fewer : String → Prop}

theorem Subject.Agree.mono (agree : first.Agree second names)
    (subset : ∀ name, fewer name → names name) : first.Agree second fewer :=
  ⟨agree.kind_eq, fun name inside => agree.read_eq name (subset name inside)⟩

theorem Subject.Agree.read (agree : first.Agree second names) {name : String}
    (inside : names name) : first.read name = second.read name := by
  unfold Subject.read
  rw [agree.read_eq name inside, agree.kind_eq]

end Agree

mutual

/-- Evaluation depends on the attributes that an expression reads and on nothing else of a
subject. -/
theorem evaluate_eq_of_agree {first second : Subject} (expression : Expression)
    (agree : first.Agree second (· ∈ expression.reads)) :
    evaluate first expression = evaluate second expression := by
  match expression with
  | .literal _ => rfl
  | .read _ => exact agree.read List.mem_cons_self
  | .datetime arguments | .list arguments =>
      simp only [evaluate, evaluateAll_eq_of_agree arguments agree]
  | .part target _ | .unary _ target => simp only [evaluate, evaluate_eq_of_agree target agree]
  | .binary _ left right | .both left right | .either left right =>
      have agreeLeft := agree.mono fun _ => List.mem_append_left right.reads
      have agreeRight := agree.mono fun _ => List.mem_append_right left.reads
      simp only [evaluate, evaluate_eq_of_agree left agreeLeft, evaluate_eq_of_agree right agreeRight]
  | .chain operand following =>
      have agreeOperand := agree.mono fun _ => List.mem_append_left (readsLinks following)
      have agreeFollowing := agree.mono fun _ => List.mem_append_right operand.reads
      simp only [evaluate, evaluate_eq_of_agree operand agreeOperand,
        evaluateLinks_eq_of_agree following agreeFollowing]

theorem evaluateAll_eq_of_agree {first second : Subject} (expressions : List Expression)
    (agree : first.Agree second (· ∈ readsAll expressions)) :
    evaluateAll first expressions = evaluateAll second expressions := by
  match expressions with
  | [] => rfl
  | expression :: rest =>
      have agreeHere := agree.mono fun _ => List.mem_append_left (readsAll rest)
      have agreeRest := agree.mono fun _ => List.mem_append_right expression.reads
      simp only [evaluateAll, evaluate_eq_of_agree expression agreeHere,
        evaluateAll_eq_of_agree rest agreeRest]

theorem evaluateLinks_eq_of_agree {first second : Subject}
    (following : List (Comparison × Expression))
    (agree : first.Agree second (· ∈ readsLinks following)) (left : Value) :
    evaluateLinks first left following = evaluateLinks second left following := by
  match following with
  | [] => rfl
  | (_, operand) :: rest =>
      have agreeHere := agree.mono fun _ => List.mem_append_left (readsLinks rest)
      have agreeRest := agree.mono fun _ => List.mem_append_right operand.reads
      simp only [evaluateLinks, evaluate_eq_of_agree operand agreeHere,
        evaluateLinks_eq_of_agree rest agreeRest]

end

/-- A predicate does not tell subjects apart that agree on what its tree reads. -/
theorem Predicate.test_eq_of_agree {predicate : Predicate} {first second : Subject}
    (agree : first.Agree second (· ∈ predicate.root.reads)) :
    predicate.test first = predicate.test second := by
  unfold Predicate.test
  rw [evaluate_eq_of_agree predicate.root agree, agree.kind_eq]

/-- A text names an attribute of a kind: the name is declared and stands among the tokens. -/
def NamesAttribute (source : String) (kind : ItemKind) (name : String) : Prop :=
  kind.declares name ∧ ∃ tokens, tokenize source = .ok tokens ∧ Named tokens name

/-- What a compiled filter reads is named by its text. -/
theorem namesAttribute_of_reads {source : String} {kind : ItemKind} {predicate : Predicate}
    (compiled : Predicate.compile source kind = .ok predicate) :
    ∀ name ∈ predicate.root.reads, NamesAttribute source kind name := by
  obtain ⟨-, -, words, last, split, derives⟩ := compile_eq_ok.1 compiled
  intro name read
  exact ⟨derives.declared name read, _, split, (derives.named name read).of_subset (List.subset_append_left _ _)⟩

/-- A filter sees only the attributes that its text names: on items of its kind that agree on those
it comes to the same truth value or the same fault. A text that names none comes to the same on all
items of the kind. -/
theorem filter_sees_only_what_it_names {source : String} {kind : ItemKind} {predicate : Predicate}
    (compiled : Predicate.compile source kind = .ok predicate) :
    (∀ first second : Subject, first.kind = kind → second.kind = kind →
      (∀ name, NamesAttribute source kind name → first.read? name = second.read? name) →
      predicate.test first = predicate.test second) ∧
    ((∀ name, ¬NamesAttribute source kind name) →
      ∀ first second : Subject, first.kind = kind → second.kind = kind →
        predicate.test first = predicate.test second) := by
  have confined (first second : Subject) (firstKind : first.kind = kind)
      (secondKind : second.kind = kind)
      (same : ∀ name, NamesAttribute source kind name → first.read? name = second.read? name) :
      predicate.test first = predicate.test second := by
    have agree : first.Agree second (NamesAttribute source kind) :=
      ⟨firstKind.trans secondKind.symm, same⟩
    exact Predicate.test_eq_of_agree (agree.mono (namesAttribute_of_reads compiled))
  refine ⟨confined, fun noName first second firstKind secondKind => ?_⟩
  exact confined first second firstKind secondKind fun name named => absurd named (noName name)

/-- The filter of posts without likes sees nothing but their likes. -/
theorem filter_sees_only_what_it_names_likes :
    let predicate : Predicate := ⟨"not likes", .post, .unary .not (.read "likes")⟩
    let first : Subject := ⟨.post, fun _ => some (.int 3)⟩
    let second : Subject := ⟨.post, fun name => if name = "likes" then some (.int 3) else none⟩
    Predicate.compile "not likes" .post = .ok predicate ∧
      predicate.test first = predicate.test second := by
  intro predicate first second
  have compiled : Predicate.compile "not likes" .post = .ok predicate :=
    compile_eq_ok.2 ⟨rfl, rfl, _, _, tokenize_not_likes, derives_not_likes⟩
  have same (name : String) (named : NamesAttribute "not likes" .post name) :
      first.read? name = second.read? name := by
    obtain ⟨-, tokens, split, token, inside, read⟩ := named
    obtain rfl := Except.ok.inj (split.symm.trans tokenize_not_likes)
    have likes : name = "likes" := by
      simp only [List.cons_append, List.nil_append, List.mem_cons, List.not_mem_nil,
        or_false] at inside
      rcases inside with rfl | rfl | rfl
      · cases read
      · exact (Lexeme.name.inj read).symm
      · cases read
    rw [likes]
    rfl
  exact ⟨compiled, (filter_sees_only_what_it_names compiled).1 first second rfl rfl same⟩

end Harvest.Filter
