import Harvest.Proofs.Filter.Acceptance

/-!
A compiled filter finds what it reads. Every name in its tree is a declared attribute of its kind,
and items have a value for each attribute that their kind declares.
-/

namespace Harvest.Filter

open Result

mutual

/-- The attributes that an expression reads. -/
def Expression.reads : Expression → List String
  | .literal _ => []
  | .read name => [name]
  | .datetime arguments => readsAll arguments
  | .list items => readsAll items
  | .part target _ => target.reads
  | .unary _ operand => operand.reads
  | .binary _ left right | .both left right | .either left right => left.reads ++ right.reads
  | .chain first following => first.reads ++ readsLinks following

/-- The attributes that some expressions read. -/
def readsAll : List Expression → List String
  | [] => []
  | expression :: rest => expression.reads ++ readsAll rest

/-- The attributes that the operands of a chain read. -/
def readsLinks : List (Comparison × Expression) → List String
  | [] => []
  | (_, operand) :: rest => operand.reads ++ readsLinks rest

end

/-- The attributes that a phrase reads. -/
def Phrase.reads : Phrase → List String
  | .at _ tree => tree.reads
  | .links following => readsLinks following
  | .items trees => readsAll trees
  | .arguments given => readsAll (given.map Argument.value)

theorem mem_readsAll {name : String} {trees : List Expression} :
    name ∈ readsAll trees ↔ ∃ tree ∈ trees, name ∈ tree.reads := by
  induction trees with
  | nil => simp [readsAll]
  | cons tree rest ih => simp [readsAll, ih]

/-- What is given for a part is the value of an argument. -/
theorem Argument.mem_of_given? {arguments : List Argument} {part : MomentPart} {tree : Expression}
    (given : Argument.given? arguments part = some tree) :
    tree ∈ arguments.map Argument.value := by
  obtain ⟨before, after, same, -⟩ := List.lookup_eq_some_iff.1 given
  have placed : (some part, tree) ∈ Argument.placements arguments := by
    rw [same]
    exact List.mem_append_right before List.mem_cons_self
  obtain ⟨index, inside, equal⟩ := List.mem_mapIdx.1 placed
  exact List.mem_map.2 ⟨_, List.getElem_mem inside, congrArg Prod.snd equal⟩

/-- A slot of a call holds zero or the value of an argument. -/
theorem Argument.Fills.zero_or_given {arguments : List Argument} {slots : List Expression}
    (fills : Argument.Fills arguments slots) {slot : Expression} (inside : slot ∈ slots) :
    slot = .literal (.int 0) ∨ slot ∈ arguments.map Argument.value := by
  rw [fills.slots_eq] at inside
  obtain ⟨part, -, rfl⟩ := List.mem_map.1 inside
  cases given : Argument.given? arguments part with
  | none => exact .inl rfl
  | some value => exact .inr (Argument.mem_of_given? given)

/-- The slots of a call read what its arguments read. -/
theorem Argument.Fills.reads {arguments : List Argument} {slots : List Expression}
    (fills : Argument.Fills arguments slots) {name : String} (read : name ∈ readsAll slots) :
    name ∈ readsAll (arguments.map Argument.value) := by
  obtain ⟨slot, inside, reads⟩ := mem_readsAll.1 read
  rcases fills.zero_or_given inside with rfl | given
  · simp [Expression.reads] at reads
  · exact mem_readsAll.2 ⟨slot, given, reads⟩

theorem Joins.reads {level : Level} {operator : Lexeme}
    {combine : Expression → Expression → Expression} (joins : Joins level operator combine)
    (left right : Expression) : (combine left right).reads = left.reads ++ right.reads := by
  cases joins <;> simp [Expression.reads]

/-- A derivation reads declared attributes only. -/
theorem Derives.declared {kind : ItemKind} {depth : Nat} {phrase : Phrase} {tokens : List Token}
    (derives : Derives kind depth phrase tokens) :
    ∀ name ∈ phrase.reads, kind.declares name := by
  induction derives with
  | loosen _ ih | group _ _ ih | negate _ _ ih | sign _ _ _ ih | part _ _ ih | list _ _ ih =>
      simpa [Phrase.reads, Expression.reads] using ih
  | join joins _ _ left right =>
      simp only [Phrase.reads, joins.reads, List.mem_append]
      rintro name (inside | inside)
      · exact left name inside
      · exact right name inside
  | literal | emptyList => simp [Phrase.reads, Expression.reads, readsAll]
  | read _ declared => simpa [Phrase.reads, Expression.reads] using declared
  | lastLink _ _ ih | lastItem _ _ ih | lastArgument _ _ _ ih =>
      simpa [Phrase.reads, readsLinks, readsAll] using ih
  | chain _ _ left right | link _ _ _ left right | item _ _ _ left right
  | argument _ _ _ _ left right =>
      simpa [Phrase.reads, Expression.reads, readsLinks, readsAll, or_imp, forall_and] using
        And.intro left right
  | call _ fills _ ih =>
      intro name inside
      exact ih name (fills.reads (by simpa [Phrase.reads, Expression.reads] using inside))

/-- Faults for want of an attribute or because of the kind of an item. -/
def EvalError.isUnresolved : EvalError → Bool
  | .missingAttribute _ _ | .kindMismatch _ _ => true
  | _ => false

/-- A result that is no such fault. -/
def Resolved {α : Type} (result : Except EvalError α) : Prop :=
  ∀ fault, result = .error fault → fault.isUnresolved = false

section Resolved

variable {α β : Type}

theorem Resolved.ok (value : α) : Resolved (.ok value) := nofun

theorem Resolved.error {fault : EvalError} (resolved : fault.isUnresolved = false) :
    Resolved (.error fault : Except EvalError α) := by
  rintro _ ⟨⟩
  exact resolved

theorem Resolved.bind {first : Except EvalError α} {second : α → Except EvalError β}
    (start : Resolved first) (following : ∀ value, Resolved (second value)) :
    Resolved (first >>= second) := by
  cases first with
  | error fault => exact .error (start fault rfl)
  | ok value => exact following value

end Resolved

theorem resolved_intOrOverflow (operation : String) (result : Option Int64) :
    Resolved (intOrOverflow operation result) := by
  cases result with
  | none => exact .error rfl
  | some number => exact .ok _

theorem resolved_applyBinary (operator : BinaryOperator) (left right : Value) :
    Resolved (applyBinary operator left right) := by
  unfold applyBinary
  split
  · exact .ok _
  · exact .ok _
  · split
    · unfold arithmeticOnInts
      cases operator with
      | add | subtract | multiply => exact resolved_intOrOverflow _ _
      | divide =>
          simp only
          split
          · exact .error rfl
          · exact .ok _
      | floorDivide | modulo =>
          simp only
          split
          · exact .error rfl
          · exact resolved_intOrOverflow _ _
    · split
      · unfold arithmeticOnFloats
        cases operator with
        | add | subtract | multiply => exact .ok _
        | divide | floorDivide | modulo =>
            simp only
            split
            · exact .error rfl
            · exact .ok _
      · exact .error rfl

theorem resolved_applyUnary (operator : UnaryOperator) (operand : Value) :
    Resolved (applyUnary operator operand) := by
  unfold applyUnary
  cases operator with
  | not => exact .ok _
  | minus =>
      simp only
      split
      · exact .ok _
      · split
        · exact resolved_intOrOverflow _ _
        · exact .error rfl
  | plus =>
      simp only
      split
      · exact .ok _
      · split
        · exact .ok _
        · exact .error rfl

theorem resolved_applyComparison (comparison : Comparison) (left right : Value) :
    Resolved (applyComparison comparison left right) := by
  unfold applyComparison
  cases comparison with
  | equal | notEqual | same | notSame => exact .ok _
  | within | notWithin | less | lessEqual | greater | greaterEqual =>
      simp only
      split
      · exact .ok _
      · exact .error rfl

theorem resolved_integerParts (values : List Value) : Resolved (integerParts values) := by
  induction values with
  | nil => exact .ok _
  | cons value rest ih =>
      unfold integerParts
      split
      · exact ih.bind fun _ => .ok _
      · exact .error rfl

theorem resolved_buildMoment (arguments : List Value) : Resolved (buildMoment arguments) := by
  refine (resolved_integerParts arguments).bind fun parts => ?_
  split
  · exact .ok _
  · exact .error rfl

theorem resolved_readPart (target : Value) (part : MomentPart) : Resolved (readPart target part) := by
  unfold readPart
  split
  · exact .ok _
  · exact .error rfl

/-- A subject has a value for an attribute. -/
def Subject.Offers (subject : Subject) (name : String) : Prop := (subject.read? name).isSome

theorem resolved_read {subject : Subject} {name : String} (offers : subject.Offers name) :
    Resolved (subject.read name) := by
  obtain ⟨value, found⟩ := Option.isSome_iff_exists.1 offers
  unfold Subject.read
  rw [found]
  exact .ok value

mutual

/-- An expression resolves for a subject that offers everything it reads. -/
theorem resolved_evaluate {subject : Subject} (expression : Expression)
    (offers : ∀ name ∈ expression.reads, subject.Offers name) :
    Resolved (evaluate subject expression) := by
  match expression with
  | .literal value => exact .ok value
  | .read name => exact resolved_read (offers name List.mem_cons_self)
  | .datetime arguments => exact (resolved_evaluateAll arguments offers).bind resolved_buildMoment
  | .list items => exact (resolved_evaluateAll items offers).bind fun _ => .ok _
  | .part target part =>
      exact (resolved_evaluate target offers).bind fun value => resolved_readPart value part
  | .unary operator operand =>
      exact (resolved_evaluate operand offers).bind (resolved_applyUnary operator)
  | .binary operator left right =>
      have offers := List.forall_mem_append.1 offers
      refine (resolved_evaluate left offers.1).bind fun first => ?_
      exact (resolved_evaluate right offers.2).bind (resolved_applyBinary operator first)
  | .both left right =>
      have offers := List.forall_mem_append.1 offers
      refine (resolved_evaluate left offers.1).bind fun first => ?_
      split
      · exact resolved_evaluate right offers.2
      · exact .ok first
  | .either left right =>
      have offers := List.forall_mem_append.1 offers
      refine (resolved_evaluate left offers.1).bind fun first => ?_
      split
      · exact .ok first
      · exact resolved_evaluate right offers.2
  | .chain first following =>
      have offers := List.forall_mem_append.1 offers
      refine (resolved_evaluate first offers.1).bind fun left => ?_
      exact (resolved_evaluateLinks left following offers.2).bind fun _ => .ok _

theorem resolved_evaluateAll {subject : Subject} (expressions : List Expression)
    (offers : ∀ name ∈ readsAll expressions, subject.Offers name) :
    Resolved (evaluateAll subject expressions) := by
  match expressions with
  | [] => exact .ok []
  | expression :: rest =>
      have offers := List.forall_mem_append.1 offers
      refine (resolved_evaluate expression offers.1).bind fun value => ?_
      exact (resolved_evaluateAll rest offers.2).bind fun _ => .ok _

theorem resolved_evaluateLinks {subject : Subject} (left : Value)
    (following : List (Comparison × Expression))
    (offers : ∀ name ∈ readsLinks following, subject.Offers name) :
    Resolved (evaluateLinks subject left following) := by
  match following with
  | [] => exact .ok true
  | (comparison, operand) :: rest =>
      have offers := List.forall_mem_append.1 offers
      refine (resolved_evaluate operand offers.1).bind fun right => ?_
      refine (resolved_applyComparison comparison left right).bind fun holds => ?_
      split
      · exact resolved_evaluateLinks right rest offers.2
      · exact .ok false

end

/-- The items of a kind as filters see them. -/
inductive Presents : ItemKind → Subject → Prop where
  | post (item : Post) : Presents .post item.subject
  | storyItem (item : StoryItem) : Presents .storyItem item.subject
  | profile (item : Profile) : Presents .profile item.subject

/-- Every declared attribute of a post has a value. -/
theorem offers_post (item : Post) : ∀ name ∈ Post.attributeNames, item.subject.Offers name := by
  simp only [Post.attributeNames, List.forall_mem_cons]
  and_intros <;> first | rfl | exact List.forall_mem_nil _

/-- Every declared attribute of a story item has a value. -/
theorem offers_storyItem (item : StoryItem) :
    ∀ name ∈ StoryItem.attributeNames, item.subject.Offers name := by
  simp only [StoryItem.attributeNames, List.forall_mem_cons]
  and_intros <;> first | rfl | exact List.forall_mem_nil _

/-- Every declared attribute of a profile has a value. -/
theorem offers_profile (item : Profile) :
    ∀ name ∈ Profile.attributeNames, item.subject.Offers name := by
  simp only [Profile.attributeNames, List.forall_mem_cons]
  and_intros <;> first | rfl | exact List.forall_mem_nil _

/-- An item offers the attributes that its kind declares. -/
theorem Presents.offers {kind : ItemKind} {subject : Subject} (presents : Presents kind subject)
    {name : String} (declared : kind.declares name) : subject.Offers name := by
  have inside : name ∈ kind.attributes := List.contains_iff_mem.1 declared
  cases presents with
  | post item => exact offers_post item name inside
  | storyItem item => exact offers_storyItem item name inside
  | profile item => exact offers_profile item name inside

theorem Presents.kind_eq {kind : ItemKind} {subject : Subject} (presents : Presents kind subject) :
    subject.kind = kind := by
  cases presents <;> rfl

/-- A predicate for a kind reads attributes that the kind declares. -/
structure Predicate.Fits (predicate : Predicate) (kind : ItemKind) : Prop where
  kind_eq : predicate.kind = kind
  declared : ∀ name ∈ predicate.root.reads, kind.declares name

/-- What is compiled for a kind fits it. -/
theorem fits_of_compile {source : String} {kind : ItemKind} {predicate : Predicate}
    (compiled : Predicate.compile source kind = .ok predicate) : predicate.Fits kind := by
  obtain ⟨-, same, words, last, -, derives⟩ := compile_eq_ok.1 compiled
  exact ⟨same, derives.declared⟩

theorem Predicate.Fits.resolved_evaluate {predicate : Predicate} {kind : ItemKind}
    (fits : predicate.Fits kind) {subject : Subject} (presents : Presents kind subject) :
    Resolved (evaluate subject predicate.root) :=
  Filter.resolved_evaluate predicate.root fun name inside =>
    presents.offers (fits.declared name inside)

theorem Predicate.Fits.resolved_test {predicate : Predicate} {kind : ItemKind}
    (fits : predicate.Fits kind) {subject : Subject} (presents : Presents kind subject) :
    Resolved (predicate.test subject) := by
  unfold Predicate.test
  rw [if_pos (presents.kind_eq.trans fits.kind_eq.symm)]
  exact (fits.resolved_evaluate presents).bind fun _ => .ok _

/-- An item meets only a predicate that fits it. -/
theorem resolved_passes {filter : Option Predicate} {kind : ItemKind}
    (fits : ∀ predicate ∈ filter, predicate.Fits kind) {subject : Subject}
    (presents : Presents kind subject) : Resolved (passes filter subject) := by
  unfold passes
  split
  · exact .ok true
  · next predicate => exact (fits predicate rfl).resolved_test presents

/-- The predicates of a run fit the kinds they are for. -/
structure Filters.Fit (filters : Filters) : Prop where
  post : ∀ predicate ∈ filters.post, predicate.Fits .post
  storyItem : ∀ predicate ∈ filters.storyItem, predicate.Fits .storyItem

theorem fits_of_compileOptional {source : Option String} {kind : ItemKind}
    {filter : Option Predicate} (compiled : Filters.compileOptional source kind = .ok filter) :
    ∀ predicate ∈ filter, predicate.Fits kind := by
  cases source with
  | none =>
      cases compiled
      simp
  | some source =>
      obtain ⟨found, compiledSource, finished⟩ := bind_eq_ok.1 compiled
      cases finished
      rintro _ ⟨⟩
      exact fits_of_compile compiledSource

theorem Filters.fit_of_compile {post storyItem : Option String} {filters : Filters}
    (compiled : Filters.compile post storyItem = .ok filters) : filters.Fit := by
  obtain ⟨forPosts, compiledPost, following⟩ := bind_eq_ok.1 compiled
  obtain ⟨forStories, compiledStory, finished⟩ := bind_eq_ok.1 following
  cases finished
  exact ⟨fits_of_compileOptional compiledPost, fits_of_compileOptional compiledStory⟩

/-- Whatever its kind, an item is accepted or rejected without such a fault. -/
theorem Filters.Fit.resolved_accept {filters : Filters} (fit : filters.Fit) {kind : ItemKind}
    {subject : Subject} (presents : Presents kind subject) : Resolved (filters.accept subject) := by
  unfold Filters.accept
  rw [presents.kind_eq]
  refine resolved_passes ?_ presents
  cases kind with
  | post => exact fit.post
  | storyItem => exact fit.storyItem
  | profile => simp [Filters.forKind]

end Harvest.Filter
