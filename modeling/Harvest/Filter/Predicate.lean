import Harvest.Filter.Evaluation
import Harvest.Filter.Expression.Parse

/-!
Compiled filters. A predicate belongs to one kind of item, and a run has at most one predicate
for posts and one for story items.
-/

namespace Harvest.Filter

/-- A compiled filter with the text it came from. -/
structure Predicate where
  source : String
  kind : ItemKind
  root : Expression

namespace Predicate

/-- The predicate of a text for one kind of item. -/
def compile (source : String) (kind : ItemKind) : Except FilterError Predicate := do
  return ⟨source, kind, ← Expression.parse source kind⟩

/-- The truth of a predicate for an item of its kind. -/
def test (predicate : Predicate) (subject : Subject) : Except EvalError Bool :=
  if subject.kind = predicate.kind then do
    return (← evaluate subject predicate.root).isTrue
  else .error (.kindMismatch predicate.kind subject.kind)

end Predicate

/-- An item passes when there is no predicate or the predicate holds. -/
def passes (predicate : Option Predicate) (subject : Subject) : Except EvalError Bool :=
  match predicate with
  | none => .ok true
  | some predicate => predicate.test subject

/-- The predicates of a run. -/
structure Filters where
  post : Option Predicate
  storyItem : Option Predicate

namespace Filters

/-- A run without predicates. -/
def none : Filters := ⟨Option.none, Option.none⟩

/-- An optional text compiles to an optional predicate. -/
def compileOptional (source : Option String) (kind : ItemKind) :
    Except FilterError (Option Predicate) :=
  match source with
  | Option.none => .ok Option.none
  | some source => do return some (← Predicate.compile source kind)

/-- The predicates of a run from their texts, the one for posts first. -/
def compile (post storyItem : Option String) : Except FilterError Filters := do
  let post ← compileOptional post .post
  let storyItem ← compileOptional storyItem .storyItem
  return ⟨post, storyItem⟩

/-- The predicate that applies to a kind of item. -/
def forKind (filters : Filters) : ItemKind → Option Predicate
  | .post => filters.post
  | .storyItem => filters.storyItem
  | .profile => Option.none

/-- Whether an item passes the predicate for its kind. -/
def accept (filters : Filters) (subject : Subject) : Except EvalError Bool :=
  passes (filters.forKind subject.kind) subject

end Filters

end Harvest.Filter
