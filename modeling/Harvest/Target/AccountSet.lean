/-!
Sets of account names, in ascending order of code points.
-/

namespace Harvest

/-- A set of names as an ascending list. -/
structure AccountSet where
  names : List String
  ascending : names.Pairwise (· < ·)

namespace AccountSet

/-- No names. -/
def empty : AccountSet := ⟨[], List.Pairwise.nil⟩

/-- A name goes in front of the first greater one. -/
def insertName (name : String) : List String → List String
  | [] => [name]
  | first :: rest =>
    if name < first then name :: first :: rest
    else if name = first then first :: rest
    else first :: insertName name rest

/-- An insertion adds the name and nothing else. -/
theorem mem_insertName {name other : String} (names : List String) :
    other ∈ insertName name names ↔ other = name ∨ other ∈ names := by
  induction names with
  | nil => simp [insertName]
  | cons first rest hypothesis =>
    unfold insertName
    split
    · simp
    · split
      · next same => simp [same]
      · simp only [List.mem_cons, hypothesis]
        exact or_left_comm

/-- Names that are not less and not equal are greater. -/
theorem greater_of_not_less {name other : String} (notLess : ¬name < other)
    (different : name ≠ other) : other < name :=
  Std.lt_of_le_of_ne (String.not_lt.1 notLess) (Ne.symm different)

/-- An insertion keeps the order. -/
theorem ascending_insertName (name : String) (names : List String)
    (ascending : names.Pairwise (· < ·)) : (insertName name names).Pairwise (· < ·) := by
  induction names with
  | nil => simp [insertName]
  | cons first rest hypothesis =>
    have tail := List.pairwise_cons.1 ascending
    unfold insertName
    split
    · next less =>
      refine List.pairwise_cons.2 ⟨?_, ascending⟩
      intro other inside
      rcases List.mem_cons.1 inside with same | inside
      · exact same ▸ less
      · exact String.lt_trans less (tail.1 other inside)
    · split
      · exact ascending
      · next notLess different =>
        refine List.pairwise_cons.2 ⟨?_, hypothesis tail.2⟩
        intro other inside
        rcases (mem_insertName rest).1 inside with same | inside
        · exact same ▸ greater_of_not_less notLess different
        · exact tail.1 other inside

/-- The set with one more name. -/
def insert (accounts : AccountSet) (name : String) : AccountSet :=
  ⟨insertName name accounts.names, ascending_insertName name accounts.names accounts.ascending⟩

/-- The set with more names. -/
def extend (accounts : AccountSet) (names : List String) : AccountSet :=
  names.foldl insert accounts

/-- The set of a list of names. -/
def ofList (names : List String) : AccountSet :=
  empty.extend names

/-- An extension adds its names and nothing else. -/
theorem mem_extend {accounts : AccountSet} {name : String} (names : List String) :
    name ∈ (accounts.extend names).names ↔ name ∈ names ∨ name ∈ accounts.names := by
  induction names generalizing accounts with
  | nil => simp [extend]
  | cons first rest ih =>
      have inserted : name ∈ (accounts.insert first).names ↔ name = first ∨ name ∈ accounts.names :=
        mem_insertName accounts.names
      change name ∈ ((accounts.insert first).extend rest).names ↔ _
      rw [ih, inserted, List.mem_cons, or_left_comm, or_assoc]

/-- The set of a list has the names of the list. -/
theorem mem_ofList {name : String} (names : List String) :
    name ∈ (ofList names).names ↔ name ∈ names := by
  have extended : name ∈ (empty.extend names).names ↔ _ := mem_extend names
  exact extended.trans (by simp [empty])

/-- Whether a name is in the set. -/
def contains (accounts : AccountSet) (name : String) : Bool :=
  accounts.names.contains name

/-- The number of names. -/
def size (accounts : AccountSet) : Nat :=
  accounts.names.length

/-- Whether there are no names. -/
def isEmpty (accounts : AccountSet) : Bool :=
  accounts.names.isEmpty

end AccountSet

end Harvest
