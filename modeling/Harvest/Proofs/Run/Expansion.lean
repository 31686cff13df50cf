import Harvest.Proofs.Run.Isolation
import Mathlib.Data.Finset.Card

/-!
How following up an account changes the accounts of a run. Everyone whom the service names joins
them, the account itself included when the service names it, and the number that is told is the
number of new names.
-/

namespace Harvest

namespace AccountSet

/-- A name stands in a set once. -/
theorem nodup_names (accounts : AccountSet) : accounts.names.Nodup := by
  refine accounts.ascending.imp fun {first second} less => ?_
  rintro rfl
  exact String.lt_irrefl first less

theorem card_names (accounts : AccountSet) : accounts.names.toFinset.card = accounts.size :=
  List.toFinset_card_of_nodup accounts.nodup_names

/-- A set of the old names and some more is greater by those that are new. -/
theorem size_eq_of_mem_iff {accounts joined : AccountSet} {names : List String}
    (union : ∀ name, name ∈ joined.names ↔ name ∈ accounts.names ∨ name ∈ names) :
    joined.size = accounts.size + (names.toFinset \ accounts.names.toFinset).card := by
  have same : joined.names.toFinset = names.toFinset ∪ accounts.names.toFinset := by
    ext name
    rw [Finset.mem_union, List.mem_toFinset, List.mem_toFinset, List.mem_toFinset, union, or_comm]
  rw [← card_names, same, ← Finset.card_sdiff_add_card, card_names, Nat.add_comm]

end AccountSet

namespace Expansion

/-- A set has become another one as some followees joined it. -/
structure Joins (expansion : Expansion) (accounts : AccountSet) (followees : List String) :
    Prop where
  /-- The names are the old ones and the followees. -/
  mem_iff : ∀ name, name ∈ expansion.accounts.names ↔ name ∈ accounts.names ∨ name ∈ followees
  /-- The number told is the growth. -/
  size_eq : expansion.accounts.size = accounts.size + expansion.added
  /-- A new name counts once, however often it is among the followees. -/
  added_eq : expansion.added = (followees.toFinset \ accounts.names.toFinset).card

end Expansion

namespace AccountSet

/-- Followees join a set as it is merged with them. -/
theorem joins_merge (accounts : AccountSet) (followees : List String) :
    (accounts.merge followees).Joins accounts followees := by
  have union (name : String) : name ∈ (accounts.extend followees).names ↔
      name ∈ accounts.names ∨ name ∈ followees := by
    rw [mem_extend, or_comm]
  have size := size_eq_of_mem_iff union
  have added : (accounts.merge followees).added =
      (followees.toFinset \ accounts.names.toFinset).card :=
    Nat.sub_eq_of_eq_add' size
  exact ⟨union, added ▸ size, added⟩

/-- What an answer of the service makes of a set: the expansion that is told of it, and the outcome
with which a run goes on. -/
inductive FollowsUp (accounts : AccountSet) :
    Except RetrieveError (List String) → Except RetrieveError Expansion → RunSettings.Outcome → Prop
  | joined {followees : List String} {expansion : Expansion}
      (joins : expansion.Joins accounts followees) :
      FollowsUp accounts (.ok followees) (.ok expansion) ⟨expansion.accounts, .ok Tally.zero⟩
  | failed {fault : RetrieveError} :
      FollowsUp accounts (.error fault) (.error fault) ⟨accounts, .error (.retrieve fault)⟩

end AccountSet

namespace Surroundings

/-- To follow an account up is to ask the service once. Everyone whom it names joins the accounts
and each new name is counted, or its fault leaves the accounts as they are. -/
theorem followees_join_accounts (surroundings : Surroundings) (settings : RunSettings)
    (raw : String) (accounts : AccountSet) (account : String) :
    let request : ServiceCall := .retrieve settings.retriever (.followees account)
    ∃ result outcome, accounts.FollowsUp (surroundings.answer request) result outcome ∧
      surroundings.Does (accounts.followUp settings.retriever account) result [.call request] ∧
      surroundings.Does (settings.handleNamed raw accounts (.followees account)) outcome
        [.call request] := by
  intro request
  have told : surroundings.Does (accounts.followUp settings.retriever account) _ _ :=
    does_followUp accounts account
  have expanded : surroundings.Does (accounts.expandFollowees settings.retriever account) _ _ :=
    does_expandFollowees accounts account
  generalize answered : surroundings.answer request = answer
  rw [answered] at told expanded
  cases answer with
  | ok followees =>
      have joins := accounts.joins_merge followees
      exact ⟨_, _, .joined joins, told, expanded.ending (does_pure _)⟩
  | error fault => exact ⟨_, _, .failed, told, expanded.ending (does_pure _)⟩

/-- An account that follows itself joins the accounts. -/
theorem account_joins_as_its_own_followee :
    ¬∀ (surroundings : Surroundings) (settings : RunSettings) (accounts : AccountSet)
      (account : String) (followees : List String) (expansion : Expansion) (acts : History),
      surroundings.answer (.retrieve settings.retriever (.followees account)) = .ok followees →
        surroundings.Does (accounts.followUp settings.retriever account) (.ok expansion) acts →
          ∀ name, name ∈ expansion.accounts.names ↔
            name ∈ accounts.names ∨ name ∈ followees ∧ name ≠ account := by
  intro apart
  let settings : RunSettings :=
    ⟨.ofCredential none, Filter.Filters.none, BulkOptions.unlimited, ProfileOptions.usual⟩
  let request : ServiceCall := .retrieve settings.retriever (.followees "alice")
  let surroundings : Surroundings := generous.replacing request (.ok ["alice", "bob"])
  have answered : surroundings.answer request = .ok ["alice", "bob"] := by
    simp only [surroundings, replacing, Function.update_self]
  have told : surroundings.Does (AccountSet.empty.followUp settings.retriever "alice") _ _ :=
    does_followUp AccountSet.empty "alice"
  rw [answered] at told
  have same := apart surroundings settings AccountSet.empty "alice" _ _ _ answered told "alice"
  exact absurd (same.1 (by decide +kernel)) (by decide +kernel)

end Surroundings

end Harvest
