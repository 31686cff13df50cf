/-!
Results of steps that may fail.
-/

namespace Harvest.Result

variable {ε ε' α β : Type}

/-- A step succeeds when what comes before it does, and it on the result. -/
theorem bind_eq_ok {first : Except ε α} {second : α → Except ε β} {result : β} :
    first >>= second = .ok result ↔ ∃ value, first = .ok value ∧ second value = .ok result := by
  cases first with
  | error fault => simp [bind, Except.bind]
  | ok value => simp [bind, Except.bind]

/-- A step fails when what comes before it does, or it on the result. -/
theorem bind_eq_error {first : Except ε α} {second : α → Except ε β} {fault : ε} :
    first >>= second = .error fault ↔
      first = .error fault ∨ ∃ value, first = .ok value ∧ second value = .error fault := by
  cases first with
  | error found => simp [bind, Except.bind]
  | ok value => simp [bind, Except.bind]

/-- A step goes on with the result before it. -/
theorem ok_bind (value : α) (second : α → Except ε β) :
    (Except.ok value : Except ε α) >>= second = second value := rfl

/-- Another form of a fault changes no success. -/
theorem mapError_eq_ok {first : Except ε α} {convert : ε → ε'} {result : α} :
    first.mapError convert = .ok result ↔ first = .ok result := by
  cases first with
  | error fault => exact ⟨nofun, nofun⟩
  | ok value => exact ⟨congrArg _ ∘ Except.ok.inj, congrArg _ ∘ Except.ok.inj⟩

theorem mapError_eq_error {first : Except ε α} {convert : ε → ε'} {fault : ε'} :
    first.mapError convert = .error fault ↔
      ∃ cause, first = .error cause ∧ convert cause = fault := by
  cases first with
  | error found =>
      refine ⟨fun same => ⟨found, rfl, Except.error.inj same⟩, ?_⟩
      rintro ⟨_, ⟨⟩, rfl⟩
      rfl
  | ok value =>
      constructor
      · rintro ⟨⟩
      · rintro ⟨_, ⟨⟩, _⟩

/-- Every fault of a result is an allowed one. -/
def Faults (allowed : ε → Prop) (result : Except ε α) : Prop :=
  ∀ fault, result = .error fault → allowed fault

variable {allowed : ε → Prop}

theorem Faults.ok (value : α) : Faults allowed (.ok value) := nofun

theorem Faults.error {fault : ε} (fine : allowed fault) :
    Faults allowed (.error fault : Except ε α) := by
  rintro _ ⟨⟩
  exact fine

/-- A step has the faults of what comes before it, and its own. -/
theorem Faults.bind {first : Except ε α} {second : α → Except ε β} (start : Faults allowed first)
    (following : ∀ value, first = .ok value → Faults allowed (second value)) :
    Faults allowed (first >>= second) := by
  cases first with
  | error fault => exact .error (start fault rfl)
  | ok value => exact following value rfl

end Harvest.Result
