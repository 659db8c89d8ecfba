import Gatehouse.Journal

/- Outcomes and journals of computations put one after the other. -/
namespace Gatehouse.Told

variable {ε δ α β : Type}

theorem bind_ok (first : Told ε α) (next : α → Told ε β) (value : β) :
    (first >>= next).outcome = .ok value ↔ ∃ found, first.outcome = .ok found ∧ (next found).outcome = .ok value := by
  show (first.andThen next).outcome = _ ↔ _
  unfold andThen
  cases first.outcome <;> simp

theorem bind_found (first : Told ε α) (next : α → Told ε β) (found : α) (same : first.outcome = .ok found) :
    (first >>= next).outcome = (next found).outcome := by
  show (first.andThen next).outcome = _
  rw [andThen, same]

theorem bind_congr (first : Told ε α) (next other : α → Told ε β)
    (same : ∀ found, first.outcome = .ok found → next found = other found) : (first >>= next) = (first >>= other) := by
  show first.andThen next = first.andThen other
  unfold andThen
  cases outcome : first.outcome with
  | error failure => rfl
  | ok found => simp only [same found outcome]

-- What was told before does not matter to the outcome.
theorem bind_untold (first other : Told ε α) (next : α → Told ε β) (same : first.outcome = other.outcome) :
    (first >>= next).outcome = (other >>= next).outcome := by
  show (first.andThen next).outcome = (other.andThen next).outcome
  rw [andThen, andThen, same]
  cases other.outcome <;> rfl

theorem bind_error (first : Told ε α) (next : α → Told ε β) (failure : ε) :
    (first >>= next).outcome = .error failure ↔ first.outcome = .error failure ∨
      ∃ found, first.outcome = .ok found ∧ (next found).outcome = .error failure := by
  show (first.andThen next).outcome = _ ↔ _
  unfold andThen
  cases first.outcome <;> simp

theorem map_error_ok (f : ε → δ) (told : Told ε α) (value : α) :
    (told.mapError f).outcome = .ok value ↔ told.outcome = .ok value := by
  rw [mapError]
  cases told.outcome with
  | error cause => constructor <;> intro same <;> cases same
  | ok found => constructor <;> intro same <;> cases same <;> rfl

theorem map_error_error (f : ε → δ) (told : Told ε α) (failure : δ) :
    (told.mapError f).outcome = .error failure ↔ ∃ cause, told.outcome = .error cause ∧ f cause = failure := by
  rw [mapError]
  cases told.outcome with
  | error cause =>
    constructor
    · intro same
      cases same
      exact ⟨cause, rfl, rfl⟩
    · rintro ⟨found, same, rfl⟩
      cases same
      rfl
  | ok found =>
    constructor
    · intro same
      cases same
    · rintro ⟨cause, same, _⟩
      cases same

@[simp] theorem fail_outcome (failure : ε) : (fail failure : Told ε α).outcome = .error failure := rfl

end Gatehouse.Told
