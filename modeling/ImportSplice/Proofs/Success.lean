/-!
When a computation that may fail has succeeded, so have its parts.
-/

namespace ImportSplice

variable {ε α β : Type} {result : Except ε α}

theorem map_ok_iff {f : α → β} {value : β} :
    result.map f = .ok value ↔ ∃ found, result = .ok found ∧ f found = value := by
  cases result <;> simp [Except.map]

theorem mapError_ok_iff {ε' : Type} {wrap : ε → ε'} {value : α} :
    result.mapError wrap = .ok value ↔ result = .ok value := by
  cases result with
  | error fault => exact ⟨nofun, nofun⟩
  | ok found =>
      constructor
      all_goals
        intro made
        cases made
        rfl

theorem bind_ok_iff {next : α → Except ε β} {value : β} :
    (result >>= next) = .ok value ↔ ∃ found, result = .ok found ∧ next found = .ok value := by
  cases result <;> simp [bind, Except.bind]

end ImportSplice
