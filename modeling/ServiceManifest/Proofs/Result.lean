/-!
# Results that may fail

When a result that goes on to another one, or from which something is made, is found and when it fails.
-/

namespace ServiceManifest

section Result

variable {ε α β : Type} {result : Except ε α} {found : α} {value : β} {fault : ε}

/-- A value that a result has as an option is its value. -/
theorem eq_ok_of_toOption (h : result.toOption = some found) : result = .ok found := by
  cases result with
  | error fault => cases h
  | ok other => exact congrArg Except.ok (Option.some.inj h)

/-- A result that goes on is found where both parts find one. -/
theorem bind_eq_ok_iff {next : α → Except ε β} :
    result.bind next = .ok value ↔ ∃ found, result = .ok found ∧ next found = .ok value := by
  cases result <;> simp [Except.bind]

/-- What is made of a result is found where the result is. -/
theorem map_eq_ok_iff {make : α → β} :
    result.map make = .ok value ↔ ∃ found, result = .ok found ∧ make found = value := by
  cases result <;> simp [Except.map]

/-- A result that goes on fails where either part does. -/
theorem bind_eq_error_iff {next : α → Except ε β} : result.bind next = .error fault ↔
    result = .error fault ∨ ∃ found, result = .ok found ∧ next found = .error fault := by
  cases result <;> simp [Except.bind]

/-- What is made of a result fails where the result does. -/
theorem map_eq_error_iff {make : α → β} : result.map make = .error fault ↔ result = .error fault := by
  cases result <;> simp [Except.map]

end Result

end ServiceManifest
