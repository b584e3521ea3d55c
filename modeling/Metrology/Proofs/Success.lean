import Metrology.Failure

/-!
# Steps that succeed

When a chain of steps that may fail has a result: exactly when every step has one, and the last
one's is it (`bind_eq_ok_iff`, `map_eq_ok_iff`). Otherwise it fails as the first step that does
(`bind_eq_error_iff`, `map_eq_error_iff`).
-/

namespace Metrology

variable {α β : Type}

/-- A chain succeeds when its first step does and the rest succeeds on the result. -/
theorem bind_eq_ok_iff {first : Except Failure α} {next : α → Except Failure β} {b : β} :
    (first >>= next) = .ok b ↔ ∃ a, first = .ok a ∧ next a = .ok b := by
  cases first with
  | error f => simp [bind, Except.bind]
  | ok a => simp [bind, Except.bind]

theorem ok_bind (a : α) (next : α → Except Failure β) :
    (Except.ok a >>= next) = next a := rfl

/-- A result that is mapped is there when the result is. -/
theorem map_eq_ok_iff {first : Except Failure α} {g : α → β} {b : β} :
    first.map g = .ok b ↔ ∃ a, first = .ok a ∧ g a = b := by
  cases first with
  | error f => simp [Except.map]
  | ok a => simp [Except.map]

/-- A chain fails where its first step does, or where the rest fails on the result. -/
theorem bind_eq_error_iff {first : Except Failure α} {next : α → Except Failure β} {f : Failure} :
    (first >>= next) = .error f ↔ first = .error f ∨ ∃ a, first = .ok a ∧ next a = .error f := by
  cases first with
  | error g => simp [bind, Except.bind]
  | ok a => simp [bind, Except.bind]

theorem map_eq_error_iff {first : Except Failure α} {g : α → β} {f : Failure} :
    first.map g = .error f ↔ first = .error f := by
  cases first with
  | error e => simp [Except.map]
  | ok a => simp [Except.map]

theorem toOption_eq_some_iff {result : Except Failure α} {a : α} :
    result.toOption = some a ↔ result = .ok a := by
  cases result with
  | error f => simp [Except.toOption]
  | ok b => simp [Except.toOption]

end Metrology
