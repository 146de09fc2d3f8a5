/-
# Certain results

A computation that may fail in general but is known to succeed on the input at
hand has a value, which `Certain.value` takes out of it.
-/

namespace AsmListing
namespace Certain

variable {ε α β γ : Type}

/-- The value of a result that is known not to be a failure. -/
def value : (r : Except ε α) → r.isOk = true → α
  | .ok a, _ => a
  | .error _, h => nomatch h

theorem eq_ok_value {r : Except ε α} (h : r.isOk = true) : r = .ok (value r h) := by
  cases r with
  | ok a => rfl
  | error e => cases h

theorem eq_ok_of_toOption {r : Except ε α} {a : α} (h : r.toOption = some a) : r = .ok a := by
  cases r with
  | ok b => cases h; rfl
  | error e => cases h

theorem map_eq_ok_iff {r : Except ε α} {f : α → β} {b : β} :
    r.map f = .ok b ↔ ∃ a, r = .ok a ∧ f a = b := by
  cases r <;> simp [Except.map]

theorem map_eq_error_iff {r : Except ε α} {f : α → β} {e : ε} :
    r.map f = .error e ↔ r = .error e := by
  cases r <;> simp [Except.map]

theorem map_map (r : Except ε α) (f : α → β) (g : β → γ) : (r.map f).map g = r.map (g ∘ f) := by
  cases r <;> rfl

theorem bind_eq_ok_iff {r : Except ε α} {f : α → Except ε β} {b : β} :
    (r >>= f) = .ok b ↔ ∃ a, r = .ok a ∧ f a = .ok b := by
  cases r <;> simp [bind, Except.bind]

theorem isOk_iff {r : Except ε α} : r.isOk = true ↔ ∃ a, r = .ok a := by
  cases r <;> simp [Except.isOk, Except.toBool]

theorem isOk_map {r : Except ε α} {f : α → β} : (r.map f).isOk = r.isOk := by
  cases r <;> rfl

theorem of_any_toOption {r : Except ε α} {a : α} (hr : r = .ok a) {f : α → Bool}
    (h : r.toOption.any f = true) : f a = true := by
  subst hr
  exact h

theorem exists_of_any_toOption {r : Except ε α} {f : α → Bool} (h : r.toOption.any f = true) :
    ∃ a, r = .ok a ∧ f a = true := by
  cases r with
  | ok a => exact ⟨a, rfl, h⟩
  | error e => cases h

theorem isOk_of_any_toOption {r : Except ε α} {f : α → Bool} (h : r.toOption.any f = true) :
    r.isOk = true := by
  cases r with
  | ok a => rfl
  | error e => cases h

end Certain
end AsmListing
