import Mathlib

/-!
# Exceptions

A function of the source that can throw returns `Except`. Here is the exception the
models need and how success passes through the monad: `bind_eq_ok` and `map_eq_ok` take
a successful computation apart, `isOk_bind` and `isOk_bind_pure` say when it succeeds.
-/

namespace Holonight

/-- The exceptions that reach the modelled code from its libraries. -/
inductive Exn where
  /-- `nlohmann::json::type_error` 316: a string is not valid UTF-8. -/
  | jsonUtf8
  deriving DecidableEq, Repr

section Success

variable {ε α β : Type}

theorem bind_eq_ok {x : Except ε α} {f : α → Except ε β} {b : β} :
    (x >>= f) = .ok b ↔ ∃ a, x = .ok a ∧ f a = .ok b := by
  cases x with
  | error e =>
    constructor
    · intro h
      cases h
    · rintro ⟨a, ha, -⟩
      cases ha
  | ok a =>
    constructor
    · intro h
      exact ⟨a, rfl, h⟩
    · rintro ⟨a', ha, h⟩
      cases ha
      exact h

theorem map_eq_ok {x : Except ε α} {f : α → β} {b : β} :
    x.map f = .ok b ↔ ∃ a, x = .ok a ∧ f a = b := by
  cases x with
  | error e => simp [Except.map]
  | ok a => simp [Except.map]

theorem isOk_bind_pure (x : Except ε α) (f : α → β) :
    (x >>= fun a => pure (f a)).isOk = x.isOk := by
  cases x <;> rfl

theorem isOk_bind (x : Except ε α) (f : α → Except ε β) (b : Bool)
    (hf : ∀ a, (f a).isOk = b) : (x >>= f).isOk = (x.isOk && b) := by
  cases x with
  | error e => rfl
  | ok a =>
    show (f a).isOk = (true && b)
    rw [hf a, Bool.true_and]

end Success

end Holonight
