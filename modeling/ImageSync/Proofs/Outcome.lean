/-!
# `ImageSync.Proofs.Outcome`: results that may be errors

Whether a result is an error can be computed, and so can what it holds. Here this is turned into
equations, so that the outcome of a run on given data is known from a check (`eq_ok_of_toOption`,
`eq_error_of_error?`). Two actions in a row go well if both do (`bind_eq_ok_iff`).
-/

set_option autoImplicit false

namespace ImageSync

variable {ε α β : Type} {x : Except ε α} {a : α} {e : ε}

/-- The error of a result, if it is one. -/
def error? : Except ε α → Option ε
  | .ok _ => none
  | .error e => some e

/-- A result is known to be fine as soon as its optional value is computed. A check of `toOption`
can run on results whose errors have no decidable equality. -/
theorem eq_ok_of_toOption (h : x.toOption = some a) : x = .ok a := by
  cases x with
  -- An error has no optional value.
  | error e => cases h
  | ok a' =>
    cases h
    rfl

/-- A result is known to be an error as soon as the error is computed, whatever the type of the
values is. -/
theorem eq_error_of_error? (h : error? x = some e) : x = .error e := by
  cases x with
  | ok a => cases h
  | error e' =>
    cases h
    rfl

/-- A result that passes the check `isOk` holds a value. -/
theorem exists_eq_ok_of_isOk (h : x.isOk = true) : ∃ a, x = .ok a := by
  cases x with
  | error e => cases h
  | ok a => exact ⟨a, rfl⟩

/-- Two actions in a row give a value if and only if the first does and the second gives it from
there. With this, runs are taken apart without unfolding the monad. -/
theorem bind_eq_ok_iff {k : α → Except ε β} {b : β} :
    (x >>= k) = .ok b ↔ ∃ a, x = .ok a ∧ k a = .ok b := by
  cases x with
  | error e => simp [bind, Except.bind]
  | ok a => simp [bind, Except.bind]

end ImageSync
