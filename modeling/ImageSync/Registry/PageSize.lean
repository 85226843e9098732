/-!
# `ImageSync.Registry.PageSize`: how many names one page may hold

A listing request asks for a page of at most `maxPageSize` names. `clampPageSize` brings a
wish into the range that registries accept (`one_le_clampPageSize`, `clampPageSize_le`).
-/

set_option autoImplicit false

namespace ImageSync

/-- The largest page a listing request may ask for. -/
def maxPageSize : Nat := 100

/-- The page size nearest to a wish that registries accept. -/
def clampPageSize (n : Nat) : Nat := max 1 (min n maxPageSize)

/-- A page holds at least one name. -/
theorem one_le_clampPageSize (n : Nat) : 1 ≤ clampPageSize n := Nat.le_max_left _ _

/-- A page holds at most `maxPageSize` names. -/
theorem clampPageSize_le (n : Nat) : clampPageSize n ≤ maxPageSize :=
  Nat.max_le.2 ⟨by decide, Nat.min_le_right _ _⟩

end ImageSync
