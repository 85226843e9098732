/-!
# `ImageSync.Registry.Bound`: when a listing has enough names

A caller may bound a listing. A bound of zero asks for everything; any other bound ends the
listing after the page that reaches it. That page is kept whole, so a listing may hold more
names than its bound.

Main statement: a listing that has enough for a bound has enough for every smaller one
(`wantsMore_of_le`).
-/

set_option autoImplicit false

namespace ImageSync

/-- Whether a listing that holds `count` names goes on to another page. -/
def wantsMore (bound count : Nat) : Bool := bound == 0 || count < bound

/-- A listing does not go on with as many names as its bound. -/
theorem wantsMore_eq_false_iff {bound count : Nat} :
    wantsMore bound count = false ↔ 0 < bound ∧ bound ≤ count := by
  simp [wantsMore, Nat.pos_iff_ne_zero]

/-- A listing that goes on for one bound goes on for every larger one. -/
theorem wantsMore_of_le {small large count : Nat} (hpos : 0 < small)
    (hle : large = 0 ∨ small ≤ large) (h : wantsMore small count = true) :
    wantsMore large count = true := by
  simp only [wantsMore, Bool.or_eq_true, beq_iff_eq, decide_eq_true_eq] at h ⊢
  omega

end ImageSync
