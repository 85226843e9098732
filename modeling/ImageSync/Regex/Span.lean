import ImageSync.Regex.Node

/-!
# `ImageSync.Regex.Span`: which parts of a text an expression takes

`Span t e i j` says that the expression `e` can take the part of the text `t` from place
`i` to place `j`. It counts every way of matching, whether a search would prefer it or not.

Main statements: what is taken lies inside the text and forward (`Span.le`,
`Span.le_length`), and repetition is repeated taking (`Span.rep_iff`).
-/

set_option autoImplicit false

namespace ImageSync.Regex

/-- The character before a place of a text, if there is one. -/
def charBefore (t : List Char) (i : Nat) : Option Char := if i = 0 then none else t[i - 1]?

/-- An expression can take the part of a text between two places. -/
inductive Span (t : List Char) : Node → Nat → Nat → Prop where
  | empty {i : Nat} (hi : i ≤ t.length) : Span t .empty i i
  | one {s : Text.CharSet} {i : Nat} {c : Char} (hc : t[i]? = some c)
      (hs : s.contains c = true) : Span t (.one s) i (i + 1)
  | look {l : Look} {i : Nat} (hi : i ≤ t.length)
      (hl : l.holds (charBefore t i) t[i]? = true) : Span t (.look l) i i
  | seq {a b : Node} {i j k : Nat} (ha : Span t a i j) (hb : Span t b j k) :
      Span t (.seq a b) i k
  | altLeft {a b : Node} {i j : Nat} (ha : Span t a i j) : Span t (.alt a b) i j
  | altRight {a b : Node} {i j : Nat} (hb : Span t b i j) : Span t (.alt a b) i j
  | group {g : Nat} {a : Node} {i j : Nat} (ha : Span t a i j) : Span t (.group g a) i j
  | repDone {max : Option Nat} {greedy : Bool} {a : Node} {i : Nat} (hi : i ≤ t.length) :
      Span t (.rep 0 max greedy a) i i
  | repMore {min : Nat} {max : Option Nat} {greedy : Bool} {a : Node} {i j k : Nat}
      (hmax : max ≠ some 0) (ha : Span t a i j)
      (hr : Span t (.rep (min - 1) (max.map (· - 1)) greedy a) j k) :
      Span t (.rep min max greedy a) i k

namespace Span

variable {t : List Char}

/-- An expression takes text forward. -/
theorem le {e : Node} {i j : Nat} (h : Span t e i j) : i ≤ j := by
  induction h with
  | empty | look | repDone => exact Nat.le_refl _
  | one => exact Nat.le_succ _
  | seq _ _ iha ihb => exact Nat.le_trans iha ihb
  | altLeft _ ih => exact ih
  | altRight _ ih => exact ih
  | group _ ih => exact ih
  | repMore _ _ _ iha ihr => exact Nat.le_trans iha ihr

/-- An expression takes nothing beyond the end of the text. -/
theorem le_length {e : Node} {i j : Nat} (h : Span t e i j) : j ≤ t.length := by
  induction h with
  | empty hi | look hi | repDone hi => exact hi
  | one hc => exact (List.getElem?_eq_some_iff.1 hc).1
  | seq _ _ _ ihb => exact ihb
  | altLeft _ ih => exact ih
  | altRight _ ih => exact ih
  | group _ ih => exact ih
  | repMore _ _ _ _ ihr => exact ihr

/-- Taking the parts between neighbours of a list of places, one after the other. -/
inductive Chain (t : List Char) (a : Node) : Nat → Nat → Nat → Prop where
  | done {i : Nat} (hi : i ≤ t.length) : Chain t a 0 i i
  | more {n i j k : Nat} (ha : Span t a i j) (hr : Chain t a n j k) : Chain t a (n + 1) i k

/-- A repetition takes what its body takes an allowed number of times. -/
theorem rep_iff {min : Nat} {max : Option Nat} {greedy : Bool} {a : Node} {i k : Nat} :
    Span t (.rep min max greedy a) i k ↔
      ∃ n, min ≤ n ∧ (∀ m, max = some m → n ≤ m) ∧ Chain t a n i k := by
  constructor
  · intro h
    -- By induction on how the text is taken. The node changes with the bounds, so it is kept as a
    -- variable.
    generalize he : Node.rep min max greedy a = e at h
    induction h generalizing min max with
    | repDone hi => cases he; exact ⟨0, Nat.le_refl _, fun _ _ => Nat.zero_le _, .done hi⟩
    | repMore hmax ha _ _ ihr =>
      cases he
      obtain ⟨n, hmin, hn, hc⟩ := ihr rfl
      refine ⟨n + 1, by omega, fun m hm => ?_, .more ha hc⟩
      subst hm
      have hle : n ≤ m - 1 := hn _ rfl
      have hpos : m ≠ 0 := fun h0 => hmax (by simp [h0])
      omega
    | _ => cases he
  · rintro ⟨n, hmin, hn, hc⟩
    induction hc generalizing min max with
    | done hi =>
      have : min = 0 := by omega
      subst this
      exact .repDone hi
    | @more n i j k ha _ ih =>
      -- One time is used up, and both bounds go down by one.
      refine .repMore (fun h => ?_) ha (ih (by omega) fun m hm => ?_)
      · have := hn 0 h; omega
      · obtain ⟨m', rfl, rfl⟩ := Option.map_eq_some_iff.1 hm
        have := hn m' rfl
        show n ≤ m' - 1
        omega

end Span

end ImageSync.Regex
