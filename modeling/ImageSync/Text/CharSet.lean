/-!
# `ImageSync.Text.CharSet`: sets of characters

A set of characters is kept as the ascending list of the code points at which membership
changes: `[0x61, 0x7B]` is the set of the letters `a` to `z`. Every Boolean operation on
two sets is then one walk over both lists, `sweep`, which notes where the combined
membership changes.

Main statements: `contains_union`, `contains_inter`, `contains_diff`, `contains_symmDiff`
and `contains_compl` say what the operations do to membership, and `contains_range` what a
range holds.
-/

set_option autoImplicit false

namespace ImageSync.Text

/-- A set of characters, by the ascending code points at which membership changes. -/
structure CharSet where
  toggles : List Nat
  sorted : toggles.Pairwise (· < ·)

namespace CharSet

/-- Whether `n` is inside after the toggles up to it, for a start that is inside or not. -/
def insideAt (start : Bool) : List Nat → Nat → Bool
  | [], _ => start
  | t :: ts, n => if n < t then start else insideAt (!start) ts n

/-- Whether the code point `n` is in a set. -/
def containsCode (s : CharSet) (n : Nat) : Bool := insideAt false s.toggles n

/-- Whether a character is in a set. -/
def contains (s : CharSet) (c : Char) : Bool := s.containsCode c.toNat

/-- Notes a toggle at `t` if membership changes there. -/
def note (before after : Bool) (t : Nat) (rest : List Nat) : List Nat :=
  if before = after then rest else t :: rest

/-- The toggles of the set that has a code point where `f` of the two memberships holds.
The flags say whether the walk is inside the first and the second set. -/
def sweep (f : Bool → Bool → Bool) (x y : Bool) : List Nat → List Nat → List Nat
  | [], [] => []
  | a :: as, [] => note (f x y) (f (!x) y) a (sweep f (!x) y as [])
  | [], b :: bs => note (f x y) (f x !y) b (sweep f x (!y) [] bs)
  | a :: as, b :: bs =>
    if a < b then note (f x y) (f (!x) y) a (sweep f (!x) y as (b :: bs))
    else if b < a then note (f x y) (f x !y) b (sweep f x (!y) (a :: as) bs)
    else note (f x y) (f (!x) !y) a (sweep f (!x) (!y) as bs)
  termination_by as bs => as.length + bs.length

/-! ### What the walk does -/

/-- Before all toggles membership is what it was at the start. -/
theorem insideAt_of_lt {start : Bool} {ts : List Nat} {n : Nat} (h : ∀ t ∈ ts, n < t) :
    insideAt start ts n = start := by
  cases ts with
  | nil => rfl
  | cons t ts => simp [insideAt, h t (by simp)]

/-- A noted toggle changes membership from its place on. -/
theorem insideAt_note {before after : Bool} {t n : Nat} {rest : List Nat}
    (h : ∀ u ∈ rest, t < u) :
    insideAt before (note before after t rest) n =
      if n < t then before else insideAt after rest n := by
  unfold note
  split
  · next heq =>
    subst heq
    split
    · next hn => exact insideAt_of_lt fun u hu => Nat.lt_trans hn (h u hu)
    · rfl
  · next hne =>
    rw [insideAt]
    have : (!before) = after := by cases before <;> cases after <;> simp_all
    rw [this]

/-- The walk notes only toggles of the two lists. -/
theorem mem_of_mem_sweep {f : Bool → Bool → Bool} {x y : Bool} {as bs : List Nat} {t : Nat}
    (h : t ∈ sweep f x y as bs) : t ∈ as ∨ t ∈ bs := by
  have hnote : ∀ {p q : Bool} {u : Nat} {rest : List Nat}, t ∈ note p q u rest →
      t = u ∨ t ∈ rest := by
    intro p q u rest h
    unfold note at h
    split at h
    · exact .inr h
    · exact List.mem_cons.1 h
  fun_induction sweep f x y as bs <;> grind

/-- A toggle in front of the first one of a list is in front of all of them. -/
theorem lt_of_mem_cons {t u first : Nat} {rest : List Nat}
    (h : (first :: rest).Pairwise (· < ·)) (ht : t < first) (hu : u ∈ first :: rest) : t < u := by
  rcases List.mem_cons.1 hu with rfl | hu
  · exact ht
  · exact Nat.lt_trans ht ((List.pairwise_cons.1 h).1 u hu)

/-- What is in front of both lists is in front of what the walk notes. -/
theorem lt_of_mem_sweep {f : Bool → Bool → Bool} {x y : Bool} {as bs : List Nat} {t : Nat}
    (ha : ∀ u ∈ as, t < u) (hb : ∀ u ∈ bs, t < u) : ∀ u ∈ sweep f x y as bs, t < u :=
  fun u hu => (mem_of_mem_sweep hu).elim (ha u) (hb u)

/-- A toggle is noted or left out in front of later ones. -/
theorem pairwise_note {before after : Bool} {t : Nat} {rest : List Nat} (hlt : ∀ u ∈ rest, t < u)
    (hrest : rest.Pairwise (· < ·)) : (note before after t rest).Pairwise (· < ·) := by
  unfold note
  split
  · exact hrest
  · exact List.pairwise_cons.2 ⟨hlt, hrest⟩

/-- The walk notes its toggles in ascending order. -/
theorem pairwise_sweep {f : Bool → Bool → Bool} {x y : Bool} {as bs : List Nat}
    (ha : as.Pairwise (· < ·)) (hb : bs.Pairwise (· < ·)) :
    (sweep f x y as bs).Pairwise (· < ·) := by
  -- One case for each step of the walk: one list is at its end, or one of the two toggles comes
  -- first, or they come together.
  fun_induction sweep f x y as bs with
  | case1 => exact .nil
  | case2 x y a as ih =>
    obtain ⟨hfirst, has⟩ := List.pairwise_cons.1 ha
    exact pairwise_note (lt_of_mem_sweep hfirst (List.forall_mem_nil _)) (ih has hb)
  | case3 x y b bs ih =>
    obtain ⟨hfirst, hbs⟩ := List.pairwise_cons.1 hb
    exact pairwise_note (lt_of_mem_sweep (List.forall_mem_nil _) hfirst) (ih ha hbs)
  | case4 x y a as b bs hab ih =>
    obtain ⟨hfirst, has⟩ := List.pairwise_cons.1 ha
    exact pairwise_note (lt_of_mem_sweep hfirst fun _ => lt_of_mem_cons hb hab) (ih has hb)
  | case5 x y a as b bs _ hba ih =>
    obtain ⟨hfirst, hbs⟩ := List.pairwise_cons.1 hb
    exact pairwise_note (lt_of_mem_sweep (fun _ => lt_of_mem_cons ha hba) hfirst) (ih ha hbs)
  | case6 x y a as b bs hab hba ih =>
    obtain rfl : a = b := Nat.le_antisymm (Nat.not_lt.1 hba) (Nat.not_lt.1 hab)
    obtain ⟨hfirst, has⟩ := List.pairwise_cons.1 ha
    obtain ⟨hfirst', hbs⟩ := List.pairwise_cons.1 hb
    exact pairwise_note (lt_of_mem_sweep hfirst hfirst') (ih has hbs)

/-- Membership after the walk is `f` of the two memberships. -/
theorem insideAt_sweep {f : Bool → Bool → Bool} {x y : Bool} {as bs : List Nat} {n : Nat}
    (ha : as.Pairwise (· < ·)) (hb : bs.Pairwise (· < ·)) :
    insideAt (f x y) (sweep f x y as bs) n = f (insideAt x as n) (insideAt y bs n) := by
  -- In each step the membership of the list whose toggle comes first changes, and that of the other
  -- one stays.
  fun_induction sweep f x y as bs with
  | case1 => rfl
  | case2 x y a as ih =>
    obtain ⟨hfirst, has⟩ := List.pairwise_cons.1 ha
    rw [insideAt_note (lt_of_mem_sweep hfirst (List.forall_mem_nil _)), ih has hb]
    simp only [insideAt]
    split <;> rfl
  | case3 x y b bs ih =>
    obtain ⟨hfirst, hbs⟩ := List.pairwise_cons.1 hb
    rw [insideAt_note (lt_of_mem_sweep (List.forall_mem_nil _) hfirst), ih ha hbs]
    simp only [insideAt]
    split <;> rfl
  | case4 x y a as b bs hab ih =>
    obtain ⟨hfirst, has⟩ := List.pairwise_cons.1 ha
    rw [insideAt_note (lt_of_mem_sweep hfirst fun _ => lt_of_mem_cons hb hab), ih has hb]
    simp only [insideAt]
    by_cases hn : n < a
    · have hnb : n < b := Nat.lt_trans hn hab
      simp [hn, hnb]
    · simp [hn]
  | case5 x y a as b bs _ hba ih =>
    obtain ⟨hfirst, hbs⟩ := List.pairwise_cons.1 hb
    rw [insideAt_note (lt_of_mem_sweep (fun _ => lt_of_mem_cons ha hba) hfirst), ih ha hbs]
    simp only [insideAt]
    by_cases hn : n < b
    · have hna : n < a := Nat.lt_trans hn hba
      simp [hn, hna]
    · simp [hn]
  | case6 x y a as b bs hab hba ih =>
    obtain rfl : a = b := Nat.le_antisymm (Nat.not_lt.1 hba) (Nat.not_lt.1 hab)
    obtain ⟨hfirst, has⟩ := List.pairwise_cons.1 ha
    obtain ⟨hfirst', hbs⟩ := List.pairwise_cons.1 hb
    rw [insideAt_note (lt_of_mem_sweep hfirst hfirst'), ih has hbs]
    simp only [insideAt]
    split <;> rfl

/-! ### The operations -/

/-- The set with no character. -/
def empty : CharSet := ⟨[], .nil⟩

/-- The set of all characters. -/
def full : CharSet := ⟨[0], List.pairwise_singleton _ _⟩

/-- Two toggles in their order. -/
theorem pairwise_of_lt {a b : Nat} (h : a < b) : [a, b].Pairwise (· < ·) := by
  simpa using h

/-- The code points from `lo` to `hi`, both included. -/
def range (lo hi : Nat) : CharSet :=
  if h : lo ≤ hi then ⟨[lo, hi + 1], pairwise_of_lt (Nat.lt_succ_of_le h)⟩ else empty

/-- The set of one character. -/
def single (c : Char) : CharSet := range c.toNat c.toNat

/-- The characters from `lo` to `hi`, both included. -/
def span (lo hi : Char) : CharSet := range lo.toNat hi.toNat

/-- The set that has a code point where `f` of the memberships in two sets holds. -/
def combine (f : Bool → Bool → Bool) (s t : CharSet) : CharSet :=
  ⟨sweep f false false s.toggles t.toggles, pairwise_sweep s.sorted t.sorted⟩

/-- The characters of at least one of two sets. -/
def union (s t : CharSet) : CharSet := combine (fun x y => x || y) s t

/-- The characters of both of two sets. -/
def inter (s t : CharSet) : CharSet := combine (fun x y => x && y) s t

/-- The characters of the first set that the second has not. -/
def diff (s t : CharSet) : CharSet := combine (fun x y => x && !y) s t

/-- The characters of exactly one of two sets. -/
def symmDiff (s t : CharSet) : CharSet := combine (fun x y => x != y) s t

/-- The characters that a set has not. -/
def compl (s : CharSet) : CharSet := diff full s

/-- The characters of at least one set of a list. -/
def unionAll (sets : List CharSet) : CharSet := sets.foldr union empty

/-- Pairs of the first and the last code point of each run of members below `limit`. -/
def runs (limit : Nat) (s : CharSet) : List (Nat × Nat) :=
  go s.toggles
where
  go : List Nat → List (Nat × Nat)
    | [] => []
    | [lo] => [(lo, limit - 1)]
    | lo :: hi :: r => (lo, hi - 1) :: go r

/-- Combined sets hold a code point where `f` says so of both. Neither holds anything in front of
its first toggle, so `f` must say no there. -/
theorem containsCode_combine {f : Bool → Bool → Bool} (hf : f false false = false)
    (s t : CharSet) (n : Nat) :
    (combine f s t).containsCode n = f (s.containsCode n) (t.containsCode n) := by
  have h := insideAt_sweep (f := f) (x := false) (y := false) (n := n) s.sorted t.sorted
  rw [hf] at h
  exact h

/-- No character is in the empty set. -/
@[simp] theorem contains_empty (c : Char) : empty.contains c = false := rfl

/-- All characters are in the full set. -/
@[simp] theorem contains_full (c : Char) : full.contains c = true := rfl

/-- A range holds the code points between its ends, and is empty if these are the wrong way round.
-/
theorem containsCode_range {lo hi n : Nat} :
    (range lo hi).containsCode n = true ↔ lo ≤ n ∧ n ≤ hi := by
  unfold range
  split
  · simp only [containsCode, insideAt]
    split
    · simp; omega
    · split <;> simp <;> omega
  · simp only [containsCode, empty, insideAt]
    simp; omega

/-- A range holds the characters between its ends. -/
theorem contains_range {lo hi : Nat} {c : Char} :
    (range lo hi).contains c = true ↔ lo ≤ c.toNat ∧ c.toNat ≤ hi := containsCode_range

/-- A character is in the union if it is in one of the sets. -/
@[simp] theorem contains_union (s t : CharSet) (c : Char) :
    (union s t).contains c = (s.contains c || t.contains c) := containsCode_combine rfl s t _

/-- A character is in the intersection if it is in both sets. -/
@[simp] theorem contains_inter (s t : CharSet) (c : Char) :
    (inter s t).contains c = (s.contains c && t.contains c) := containsCode_combine rfl s t _

/-- A character is in the difference if it is in the first set only. -/
@[simp] theorem contains_diff (s t : CharSet) (c : Char) :
    (diff s t).contains c = (s.contains c && !t.contains c) := containsCode_combine rfl s t _

/-- A character is in the symmetric difference if it is in one set only. -/
@[simp] theorem contains_symmDiff (s t : CharSet) (c : Char) :
    (symmDiff s t).contains c = (s.contains c != t.contains c) := containsCode_combine rfl s t _

/-- A character is in the complement if it is not in the set. -/
@[simp] theorem contains_compl (s : CharSet) (c : Char) :
    (compl s).contains c = !s.contains c := by
  rw [compl, contains_diff, contains_full, Bool.true_and]

/-- The set of one character holds that character and no other. -/
@[simp] theorem contains_single (a c : Char) : (single a).contains c = (c == a) := by
  rw [Bool.eq_iff_iff, single, contains_range, beq_iff_eq]
  constructor
  · rintro ⟨h1, h2⟩
    exact Char.toNat_inj.1 (Nat.le_antisymm h2 h1)
  · rintro rfl
    exact ⟨Nat.le_refl _, Nat.le_refl _⟩

end CharSet

end ImageSync.Text
