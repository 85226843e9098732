import ImageSync.Proofs.Outcome
import ImageSync.Registry.Bound

/-!
# `ImageSync.Proofs.Registry.PageLoop`: asking for one page after the other

Registries are listed page by page, each kind over its own wire. What the kinds have in
common is a `Pager`: it fetches the page that a key stands for, with the names on it and the
key of the page after it. `Pager.list` is the loop over the pages, up to a bound on the names.

`Pages.Last` says which of a row of pages a listing stops at, and `Pager.pages` is the row
that a pager goes through if no bound stops it. A `Pager.Trail` is any account of the fetches up
to the last page: what each was asked for with, the states between them, and the pages. The main
statements:

* `Pager.list_eq`: the loop makes the fetches up to the last page and no other, and comes to
  the names of all pages, or to the fault of the last one. Its step is `list_of_ends` and
  `list_of_not_ends`, its invariant that the loop holds the names of all pages so far.
* `Pager.Trail.list_eq`: so the loop comes to what any account of its fetches says.
* `Pager.list_related`: what each fetch keeps, the loop keeps.
* `Pager.list_prefix`: with a smaller bound the loop comes to a front of what it comes to with
  a larger one, and asks for a front of what it asks for there.
* `Pager.exists_last`: there is a last page if each fetch that leads on uses up something.
-/

set_option autoImplicit false

namespace ImageSync

/-- One action after the other: a fault is the end of it. -/
theorem bind_apply {ε σ α β : Type} (x : ExceptT ε (StateM σ) α)
    (k : α → ExceptT ε (StateM σ) β) (s : σ) :
    (x >>= k) s =
      match x s with
      | (.ok a, s') => k a s'
      | (.error e, s') => (.error e, s') := by
  show (x s >>= fun r => ExceptT.bindCont k r.1 r.2 : Id _) = _
  rcases x s with ⟨_ | _, _⟩
  · rfl
  · rfl

/-- What a listing gets for its fetches, in order: the names on a page and the key of the page
after it, or a fault. -/
abbrev Pages (ε κ : Type) := Nat → Except ε (List String × Option κ)

namespace Pages

variable {ε κ : Type}

/-- The names on a page. -/
def namesOf : Except ε (List String × Option κ) → List String
  | .ok (names, _) => names
  | .error _ => []

/-- The names of so many pages, in order. -/
def names (p : Pages ε κ) (count : Nat) : List String :=
  (List.range count).flatMap fun i => namesOf (p i)

/-- A listing stops at a page: it cannot be had, or no page is after it, or there are enough
names with it. -/
def Ends (p : Pages ε κ) (bound i : Nat) : Prop :=
  (∃ e, p i = .error e) ∨
    (∃ names, p i = .ok (names, none)) ∨ (0 < bound ∧ bound ≤ (p.names (i + 1)).length)

/-- A listing stops at a page, and at none before it. -/
structure Last (p : Pages ε κ) (bound last : Nat) : Prop where
  ends : p.Ends bound last
  goesOn : ∀ i < last, ¬p.Ends bound i

/-- What a listing comes to that stops at a page. -/
def outcome (p : Pages ε κ) (last : Nat) : Except ε (List String) :=
  match p last with
  | .ok _ => .ok (p.names (last + 1))
  | .error e => .error e

variable {p q : Pages ε κ} {bound count i last : Nat}

/-- One page more adds its names at the end. -/
theorem names_succ (p : Pages ε κ) (i : Nat) : p.names (i + 1) = p.names i ++ namesOf (p i) := by
  simp [names, List.range_succ, List.flatMap_append]

/-- The names of the first pages depend on these only. -/
theorem names_congr (h : ∀ i < count, p i = q i) : p.names count = q.names count := by
  induction count with
  | zero => rfl
  | succ count ih =>
    rw [names_succ, names_succ, ih fun i hi => h i (Nat.lt_succ_of_lt hi),
      h count (Nat.lt_succ_self count)]

/-- Pages that are not empty hold at least as many names as there are pages. -/
theorem le_length_names (h : ∀ i < count, namesOf (p i) ≠ []) :
    count ≤ (p.names count).length := by
  induction count with
  | zero => exact Nat.zero_le _
  | succ count ih =>
    have hcount := ih fun i hi => h i (Nat.lt_succ_of_lt hi)
    have hpos := List.length_pos_iff.2 (h count (Nat.lt_succ_self _))
    rw [names_succ, List.length_append]
    omega

/-- Whether a listing stops at a page depends on the pages up to that one. -/
theorem ends_congr (h : ∀ j ≤ i, p j = q j) : p.Ends bound i ↔ q.Ends bound i := by
  rw [Ends, Ends, h i (Nat.le_refl i), names_congr fun j hj => h j (Nat.le_of_lt_succ hj)]

/-- At a page that can be had, a listing stops if there is none after it, or if it wants no more
names. -/
theorem ends_iff_of_ok {more : List String} {next : Option κ} (h : p i = .ok (more, next)) :
    p.Ends bound i ↔ next = none ∨ wantsMore bound (p.names (i + 1)).length = false := by
  rw [wantsMore_eq_false_iff, Ends, h]
  simp

/-- A listing goes on exactly behind a page that leads on with too few names. -/
theorem not_ends_iff :
    ¬p.Ends bound i ↔
      ∃ more next, p i = .ok (more, some next) ∧
        wantsMore bound (p.names i ++ more).length = true := by
  have hmore : ∀ count, wantsMore bound count = true ↔ ¬(0 < bound ∧ bound ≤ count) := by
    intro count
    rw [← wantsMore_eq_false_iff, Bool.not_eq_false]
  rw [Ends, names_succ]
  cases hpage : p i with
  | error e => simp
  | ok page =>
    obtain ⟨more, next⟩ := page
    cases next with
    | none => simp
    | some next => simp [namesOf, hmore]

/-- Before the page that a listing stops at there are too few names. -/
theorem Last.length_names_lt (h : p.Last bound last) (hbound : 0 < bound) :
    (p.names last).length < bound := by
  cases last with
  | zero => exact hbound
  | succ last =>
    refine Nat.lt_of_not_le fun hle => ?_
    exact h.goesOn last (Nat.lt_succ_self _) (.inr (.inr ⟨hbound, hle⟩))

/-- The page that a listing stops at depends on the pages up to that one. -/
theorem Last.congr (h : p.Last bound last) (heq : ∀ i ≤ last, p i = q i) : q.Last bound last where
  ends := (ends_congr heq).1 h.ends
  goesOn i hi hends := h.goesOn i hi
    ((ends_congr fun j hj => heq j (Nat.le_trans hj (Nat.le_of_lt hi))).2 hends)

/-- So does what it comes to. -/
theorem outcome_congr (heq : ∀ i ≤ last, p i = q i) : p.outcome last = q.outcome last := by
  rw [outcome, outcome, heq last (Nat.le_refl last),
    names_congr fun i hi => heq i (Nat.le_of_lt_succ hi)]

/-- The continuation that a page has given. -/
def continuation? : Except ε (List String × Option κ) → Option κ
  | .ok (_, next) => next
  | .error _ => none

/-- A page that has given a continuation was had. -/
theorem exists_of_continuation? {page : Except ε (List String × Option κ)} {key : κ}
    (h : continuation? page = some key) : ∃ names, page = .ok (names, some key) := by
  cases page with
  | error e => cases h
  | ok page =>
    obtain ⟨names, next⟩ := page
    obtain rfl : next = some key := h
    exact ⟨names, rfl⟩

end Pages

open Pages (continuation?)

/-- A way to fetch the page that a key stands for: the names on it, and the key of the page
after it. What it did to the state stays done if it fails. -/
abbrev Pager (ε σ κ : Type) := κ → σ → Except ε (List String × Option κ) × σ

namespace Pager

variable {ε σ κ : Type}

/-- Fetches pages from a key on, after `names`, at most `fuel` of them. -/
def list (fetch : Pager ε σ κ) (tooMany : ε) (bound : Nat) :
    Nat → κ → List String → σ → Except ε (List String) × σ
  | 0, _, _, s => (.error tooMany, s)
  | fuel + 1, key, names, s =>
    match fetch key s with
    | (.error e, s') => (.error e, s')
    | (.ok (more, none), s') => (.ok (names ++ more), s')
    | (.ok (more, some next), s') =>
      if wantsMore bound (names ++ more).length then
        list fetch tooMany bound fuel next (names ++ more) s'
      else (.ok (names ++ more), s')

/-! ### Stages -/

/-- The key of fetch `i`, and the state before it, if every page before leads on. Behind a
page that does not, nothing is meant. -/
def stage (fetch : Pager ε σ κ) (first : κ) (s : σ) : Nat → κ × σ
  | 0 => (first, s)
  | i + 1 =>
    let (key, before) := stage fetch first s i
    match fetch key before with
    | (.ok (_, some next), after) => (next, after)
    | (_, after) => (key, after)

/-- What the fetches come to. -/
def pages (fetch : Pager ε σ κ) (first : κ) (s : σ) : Pages ε κ := fun i =>
  (fetch (fetch.stage first s i).1 (fetch.stage first s i).2).1

variable {fetch : Pager ε σ κ} {tooMany : ε} {first : κ} {s : σ} {bound i : Nat}

/-- The state after fetch `i` is the one before the next. -/
theorem stage_succ_snd (fetch : Pager ε σ κ) (first : κ) (s : σ) (i : Nat) :
    (fetch.stage first s (i + 1)).2 =
      (fetch (fetch.stage first s i).1 (fetch.stage first s i).2).2 := by
  rw [stage]
  generalize fetch.stage first s i = at'
  dsimp only
  split <;> simp [*]

/-- A page that leads on gives the key of the next fetch. -/
theorem stage_succ_fst {more : List String} {next : κ}
    (h : fetch.pages first s i = .ok (more, some next)) :
    (fetch.stage first s (i + 1)).1 = next := by
  rw [pages] at h
  rw [stage]
  generalize fetch.stage first s i = at' at h
  dsimp only
  split <;> simp_all

/-- A fetch comes to its page, and to the state before the next. -/
theorem fetch_stage (fetch : Pager ε σ κ) (first : κ) (s : σ) (i : Nat) :
    fetch (fetch.stage first s i).1 (fetch.stage first s i).2 =
      (fetch.pages first s i, (fetch.stage first s (i + 1)).2) :=
  Prod.ext rfl (stage_succ_snd fetch first s i).symm

/-! ### The loop -/

/-- With the last page the loop comes to its end. -/
theorem list_of_ends (fuel : Nat) (h : (fetch.pages first s).Ends bound i) :
    fetch.list tooMany bound (fuel + 1) (fetch.stage first s i).1
        ((fetch.pages first s).names i) (fetch.stage first s i).2 =
      ((fetch.pages first s).outcome i, (fetch.stage first s (i + 1)).2) := by
  rw [list, fetch_stage fetch first s i, Pages.outcome, Pages.names_succ]
  rcases hpage : fetch.pages first s i with e | ⟨more, _ | next⟩
  · rfl
  · rfl
  · -- The page leads on, so it is the bound that is reached.
    have hmore : ¬wantsMore bound ((fetch.pages first s).names i ++ more).length = true :=
      fun hmore => Pages.not_ends_iff.2 ⟨more, next, hpage, hmore⟩ h
    dsimp only
    rw [if_neg hmore]
    rfl

/-- With any other page it goes on to the next. -/
theorem list_of_not_ends (fuel : Nat) (h : ¬(fetch.pages first s).Ends bound i) :
    fetch.list tooMany bound (fuel + 1) (fetch.stage first s i).1
        ((fetch.pages first s).names i) (fetch.stage first s i).2 =
      fetch.list tooMany bound fuel (fetch.stage first s (i + 1)).1
        ((fetch.pages first s).names (i + 1)) (fetch.stage first s (i + 1)).2 := by
  obtain ⟨more, next, hpage, hmore⟩ := Pages.not_ends_iff.1 h
  rw [list, fetch_stage fetch first s i, stage_succ_fst hpage, Pages.names_succ, hpage]
  dsimp only [Pages.namesOf]
  rw [if_pos hmore]

/-- Behind pages at which it does not stop, the loop is at the next one, with the names of these. -/
theorem list_of_goesOn {count : Nat} (fuel : Nat)
    (h : ∀ i < count, ¬(fetch.pages first s).Ends bound i) :
    fetch.list tooMany bound (fuel + count) first [] s =
      fetch.list tooMany bound fuel (fetch.stage first s count).1
        ((fetch.pages first s).names count) (fetch.stage first s count).2 := by
  induction count generalizing fuel with
  | zero => rfl
  | succ count ih =>
    rw [Nat.add_comm count 1, ← Nat.add_assoc, ih (fuel + 1) fun i hi => h i (Nat.lt_succ_of_lt hi),
      list_of_not_ends fuel (h count (Nat.lt_succ_self count)), Nat.add_comm 1 count]

/-- From page `i` on, the loop makes the fetches up to the last one and comes to the names of
all pages, or to the fault of the last one. -/
theorem list_eq {last fuel : Nat} (hlast : (fetch.pages first s).Last bound last) (hi : i ≤ last)
    (hfuel : last - i < fuel) :
    fetch.list tooMany bound fuel (fetch.stage first s i).1 ((fetch.pages first s).names i)
        (fetch.stage first s i).2 =
      ((fetch.pages first s).outcome last, (fetch.stage first s (last + 1)).2) := by
  -- The invariant is that the loop holds the names of all pages before page `i`. Each page at which
  -- it does not stop takes one step.
  induction fuel generalizing i with
  | zero => exact absurd hfuel (Nat.not_lt_zero _)
  | succ fuel ih =>
    rcases Nat.eq_or_lt_of_le hi with rfl | hlt
    · exact list_of_ends fuel hlast.ends
    · rw [list_of_not_ends fuel (hlast.goesOn i hlt)]
      exact ih hlt (by omega)

/-! ### Trails -/

/-- The pages that a listing goes through, up to the one that it stops at. -/
structure Trail (fetch : Pager ε σ κ) (bound : Nat) (first : κ) (s : σ) where
  /-- What a page is asked for with. -/
  key : Nat → κ
  /-- The state before the fetch of a page. -/
  before : Nat → σ
  page : Pages ε κ
  /-- The page that the listing stops at. -/
  last : Nat
  key_zero : key 0 = first
  before_zero : before 0 = s
  fetched : ∀ i ≤ last, fetch (key i) (before i) = (page i, before (i + 1))
  /-- Each page before the last has a continuation, and is the only cause to follow it. -/
  leads : ∀ i < last, continuation? (page i) = some (key (i + 1))
  isLast : page.Last bound last

namespace Trail

/-- The trail of a listing that stops at a page. -/
def ofLast (fetch : Pager ε σ κ) (first : κ) (s : σ) {last : Nat}
    (hlast : (fetch.pages first s).Last bound last) : fetch.Trail bound first s where
  key i := (fetch.stage first s i).1
  before i := (fetch.stage first s i).2
  page := fetch.pages first s
  last := last
  key_zero := rfl
  before_zero := rfl
  fetched i _ := fetch.fetch_stage first s i
  leads i hi := by
    obtain ⟨names, next, hpage, -⟩ := Pages.not_ends_iff.1 (hlast.goesOn i hi)
    rw [hpage, stage_succ_fst hpage]
    rfl
  isLast := hlast

variable (t : fetch.Trail bound first s)

/-- A trail has the stages of the loop, up to the last page. -/
theorem stage_eq (hi : i ≤ t.last) : fetch.stage first s i = (t.key i, t.before i) := by
  -- The trail says what each fetch was asked for with. That these are the keys of the loop is due
  -- to `leads`: a page gives one key.
  induction i with
  | zero => rw [t.key_zero, t.before_zero, stage]
  | succ i ih =>
    have hstage := ih (Nat.le_of_succ_le hi)
    have hfetched := t.fetched i (Nat.le_of_succ_le hi)
    obtain ⟨names, hnames⟩ := Pages.exists_of_continuation? (t.leads i hi)
    have hpage : fetch.pages first s i = .ok (names, some (t.key (i + 1))) := by
      rw [pages, hstage, hfetched, hnames]
    refine Prod.ext (stage_succ_fst hpage) ?_
    rw [stage_succ_snd, hstage, hfetched]

/-- So it has the pages of the loop. -/
theorem pages_eq (hi : i ≤ t.last) : fetch.pages first s i = t.page i := by
  rw [pages, t.stage_eq hi, t.fetched i hi]

/-- The loop comes to what the trail says, and to the state behind its last page. -/
theorem list_eq {fuel : Nat} (hfuel : t.last < fuel) (tooMany : ε) :
    fetch.list tooMany bound fuel first [] s =
      (t.page.outcome t.last, t.before (t.last + 1)) := by
  have hpages : ∀ i ≤ t.last, t.page i = fetch.pages first s i := fun i hi => (t.pages_eq hi).symm
  calc fetch.list tooMany bound fuel first [] s
      = ((fetch.pages first s).outcome t.last, (fetch.stage first s (t.last + 1)).2) :=
        Pager.list_eq (t.isLast.congr hpages) (Nat.zero_le _) hfuel
    _ = (t.page.outcome t.last, t.before (t.last + 1)) := by
      rw [Pages.outcome_congr hpages, stage_succ_snd, t.stage_eq (Nat.le_refl _),
        t.fetched _ (Nat.le_refl _)]

end Trail

/-- There is a last page if each fetch that leads on uses up something. -/
theorem exists_last (fetch : Pager ε σ κ) (first : κ) (s : σ) (bound : Nat) (left : σ → Nat)
    (huses : ∀ key s more next,
      (fetch key s).1 = .ok (more, some next) → left (fetch key s).2 < left s) :
    ∃ last ≤ left s, (fetch.pages first s).Last bound last := by
  -- From any page on that the loop gets to, the last one is not far.
  suffices hfrom : ∀ count i, left (fetch.stage first s i).2 ≤ count →
      (∀ j < i, ¬(fetch.pages first s).Ends bound j) →
      ∃ last ≤ i + count, (fetch.pages first s).Last bound last by
    obtain ⟨last, hle, hlast⟩ := hfrom (left s) 0 (Nat.le_refl _) nofun
    exact ⟨last, by omega, hlast⟩
  intro count
  -- By induction on the pages that may still come. Each page that leads on uses one up.
  induction count with
  | zero =>
    intro i hleft hgoesOn
    refine ⟨i, Nat.le_add_right _ _, Classical.not_not.1 fun hnot => ?_, hgoesOn⟩
    obtain ⟨more, next, hpage, -⟩ := Pages.not_ends_iff.1 hnot
    have hlt := huses _ _ more next hpage
    omega
  | succ count ih =>
    intro i hleft hgoesOn
    by_cases hends : (fetch.pages first s).Ends bound i
    · exact ⟨i, Nat.le_add_right _ _, hends, hgoesOn⟩
    · obtain ⟨more, next, hpage, -⟩ := Pages.not_ends_iff.1 hends
      have hlt := huses _ _ more next hpage
      rw [← stage_succ_snd] at hlt
      obtain ⟨last, hle, hlast⟩ := ih (i + 1) (by omega) fun j hj => by
        rcases Nat.lt_succ_iff_lt_or_eq.1 hj with hj | rfl
        · exact hgoesOn j hj
        · exact hends
      exact ⟨last, by omega, hlast⟩

/-! ### What every fetch keeps -/

/-- A loop keeps the names it has. -/
theorem names_prefix_list {fuel : Nat} {key : κ} {names all : List String}
    (h : (fetch.list tooMany bound fuel key names s).1 = .ok all) : names <+: all := by
  induction fuel generalizing key names s with
  | zero => cases h
  | succ fuel ih =>
    rw [list] at h
    rcases hfetch : fetch key s with ⟨e | ⟨more, _ | next⟩, s'⟩
    · rw [hfetch] at h
      cases h
    · rw [hfetch] at h
      cases h
      exact List.prefix_append _ _
    · rw [hfetch] at h
      dsimp only at h
      split at h
      · exact (List.prefix_append _ _).trans (ih h)
      · cases h
        exact List.prefix_append _ _

section Related

variable {R : σ → σ → Prop} (hrefl : ∀ s, R s s) (htrans : ∀ {s t u}, R s t → R t u → R s u)
  (hfetch : ∀ key s, R s (fetch key s).2)

include hrefl htrans hfetch

/-- What relates the states before and after each fetch relates those before and after the
loop. -/
theorem list_related (tooMany : ε) (bound fuel : Nat) (key : κ) (names : List String) (s : σ) :
    R s (fetch.list tooMany bound fuel key names s).2 := by
  -- Each way in which a fetch can end keeps `R`. Only one of them has more of the loop behind it.
  induction fuel generalizing key names s with
  | zero => exact hrefl s
  | succ fuel ih =>
    have hfirst := hfetch key s
    rw [list]
    rcases hpage : fetch key s with ⟨e | ⟨more, _ | next⟩, s'⟩
    · rw [hpage] at hfirst
      exact hfirst
    · rw [hpage] at hfirst
      exact hfirst
    · rw [hpage] at hfirst
      dsimp only
      split
      · exact htrans hfirst (ih next (names ++ more) s')
      · exact hfirst

/-- It also relates the state after the first fetch to that after the loop. -/
theorem list_succ_related (tooMany : ε) (bound fuel : Nat) (key : κ) (names : List String)
    (s : σ) : R (fetch key s).2 (fetch.list tooMany bound (fuel + 1) key names s).2 := by
  rw [list]
  rcases fetch key s with ⟨e | ⟨more, _ | next⟩, s'⟩
  · exact hrefl s'
  · exact hrefl s'
  · dsimp only
    split
    · exact list_related hrefl htrans hfetch tooMany bound fuel next (names ++ more) s'
    · exact hrefl s'

end Related

/-! ### Two bounds -/

section Bounds

variable {α : Type} {entries : σ → List α}

/-- What is on record before a loop stays there. -/
theorem entries_prefix_list (hgrows : ∀ key s, entries s <+: entries (fetch key s).2)
    (tooMany : ε) (bound fuel : Nat) (key : κ) (names : List String) (s : σ) :
    entries s <+: entries (fetch.list tooMany bound fuel key names s).2 :=
  list_related (R := fun s t => entries s <+: entries t) (fun _ => List.prefix_refl _)
    (fun hst htu => hst.trans htu) hgrows tooMany bound fuel key names s

/-- With a smaller bound the loop comes to a front of the names, and puts a front of the
entries on record. -/
theorem list_prefix (hgrows : ∀ key s, entries s <+: entries (fetch key s).2) {small large : Nat}
    (hpos : 0 < small) (hle : large = 0 ∨ small ≤ large) {fuel : Nat} {key : κ}
    {names all : List String} {s : σ}
    (h : (fetch.list tooMany large fuel key names s).1 = .ok all) :
    (∃ front, (fetch.list tooMany small fuel key names s).1 = .ok front ∧ front <+: all) ∧
      entries (fetch.list tooMany small fuel key names s).2 <+:
        entries (fetch.list tooMany large fuel key names s).2 := by
  -- Both loops make the same fetches until the one with the smaller bound has enough.
  induction fuel generalizing key names s with
  | zero => cases h
  | succ fuel ih =>
    rw [list] at h ⊢
    rw [list]
    rcases hfetch : fetch key s with ⟨e | ⟨more, _ | next⟩, s'⟩
    · rw [hfetch] at h
      cases h
    · rw [hfetch] at h
      exact ⟨⟨all, h, List.prefix_refl _⟩, List.prefix_refl _⟩
    · rw [hfetch] at h
      dsimp only at h ⊢
      by_cases hsmall : wantsMore small (names ++ more).length = true
      · have hlarge := wantsMore_of_le hpos hle hsmall
        rw [if_pos hlarge] at h
        rw [if_pos hsmall, if_pos hlarge]
        exact ih h
      · rw [if_neg hsmall]
        by_cases hlarge : wantsMore large (names ++ more).length = true
        · -- Only the loop with the larger bound goes on.
          rw [if_pos hlarge] at h
          rw [if_pos hlarge]
          exact ⟨⟨_, rfl, names_prefix_list h⟩,
            entries_prefix_list hgrows tooMany large fuel next (names ++ more) s'⟩
        · rw [if_neg hlarge] at h
          rw [if_neg hlarge]
          exact ⟨⟨all, h, List.prefix_refl _⟩, List.prefix_refl _⟩

end Bounds

end Pager

end ImageSync
