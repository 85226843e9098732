import ImageSync.Regex.Reach

/-!
# `ImageSync.Proofs.Regex.Reach`: the places reached are the places spanned to

`Node.ends` works on sets of places and tries no way of matching by itself. The theorems say
that it misses none and adds none:

* `acts_ends`: from a set of places, an expression ends at exactly the places that it
  spans to from one of them.
* `span_iff_testBit_ends`: from a single place, so that `Span` can be computed.
* `matchesIn_iff`: a search-free test for a match answers yes exactly when some part of the
  text is spanned.

There is a lemma for each kind of expression, from `Acts.empty` to `Acts.group`, and repetition
has an argument of its own (`Acts.rep`). `repeatStep` stops early where further steps would stay
(`repeatStep_succ`), and an unbounded repetition takes no more rounds than the text has
characters. A round that takes nothing leads nowhere new, so a chain of takings needs no more of
them than it takes characters (`Span.Chain.shorten`).

The theorems ask for `Node.Proper`: the bounds of every repetition are in order. For bounds
out of order the set of places would still hold what the least number of times leads to.
-/

set_option autoImplicit false

namespace ImageSync.Regex

/-- The bounds of every repetition in an expression are in order. -/
def Node.Proper : Node → Prop
  | .empty => True
  | .one _ => True
  | .look _ => True
  | .seq a b => a.Proper ∧ b.Proper
  | .alt a b => a.Proper ∧ b.Proper
  | .group _ a => a.Proper
  | .rep min max _ a => (∀ m, max = some m → min ≤ m) ∧ a.Proper

/-- All places of a set are places of the text. -/
def Inside (t : List Char) (places : Nat) : Prop :=
  ∀ i, places.testBit i = true → i ≤ t.length

/-- A step on sets of places leads to exactly the places that an expression spans to. -/
def Acts (t : List Char) (a : Node) (step : Nat → Nat) : Prop :=
  ∀ places, Inside t places →
    ∀ j, (step places).testBit j = true ↔ ∃ i, places.testBit i = true ∧ Span t a i j

/-- Where a step has nothing new to reach, any number of steps stays. -/
theorem repeatStep_of_fixed {step : Nat → Nat} {places : Nat} (h : step places = places)
    (n : Nat) : repeatStep step n places = places := by
  cases n with
  | zero => rfl
  | succ n => rw [repeatStep, if_pos h]

/-- One step more is one step before the others. -/
theorem repeatStep_succ (step : Nat → Nat) (n places : Nat) :
    repeatStep step (n + 1) places = repeatStep step n (step places) := by
  rw [repeatStep]
  split
  · next h => rw [h, repeatStep_of_fixed h]
  · rfl

namespace Span.Chain

variable {t : List Char} {a : Node}

/-- A chain of takings leads forward. -/
theorem le {n i k : Nat} (h : Chain t a n i k) : i ≤ k := by
  induction h with
  | done => exact Nat.le_refl _
  | more ha _ ih => exact Nat.le_trans ha.le ih

/-- A chain of takings stays in the text. -/
theorem le_length {n i k : Nat} (h : Chain t a n i k) : k ≤ t.length := by
  induction h with
  | done hi => exact hi
  | more _ _ ih => exact ih

/-- Without the takings of nothing, a chain has no more links than characters. -/
theorem shorten {n i k : Nat} (h : Chain t a n i k) :
    ∃ m, m ≤ n ∧ m ≤ k - i ∧ Chain t a m i k := by
  induction h with
  | done hi => exact ⟨0, Nat.le_refl _, Nat.zero_le _, .done hi⟩
  | @more n i j k ha hr ih =>
    obtain ⟨m, hmn, hmk, hm⟩ := ih
    have hij : i ≤ j := ha.le
    have hjk : j ≤ k := hr.le
    rcases Nat.eq_or_lt_of_le hij with rfl | hlt
    · exact ⟨m, by omega, hmk, hm⟩
    · exact ⟨m + 1, by omega, by omega, .more ha hm⟩

/-- Two chains make one. -/
theorem append {m n i j k : Nat} (h : Chain t a m i j) (h' : Chain t a n j k) :
    Chain t a (m + n) i k := by
  induction h with
  | done => simpa using h'
  | @more m i l j ha _ ih =>
    rw [Nat.succ_add]
    exact .more ha (ih h')

/-- A chain can be cut after any number of its links. -/
theorem split {m n i k : Nat} (h : Chain t a (m + n) i k) :
    ∃ j, Chain t a m i j ∧ Chain t a n j k := by
  induction m generalizing i with
  | zero =>
    rw [Nat.zero_add] at h
    exact ⟨i, .done (Nat.le_trans h.le h.le_length), h⟩
  | succ m ih =>
    rw [Nat.succ_add] at h
    cases h with
    | more ha hr =>
      obtain ⟨j, hm, hn⟩ := ih hr
      exact ⟨j, .more ha hm, hn⟩

end Span.Chain

/-- A repetition takes what it must, and then as much more as it may. -/
theorem Span.rep_iff_split {t : List Char} {min : Nat} {max : Option Nat} {greedy : Bool}
    {a : Node} {i k : Nat} (hbounds : ∀ b, max = some b → min ≤ b) :
    Span t (.rep min max greedy a) i k ↔
      ∃ j, Chain t a min i j ∧ ∃ m, (∀ b, max = some b → m ≤ b - min) ∧ Chain t a m j k := by
  rw [rep_iff]
  constructor
  · rintro ⟨n, hn, hmax, hc⟩
    obtain ⟨extra, rfl⟩ := Nat.exists_eq_add_of_le hn
    obtain ⟨j, hreq, hrest⟩ := hc.split
    exact ⟨j, hreq, extra, fun b hb => Nat.le_sub_of_add_le' (hmax b hb), hrest⟩
  · rintro ⟨j, hreq, m, hm, hrest⟩
    refine ⟨min + m, Nat.le_add_right _ _, fun b hb => ?_, hreq.append hrest⟩
    have hle := hbounds b hb
    have hextra := hm b hb
    omega

namespace Acts

variable {t : List Char} {a : Node} {step : Nat → Nat}

/-- A step stays inside the text. -/
theorem inside (h : Acts t a step) {places : Nat} (hp : Inside t places) :
    Inside t (step places) := by
  intro j hj
  obtain ⟨_, _, hspan⟩ := (h places hp j).1 hj
  exact hspan.le_length

/-- So many steps lead to the places at the end of chains of so many links. -/
theorem required (h : Acts t a step) (n : Nat) {places : Nat} (hp : Inside t places) (k : Nat) :
    (repeatStep step n places).testBit k = true ↔
      ∃ i, places.testBit i = true ∧ Span.Chain t a n i k := by
  induction n generalizing places with
  | zero =>
    rw [repeatStep]
    constructor
    · intro hk
      exact ⟨k, hk, .done (hp k hk)⟩
    · rintro ⟨i, hi, hc⟩
      cases hc
      exact hi
  | succ n ih =>
    rw [repeatStep_succ, ih (h.inside hp)]
    constructor
    · rintro ⟨j, hj, hc⟩
      obtain ⟨i, hi, hspan⟩ := (h places hp j).1 hj
      exact ⟨i, hi, .more hspan hc⟩
    · rintro ⟨i, hi, hc⟩
      cases hc with
      | more hspan hr => exact ⟨_, (h places hp _).2 ⟨i, hi, hspan⟩, hr⟩

/-- Steps that keep the places before them lead to the ends of chains up to a length. -/
theorem optional (h : Acts t a step) (n : Nat) {places : Nat} (hp : Inside t places)
    (k : Nat) :
    (repeatStep (fun p => p ||| step p) n places).testBit k = true ↔
      ∃ m, m ≤ n ∧ ∃ i, places.testBit i = true ∧ Span.Chain t a m i k := by
  -- By induction on the rounds, for any places to start from.
  induction n generalizing places with
  | zero =>
    rw [repeatStep]
    constructor
    · intro hk
      exact ⟨0, Nat.le_refl _, k, hk, .done (hp k hk)⟩
    · rintro ⟨m, hm, i, hi, hc⟩
      obtain rfl : m = 0 := Nat.le_zero.1 hm
      cases hc
      exact hi
  | succ n ih =>
    have hor : ∀ i, (places ||| step places).testBit i = true ↔
        places.testBit i = true ∨ (step places).testBit i = true := by
      intro i
      rw [Nat.testBit_or, Bool.or_eq_true]
    have hinside : Inside t (places ||| step places) := by
      intro i hi
      exact ((hor i).1 hi).elim (hp i) (h.inside hp i)
    -- The first step is a link of the chain, or it stays where it is.
    rw [repeatStep_succ, ih hinside]
    constructor
    · rintro ⟨m, hm, j, hj, hc⟩
      rcases (hor j).1 hj with hj | hj
      · exact ⟨m, by omega, j, hj, hc⟩
      · obtain ⟨i, hi, hspan⟩ := (h places hp j).1 hj
        exact ⟨m + 1, by omega, i, hi, .more hspan hc⟩
    · rintro ⟨m, hm, i, hi, hc⟩
      cases hc with
      | done hk => exact ⟨0, Nat.zero_le _, k, (hor k).2 (.inl hi), .done hk⟩
      | @more m _ j _ hspan hr =>
        exact ⟨m, by omega, j, (hor j).2 (.inr ((h places hp j).2 ⟨i, hi, hspan⟩)), hr⟩

/-- A required number of steps, and then enough steps that keep the places before them, lead
to where repetition spans to. -/
theorem rep (h : Acts t a step) {min : Nat} {max : Option Nat} {rounds : Nat} (greedy : Bool)
    (hbounded : ∀ m, max = some m → min ≤ m ∧ rounds = m - min)
    (hunbounded : max = none → t.length ≤ rounds) :
    Acts t (.rep min max greedy a) fun places =>
      repeatStep (fun p => p ||| step p) rounds (repeatStep step min places) := by
  intro places hp k
  have hmin : Inside t (repeatStep step min places) := by
    intro j hj
    obtain ⟨_, _, hc⟩ := (h.required min hp j).1 hj
    exact hc.le_length
  simp only [h.optional _ hmin, h.required min hp,
    Span.rep_iff_split fun b hb => (hbounded b hb).1]
  constructor
  · rintro ⟨m, hm, j, ⟨i, hi, hreq⟩, hc⟩
    exact ⟨i, hi, j, hreq, m, fun b hb => (hbounded b hb).2 ▸ hm, hc⟩
  · rintro ⟨i, hi, j, hreq, m, hmax, hc⟩
    cases hcase : max with
    | some b =>
      have hrounds := (hbounded b hcase).2
      exact ⟨m, hrounds ▸ hmax b hcase, j, ⟨i, hi, hreq⟩, hc⟩
    | none =>
      -- The optional part is as long as it likes, but a short chain leads there too.
      obtain ⟨m, _, hmk, hm⟩ := hc.shorten
      have hk : k ≤ t.length := hc.le_length
      have hrounds := hunbounded hcase
      exact ⟨m, by omega, j, ⟨i, hi, hreq⟩, hm⟩

/-! One lemma for each kind of expression that repeats nothing. -/

/-- The empty expression stays where it is. -/
theorem empty : Acts t .empty fun places => places := by
  intro places hp j
  constructor
  · intro hj
    exact ⟨j, hj, .empty (hp j hj)⟩
  · rintro ⟨i, hi, hspan⟩
    cases hspan
    exact hi

/-- A single character leads on from the places in front of a character of the set. -/
theorem one (s : Text.CharSet) :
    Acts t (.one s) fun places => (places &&& charPlaces s t) <<< 1 := by
  intro places _ j
  rw [Nat.testBit_shiftLeft, Nat.testBit_and, testBit_charPlaces]
  constructor
  · intro hj
    obtain ⟨hpos, hbit, hchar⟩ : 1 ≤ j ∧ places.testBit (j - 1) = true ∧
        (t[j - 1]?).any s.contains = true := by simpa using hj
    obtain ⟨c, hc, hs⟩ := (Option.any_eq_true _ _).1 hchar
    refine ⟨j - 1, hbit, ?_⟩
    have hspan : Span t (.one s) (j - 1) (j - 1 + 1) := .one hc hs
    rwa [Nat.sub_add_cancel hpos] at hspan
  · rintro ⟨i, hi, hspan⟩
    cases hspan with
    | one hc hs => simp [hi, hc, hs]

/-- A test keeps the places where it holds. -/
theorem look (l : Look) : Acts t (.look l) fun places => places &&& lookPlaces l none t := by
  intro places hp j
  rw [Nat.testBit_and, testBit_lookPlaces, Bool.and_eq_true, Bool.and_eq_true]
  constructor
  · rintro ⟨hj, _, hl⟩
    exact ⟨j, hj, .look (hp j hj) hl⟩
  · rintro ⟨i, hi, hspan⟩
    cases hspan with
    | look hle hl => exact ⟨hi, decide_eq_true hle, hl⟩

variable {b : Node} {step' : Nat → Nat}

/-- One expression after the other takes one step after the other. -/
theorem seq (ha : Acts t a step) (hb : Acts t b step') :
    Acts t (.seq a b) fun places => step' (step places) := by
  intro places hp k
  -- The second part begins inside the text, since the first one ends there.
  rw [hb _ (ha.inside hp)]
  constructor
  · rintro ⟨j, hj, hspan⟩
    obtain ⟨i, hi, hfirst⟩ := (ha places hp j).1 hj
    exact ⟨i, hi, .seq hfirst hspan⟩
  · rintro ⟨i, hi, hspan⟩
    cases hspan with
    | seq hfirst hspan => exact ⟨_, (ha places hp _).2 ⟨i, hi, hfirst⟩, hspan⟩

/-- A choice leads where one of its sides leads. -/
theorem alt (ha : Acts t a step) (hb : Acts t b step') :
    Acts t (.alt a b) fun places => step places ||| step' places := by
  intro places hp j
  rw [Nat.testBit_or, Bool.or_eq_true, ha places hp, hb places hp]
  constructor
  · rintro (⟨i, hi, h⟩ | ⟨i, hi, h⟩)
    · exact ⟨i, hi, .altLeft h⟩
    · exact ⟨i, hi, .altRight h⟩
  · rintro ⟨i, hi, hspan⟩
    cases hspan with
    | altLeft h => exact .inl ⟨i, hi, h⟩
    | altRight h => exact .inr ⟨i, hi, h⟩

/-- A group leads where its expression leads. -/
theorem group (number : Nat) (ha : Acts t a step) : Acts t (.group number a) step := by
  intro places hp j
  rw [ha places hp]
  constructor
  · rintro ⟨i, hi, h⟩
    exact ⟨i, hi, .group h⟩
  · rintro ⟨i, hi, hspan⟩
    cases hspan with
    | group h => exact ⟨i, hi, h⟩

end Acts

/-- From a set of places an expression ends at exactly the places it spans to. -/
theorem acts_ends {t : List Char} {e : Node} (hproper : e.Proper) : Acts t e (e.ends t) := by
  -- By induction on the pattern: each kind of expression acts as its parts let it.
  induction e with
  | empty => exact .empty
  | one s => exact .one s
  | look l => exact .look l
  | seq a b iha ihb =>
    have hseq := (iha hproper.1).seq (ihb hproper.2)
    exact hseq
  | alt a b iha ihb =>
    have halt := (iha hproper.1).alt (ihb hproper.2)
    exact halt
  | group number a ih =>
    have hgroup := (ih hproper).group number
    exact hgroup
  | rep min max greedy a ih =>
    obtain ⟨hbounds, ha⟩ := hproper
    cases max with
    | none => exact (ih ha).rep greedy (fun _ h => nomatch h) fun _ => Nat.le_succ _
    | some b =>
      refine (ih ha).rep greedy ?_ fun h => nomatch h
      intro m hm
      cases hm
      exact ⟨hbounds b rfl, rfl⟩

/-- The places that an expression spans to from one place can be computed. -/
theorem span_iff_testBit_ends {t : List Char} {e : Node} (hproper : e.Proper) {i j : Nat}
    (hi : i ≤ t.length) : Span t e i j ↔ (e.ends t (1 <<< i)).testBit j = true := by
  have hone : ∀ k, (1 <<< i).testBit k = true ↔ i = k := by
    intro k
    rw [Nat.one_shiftLeft, Nat.testBit_two_pow, decide_eq_true_iff]
  have hinside : Inside t (1 <<< i) := by
    intro k hk
    rwa [← (hone k).1 hk]
  rw [acts_ends hproper _ hinside]
  simp only [hone, exists_eq_left']

/-- The set of all places holds the places of the text. -/
theorem testBit_allPlaces (t : List Char) (i : Nat) :
    (allPlaces t).testBit i = true ↔ i ≤ t.length := by
  rw [allPlaces, Nat.one_shiftLeft, Nat.testBit_two_pow_sub_one, decide_eq_true_iff,
    Nat.lt_succ_iff]

/-- An expression matches somewhere in a text exactly when it spans some part of it. -/
theorem matchesIn_iff {e : Node} (hproper : e.Proper) (t : List Char) :
    e.matchesIn t = true ↔ ∃ i j, Span t e i j := by
  have hinside : Inside t (allPlaces t) := fun i hi => (testBit_allPlaces t i).1 hi
  rw [Node.matchesIn, bne_iff_ne]
  constructor
  · intro hne
    obtain ⟨j, hj⟩ := Nat.exists_testBit_of_ne_zero hne
    obtain ⟨i, _, hspan⟩ := (acts_ends hproper _ hinside j).1 hj
    exact ⟨i, j, hspan⟩
  · rintro ⟨i, j, hspan⟩ hzero
    have hi : i ≤ t.length := Nat.le_trans hspan.le hspan.le_length
    have hj := (acts_ends hproper _ hinside j).2 ⟨i, (testBit_allPlaces t i).2 hi, hspan⟩
    rw [hzero, Nat.zero_testBit] at hj
    exact absurd hj (by decide)

end ImageSync.Regex
