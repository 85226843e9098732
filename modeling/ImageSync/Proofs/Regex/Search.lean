import ImageSync.Proofs.Regex.Reach
import ImageSync.Regex.Search

/-!
# `ImageSync.Proofs.Regex.Search`: what the search finds is spanned

A search follows ways through a `Track`. Here a track gets a meaning of its own: `Track.node`
reads it back as an expression, and `span_ofNode_iff` says that the track of an expression
spans what the expression spans.

`Leads t tasks i k` says that the tasks of a way, begun at place `i`, can be done up to place
`k`. `goesOn_of_step` is the one fact about a step: a way leads to a place exactly when one
of the ways it goes on as does. From it, by induction over the search:

* `span_of_follow`: a way that is found was led to by one of the ways the search began with.
* `span_of_mem_matchesIn`: every match of the search is a part that the expression spans.

The search may give up a way at a label it has met. The theorems do not depend on that: what
it finds is spanned whether or not other ways were given up.
-/

set_option autoImplicit false

namespace ImageSync.Regex

/-! ### Repetition, one round at a time -/

namespace Span

variable {t : List Char}

/-- A repetition is over, or takes its body once and goes on with bounds one lower. -/
theorem rep_cases {min : Nat} {max : Option Nat} {greedy : Bool} {a : Node} {i k : Nat} :
    Span t (.rep min max greedy a) i k ↔
      (min = 0 ∧ i = k ∧ i ≤ t.length) ∨
        (max ≠ some 0 ∧ ∃ j, Span t a i j ∧
          Span t (.rep (min - 1) (max.map (· - 1)) greedy a) j k) := by
  constructor
  · intro h
    cases h with
    | repDone hi => exact .inl ⟨rfl, rfl, hi⟩
    | repMore hmax ha hr => exact .inr ⟨hmax, _, ha, hr⟩
  · rintro (⟨rfl, rfl, hi⟩ | ⟨hmax, j, ha, hr⟩)
    · exact .repDone hi
    · exact .repMore hmax ha hr

/-- What takes nothing, or an item once. -/
theorem maybe_iff {greedy : Bool} {a : Node} {i k : Nat} :
    Span t (.rep 0 (some 1) greedy a) i k ↔ (i = k ∧ i ≤ t.length) ∨ Span t a i k := by
  rw [rep_cases]
  constructor
  · rintro (⟨-, hik, hi⟩ | ⟨-, j, ha, hr⟩)
    · exact .inl ⟨hik, hi⟩
    · rcases rep_cases.1 hr with ⟨-, rfl, -⟩ | ⟨h, -⟩
      · exact .inr ha
      · exact absurd rfl h
  · rintro (⟨hik, hi⟩ | ha)
    · exact .inl ⟨rfl, hik, hi⟩
    · exact .inr ⟨by decide, k, ha, .repDone ha.le_length⟩

/-- An unbounded repetition takes nothing, or its body and then the same again. -/
theorem many_iff {greedy : Bool} {a : Node} {i k : Nat} :
    Span t (.rep 0 none greedy a) i k ↔
      (i = k ∧ i ≤ t.length) ∨ ∃ j, Span t a i j ∧ Span t (.rep 0 none greedy a) j k := by
  rw [rep_cases]
  simp

/-- A repetition that takes at least one round. -/
theorem again_iff {greedy : Bool} {a : Node} {i k : Nat} :
    Span t (.rep 1 none greedy a) i k ↔
      ∃ j, Span t a i j ∧ Span t (.rep 0 none greedy a) j k := by
  rw [rep_cases]
  simp

/-- Chains only depend on what their body spans. -/
theorem chain_congr {a b : Node} (h : ∀ i j, Span t a i j ↔ Span t b i j) {n i k : Nat} :
    Chain t a n i k ↔ Chain t b n i k := by
  constructor
  · intro hc
    induction hc with
    | done hi => exact .done hi
    | more ha _ ih => exact .more ((h _ _).1 ha) ih
  · intro hc
    induction hc with
    | done hi => exact .done hi
    | more hb _ ih => exact .more ((h _ _).2 hb) ih

/-- An unbounded repetition takes its body any number of times. -/
theorem many_iff_chain {min : Nat} {greedy : Bool} {a : Node} {i k : Nat} :
    Span t (.rep min none greedy a) i k ↔ ∃ n, min ≤ n ∧ Chain t a n i k := by
  rw [rep_iff]
  simp

end Span

/-! ### Tracks as expressions -/

/-- The expression that a track was made for, up to the way it is written. -/
def Track.node : Track → Node
  | .empty => .empty
  | .one _ s => .one s
  | .look l => .look l
  | .seq a b => .seq a.node b.node
  | .alt _ a b => .alt a.node b.node
  | .group i a => .group i a.node
  | .maybe _ greedy a => .rep 0 (some 1) greedy a.node
  | .many _ greedy a => .rep 0 none greedy a.node
  | .again _ greedy a => .rep 1 none greedy a.node

section Tracks

variable {t : List Char}

/-- Two parts in a row match if the second one goes on where the first one ends. -/
theorem span_seq_iff {a b : Node} {i k : Nat} :
    Span t (.seq a b) i k ↔ ∃ j, Span t a i j ∧ Span t b j k := by
  constructor
  · intro h
    cases h with
    | seq ha hb => exact ⟨_, ha, hb⟩
  · rintro ⟨j, ha, hb⟩
    exact .seq ha hb

/-- A choice matches as either of its parts does. -/
theorem span_alt_iff {a b : Node} {i j : Nat} :
    Span t (.alt a b) i j ↔ Span t a i j ∨ Span t b i j := by
  constructor
  · intro h
    cases h with
    | altLeft ha => exact .inl ha
    | altRight hb => exact .inr hb
  · rintro (ha | hb)
    · exact .altLeft ha
    · exact .altRight hb

/-- A group matches as its part does, whether it is remembered or not. -/
theorem span_group_iff {g : Nat} {a : Node} {i j : Nat} :
    Span t (.group g a) i j ↔ Span t a i j := by
  constructor
  · intro h
    cases h with
    | group ha => exact ha
  · exact .group

/-- The empty pattern matches at each place of the text, and only there. -/
theorem span_empty_iff {i j : Nat} : Span t .empty i j ↔ i = j ∧ i ≤ t.length := by
  constructor
  · intro h
    cases h with
    | empty hi => exact ⟨rfl, hi⟩
  · rintro ⟨rfl, hi⟩
    exact .empty hi

variable {a : Node} {part : Nat → Track × Nat}

/-- Written-out copies of a part take it exactly so many times. -/
theorem span_copies_iff
    (hpart : ∀ label i j, Span t (part label).1.node i j ↔ Span t a i j)
    (n label i k : Nat) :
    Span t (Track.copies part n label).1.node i k ↔ Span.Chain t a n i k := by
  -- One part is peeled off at a time. Its label does not matter, since `hpart` is about any.
  induction n generalizing label i with
  | zero =>
    rw [Track.copies, Track.node, span_empty_iff]
    constructor
    · rintro ⟨rfl, hi⟩
      exact .done hi
    · intro h
      cases h with
      | done hi => exact ⟨rfl, hi⟩
  | succ n ih =>
    rw [Track.copies]
    show Span t (.seq (part label).1.node (Track.copies part n (part label).2).1.node) i k ↔ _
    rw [span_seq_iff]
    constructor
    · rintro ⟨j, ha, hr⟩
      exact .more ((hpart _ _ _).1 ha) ((ih _ _).1 hr)
    · intro h
      cases h with
      | more ha hr => exact ⟨_, (hpart _ _ _).2 ha, (ih _ _).2 hr⟩

/-- Written-out optional copies of a part take it at most so many times. -/
theorem span_maybes_iff (greedy : Bool)
    (hpart : ∀ label i j, Span t (part label).1.node i j ↔ Span t a i j)
    (n label i k : Nat) :
    Span t (Track.maybes greedy part n label).1.node i k ↔
      ∃ m, m ≤ n ∧ Span.Chain t a m i k := by
  -- By induction on the optional copies: each of them is left out with all behind it, or it is a
  -- link of the chain.
  induction n generalizing label i with
  | zero =>
    rw [Track.maybes, Track.node, span_empty_iff]
    constructor
    · rintro ⟨rfl, hi⟩
      exact ⟨0, Nat.le_refl _, .done hi⟩
    · rintro ⟨m, hm, h⟩
      obtain rfl : m = 0 := Nat.le_zero.1 hm
      cases h with
      | done hi => exact ⟨rfl, hi⟩
  | succ n ih =>
    rw [Track.maybes]
    show Span t (.rep 0 (some 1) greedy (.seq (part (label + 1)).1.node
      (Track.maybes greedy part n (part (label + 1)).2).1.node)) i k ↔ _
    rw [Span.maybe_iff, span_seq_iff]
    constructor
    · rintro (⟨rfl, hi⟩ | ⟨j, ha, hr⟩)
      · exact ⟨0, Nat.zero_le _, .done hi⟩
      · obtain ⟨m, hm, hc⟩ := (ih _ _).1 hr
        exact ⟨m + 1, by omega, .more ((hpart _ _ _).1 ha) hc⟩
    · rintro ⟨m, hm, h⟩
      cases h with
      | done hi => exact .inl ⟨rfl, hi⟩
      | @more m _ j _ ha hr =>
        exact .inr ⟨j, (hpart _ _ _).2 ha, (ih _ _).2 ⟨m, by omega, hr⟩⟩

end Tracks

/-- The track of an expression spans what the expression spans. -/
theorem span_ofNode_iff {t : List Char} {e : Node} (hproper : e.Proper) (label i j : Nat) :
    Span t (Track.ofNode e label).1.node i j ↔ Span t e i j := by
  -- By induction on the pattern. Repetitions are written out, and all the other parts are kept.
  induction e generalizing label i j with
  | empty => exact Iff.rfl
  | one s => exact Iff.rfl
  | look l => exact Iff.rfl
  | seq a b iha ihb =>
    show Span t (.seq (Track.ofNode a label).1.node
      (Track.ofNode b (Track.ofNode a label).2).1.node) i j ↔ _
    simp only [span_seq_iff, iha hproper.1, ihb hproper.2]
  | alt a b iha ihb =>
    show Span t (.alt (Track.ofNode a (label + 1)).1.node
      (Track.ofNode b (Track.ofNode a (label + 1)).2).1.node) i j ↔ _
    simp only [span_alt_iff, iha hproper.1, ihb hproper.2]
  | group g a ih =>
    show Span t (.group g (Track.ofNode a label).1.node) i j ↔ _
    simp only [span_group_iff, ih hproper]
  | rep min max greedy a ih =>
    have hpart := ih hproper.2
    cases max with
    | some max =>
      -- The required copies, and then the optional ones.
      show Span t (.seq (Track.copies (Track.ofNode a) min label).1.node
        (Track.maybes greedy (Track.ofNode a) (max - min)
          (Track.copies (Track.ofNode a) min label).2).1.node) i j ↔ _
      simp only [span_seq_iff, span_copies_iff hpart, span_maybes_iff greedy hpart,
        Span.rep_iff_split hproper.1, Option.some.injEq, forall_eq']
    | none =>
      cases min with
      | zero =>
        -- A body that may take nothing is written as an optional part that is repeated.
        by_cases hsome : a.takesSomething = true
        · rw [Track.ofNode, if_pos hsome]
          show Span t (.rep 0 none greedy (Track.ofNode a (label + 1)).1.node) i j ↔ _
          simp only [Span.many_iff_chain]
          exact exists_congr fun n => and_congr_right fun _ => Span.chain_congr (hpart _)
        · rw [Track.ofNode, if_neg hsome]
          show Span t (.rep 0 (some 1) greedy
            (.rep 1 none greedy (Track.ofNode a (label + 2)).1.node)) i j ↔ _
          rw [Span.maybe_iff, Span.again_iff, ← Span.many_iff, Span.many_iff_chain,
            Span.many_iff_chain]
          exact exists_congr fun n => and_congr_right fun _ => Span.chain_congr (hpart _)
      | succ min =>
        -- The last of the required copies is the one that is repeated.
        show Span t (.seq (Track.copies (Track.ofNode a) min label).1.node
          (.rep 1 none greedy (Track.ofNode a
            ((Track.copies (Track.ofNode a) min label).2 + 1)).1.node)) i j ↔ _
        simp only [span_seq_iff, span_copies_iff hpart, Span.many_iff_chain,
          Span.chain_congr (hpart _)]
        constructor
        · rintro ⟨l, hreq, n, hn, hc⟩
          exact ⟨min + n, by omega, hreq.append hc⟩
        · rintro ⟨n, hn, hc⟩
          obtain ⟨extra, rfl⟩ := Nat.exists_eq_add_of_le (Nat.le_of_succ_le hn)
          obtain ⟨l, hreq, hrest⟩ := hc.split
          exact ⟨l, hreq, extra, by omega, hrest⟩

/-! ### Where a way leads -/

/-- Where the doing of a task, begun at a place, may end. -/
def Task.Spans (t : List Char) : Task → Nat → Nat → Prop
  | .enter x, i, j => Span t x.node i j
  | .leave _ _, i, j => i = j
  | .loop _ greedy x, i, j => Span t (.rep 0 none greedy x.node) i j

/-- Where the doing of some tasks, one after the other, may end. -/
def Leads (t : List Char) : List Task → Nat → Nat → Prop
  | [], i, k => i = k
  | task :: tasks, i, k => ∃ j, task.Spans t i j ∧ Leads t tasks j k

/-- A place that is one of the text's, with the right surroundings. -/
structure Place.Of (t : List Char) (p : Place) : Prop where
  le : p.pos ≤ t.length
  rest : p.rest = t.drop p.pos
  before : p.before = charBefore t p.pos

namespace Place.Of

variable {t : List Char} {p : Place}

/-- A text starts at one of its places. -/
theorem start (t : List Char) : (Place.start t).Of t := ⟨Nat.zero_le _, rfl, rfl⟩

/-- The character after a place is that of the text. -/
theorem head? (hp : p.Of t) : p.rest.head? = t[p.pos]? := by
  rw [hp.rest, List.head?_drop]

/-- The place after the next character. -/
theorem next {c : Char} {r : List Char} (hp : p.Of t) (h : p.rest = c :: r) :
    t[p.pos]? = some c ∧ Place.Of t ⟨p.pos + 1, some c, r⟩ := by
  have hc : t[p.pos]? = some c := by rw [← hp.head?, h, List.head?_cons]
  obtain ⟨hlt, _⟩ := List.getElem?_eq_some_iff.1 hc
  refine ⟨hc, hlt, ?_, ?_⟩
  · show r = t.drop (p.pos + 1)
    rw [← List.tail_drop, ← hp.rest, h, List.tail_cons]
  · show some c = charBefore t (p.pos + 1)
    rw [charBefore, if_neg (Nat.succ_ne_zero _), Nat.add_sub_cancel, hc]

end Place.Of

/-- The ways that a step goes on as. -/
def Outcome.ways : Outcome → List Way
  | .found => []
  | .goOn ways => ways
  | .goOnAt _ ways => ways

/-- The order of preference does not matter for which ways there are. -/
theorem mem_choose {greedy : Bool} {more enough w : Way} :
    w ∈ choose greedy more enough ↔ w = more ∨ w = enough := by
  cases greedy <;> simp [choose, or_comm]

/-- The places that a way leads to are those of the ways it goes on as. -/
def Way.GoesOn (t : List Char) (w : Way) (ways : List Way) : Prop :=
  (∀ w' ∈ ways, w'.place.Of t) ∧
    ∀ k, Leads t w.tasks w.place.pos k ↔ ∃ w' ∈ ways, Leads t w'.tasks w'.place.pos k

section Step

variable {t : List Char} {ts : List Task} {greedy : Bool} {a : Node} {i k : Nat}

/-- To enter a part leads to where it ends, and on with the other tasks from there. -/
theorem leads_enter_iff {x : Track} :
    Leads t (.enter x :: ts) i k ↔ ∃ j, Span t x.node i j ∧ Leads t ts j k := Iff.rfl

/-- To go round a loop leads to where any number of rounds ends. -/
theorem leads_loop_iff {label : Nat} {x : Track} :
    Leads t (.loop label greedy x :: ts) i k ↔
      ∃ j, Span t (.rep 0 none greedy x.node) i j ∧ Leads t ts j k := Iff.rfl

/-- Of two ways it does not matter which is tried first, as far as one of them is concerned. -/
theorem exists_mem_choose {more enough : Way} {P : Way → Prop} :
    (∃ w ∈ choose greedy more enough, P w) ↔ P more ∨ P enough := by
  simp [mem_choose]

/-- A part that may be left out is done once, or the tasks after it are. -/
theorem leads_maybe_iff (hi : i ≤ t.length) :
    (∃ j, Span t (.rep 0 (some 1) greedy a) i j ∧ Leads t ts j k) ↔
      (∃ j, Span t a i j ∧ Leads t ts j k) ∨ Leads t ts i k := by
  simp only [Span.maybe_iff]
  constructor
  · rintro ⟨j, ⟨rfl, _⟩ | ha, hts⟩
    · exact .inr hts
    · exact .inl ⟨j, ha, hts⟩
  · rintro (⟨j, ha, hts⟩ | hts)
    · exact ⟨j, .inr ha, hts⟩
    · exact ⟨i, .inl ⟨rfl, hi⟩, hts⟩

/-- A part that may be repeated is done once and then repeated, or the tasks after it are
done. -/
theorem leads_many_iff (hi : i ≤ t.length) :
    (∃ j, Span t (.rep 0 none greedy a) i j ∧ Leads t ts j k) ↔
      (∃ j, Span t a i j ∧ ∃ l, Span t (.rep 0 none greedy a) j l ∧ Leads t ts l k) ∨
        Leads t ts i k := by
  constructor
  · rintro ⟨l, hspan, hts⟩
    rcases Span.many_iff.1 hspan with ⟨rfl, _⟩ | ⟨j, ha, hr⟩
    · exact .inr hts
    · exact .inl ⟨j, ha, l, hr, hts⟩
  · rintro (⟨j, ha, l, hr, hts⟩ | hts)
    · exact ⟨l, Span.many_iff.2 (.inr ⟨j, ha, hr⟩), hts⟩
    · exact ⟨i, Span.many_iff.2 (.inl ⟨rfl, hi⟩), hts⟩

/-- A way that is to take a character goes on behind it, if it is in the set. -/
theorem goesOn_one {p : Place} (hp : p.Of t) (label : Nat) (s : Text.CharSet)
    (cs : List Capture) :
    (⟨.enter (.one label s) :: ts, p, cs⟩ : Way).GoesOn t
      (⟨.enter (.one label s) :: ts, p, cs⟩ : Way).step.ways := by
  cases hrest : p.rest with
  | nil =>
    have hnone : t[p.pos]? = none := by rw [← hp.head?, hrest, List.head?_nil]
    refine ⟨by simp [Way.step, hrest, Outcome.ways], fun k => ?_⟩
    simp only [Way.step, hrest, Outcome.ways, List.not_mem_nil, false_and, exists_false,
      iff_false]
    rintro ⟨j, hspan, -⟩
    cases hspan with
    | one hc => rw [hnone] at hc; cases hc
  | cons c r =>
    obtain ⟨hc, hnext⟩ := hp.next hrest
    -- The character is in the set, and the place moves on, or the way ends here.
    by_cases hs : s.contains c = true
    · refine ⟨by simpa [Way.step, hrest, hs, Outcome.ways] using hnext, fun k => ?_⟩
      simp only [Way.step, hrest, hs, if_true, Outcome.ways, List.mem_singleton,
        exists_eq_left]
      constructor
      · rintro ⟨j, hspan, hts⟩
        cases hspan
        exact hts
      · intro hts
        exact ⟨p.pos + 1, .one hc hs, hts⟩
    · refine ⟨by simp [Way.step, hrest, hs, Outcome.ways], fun k => ?_⟩
      simp only [Way.step, hrest, hs, if_false, Outcome.ways, List.not_mem_nil, false_and,
        exists_false, iff_false, Bool.false_eq_true]
      rintro ⟨j, hspan, -⟩
      cases hspan with
      | one hc' hs' =>
        rw [hc] at hc'
        cases hc'
        exact hs hs'

/-- A way that is to test a place goes on there, if the test holds. -/
theorem goesOn_look {p : Place} (hp : p.Of t) (l : Look) (cs : List Capture) :
    (⟨.enter (.look l) :: ts, p, cs⟩ : Way).GoesOn t
      (⟨.enter (.look l) :: ts, p, cs⟩ : Way).step.ways := by
  by_cases hl : l.holds p.before p.rest.head? = true
  · refine ⟨by simpa [Way.step, hl, Outcome.ways] using hp, fun k => ?_⟩
    simp only [Way.step, hl, if_true, Outcome.ways, List.mem_singleton, exists_eq_left]
    constructor
    · rintro ⟨j, hspan, hts⟩
      cases hspan
      exact hts
    · intro hts
      refine ⟨p.pos, .look hp.le ?_, hts⟩
      rwa [← hp.before, ← hp.head?]
  · refine ⟨by simp [Way.step, hl, Outcome.ways], fun k => ?_⟩
    simp only [Way.step, hl, if_false, Outcome.ways, List.not_mem_nil, false_and,
      exists_false, iff_false, Bool.false_eq_true]
    rintro ⟨j, hspan, -⟩
    cases hspan with
    | look _ hl' =>
      rw [← hp.before, ← hp.head?] at hl'
      exact hl hl'

/-- A way that is to enter a track leads to the places of the ways that its step goes on
as. -/
theorem goesOn_enter (x : Track) {p : Place} (hp : p.Of t) (cs : List Capture) :
    (⟨.enter x :: ts, p, cs⟩ : Way).GoesOn t (⟨.enter x :: ts, p, cs⟩ : Way).step.ways := by
  -- Only a character moves the place.
  have hall : ∀ ways : List Way, (∀ w ∈ ways, w.place = p) → ∀ w ∈ ways, w.place.Of t := by
    intro ways h w hw
    rw [h w hw]
    exact hp
  -- One case for each kind of part. What the ways of the step lead to is what the relation says of
  -- the part.
  cases x with
  | empty =>
    refine ⟨hall _ (by simp [Way.step, Outcome.ways]), fun k => ?_⟩
    simp [Way.step, Outcome.ways, Leads, Task.Spans, Track.node, span_empty_iff, hp.le]
  | one label s => exact goesOn_one hp label s cs
  | look l => exact goesOn_look hp l cs
  | seq x y =>
    refine ⟨hall _ (by simp [Way.step, Outcome.ways]), fun k => ?_⟩
    simp only [Way.step, Outcome.ways, List.mem_singleton, exists_eq_left, leads_enter_iff,
      Track.node, span_seq_iff]
    constructor
    · rintro ⟨j, ⟨l, hx, hy⟩, hts⟩
      exact ⟨l, hx, j, hy, hts⟩
    · rintro ⟨l, hx, j, hy, hts⟩
      exact ⟨j, ⟨l, hx, hy⟩, hts⟩
  | alt label x y =>
    refine ⟨hall _ (by simp [Way.step, Outcome.ways]), fun k => ?_⟩
    simp only [Way.step, Outcome.ways, List.mem_cons, List.not_mem_nil, or_false,
      exists_eq_left, leads_enter_iff, Track.node, span_alt_iff, or_and_right, exists_or]
  | group g x =>
    refine ⟨hall _ (by simp [Way.step, Outcome.ways]), fun k => ?_⟩
    simp [Way.step, Outcome.ways, Leads, Task.Spans, Track.node, span_group_iff]
  | maybe label greedy x =>
    refine ⟨hall _ (by simp [Way.step, Outcome.ways, mem_choose]), fun k => ?_⟩
    simp only [Way.step, Outcome.ways, exists_mem_choose, leads_enter_iff, Track.node]
    exact leads_maybe_iff hp.le
  | many label greedy x =>
    refine ⟨hall _ (by simp [Way.step, Outcome.ways, mem_choose]), fun k => ?_⟩
    simp only [Way.step, Outcome.ways, exists_mem_choose, leads_enter_iff, Track.node]
    exact leads_many_iff hp.le
  | again label greedy x =>
    refine ⟨hall _ (by simp [Way.step, Outcome.ways]), fun k => ?_⟩
    simp only [Way.step, Outcome.ways, List.mem_singleton, exists_eq_left, leads_enter_iff,
      leads_loop_iff, Track.node, Span.again_iff]
    constructor
    · rintro ⟨j, ⟨l, hx, hr⟩, hts⟩
      exact ⟨l, hx, j, hr, hts⟩
    · rintro ⟨l, hx, j, hr, hts⟩
      exact ⟨j, ⟨l, hx, hr⟩, hts⟩

/-- A way that has tasks left leads to the places of the ways that its step goes on as. -/
theorem goesOn_of_step {w : Way} (hp : w.place.Of t) (htasks : w.tasks ≠ []) :
    w.GoesOn t w.step.ways := by
  obtain ⟨tasks, p, cs⟩ := w
  cases tasks with
  | nil => exact absurd rfl htasks
  | cons task ts =>
    cases task with
    | enter x => exact goesOn_enter x hp cs
    | leave g start =>
      refine ⟨by simpa [Way.step, Outcome.ways] using hp, fun k => ?_⟩
      simp [Way.step, Outcome.ways, Leads, Task.Spans]
    | loop label greedy x =>
      refine ⟨?_, fun k => ?_⟩
      · intro w hw
        rcases mem_choose.1 hw with rfl | rfl
        · exact hp
        · exact hp
      · simp only [Way.step, Outcome.ways, exists_mem_choose, leads_enter_iff, leads_loop_iff]
        exact leads_many_iff hp.le

end Step

/-! ### What is found -/

/-- Only a way without tasks is a match. -/
theorem tasks_of_step_found {w : Way} (h : w.step = .found) : w.tasks = [] := by
  obtain ⟨tasks, p, cs⟩ := w
  rcases tasks with _ | ⟨task, ts⟩
  · rfl
  · cases task with
    | enter x =>
      cases x with
      | one label s =>
        simp only [Way.step] at h
        repeat' split at h
        all_goals cases h
      | look l =>
        simp only [Way.step] at h
        split at h <;> cases h
      | _ => cases h
    | _ => cases h

section Found

variable {t : List Char}

/-- A way that is found was led to by one of the ways that the search began with. -/
theorem leads_of_follow {n : Nat} {met met' : Met} {ws : List Way} {w : Way}
    (hws : ∀ w ∈ ws, w.place.Of t) (h : follow n met ws = (some w, met')) :
    w.place.Of t ∧ ∃ w₀ ∈ ws, Leads t w₀.tasks w₀.place.pos w.place.pos := by
  -- By induction on the steps that are left, for any ways that are still open.
  induction n generalizing met ws with
  | zero => cases h
  | succ n ih =>
    rcases ws with _ | ⟨w₁, ws⟩
    · cases h
    · have hw₁ : w₁.place.Of t := hws w₁ (by simp)
      have hrest : ∀ w ∈ ws, w.place.Of t := fun w hw => hws w (by simp [hw])
      -- What the ways of the step lead to, the way itself led to.
      have hmore : ∀ more met, more = w₁.step.ways → w₁.step ≠ .found →
          follow n met (more ++ ws) = (some w, met') →
          w.place.Of t ∧ ∃ w₀ ∈ w₁ :: ws, Leads t w₀.tasks w₀.place.pos w.place.pos := by
        intro more met hmore hstep h
        have htasks : w₁.tasks ≠ [] := by
          intro hnil
          obtain ⟨tasks, p, cs⟩ := w₁
          subst hnil
          exact hstep rfl
        obtain ⟨hplaces, hleads⟩ := goesOn_of_step hw₁ htasks
        rw [← hmore] at hplaces hleads
        have hall : ∀ w ∈ more ++ ws, w.place.Of t := by
          intro w hw
          exact (List.mem_append.1 hw).elim (hplaces w) (hrest w)
        obtain ⟨hw, w₀, hw₀, hk⟩ := ih hall h
        rcases List.mem_append.1 hw₀ with hw₀ | hw₀
        · exact ⟨hw, w₁, by simp, (hleads _).2 ⟨w₀, hw₀, hk⟩⟩
        · exact ⟨hw, w₀, by simp [hw₀], hk⟩
      rw [follow] at h
      cases hstep : w₁.step with
      | found =>
        rw [hstep] at h
        cases h
        have hnil := tasks_of_step_found hstep
        exact ⟨hw₁, w, by simp, by rw [hnil]; rfl⟩
      | goOn more =>
        rw [hstep] at h
        exact hmore more met (by rw [hstep]; rfl) (by simp [hstep]) h
      | goOnAt label more =>
        rw [hstep] at h
        dsimp only at h
        split at h
        · -- The label was met before, and the way is given up.
          obtain ⟨hw, w₀, hw₀, hk⟩ := ih hrest h
          exact ⟨hw, w₀, by simp [hw₀], hk⟩
        · exact hmore more _ (by rw [hstep]; rfl) (by simp [hstep]) h

/-- A way that is found from the start of a track ends where the track spans to. -/
theorem span_of_follow {n : Nat} {met met' : Met} {x : Track} {p : Place} {w : Way}
    (hp : p.Of t) (h : follow n met [⟨[.enter x], p, []⟩] = (some w, met')) :
    w.place.Of t ∧ Span t x.node p.pos w.place.pos := by
  obtain ⟨hw, w₀, hw₀, hleads⟩ := leads_of_follow (by simpa using hp) h
  obtain rfl := List.mem_singleton.1 hw₀
  obtain ⟨j, hspan, rfl⟩ := hleads
  exact ⟨hw, hspan⟩

/-- A match that is found lies in the text, and the track spans it. -/
theorem span_of_find {s : Searcher} {steps : Nat} {met : Met} {before : Option Char}
    {pos : Nat} {rest : List Char} {m : Match} (hp : Place.Of t ⟨pos, before, rest⟩)
    (h : s.find steps met before pos rest = some m) :
    m.stop.Of t ∧ Span t s.track.node m.start.pos m.stop.pos := by
  induction rest generalizing met before pos with
  | nil =>
    rw [Searcher.find] at h
    split at h
    · next w _ hfollow =>
      cases h
      exact span_of_follow hp hfollow
    · cases h
  | cons c r ih =>
    rw [Searcher.find] at h
    split at h
    · next w _ hfollow =>
      cases h
      exact span_of_follow hp hfollow
    · exact ih (hp.next rfl).2 h

/-- A match behind another one lies in the text, and the track spans it. -/
theorem span_of_findAfter? {s : Searcher} {last : Option Nat} {p : Place} {m : Match}
    (hp : p.Of t) (h : s.findAfter? last p = some m) :
    m.stop.Of t ∧ Span t s.track.node m.start.pos m.stop.pos := by
  rw [Searcher.findAfter?] at h
  split at h
  · cases h
  · next m' hfind =>
    split at h
    · obtain ⟨q, hq, hfind'⟩ := Option.bind_eq_some_iff.1 h
      have hplace : q.Of t := by
        rw [Place.next?] at hq
        split at hq
        · cases hq
        · next c r hrest =>
          cases hq
          exact (hp.next hrest).2
      exact span_of_find hplace hfind'
    · cases h
      exact span_of_find hp hfind

/-- All matches from a place on lie in the text, and the track spans them. -/
theorem span_of_mem_matchesFrom {s : Searcher} {n : Nat} {last : Option Nat} {p : Place}
    {m : Match} (hp : p.Of t) (h : m ∈ s.matchesFrom n last p) :
    Span t s.track.node m.start.pos m.stop.pos := by
  induction n generalizing last p with
  | zero => cases h
  | succ n ih =>
    rw [Searcher.matchesFrom] at h
    split at h
    · cases h
    · next m' hfind =>
      obtain ⟨hstop, hspan⟩ := span_of_findAfter? hp hfind
      rcases List.mem_cons.1 h with rfl | hmem
      · exact hspan
      · exact ih hstop hmem

/-- Every match that a search finds in a text is a part that the expression spans. -/
theorem span_of_mem_matchesIn {e : Node} (hproper : e.Proper) {m : Match}
    (h : m ∈ (Searcher.ofNode e).matchesIn t) : Span t e m.start.pos m.stop.pos :=
  (span_ofNode_iff hproper 0 _ _).1 (span_of_mem_matchesFrom (.start t) h)

end Found

end ImageSync.Regex
