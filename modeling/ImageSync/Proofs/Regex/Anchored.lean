import ImageSync.Proofs.Regex.Proper
import ImageSync.Proofs.Regex.Reading
import ImageSync.Proofs.Regex.Search
import ImageSync.Regex.Basic

/-!
# `ImageSync.Proofs.Regex.Anchored`: an anchored pattern matches whole texts

The anchors of an anchored pattern are put around its text, not around what it says, so that
the text is read in other surroundings than alone: inside an open group, and with a closing
behind it. `addAll_inGroup` follows both readings side by side. For a pattern that can be
read alone they come to the same, and the anchored pattern says `anchoredNode` of what the
pattern says (`root_of_readPattern_anchored`).

From there the main statements are about `Span` only:

* `match_whole_of_compileAnchored`: every match is one of the whole text.
* `isMatch_compileAnchored_iff`: there is a match exactly when the pattern alone has some way
  of taking the whole text.

Both ask that the pattern can be read alone. The text of an anchored pattern may be a pattern
although the text between the anchors is none: `a)|(?:b` closes the group in front of it and
opens another one, and its two alternatives get one anchor each. What follows from that is
`anchored_leak`.
-/

set_option autoImplicit false

namespace ImageSync.Regex

/-! ### Reading inside the opening -/

/-- The group that the opening of an anchored pattern leaves open. -/
def anchorFrame : Frame := ⟨none, {}, [⟨.look .textStart, 0, true⟩], []⟩

namespace Draft

/-- A draft read inside the group of an anchored pattern. -/
def inGroup (d : Draft) : Draft := { d with frames := d.frames ++ [anchorFrame] }

/-- A piece that may stand in a pattern alone may stand in the group. -/
theorem add_inGroup {d e : Draft} {piece : Piece} (h : d.add piece = some e) :
    d.inGroup.add piece = some e.inGroup := by
  cases piece with
  | atom node depth => cases h; rfl
  | openGroup kind flags =>
    cases kind with
    | silent => cases h; rfl
    | numbered => cases h; rfl
    | named name =>
      simp only [add] at h
      split at h
      · cases h
      · next hnew =>
        cases h
        simp only [add]
        rw [if_neg (show ¬d.inGroup.names.any (·.1 == name) = true from hnew)]
        rfl
  | closeGroup =>
    -- A closed group was opened in the pattern itself.
    obtain ⟨flags, items, alternatives, frames, groups, names⟩ := d
    cases frames with
    | nil => cases h
    | cons fr frames => cases h; rfl
  | setFlags flags => cases h; rfl
  | bar => cases h; rfl
  | repetition min max lazily =>
    obtain ⟨flags, items, alternatives, frames, groups, names⟩ := d
    cases items with
    | nil => cases h
    | cons item items =>
      simp only [add] at h
      split at h
      · cases h
      · next hrep =>
        cases h
        simp only [add, inGroup]
        rw [if_neg hrep]

/-- Nothing of the closing is skipped. -/
theorem skip_of_longer_nil (f : Flags) {rest : List Char} (h : Longer [] rest) :
    f.skip rest = rest := by
  rcases h.of_nil with rfl | rfl
  · unfold Flags.skip
    split
    · rfl
    · rfl
  · unfold Flags.skip
    split
    · rfl
    · rfl

/-- What is skipped before a piece may as well have been left out. -/
theorem addAll_skip {n : Nat} {d : Draft} {cs cs' : List Char}
    (h : d.flags.skip cs = d.flags.skip cs') : addAll n d cs = addAll n d cs' := by
  cases n with
  | zero => rfl
  | succ n => rw [addAll, addAll, h]

/-- A change of a draft that no piece notices: the flags in force stay, and what may be added
before the change may be added after it. -/
structure Unnoticed (change : Draft → Draft) : Prop where
  flags : ∀ d, (change d).flags = d.flags
  add : ∀ {d e piece}, d.add piece = some e → (change d).add piece = some (change e)

/-- Leaving a draft as it is goes unnoticed. -/
theorem unnoticed_id : Unnoticed id := ⟨fun _ => rfl, id⟩

/-- A group around all of a draft goes unnoticed, since no piece of the pattern closes it. -/
theorem unnoticed_inGroup : Unnoticed inGroup := ⟨fun _ => rfl, add_inGroup⟩

/-- The reading of a pattern alone, and of the same with the closing behind it, also from a
changed draft. All come to the end of the pattern with the same draft, and in the longer text
with the same rest. -/
theorem addAll_longer {n : Nat} {d e : Draft} {cs cs' : List Char}
    (h : addAll n d cs = some e) (hlonger : Longer cs cs') :
    ∃ m rest, Longer [] rest ∧ ∀ change, Unnoticed change →
      ∀ k, addAll (n + k) (change d) cs' = addAll (m + 1 + k) (change e) rest := by
  -- By induction on the pieces that are read. The change is the same for all of them, so it is
  -- taken along to the end.
  induction n generalizing d cs cs' with
  | zero => cases h
  | succ n ih =>
    have hskip := hlonger.skip d.flags
    rw [addAll] at h
    split at h
    · next hnil =>
      cases h
      rw [hnil] at hskip
      refine ⟨n, _, hskip, fun change hchange k => addAll_skip ?_⟩
      rw [hchange.flags]
      exact (skip_of_longer_nil _ hskip).symm
    · next c r hcons =>
      rw [hcons] at hskip
      obtain ⟨⟨piece, rest⟩, hread, h⟩ := Option.bind_eq_some_iff.1 h
      obtain ⟨e', hadd, h⟩ := Option.bind_eq_some_iff.1 h
      obtain ⟨⟨_, rest'⟩, hread', rfl, hrest⟩ :=
        readPiece_longer d.flags c (.behind r) _ hread
      obtain ⟨m, last, hlast, hall⟩ := ih h hrest
      refine ⟨m, last, hlast, fun change hchange k => ?_⟩
      rw [← hall change hchange k, Nat.succ_add, addAll, hchange.flags, hskip.of_cons]
      show (readPiece d.flags c (r ++ closing) >>= fun p =>
        (change d).add p.1 >>= fun d' => addAll (n + k) d' p.2) = _
      rw [hread']
      show ((change d).add piece >>= fun d' => addAll (n + k) d' rest') = _
      rw [hchange.add hadd]
      rfl

/-- The reading of a pattern alone, and of the same inside the group with the closing behind
it. Both come to the end of the pattern with the same draft. -/
theorem addAll_inGroup {n : Nat} {d e : Draft} {cs cs' : List Char}
    (h : addAll n d cs = some e) (hlonger : Longer cs cs') :
    ∃ m rest, Longer [] rest ∧
      ∀ k, addAll (n + k) d.inGroup cs' = addAll (m + 1 + k) e.inGroup rest := by
  obtain ⟨m, rest, hrest, hall⟩ := addAll_longer h hlonger
  exact ⟨m, rest, hrest, hall inGroup unnoticed_inGroup⟩

/-- The opening of an anchored pattern leaves its group open. -/
theorem addAll_opening (k : Nat) (cs : List Char) :
    addAll (k + 2) {} (['^', '(', '?', ':'] ++ cs) = addAll k ({} : Draft).inGroup cs := rfl

/-- The closing ends the group and the pattern. -/
theorem addAll_closing (k : Nat) {d : Draft} (hframes : d.frames = []) :
    addAll (k + 3) d.inGroup closing = some { d with
      flags := {}
      items := [⟨.look .textEnd, 0, true⟩, ⟨d.body.node, d.body.depth + 1, true⟩,
        ⟨.look .textStart, 0, true⟩]
      alternatives := [] } := by
  have hskip : d.inGroup.flags.skip closing = closing := skip_of_longer_nil _ (.behind [])
  obtain ⟨flags, items, alternatives, frames, groups, names⟩ := d
  subst hframes
  rw [addAll, hskip]
  rfl

end Draft

/-- An expression between tests for the start and the end of the text. -/
def anchoredNode (e : Node) : Node := .seq (.look .textStart) (.seq e (.look .textEnd))

/-- If a pattern can be read alone, the anchored pattern says what the pattern says, between
anchors. -/
theorem root_of_readPattern_anchored {cs : List Char} {p p' : Pattern}
    (halone : readPattern cs = some p) (hwhole : readPattern (anchored cs) = some p') :
    p'.root = anchoredNode p.root := by
  obtain ⟨d, hd, halone⟩ := Option.bind_eq_some_iff.1 halone
  obtain ⟨_, hguard, halone⟩ := Option.bind_eq_some_iff.1 halone
  cases halone
  obtain ⟨d', hd', hwhole⟩ := Option.bind_eq_some_iff.1 hwhole
  obtain ⟨_, hguard', hwhole⟩ := Option.bind_eq_some_iff.1 hwhole
  cases hwhole
  -- A pattern that is complete leaves no group open.
  have hframes : d.frames = [] := by
    cases hcase : d.frames with
    | nil => rfl
    | cons fr frames =>
      have htest := of_guard hguard
      rw [hcase] at htest
      cases htest
  obtain ⟨m, rest, hrest, hall⟩ := Draft.addAll_inGroup hd (.behind cs)
  have hread : Draft.addAll (m + 1 + 4) d.inGroup rest = some d' := by
    rw [← hall 4, ← hd', ← Draft.addAll_opening]
    simp [anchored, closing]
  rcases hrest.of_nil with rfl | rfl
  · rw [show m + 1 + 4 = m + 2 + 3 from rfl, Draft.addAll_closing _ hframes] at hread
    cases hread
    rfl
  · -- A comment has swallowed the closing, and the group is still open.
    have hopen : d' = d.inGroup := by
      rw [Draft.addAll, Draft.skip_of_longer_nil _ .swallowed] at hread
      exact (Option.some.inj hread).symm
    have htest := of_guard hguard'
    rw [hopen] at htest
    simp [Draft.inGroup] at htest

/-! ### What an anchored pattern matches -/

/-- Only the first place has no character before it. -/
theorem span_textStart_iff {t : List Char} {i j : Nat} :
    Span t (.look .textStart) i j ↔ i = 0 ∧ j = 0 := by
  constructor
  · intro h
    cases h with
    | look hi hl =>
      have hbefore : charBefore t i = none := Option.isNone_iff_eq_none.1 hl
      rw [charBefore] at hbefore
      split at hbefore
      · next hzero => exact ⟨hzero, hzero⟩
      · have hle : t.length ≤ i - 1 := List.getElem?_eq_none_iff.1 hbefore
        omega
  · rintro ⟨rfl, rfl⟩
    exact .look (Nat.zero_le _) rfl

/-- Only the last place has no character after it. -/
theorem span_textEnd_iff {t : List Char} {i j : Nat} :
    Span t (.look .textEnd) i j ↔ i = t.length ∧ j = t.length := by
  constructor
  · intro h
    cases h with
    | look hi hl =>
      have hafter : t[i]? = none := Option.isNone_iff_eq_none.1 hl
      have hle : t.length ≤ i := List.getElem?_eq_none_iff.1 hafter
      have heq : i = t.length := Nat.le_antisymm hi hle
      exact ⟨heq, heq⟩
  · rintro ⟨rfl, rfl⟩
    exact .look (Nat.le_refl _) (by simp [Look.holds])

/-- Between anchors, an expression takes the whole text or nothing. -/
theorem span_anchoredNode_iff {t : List Char} {e : Node} {i j : Nat} :
    Span t (anchoredNode e) i j ↔ i = 0 ∧ j = t.length ∧ Span t e 0 t.length := by
  simp only [anchoredNode, span_seq_iff, span_textStart_iff, span_textEnd_iff]
  constructor
  · rintro ⟨_, ⟨rfl, rfl⟩, _, he, rfl, rfl⟩
    exact ⟨rfl, rfl, he⟩
  · rintro ⟨rfl, rfl, he⟩
    exact ⟨0, ⟨rfl, rfl⟩, t.length, he, rfl, rfl⟩

/-- What is compiled is what is read. -/
theorem readPattern_of_compileChars {cs : List Char} {e : Regex}
    (h : compileChars cs = .ok e) : readPattern cs = some e.pattern := by
  unfold compileChars at h
  split at h
  · cases h
  · next p hread =>
    split at h
    · cases h
    · cases h
      exact hread

/-- What is compiled has its bounds in order. -/
theorem proper_of_compileChars {cs : List Char} {e : Regex} (h : compileChars cs = .ok e) :
    e.pattern.root.Proper :=
  proper_of_readPattern (readPattern_of_compileChars h)

/-- If a pattern also compiles alone, the parts that its anchored form spans are those of the
whole text that it spans alone. -/
theorem span_compileAnchored_iff {pattern : String} {alone whole : Regex}
    (halone : compile pattern = .ok alone) (hwhole : compileAnchored pattern = .ok whole)
    {t : List Char} {i j : Nat} :
    Span t whole.pattern.root i j ↔
      i = 0 ∧ j = t.length ∧ Span t alone.pattern.root 0 t.length := by
  rw [root_of_readPattern_anchored (readPattern_of_compileChars halone)
    (readPattern_of_compileChars hwhole)]
  exact span_anchoredNode_iff

/-- If a pattern also compiles alone, its anchored form matches whole texts only: every part
that it spans, and so every match that a search finds, is the whole text. -/
theorem match_whole_of_compileAnchored {pattern : String} {alone whole : Regex}
    (halone : compile pattern = .ok alone) (hwhole : compileAnchored pattern = .ok whole)
    (text : String) :
    (∀ i j, Span text.toList whole.pattern.root i j → i = 0 ∧ j = text.toList.length) ∧
      (∀ m ∈ (Searcher.ofNode whole.pattern.root).matchesIn text.toList,
        m.start.pos = 0 ∧ m.stop.pos = text.toList.length) ∧
      (whole.isMatch text = true → Span text.toList whole.pattern.root 0 text.toList.length) := by
  have hproper : whole.pattern.root.Proper := proper_of_compileChars hwhole
  have hspan : ∀ i j, Span text.toList whole.pattern.root i j →
      i = 0 ∧ j = text.toList.length := by
    intro i j h
    obtain ⟨hi, hj, -⟩ := (span_compileAnchored_iff halone hwhole).1 h
    exact ⟨hi, hj⟩
  refine ⟨hspan, ?_, ?_⟩
  · intro m hm
    exact hspan _ _ (span_of_mem_matchesIn hproper hm)
  · intro hmatch
    obtain ⟨i, j, h⟩ := (matchesIn_iff hproper _).1 hmatch
    obtain ⟨rfl, rfl⟩ := hspan i j h
    exact h

/-- A choice whose first alternative is preferred and shorter still takes the whole text. -/
theorem match_whole_lazy_choice :
    ∃ alone whole, compile "a|ab*?" = .ok alone ∧ compileAnchored "a|ab*?" = .ok whole ∧
      whole.isMatch "abb" = true ∧ Span "abb".toList whole.pattern.root 0 3 := by
  have halone : compile "a|ab*?" = .ok _ := rfl
  have hwhole : compileAnchored "a|ab*?" = .ok _ := rfl
  exact ⟨_, _, halone, hwhole, by decide,
    (match_whole_of_compileAnchored halone hwhole "abb").2.2 (by decide)⟩

/-- A text that is no pattern alone may be one between anchors, and match a text because of a
proper part of it: here `^(?:a)|(?:b)$` finds `a` at the start of `ax`. -/
theorem anchored_leak :
    ∃ whole, compile "a)|(?:b" = .error .malformed ∧ compileAnchored "a)|(?:b" = .ok whole ∧
      whole.isMatch "ax" = true ∧ Span "ax".toList whole.pattern.root 0 1 ∧
      ¬Span "ax".toList whole.pattern.root 0 2 := by
  have hwhole : compileAnchored "a)|(?:b" = .ok _ := rfl
  have hproper := proper_of_compileChars hwhole
  refine ⟨_, rfl, hwhole, by decide, ?_, ?_⟩
  · rw [span_iff_testBit_ends hproper (Nat.zero_le _)]
    decide
  · rw [span_iff_testBit_ends hproper (Nat.zero_le _)]
    decide

/-- If a pattern also compiles alone, its anchored form matches a text exactly when the
pattern alone has some way of taking the whole text. -/
theorem isMatch_compileAnchored_iff {pattern : String} {alone whole : Regex}
    (halone : compile pattern = .ok alone) (hwhole : compileAnchored pattern = .ok whole)
    (text : String) :
    whole.isMatch text = true ↔ Span text.toList alone.pattern.root 0 text.toList.length := by
  rw [show whole.isMatch text = whole.pattern.root.matchesIn text.toList from rfl,
    matchesIn_iff (proper_of_compileChars hwhole)]
  simp only [span_compileAnchored_iff halone hwhole]
  constructor
  · rintro ⟨_, _, _, _, h⟩
    exact h
  · intro h
    exact ⟨0, _, rfl, rfl, h⟩

/-- Flags that are set in a pattern end with the group, and the preferred match of a choice
does not hide a longer one. -/
theorem isMatch_compileAnchored_flags :
    ∃ alone whole, compile "(?m)a|a\\nb" = .ok alone ∧
      compileAnchored "(?m)a|a\\nb" = .ok whole ∧
      whole.isMatch "a\nb" = true ∧ Span "a\nb".toList alone.pattern.root 0 3 ∧
      whole.isMatch "a\nc" = false := by
  have halone : compile "(?m)a|a\\nb" = .ok _ := rfl
  have hwhole : compileAnchored "(?m)a|a\\nb" = .ok _ := rfl
  exact ⟨_, _, halone, hwhole, by decide,
    (isMatch_compileAnchored_iff halone hwhole "a\nb").1 (by decide), by decide⟩

end ImageSync.Regex
