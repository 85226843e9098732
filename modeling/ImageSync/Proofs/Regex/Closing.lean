import ImageSync.Proofs.Regex.Plain

/-!
# `ImageSync.Proofs.Regex.Closing`: which patterns may be put between anchors

The anchors of an anchored pattern are put around its text, and the text with the anchors is read
anew. What stands behind the text then has to count. There is one way for it not to: a comment at
the end of a verbose pattern runs on to the end of the line, and so over the closing
(`CommentRunsOn`). The group of the anchors is left open then, and the text is refused.

Apart from that, anchors cost two levels of nesting and two states, for which there has to be room
(`HasRoom`). The main statement is `exists_compileChars_anchored_iff`: a pattern that compiles alone
compiles between anchors exactly if no comment runs on behind it and there is room. It rests on
`exists_rest`: behind the text of a pattern, either the whole closing is left over or nothing, and
it makes no difference for that whether the opening stands in front.
-/

set_option autoImplicit false

namespace ImageSync.Regex

/-- The closing does not count behind a pattern: a comment at its end runs on over what stands
there. -/
def CommentRunsOn (cs : List Char) : Prop := readPattern (cs ++ closing) = readPattern cs

/-- How deep the text of a pattern is nested. -/
def nesting (cs : List Char) : Nat :=
  ((Draft.addAll (cs.length + 1) {} cs).map fun d => d.body.depth).getD 0

/-- A pattern leaves room for anchors: for the two levels and the two states that they add. -/
structure HasRoom (cs : List Char) (e : Node) : Prop where
  nesting_le : nesting cs + 2 ≤ maxDepth
  size_le : e.size + 2 * stateSize ≤ maxSize

/-! ### Reading the closing -/

namespace Draft

/-- Nothing is left to be read. -/
theorem addAll_nil (m : Nat) (d : Draft) : addAll (m + 1) d [] = some d := by
  rw [addAll, skip_of_longer_nil _ .swallowed]

/-- Without an open group the closing closes none. -/
theorem addAll_closing_of_no_frames (m : Nat) {d : Draft} (hframes : d.frames = []) :
    addAll (m + 1) d closing = none := by
  have hskip : d.flags.skip closing = closing := skip_of_longer_nil _ (.behind [])
  obtain ⟨flags, items, alternatives, frames, groups, names⟩ := d
  subst hframes
  rw [addAll, hskip]
  rfl

end Draft

section Read

variable {cs : List Char} {d : Draft} {p : Pattern}

/-- A text that cannot be drafted is no pattern. -/
theorem readPattern_of_no_draft (h : Draft.addAll (cs.length + 1) {} cs = none) :
    readPattern cs = none := by
  show (Draft.addAll (cs.length + 1) {} cs >>= _) = _
  rw [h]
  rfl

/-- A text is the pattern that is drafted for it, unless a group is left open or it is nested too
deeply. -/
theorem readPattern_of_draft (h : Draft.addAll (cs.length + 1) {} cs = some d) :
    readPattern cs =
      if d.frames = [] ∧ d.body.depth ≤ maxDepth then some ⟨d.body.node, d.names⟩ else none := by
  split
  · next hfit => exact readPattern_of_addAll h hfit.1 hfit.2
  · next hno =>
    have htest : ¬(d.frames.isEmpty && decide (d.body.depth ≤ maxDepth)) = true := by
      rw [Bool.and_eq_true, List.isEmpty_iff, decide_eq_true_eq]
      exact hno
    show (Draft.addAll (cs.length + 1) {} cs >>= _) = _
    rw [h]
    show ((if _ then some () else none) >>= _) = _
    rw [if_neg htest]
    rfl

/-- A pattern is drafted with no group left open. -/
theorem exists_draft (h : readPattern cs = some p) :
    ∃ d, Draft.addAll (cs.length + 1) {} cs = some d ∧ d.frames = [] ∧
      nesting cs = d.body.depth ∧ p = ⟨d.body.node, d.names⟩ := by
  cases hd : Draft.addAll (cs.length + 1) {} cs with
  | none =>
    rw [readPattern_of_no_draft hd] at h
    cases h
  | some d =>
    rw [readPattern_of_draft hd] at h
    split at h
    · next hfit =>
      cases h
      exact ⟨d, rfl, hfit.1, by rw [nesting, hd]; rfl, rfl⟩
    · cases h

/-- Behind a pattern the closing is left over, or a comment has swallowed it. The same is left
over with the opening in front. -/
theorem exists_rest (h : Draft.addAll (cs.length + 1) {} cs = some d) :
    ∃ m rest, (rest = closing ∨ rest = []) ∧
      Draft.addAll ((cs ++ closing).length + 1) {} (cs ++ closing) = Draft.addAll (m + 3) d rest ∧
      Draft.addAll ((anchored cs).length + 1) {} (anchored cs) =
        Draft.addAll (m + 2 + 3) d.inGroup rest := by
  obtain ⟨m, rest, hrest, hall⟩ := Draft.addAll_longer h (.behind cs)
  refine ⟨m, rest, hrest.of_nil, ?_, ?_⟩
  · have hlength : (cs ++ closing).length + 1 = cs.length + 1 + 2 := by simp [closing]
    rw [hlength]
    exact hall id Draft.unnoticed_id 2
  · have hlength : (anchored cs).length + 1 = cs.length + 1 + 4 + 2 := by simp [anchored]
    rw [hlength, anchored, List.append_assoc, Draft.addAll_opening]
    exact hall Draft.inGroup Draft.unnoticed_inGroup 4

/-- A pattern between anchors is a pattern, with the same meaning between tests for the ends of the
text, unless a comment runs on behind it or it gets too deep. -/
theorem readPattern_anchored_cases (h : readPattern cs = some p) :
    (CommentRunsOn cs ∧ readPattern (anchored cs) = none) ∨
      (¬CommentRunsOn cs ∧ readPattern (anchored cs) =
        if nesting cs + 2 ≤ maxDepth then some ⟨anchoredNode p.root, p.names⟩ else none) := by
  obtain ⟨d, hd, hframes, hnesting, rfl⟩ := exists_draft h
  obtain ⟨m, rest, rfl | rfl, hbehind, hanchored⟩ := exists_rest hd
  · -- The closing is left over: alone it closes no group, between anchors that of the anchors.
    rw [Draft.addAll_closing_of_no_frames _ hframes] at hbehind
    rw [Draft.addAll_closing _ hframes] at hanchored
    refine .inr ⟨fun hon => ?_, ?_⟩
    · rw [CommentRunsOn, readPattern_of_no_draft hbehind, h] at hon
      cases hon
    · have hdepth : max (max (max 0 0) (d.body.depth + 1)) 0 + 1 = nesting cs + 2 := by
        rw [hnesting]
        omega
      rw [readPattern_of_draft hanchored, ← hdepth]
      simp only [hframes, true_and]
      rfl
  · -- The closing is gone, and the group of the anchors is still open.
    rw [Draft.addAll_nil] at hbehind hanchored
    refine .inl ⟨?_, ?_⟩
    · rw [CommentRunsOn, readPattern_of_draft hbehind, readPattern_of_draft hd]
    · rw [readPattern_of_draft hanchored, if_neg (by simp [Draft.inGroup])]

end Read

/-! ### Compiling between anchors -/

section Compile

variable {cs : List Char} {e : Regex}

/-- A text compiles exactly if it is a pattern and not too large. -/
theorem compileChars_eq_ok_iff :
    compileChars cs = .ok e ↔
      ∃ p, readPattern cs = some p ∧ p.root.size ≤ maxSize ∧ e = ⟨String.ofList cs, p⟩ := by
  cases hread : readPattern cs with
  | none => simp [compileChars, hread]
  | some p =>
    rw [compileChars_of_readPattern hread]
    split
    · next hlarge =>
      constructor
      · intro h
        cases h
      · rintro ⟨_, hp, hle, -⟩
        cases hp
        omega
    · next hfit =>
      constructor
      · intro h
        cases h
        exact ⟨p, rfl, Nat.le_of_not_lt hfit, rfl⟩
      · rintro ⟨_, hp, -, rfl⟩
        cases hp
        rfl

/-- The two ends of an anchored pattern take a state each. -/
theorem size_anchoredNode (a : Node) : (anchoredNode a).size = a.size + 2 * stateSize := by
  simp only [anchoredNode, Node.size]
  omega

/-- A text that compiles alone compiles between anchors exactly if no comment runs on behind it and
there is room for the anchors. -/
theorem exists_compileChars_anchored_iff (h : compileChars cs = .ok e) :
    (∃ whole, compileChars (anchored cs) = .ok whole) ↔
      ¬CommentRunsOn cs ∧ HasRoom cs e.pattern.root := by
  obtain ⟨p, hread, -, rfl⟩ := compileChars_eq_ok_iff.1 h
  simp only [compileChars_eq_ok_iff]
  obtain ⟨hon, hnone⟩ | ⟨hoff, hsome⟩ := readPattern_anchored_cases hread
  · simp [hon, hnone]
  · rw [hsome]
    constructor
    · rintro ⟨_, p', hp', hsize, -⟩
      split at hp'
      · next hdepth =>
        cases hp'
        rw [size_anchoredNode] at hsize
        exact ⟨hoff, hdepth, hsize⟩
      · cases hp'
    · rintro ⟨-, hdepth, hsize⟩
      rw [← size_anchoredNode] at hsize
      exact ⟨_, _, if_pos hdepth, hsize, rfl⟩

end Compile

end ImageSync.Regex
