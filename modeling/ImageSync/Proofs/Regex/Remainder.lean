import ImageSync.Proofs.Regex.Scan

/-!
# `ImageSync.Proofs.Regex.Remainder`: a text at the front, and the rest of the line

A plain text between `^` and `(.*)$` asks for a text that starts with it and has no line feed
behind it, and remembers what is behind it as its first group.

`readPattern_remainder` reads the pattern. What it spans has to start with the text, so where that
or the rest of the line is missing nothing is matched (`matchesIn_remainder_eq_nil`). Where both are
there, the search goes over the text and takes all that is left at once, and the match that it comes
to is the only one (`matchesIn_remainder`).
-/

set_option autoImplicit false

namespace ImageSync.Regex

open ImageSync.Text (CharSet)

/-- The characters that a line may hold. -/
def inLine : CharSet := (CharSet.single '\n').compl

/-- All characters but the line break are in a line. -/
theorem contains_inLine {c : Char} : inLine.contains c = true ↔ c ≠ '\n' := by
  simp [inLine]

/-- The parts behind the text: the rest of the line as a group, and the end. -/
def remainder : List Node := [.group 1 (.rep 0 none true (.one inLine)), .look .textEnd]

/-- The expression for a text at the front and the rest of the line. -/
def Node.remainder (front : List Char) : Node :=
  .seqAll (.look .textStart :: (front.map .char ++ Regex.remainder))

/-- The pattern that is read as this expression. -/
def remainderPattern (front : List Char) : List Char := '^' :: (front ++ ['(', '.', '*', ')', '$'])

variable {front rest new t : List Char}

/-- A plain front with a group for the rest is read as such a pattern, and the group has no name. -/
theorem readPattern_remainder (h : ∀ c ∈ front, IsPlain c) :
    readPattern (remainderPattern front) = some ⟨.remainder front, []⟩ := by
  -- What is read lies on the draft in reverse: first the end of the text, then the group, then the
  -- front.
  let d : Draft := {
    items := [⟨.look .textEnd, 0, true⟩, ⟨.group 1 (.rep 0 none true (.one inLine)), 2, true⟩] ++
      ((front.map Item.char).reverse ++ [⟨.look .textStart, 0, true⟩])
    groups := 1 }
  have hlength : (remainderPattern front).length + 1 = front.length + 6 + 1 := by
    simp [remainderPattern]
  have hread : Draft.addAll ((remainderPattern front).length + 1) {} (remainderPattern front) =
      some d := by
    rw [hlength]
    exact Draft.addAll_plain h (d := { items := [⟨.look .textStart, 0, true⟩] }) rfl 6 _
  -- Only the group is nested, so the pattern is far from too deep.
  have hdepth : d.body.depth ≤ 2 + 1 := by
    show (Item.sequence d.items).depth ≤ 2 + 1
    refine Item.depth_sequence_le fun item hitem => ?_
    simp only [d, List.mem_append, List.mem_reverse, List.mem_map, List.mem_cons,
      List.not_mem_nil, or_false] at hitem
    rcases hitem with (rfl | rfl) | ⟨c, -, rfl⟩ | rfl
    · exact Nat.zero_le _
    · exact Nat.le_refl _
    · exact Nat.zero_le _
    · exact Nat.zero_le _
  have hnode : d.body.node = .remainder front := by
    refine (Item.node_sequence d.items).trans ?_
    simp only [d, List.reverse_append, List.reverse_reverse, List.map_append, List.map_map]
    rfl
  rw [readPattern_of_addAll hread rfl (Nat.le_trans hdepth (by decide)), hnode]

/-- A long front makes a large expression. -/
theorem le_size_remainder (front : List Char) :
    stateSize * front.length ≤ (Node.remainder front).size := by
  have hsize := le_size_seqAll_text front remainder
  rw [Node.remainder]
  cases hnodes : front.map Node.char ++ remainder with
  | nil => exact absurd (List.append_eq_nil_iff.1 hnodes).2 (by simp [remainder])
  | cons a nodes =>
    rw [hnodes] at hsize
    exact Nat.le_add_left_of_le hsize

/-- A repetition of single characters spans characters of its set. -/
theorem contains_of_span_many {s : CharSet} {greedy : Bool} {i j : Nat}
    (h : Span t (.rep 0 none greedy (.one s)) i j) {k : Nat} {c : Char} (hi : i ≤ k) (hj : k < j)
    (hc : t[k]? = some c) : s.contains c = true := by
  obtain ⟨n, -, hchain⟩ := Span.many_iff_chain.1 h
  clear h
  induction hchain with
  | done => exact absurd hj (Nat.not_lt.2 hi)
  | more ha _ ih =>
    cases ha with
    | one hd hs =>
      rcases Nat.eq_or_lt_of_le hi with rfl | hlt
      · rw [hd] at hc
        cases hc
        exact hs
      · exact ih hlt hj

/-- What is spanned is a whole text that starts with the front and goes on in one line. -/
theorem span_remainder {i j : Nat} (h : Span t (.remainder front) i j) :
    ∃ rest, t = front ++ rest ∧ '\n' ∉ rest := by
  obtain ⟨_, hstart, h⟩ := span_seqAll_cons.1 h
  obtain ⟨rfl, rfl⟩ := span_textStart_iff.1 hstart
  obtain ⟨⟨rest, hrest⟩, h⟩ := span_seqAll_text.1 h
  obtain ⟨k, hgroup, h⟩ := span_seqAll_cons.1 h
  obtain ⟨rfl, -⟩ := span_textEnd_iff.1 h
  rw [List.drop_zero] at hrest
  refine ⟨rest, hrest.symm, fun hmem => ?_⟩
  obtain ⟨n, hn, hget⟩ := List.getElem_of_mem hmem
  have hc : t[0 + front.length + n]? = some '\n' := by
    rw [← hrest, Nat.zero_add, List.getElem?_append_right (Nat.le_add_right _ _),
      Nat.add_sub_cancel_left, List.getElem?_eq_getElem hn, hget]
  have hlength : 0 + front.length + n < t.length := by
    rw [← hrest, List.length_append]
    omega
  have hline := contains_of_span_many (span_group_iff.1 hgroup) (Nat.le_add_right _ _) hlength hc
  exact contains_inLine.1 hline rfl

/-- Elsewhere nothing is matched. -/
theorem matchesIn_remainder_eq_nil (hproper : (Node.remainder front).Proper)
    (h : ∀ rest, '\n' ∉ rest → t ≠ front ++ rest) :
    (Searcher.ofNode (.remainder front)).matchesIn t = [] := by
  refine List.eq_nil_iff_forall_not_mem.2 fun m hm => ?_
  obtain ⟨rest, ht, hrest⟩ := span_remainder (span_of_mem_matchesIn hproper hm)
  exact h rest hrest ht

/-- The match of a text that starts with the front and goes on in one line. -/
def remainderMatch (front rest : List Char) : Match where
  start := .start (front ++ rest)
  stop := (Place.start (front ++ rest)).behind (front ++ rest)
  captures := [⟨1, (Place.start (front ++ rest)).behind front,
    (Place.start (front ++ rest)).behind (front ++ rest)⟩]

/-- The search has steps enough to go over the text once. -/
theorem lt_steps_remainder (front : List Char) (length : Nat) :
    2 * length + 9 < (Searcher.ofNode (.remainder front)).steps length := by
  have hlabels : (Searcher.ofNode (.remainder front)).labels = 0 + front.length + 2 :=
    (snd_ofNode_seqAll_cons _ _ 0).trans (snd_ofNode_seqAll_text front remainder 0)
  have hsteps := le_steps (Searcher.ofNode (.remainder front)) length
  have hmul : 2 * 2 * (length + 1) ≤ 2 * (0 + front.length + 2) * (length + 1) :=
    Nat.mul_le_mul_right _ (by omega)
  rw [hlabels] at hsteps
  omega

/-- The parts behind the front take the rest of the line, and remember it. -/
theorem goes_remainder {label : Nat} {met : Met} {p : Place} (hrest : p.rest = rest)
    (hline : '\n' ∉ rest)
    (hnew : ∀ n, p.pos ≤ n → (label, n) ∉ met ∧ (label + 1, n) ∉ met) :
    ∃ met' ws', Goes (2 * rest.length + 6) met [⟨enterAll remainder label [], p, []⟩] met'
      (⟨[], p.behind rest, [⟨1, p, p.behind rest⟩]⟩ :: ws') := by
  have hall : ∀ c ∈ rest, inLine.contains c = true := fun c hc =>
    contains_inLine.2 fun h => hline (h ▸ hc)
  -- The group is opened, and the repetition in it takes all of the rest.
  have hgroup : Goes 2 met [⟨enterAll remainder label [], p, []⟩] met
      [⟨[.enter (.many label true (.one (label + 1) inLine)), .leave 1 p, .enter (.look .textEnd)],
        p, []⟩] :=
    (goes_enterAll (.group 1 (.rep 0 none true (.one inLine))) [.look .textEnd]).trans
      (.of_goOn [_] rfl)
  obtain ⟨met', ws', hrun⟩ := goes_many_one [.leave 1 p, .enter (.look .textEnd)] [] []
    (Nat.ne_of_lt (Nat.lt_succ_self _)) hall hrest hnew
  -- Behind it the group is closed, and the end of the text is there.
  have hleave : Goes 1 met' (⟨[.leave 1 p, .enter (.look .textEnd)], p.behind rest, []⟩ :: ws') met'
      (⟨[.enter (.look .textEnd)], p.behind rest, [⟨1, p, p.behind rest⟩]⟩ :: ws') :=
    .of_goOn [_] rfl
  have hend : Goes 1 met'
      (⟨[.enter (.look .textEnd)], p.behind rest, [⟨1, p, p.behind rest⟩]⟩ :: ws') met'
      (⟨[], p.behind rest, [⟨1, p, p.behind rest⟩]⟩ :: ws') := by
    refine .of_goOn [_] ?_
    have hnil : (p.behind rest).rest = [] :=
      Place.rest_behind_of_eq (by rw [hrest, List.append_nil])
    simp [Way.step, Look.holds, hnil]
  refine ⟨met', ws', (((hgroup.trans hrun).trans hleave).trans hend).mono ?_⟩
  omega

/-- A search for the remainder finds it at once: the front is at the start, and the rest is one
line. -/
theorem find?_remainder (hline : '\n' ∉ rest) :
    (Searcher.ofNode (.remainder front)).find? (.start (front ++ rest)) =
      some (remainderMatch front rest) := by
  let p : Place := .start (front ++ rest)
  have hstands : front <+: p.rest := List.prefix_append front rest
  have hstart : Goes 2 ∅ [⟨[.enter (Searcher.ofNode (.remainder front)).track], p, []⟩] ∅
      [⟨enterAll (front.map .char ++ remainder) 0 [], p, []⟩] :=
    (goes_enterAll (.look .textStart) (front.map .char ++ remainder)).trans
      (.of_goOn [_] rfl)
  have hempty : Unmet ∅ 0 p.pos front.length := fun i _ => Std.HashSet.not_mem_empty
  obtain ⟨met, halong, hfront⟩ := goes_text front remainder [] [] [] hempty
  rw [if_pos hstands] at hfront
  -- Only labels of the front were met.
  have hnew : ∀ n, (p.behind front).pos ≤ n →
      (0 + front.length, n) ∉ met ∧ (0 + front.length + 1, n) ∉ met := by
    have hlabel : ∀ key ∈ met, key.1 < 0 + front.length := by
      intro key hkey
      rcases halong key hkey with hkey | ⟨i, hi, rfl⟩
      · exact absurd hkey Std.HashSet.not_mem_empty
      · simp only
        omega
    exact fun n _ => ⟨fun hkey => absurd (hlabel _ hkey) (Nat.lt_irrefl _),
      fun hkey => absurd (hlabel _ hkey) (Nat.not_lt.2 (Nat.le_succ _))⟩
  obtain ⟨met', ws', hremainder⟩ := goes_remainder (Place.rest_behind_of_eq (p := p) rfl) hline hnew
  have hgoes := (hstart.trans hfront).trans hremainder
  have hsteps := lt_steps_remainder front p.rest.length
  have hlength : p.rest.length = front.length + rest.length := List.length_append
  rw [find?_of_follow (hgoes.follow_found rfl (by omega)), ← Place.behind_append]
  rfl

/-- A text that starts with the front and goes on in one line is matched once, as a whole. -/
theorem matchesIn_remainder (hrest : '\n' ∉ rest) :
    (Searcher.ofNode (.remainder front)).matchesIn (front ++ rest) =
      [remainderMatch front rest] := by
  have hstop : (remainderMatch front rest).stop.Of (front ++ rest) :=
    (Place.Of.start _).behind (List.append_nil _).symm
  exact matchesIn_of_find? (find?_remainder hrest) hstop
    (Place.rest_behind_of_eq (List.append_nil _).symm)

/-- The whole match is the text, and its group the rest of the line. -/
theorem groupText?_remainderMatch (front rest : List Char) :
    (remainderMatch front rest).groupText? 1 = some rest := by
  have hfront : ((Place.start (front ++ rest)).behind front).rest = rest ++ [] := by
    rw [Place.rest_behind_of_eq rfl, List.append_nil]
  show some (((Place.start (front ++ rest)).behind front).upTo
    ((Place.start (front ++ rest)).behind (front ++ rest))) = _
  rw [Place.behind_append, Place.upTo_behind hfront]

/-- A text that starts with the front and goes on in one line is replaced as a whole. -/
theorem splice_remainder {names : List (List Char × Nat)} {template : List TemplatePart}
    (htemplate : Template.expand names (remainderMatch front rest) template = new)
    (hline : '\n' ∉ rest) :
    splice names template (.start (front ++ rest))
      ((Searcher.ofNode (.remainder front)).matchesIn (front ++ rest)) = new := by
  have hend : (remainderMatch front rest).stop.rest = [] :=
    Place.rest_behind_of_eq (List.append_nil _).symm
  rw [matchesIn_remainder hline, splice, splice, htemplate, hend, List.append_nil]
  rfl

end ImageSync.Regex
