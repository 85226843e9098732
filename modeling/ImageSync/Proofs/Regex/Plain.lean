import ImageSync.Proofs.Regex.Anchored
import ImageSync.Proofs.Text.Run

/-!
# `ImageSync.Proofs.Regex.Plain`: plain text in patterns

Most characters stand for themselves in a pattern (`IsPlain`), wherever they stand outside brackets
and as long as no flag is set. A run of them is read as one item per character, whatever is around
it (`Draft.addAll_plain`), and their sequence `Node.text` spans the text itself and nothing else
(`span_text_iff`). Plain texts with bars between them are read as alternatives, one for each text
(`Draft.addAll_choices`).

What plain text comes to as a whole pattern follows: `readPattern_plain` for a single text that is
searched for, and `isMatch_compileAnchored_choices` for texts of which one has to be the whole
text. Neither is ever malformed, and `le_size_text` bounds the size from below, by which a long
text is refused.
-/

set_option autoImplicit false

namespace ImageSync.Regex

/-- The characters that do not stand for themselves in a pattern. -/
def signs : List Char :=
  ['(', ')', '|', '[', '?', '*', '+', '\x7b', '.', '^', '$', '\\']

/-- A character that stands for itself in a pattern. -/
def IsPlain (c : Char) : Prop := c ∉ signs

instance : DecidablePred IsPlain := fun c => inferInstanceAs (Decidable (c ∉ signs))

/-- Letters and digits are plain, and so are the three characters between them in names. -/
theorem isPlain_of_isAlphanum {c : Char} (h : c.isAlphanum = true ∨ c ∈ ['_', '-', '/']) :
    IsPlain c := by
  intro hsign
  have hall : ∀ s ∈ signs, ¬(s.isAlphanum = true ∨ s ∈ ['_', '-', '/']) :=
    Text.forall_mem_of_all (by decide)
  exact hall c hsign h

/-- The expression for a character. -/
def Node.char (c : Char) : Node := .one (.single c)

/-- The expression for a text. -/
def Node.text (cs : List Char) : Node := .seqAll (cs.map .char)

/-! ### Reading plain text -/

/-- A plain character is a piece of its own. -/
theorem readPiece_plain {c : Char} (h : IsPlain c) (r : List Char) :
    readPiece {} c r = some (.atom (.char c) 0, r) := by
  unfold readPiece
  split
  all_goals first
    | rfl
    | exact absurd (by decide) h

/-- The item that a plain character is read as. -/
def Item.char (c : Char) : Item := ⟨.char c, 0, true⟩

/-- The item that a plain text is read as. -/
def Item.text (cs : List Char) : Item := .sequence (cs.map .char).reverse

/-- A sequence of items is the sequence of their expressions. -/
theorem Item.node_sequence (items : List Item) :
    (Item.sequence items).node = .seqAll (items.reverse.map Item.node) := by
  unfold Item.sequence
  split
  · rfl
  · rfl
  · rfl

/-- A choice between items is the choice between their expressions. -/
theorem Item.node_choice (items : List Item) :
    (Item.choice items).node = .altAll (items.reverse.map Item.node) := by
  unfold Item.choice
  split
  · rfl
  · rfl
  · rfl

/-- The greatest of some numbers is no greater than a bound of theirs. -/
theorem foldl_max_le {n m : Nat} {ns : List Nat} (hm : m ≤ n) (h : ∀ k ∈ ns, k ≤ n) :
    ns.foldl max m ≤ n := by
  induction ns generalizing m with
  | nil => exact hm
  | cons k ns ih =>
    obtain ⟨hk, hns⟩ := List.forall_mem_cons.1 h
    exact ih (Nat.max_le.2 ⟨hm, hk⟩) hns

/-- A sequence is nested once more than its items. -/
theorem Item.depth_sequence_le {n : Nat} {items : List Item} (h : ∀ item ∈ items, item.depth ≤ n) :
    (Item.sequence items).depth ≤ n + 1 := by
  have hall : ∀ k ∈ items.map Item.depth, k ≤ n := List.forall_mem_map.2 h
  unfold Item.sequence
  split
  · exact Nat.zero_le _
  · exact Nat.le_succ_of_le (h _ List.mem_cons_self)
  · exact Nat.succ_le_succ (foldl_max_le (Nat.zero_le _) hall)

/-- A choice is nested once more than its items. -/
theorem Item.depth_choice_le {n : Nat} {items : List Item} (h : ∀ item ∈ items, item.depth ≤ n) :
    (Item.choice items).depth ≤ n + 1 := by
  have hall : ∀ k ∈ items.map Item.depth, k ≤ n := List.forall_mem_map.2 h
  unfold Item.choice
  split
  · exact Nat.zero_le _
  · exact Nat.le_succ_of_le (h _ List.mem_cons_self)
  · exact Nat.succ_le_succ (foldl_max_le (Nat.zero_le _) hall)

/-- A text as an item is the text as a part. -/
theorem Item.node_text (cs : List Char) : (Item.text cs).node = .text cs := by
  rw [Item.text, Item.node_sequence, List.reverse_reverse, List.map_map]
  rfl

/-- A text is nested once at most. -/
theorem Item.depth_text_le (cs : List Char) : (Item.text cs).depth ≤ 1 := by
  refine Item.depth_sequence_le (n := 0) fun item hitem => ?_
  obtain ⟨c, -, rfl⟩ := List.mem_map.1 (List.mem_reverse.1 hitem)
  exact Nat.le_refl _

namespace Draft

/-- A plain text is read as one item for each of its characters. -/
theorem addAll_plain {cs : List Char} (h : ∀ c ∈ cs, IsPlain c) {d : Draft} (hflags : d.flags = {})
    (k : Nat) (rest : List Char) :
    addAll (cs.length + k) d (cs ++ rest) =
      addAll k { d with items := (cs.map Item.char).reverse ++ d.items } rest := by
  induction cs generalizing d with
  | nil => rw [List.length_nil, Nat.zero_add]; rfl
  | cons c r ih =>
    obtain ⟨hc, hr⟩ := List.forall_mem_cons.1 h
    obtain ⟨flags, items, alternatives, frames, groups, names⟩ := d
    subst hflags
    have hskip : Flags.skip {} (c :: r ++ rest) = c :: (r ++ rest) := rfl
    rw [List.length_cons, Nat.add_right_comm, addAll, hskip]
    dsimp only
    rw [readPiece_plain hc]
    show addAll (r.length + k)
      ⟨{}, Item.char c :: items, alternatives, frames, groups, names⟩ (r ++ rest) = _
    rw [ih hr rfl]
    simp

/-- Plain texts with bars between them are read as alternatives. -/
theorem addAll_choices {first : List Char} {others : List (List Char)}
    (h : ∀ cs ∈ first :: others, ∀ c ∈ cs, IsPlain c) {d : Draft} (hflags : d.flags = {})
    (hitems : d.items = []) :
    ∃ items alternatives,
      Item.sequence items :: alternatives =
        ((first :: others).map Item.text).reverse ++ d.alternatives ∧
      ∀ k rest,
        addAll ((Text.joinWith '|' (first :: others)).length + k) d
            (Text.joinWith '|' (first :: others) ++ rest) =
          addAll k { d with items, alternatives } rest := by
  obtain ⟨flags, items, alternatives, frames, groups, names⟩ := d
  subst hflags hitems
  obtain ⟨hfirst, hothers⟩ := List.forall_mem_cons.1 h
  -- By induction on the texts behind the first one, for any alternatives that are finished.
  induction others generalizing first alternatives with
  | nil =>
    refine ⟨(first.map Item.char).reverse, alternatives, rfl, fun k rest => ?_⟩
    rw [Text.joinWith, addAll_plain hfirst rfl, List.append_nil]
  | cons next others ih =>
    obtain ⟨hnext, hrest⟩ := List.forall_mem_cons.1 hothers
    obtain ⟨items, alternatives', hall, hadd⟩ :=
      ih hothers (Item.text first :: alternatives) hnext hrest
    refine ⟨items, alternatives', by rw [hall]; simp, fun k rest => ?_⟩
    -- The bar ends the first text, and the others follow with it as a finished alternative.
    rw [Text.joinWith, List.length_append, List.length_cons, List.append_assoc, Nat.add_assoc,
      addAll_plain hfirst rfl, List.append_nil, Nat.add_right_comm, ← hadd]
    rfl

end Draft

/-- A text is the pattern that is drafted for it, if no group is left open and none is too deep. -/
theorem readPattern_of_addAll {cs : List Char} {d : Draft}
    (h : Draft.addAll (cs.length + 1) {} cs = some d) (hframes : d.frames = [])
    (hdepth : d.body.depth ≤ maxDepth) : readPattern cs = some ⟨d.body.node, d.names⟩ := by
  have htest : (d.frames.isEmpty && decide (d.body.depth ≤ maxDepth)) = true := by
    rw [hframes, decide_eq_true hdepth]
    rfl
  show (Draft.addAll (cs.length + 1) {} cs >>= _) = _
  rw [h]
  show ((if _ then some () else none) >>= _) = _
  rw [if_pos htest]
  rfl

/-- A plain text is a pattern that says the text. -/
theorem readPattern_plain {cs : List Char} (h : ∀ c ∈ cs, IsPlain c) :
    readPattern cs = some ⟨.text cs, []⟩ := by
  have hadd := Draft.addAll_plain h (d := {}) rfl 1 []
  rw [List.append_nil, List.append_nil] at hadd
  have hread := readPattern_of_addAll (d := { items := (cs.map Item.char).reverse }) hadd rfl
    (Nat.le_trans (Item.depth_text_le cs) (by decide))
  rw [hread, ← Item.node_text]
  rfl

/-- Plain texts with bars between them are, between anchors, a choice between the texts. -/
theorem readPattern_anchored_choices {first : List Char} {others : List (List Char)}
    (h : ∀ cs ∈ first :: others, ∀ c ∈ cs, IsPlain c) :
    readPattern (anchored (Text.joinWith '|' (first :: others))) =
      some ⟨anchoredNode (.altAll ((first :: others).map Node.text)), []⟩ := by
  obtain ⟨items, alternatives, hall, hadd⟩ :=
    Draft.addAll_choices h (d := ({} : Draft).inGroup) rfl rfl
  -- The draft at the end of the last text, before the group is closed.
  let d : Draft := { items, alternatives }
  have hitems : Item.sequence items :: alternatives = ((first :: others).map Item.text).reverse :=
    hall.trans (List.append_nil _)
  have hnode : d.body.node = .altAll ((first :: others).map Node.text) := by
    rw [Draft.body, hitems, Item.node_choice, List.reverse_reverse, List.map_map]
    exact congrArg _ (List.map_congr_left fun cs _ => Item.node_text cs)
  have hdepth : d.body.depth ≤ 2 := by
    rw [Draft.body, hitems]
    refine Item.depth_choice_le fun item hitem => ?_
    obtain ⟨cs, -, rfl⟩ := List.mem_map.1 (List.mem_reverse.1 hitem)
    exact Item.depth_text_le cs
  have hlength : (anchored (Text.joinWith '|' (first :: others))).length + 1 =
      (Text.joinWith '|' (first :: others)).length + (2 + 3) + 2 := by
    simp [anchored]
  -- The opening, the texts and the closing are read one after the other.
  have hread : Draft.addAll ((anchored (Text.joinWith '|' (first :: others))).length + 1) {}
      (anchored (Text.joinWith '|' (first :: others))) = some { d with
        items := [⟨.look .textEnd, 0, true⟩, ⟨d.body.node, d.body.depth + 1, true⟩,
          ⟨.look .textStart, 0, true⟩]
        alternatives := [] } := by
    rw [hlength, anchored, List.append_assoc, Draft.addAll_opening]
    exact (hadd (2 + 3) closing).trans (Draft.addAll_closing 2 (d := d) rfl)
  rw [readPattern_of_addAll hread rfl, ← hnode]
  · rfl
  · have hbody : (Item.sequence [⟨.look .textEnd, 0, true⟩, ⟨d.body.node, d.body.depth + 1, true⟩,
        ⟨.look .textStart, 0, true⟩]).depth ≤ 3 + 1 := by
      refine Item.depth_sequence_le fun item hitem => ?_
      simp only [List.mem_cons, List.not_mem_nil, or_false] at hitem
      rcases hitem with rfl | rfl | rfl
      · exact Nat.zero_le _
      · exact Nat.succ_le_succ hdepth
      · exact Nat.zero_le _
    exact Nat.le_trans hbody (by decide)

/-! ### What plain text spans -/

section Spans

variable {t : List Char} {i j k : Nat}

/-- A sequence spans what its first part and then the rest of it span. -/
theorem span_seqAll_cons {a : Node} {nodes : List Node} :
    Span t (.seqAll (a :: nodes)) i k ↔ ∃ j, Span t a i j ∧ Span t (.seqAll nodes) j k := by
  cases nodes with
  | nil =>
    constructor
    · intro h
      exact ⟨k, h, .empty h.le_length⟩
    · rintro ⟨j, ha, hempty⟩
      obtain ⟨rfl, -⟩ := span_empty_iff.1 hempty
      exact ha
  | cons b nodes => exact span_seq_iff

/-- A choice spans what one of its alternatives spans. -/
theorem span_altAll_iff {nodes : List Node} (hne : nodes ≠ []) :
    Span t (.altAll nodes) i j ↔ ∃ a ∈ nodes, Span t a i j := by
  fun_induction Node.altAll nodes with
  | case1 => exact absurd rfl hne
  | case2 a => simp
  | case3 a nodes hnodes ih =>
    rw [span_alt_iff, ih hnodes]
    simp

/-- A character matches where it stands. -/
theorem span_char_iff {c : Char} : Span t (.char c) i j ↔ t[i]? = some c ∧ j = i + 1 := by
  constructor
  · intro h
    cases h with
    | one hc hs =>
      rw [Text.CharSet.contains_single, beq_iff_eq] at hs
      exact ⟨hs ▸ hc, rfl⟩
  · rintro ⟨hc, rfl⟩
    exact .one hc (by rw [Text.CharSet.contains_single, beq_self_eq_true])

/-- A text stands at a place if its first character does and the others behind it. -/
theorem cons_prefix_drop_iff {c : Char} {cs : List Char} :
    c :: cs <+: t.drop i ↔ t[i]? = some c ∧ cs <+: t.drop (i + 1) := by
  rw [← List.head?_drop, ← List.tail_drop]
  cases t.drop i with
  | nil => simp
  | cons d r => simp [List.cons_prefix_cons, eq_comm]

/-- A text at the start of a sequence is spanned where it stands, and the rest behind it. -/
theorem span_seqAll_text {cs : List Char} {nodes : List Node} :
    Span t (.seqAll (cs.map .char ++ nodes)) i k ↔
      cs <+: t.drop i ∧ Span t (.seqAll nodes) (i + cs.length) k := by
  induction cs generalizing i with
  | nil => simp
  | cons c r ih =>
    rw [List.map_cons, List.cons_append, span_seqAll_cons]
    simp only [span_char_iff, ih, cons_prefix_drop_iff, List.length_cons]
    constructor
    · rintro ⟨_, ⟨hc, rfl⟩, hr, hrest⟩
      exact ⟨⟨hc, hr⟩, by rwa [Nat.add_assoc, Nat.add_comm 1] at hrest⟩
    · rintro ⟨⟨hc, hr⟩, hrest⟩
      exact ⟨i + 1, ⟨hc, rfl⟩, hr, by rwa [Nat.add_assoc, Nat.add_comm 1]⟩

/-- A text as an expression spans itself. -/
theorem span_text_iff {cs : List Char} :
    Span t (.text cs) i j ↔ cs <+: t.drop i ∧ j = i + cs.length ∧ j ≤ t.length := by
  have htext : Node.text cs = .seqAll (cs.map .char ++ []) := by rw [List.append_nil]; rfl
  rw [htext, span_seqAll_text]
  constructor
  · rintro ⟨hcs, hempty⟩
    obtain ⟨rfl, hle⟩ := span_empty_iff.1 hempty
    exact ⟨hcs, rfl, hle⟩
  · rintro ⟨hcs, rfl, hle⟩
    exact ⟨hcs, .empty hle⟩

end Spans

/-! ### Compiling plain text -/

/-- A text that is a pattern compiles, unless it is too large. -/
theorem compileChars_of_readPattern {cs : List Char} {p : Pattern} (h : readPattern cs = some p) :
    compileChars cs =
      if maxSize < p.root.size then .error .tooLarge else .ok ⟨String.ofList cs, p⟩ := by
  rw [compileChars, h]

/-- A text that is a pattern and is not refused for its size compiles. -/
theorem compileChars_eq_ok {cs : List Char} {p : Pattern} (h : readPattern cs = some p)
    (hsize : compileChars cs ≠ .error .tooLarge) :
    compileChars cs = .ok ⟨String.ofList cs, p⟩ := by
  rw [compileChars_of_readPattern h] at hsize ⊢
  split
  · next hlarge => exact absurd (if_pos hlarge) hsize
  · rfl

/-- A text that is a pattern is refused for its size if that is too large. -/
theorem compileChars_eq_tooLarge {cs : List Char} {p : Pattern} (h : readPattern cs = some p)
    (hsize : maxSize < p.root.size) : compileChars cs = .error .tooLarge := by
  rw [compileChars_of_readPattern h, if_pos hsize]

/-- Names with bars between them, as characters. -/
theorem toList_intercalate_bar (names : List String) :
    ("|".intercalate names).toList = Text.joinWith '|' (names.map String.toList) := by
  induction names with
  | nil => simp [Text.joinWith]
  | cons first others ih =>
    cases others with
    | nil => simp [Text.joinWith]
    | cons next others =>
      rw [String.intercalate_cons_cons, String.toList_append, String.toList_append, ih,
        List.append_assoc]
      rfl

/-- A text is spanned as a whole by a choice between texts if it is one of them. -/
theorem span_choices_iff {text : String} {names : List String} (hne : names ≠ []) :
    Span text.toList (.altAll ((names.map String.toList).map .text)) 0 text.toList.length ↔
      text ∈ names := by
  rw [span_altAll_iff (by simp [hne])]
  constructor
  · rintro ⟨a, ha, hspan⟩
    obtain ⟨cs, hcs, rfl⟩ := List.mem_map.1 ha
    obtain ⟨name, hname, rfl⟩ := List.mem_map.1 hcs
    obtain ⟨hstands, hlength, -⟩ := span_text_iff.1 hspan
    rw [List.drop_zero] at hstands
    rw [Nat.zero_add] at hlength
    have heq : name.toList = text.toList := hstands.eq_of_length hlength.symm
    rwa [← String.toList_inj.1 heq]
  · intro htext
    exact ⟨_, List.mem_map_of_mem (List.mem_map_of_mem htext),
      span_text_iff.2 ⟨List.prefix_refl _, (Nat.zero_add _).symm, Nat.le_refl _⟩⟩

/-- Plain names with bars between them, if they are not refused for their size, match just the
names as whole texts. -/
theorem isMatch_compileAnchored_choices {names : List String} (hne : names ≠ [])
    (hplain : ∀ name ∈ names, ∀ c ∈ name.toList, IsPlain c)
    (hsize : compileAnchored ("|".intercalate names) ≠ .error .tooLarge) :
    ∃ e, compileAnchored ("|".intercalate names) = .ok e ∧
      ∀ text, e.isMatch text = true ↔ text ∈ names := by
  have hread : readPattern (anchored ("|".intercalate names).toList) =
      some ⟨anchoredNode (.altAll ((names.map String.toList).map .text)), []⟩ := by
    obtain ⟨first, others, rfl⟩ := List.exists_cons_of_ne_nil hne
    have hall : ∀ cs ∈ (first :: others).map String.toList, ∀ c ∈ cs, IsPlain c :=
      List.forall_mem_map.2 hplain
    rw [toList_intercalate_bar]
    exact readPattern_anchored_choices hall
  have hcompile := compileChars_eq_ok hread hsize
  refine ⟨_, hcompile, fun text => ?_⟩
  rw [isMatch, matchesIn_iff (proper_of_compileChars hcompile)]
  simp only [span_anchoredNode_iff]
  constructor
  · rintro ⟨_, _, _, _, h⟩
    exact (span_choices_iff hne).1 h
  · intro htext
    exact ⟨0, _, rfl, rfl, (span_choices_iff hne).2 htext⟩

/-! ### How large plain text is -/

/-- A character takes one state at least. -/
theorem stateSize_le_size_char (c : Char) : stateSize ≤ (Node.char c).size := by
  have hsize : (Node.char c).size = stateSize * encodedLength c.toNat := by
    rw [Node.char, Node.size, setSize, Text.CharSet.single, Text.CharSet.range,
      dif_pos (Nat.le_refl _)]
    show (if c.toNat = c.toNat + 1 - 1 then _ else _) = _
    rw [if_pos (Nat.add_sub_cancel _ 1).symm]
  have hpos : 1 ≤ encodedLength c.toNat := by
    unfold encodedLength
    repeat' split
    all_goals decide
  rw [hsize]
  exact Nat.le_mul_of_pos_right _ hpos

/-- A sequence that starts with a text takes one state at least for each of its characters. -/
theorem le_size_seqAll_text (cs : List Char) (nodes : List Node) :
    stateSize * cs.length ≤ (Node.seqAll (cs.map .char ++ nodes)).size := by
  induction cs with
  | nil => exact Nat.zero_le _
  | cons c r ih =>
    have hchar := stateSize_le_size_char c
    rw [List.map_cons, List.cons_append, List.length_cons, Nat.mul_succ]
    generalize hrest : r.map Node.char ++ nodes = rest at ih
    cases rest with
    | nil =>
      have hr : r = [] := List.map_eq_nil_iff.1 (List.append_eq_nil_iff.1 hrest).1
      rw [hr]
      simpa [Node.seqAll] using hchar
    | cons a rest =>
      rw [Node.seqAll, Node.size]
      · omega
      · simp

/-- A text takes a state for each of its characters. -/
theorem le_size_text (cs : List Char) : stateSize * cs.length ≤ (Node.text cs).size := by
  have hsize := le_size_seqAll_text cs []
  rwa [List.append_nil] at hsize

end ImageSync.Regex
