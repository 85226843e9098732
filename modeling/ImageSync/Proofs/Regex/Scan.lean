import ImageSync.Proofs.Regex.Plain
import ImageSync.Proofs.Text.Word

/-!
# `ImageSync.Proofs.Regex.Scan`: how a search goes through plain text

That what a search finds is spanned does not say that it finds anything: it may give up a way at a
label that it has met, and it has only so many steps. For the parts that plain patterns are made of,
this module follows it to the end. `Goes k met ws met' ws'` says that in at most `k` steps the
search gets from some labels and open ways to others, and such statements are put one behind the
other with `Goes.trans`.

A text is gone through in two steps for each character, if none of its labels was met at its place
(`goes_text`). What is met on the way lies on a diagonal of labels and places, and searches that
start further back stay on other diagonals. So a search for a text finds its first place
(`find?_text`), and a replacement puts the template in all places that `Text.replaceWord` replaces
(`splice_matchesFrom_text`).
-/

set_option autoImplicit false

namespace ImageSync.Regex

/-! ### Places further on -/

namespace Place

/-- The place behind some characters. -/
def behind (p : Place) : List Char → Place
  | [] => p
  | c :: r => behind ⟨p.pos + 1, some c, p.rest.tail⟩ r

variable {p : Place} {cs ds : List Char}

/-- The place behind two texts is behind the second one, seen from behind the first. -/
theorem behind_append : p.behind (cs ++ ds) = (p.behind cs).behind ds := by
  induction cs generalizing p with
  | nil => rfl
  | cons c r ih => exact ih

/-- Behind a text the position has grown by its length. -/
@[simp] theorem pos_behind : (p.behind cs).pos = p.pos + cs.length := by
  induction cs generalizing p with
  | nil => rfl
  | cons c r ih => rw [behind, ih, List.length_cons, Nat.add_assoc, Nat.add_comm 1]

/-- Behind a text its characters are gone from what is left. -/
theorem rest_behind : (p.behind cs).rest = p.rest.drop cs.length := by
  induction cs generalizing p with
  | nil => rfl
  | cons c r ih => rw [behind, ih, List.drop_tail, List.length_cons]

/-- Behind a text that is in front of another one, the other one is left. -/
theorem rest_behind_of_eq (h : p.rest = cs ++ ds) : (p.behind cs).rest = ds := by
  rw [rest_behind, h, List.drop_left]

/-- Between a place and the place behind a text there is this text. -/
theorem upTo_behind (h : p.rest = cs ++ ds) : p.upTo (p.behind cs) = cs := by
  rw [upTo, pos_behind, Nat.add_sub_cancel_left, h, List.take_left]

end Place

/-! ### Steps of a search -/

/-- In at most `k` steps a search gets from some labels and open ways to others. -/
def Goes (k : Nat) (met : Met) (ws : List Way) (met' : Met) (ws' : List Way) : Prop :=
  ∃ j, j ≤ k ∧ ∀ n, follow (n + j) met ws = follow n met' ws'

section Goes

variable {k k' n label : Nat} {met met' met'' : Met} {ws ws' ws'' : List Way} {w : Way}

namespace Goes

/-- A search goes nowhere in no steps. -/
theorem refl : Goes 0 met ws met ws := ⟨0, Nat.le_refl 0, fun _ => rfl⟩

/-- A search that goes somewhere within some steps does so within more. -/
theorem mono (h : Goes k met ws met' ws') (hk : k ≤ k') : Goes k' met ws met' ws' := by
  obtain ⟨j, hj, hfollow⟩ := h
  exact ⟨j, Nat.le_trans hj hk, hfollow⟩

/-- The steps of two parts of a search add up. -/
theorem trans (h : Goes k met ws met' ws') (h' : Goes k' met' ws' met'' ws'') :
    Goes (k + k') met ws met'' ws'' := by
  obtain ⟨i, hi, hfirst⟩ := h
  obtain ⟨j, hj, hsecond⟩ := h'
  refine ⟨j + i, by omega, fun n => ?_⟩
  rw [← Nat.add_assoc, hfirst, hsecond]

/-- A step that asks for no label. -/
theorem of_goOn (more : List Way) (h : w.step = .goOn more) :
    Goes 1 met (w :: ws) met (more ++ ws) :=
  ⟨1, Nat.le_refl 1, fun n => by rw [follow, h]⟩

/-- A step at a label that was not met at the place. -/
theorem of_goOnAt (more : List Way) (h : w.step = .goOnAt label more)
    (hmet : (label, w.place.pos) ∉ met) :
    Goes 1 met (w :: ws) (met.insert (label, w.place.pos)) (more ++ ws) := by
  refine ⟨1, Nat.le_refl 1, fun n => ?_⟩
  rw [follow, h]
  exact if_neg hmet

/-- A search that gets to a match finds it. -/
theorem follow_found (h : Goes k met ws met' (w :: ws')) (hw : w.tasks = []) (hn : k < n) :
    follow n met ws = (some w, met') := by
  obtain ⟨j, hj, hfollow⟩ := h
  obtain ⟨m, rfl⟩ : ∃ m, n = m + 1 + j := ⟨n - 1 - j, by omega⟩
  have hstep : w.step = .found := by rw [Way.step, hw]
  rw [hfollow, follow, hstep]

/-- A search that has no ways left finds nothing. -/
theorem follow_none (h : Goes k met ws met' []) (hn : k ≤ n) :
    follow n met ws = (none, met') := by
  obtain ⟨j, hj, hfollow⟩ := h
  obtain ⟨m, rfl⟩ : ∃ m, n = m + j := ⟨n - j, by omega⟩
  rw [hfollow]
  cases m <;> rfl

end Goes

/-- The steps of a search are no fewer than this, which grows with the labels alone. -/
theorem le_steps (s : Searcher) (length : Nat) :
    3 * (2 * s.labels * (length + 1) + 2) ≤ s.steps length := by
  rw [Searcher.steps, Nat.mul_comm]
  exact Nat.mul_le_mul_left _ (Nat.le_add_left 3 _)

end Goes

/-! ### Through a text -/

section Text

variable {met : Met} {label : Nat} {p : Place} {ts : List Task} {caps : List Capture}
  {ws : List Way}

/-- A character that is in the set is gone over. -/
theorem goes_one {s : Text.CharSet} {c : Char} {r : List Char} (hrest : p.rest = c :: r)
    (hs : s.contains c = true) (hmet : (label, p.pos) ∉ met) :
    Goes 1 met (⟨.enter (.one label s) :: ts, p, caps⟩ :: ws) (met.insert (label, p.pos))
      (⟨ts, p.behind [c], caps⟩ :: ws) := by
  refine .of_goOnAt [⟨ts, p.behind [c], caps⟩] ?_ hmet
  simp [Way.step, hrest, hs, Place.behind]

/-- Where no character of the set is next, the way ends. -/
theorem goes_one_miss {s : Text.CharSet} (h : ∀ c, p.rest.head? = some c → s.contains c = false) :
    Goes 1 met (⟨.enter (.one label s) :: ts, p, caps⟩ :: ws) met ws := by
  refine .of_goOn [] ?_
  cases hrest : p.rest with
  | nil => simp [Way.step, hrest]
  | cons c r => simp [Way.step, hrest, h c (by rw [hrest, List.head?_cons])]

/-- The task of going through a sequence, if there is anything in it. -/
def enterAll (nodes : List Node) (label : Nat) (ts : List Task) : List Task :=
  match nodes with
  | [] => ts
  | _ :: _ => .enter (Track.ofNode (.seqAll nodes) label).1 :: ts

/-- A sequence is gone through by its first part and then the rest of it. -/
theorem goes_enterAll (a : Node) (nodes : List Node) :
    Goes 1 met (⟨enterAll (a :: nodes) label ts, p, caps⟩ :: ws) met
      (⟨.enter (Track.ofNode a label).1 :: enterAll nodes (Track.ofNode a label).2 ts, p, caps⟩ ::
        ws) := by
  cases nodes with
  | nil => exact Goes.refl.mono (Nat.zero_le 1)
  | cons b nodes =>
    exact .of_goOn (w := ⟨enterAll (a :: b :: nodes) label ts, p, caps⟩) [_] rfl

/-- The labels of a sequence are those of its first part and then those of the rest. -/
theorem snd_ofNode_seqAll_cons (a : Node) (nodes : List Node) (label : Nat) :
    (Track.ofNode (.seqAll (a :: nodes)) label).2 =
      (Track.ofNode (.seqAll nodes) (Track.ofNode a label).2).2 := by
  cases nodes <;> rfl

/-- A text takes one label for each of its characters. -/
theorem snd_ofNode_seqAll_text (cs : List Char) (nodes : List Node) (label : Nat) :
    (Track.ofNode (.seqAll (cs.map .char ++ nodes)) label).2 =
      (Track.ofNode (.seqAll nodes) (label + cs.length)).2 := by
  induction cs generalizing label with
  | nil => rfl
  | cons c r ih =>
    rw [List.map_cons, List.cons_append, snd_ofNode_seqAll_cons, List.length_cons]
    exact (ih (label + 1)).trans (by rw [Nat.add_assoc, Nat.add_comm 1])

/-- So many labels were not met, each at its place on the way from a label and a place. -/
def Unmet (met : Met) (label pos n : Nat) : Prop := ∀ i < n, (label + i, pos + i) ∉ met

/-- What was met before, or on the way over so many characters from a label and a place. -/
def MetAlong (met met' : Met) (label pos n : Nat) : Prop :=
  ∀ key ∈ met', key ∈ met ∨ ∃ i < n, key = (label + i, pos + i)

/-- The next character has the next label, and stands at the next place. -/
theorem Unmet.next {pos n : Nat} (h : Unmet met label pos (n + 1)) :
    Unmet (met.insert (label, pos)) (label + 1) (pos + 1) n := by
  intro i hi hkey
  rcases Std.HashSet.mem_insert.1 hkey with hkey | hkey
  · have hlabel : label = label + 1 + i := congrArg Prod.fst (eq_of_beq hkey)
    omega
  · rw [Nat.add_assoc, Nat.add_assoc, Nat.add_comm 1] at hkey
    exact h (i + 1) (Nat.succ_lt_succ hi) hkey

/-- What is met along a text is met at its first character or along the rest. -/
theorem MetAlong.next {met' : Met} {pos n : Nat}
    (h : MetAlong (met.insert (label, pos)) met' (label + 1) (pos + 1) n) :
    MetAlong met met' label pos (n + 1) := by
  intro key hkey
  rcases h key hkey with hkey | ⟨i, hi, rfl⟩
  · rcases Std.HashSet.mem_insert.1 hkey with hkey | hkey
    · exact .inr ⟨0, Nat.zero_lt_succ n, (eq_of_beq hkey).symm⟩
    · exact .inl hkey
  · refine .inr ⟨i + 1, Nat.succ_lt_succ hi, ?_⟩
    rw [Nat.add_assoc, Nat.add_assoc, Nat.add_comm 1]

/-- A text at the start of a sequence is gone over where it stands, and elsewhere the way ends. -/
theorem goes_text (cs : List Char) (nodes : List Node) (ts : List Task) (caps : List Capture)
    (ws : List Way) (hnew : Unmet met label p.pos cs.length) :
    ∃ met', MetAlong met met' label p.pos cs.length ∧
      Goes (2 * cs.length) met (⟨enterAll (cs.map .char ++ nodes) label ts, p, caps⟩ :: ws) met'
        (if cs <+: p.rest then ⟨enterAll nodes (label + cs.length) ts, p.behind cs, caps⟩ :: ws
        else ws) := by
  -- By induction on the text: each character is entered and then compared, which takes two steps.
  induction cs generalizing label p met with
  | nil =>
    refine ⟨met, fun key hkey => .inl hkey, ?_⟩
    rw [if_pos List.nil_prefix]
    exact .refl
  | cons c r ih =>
    have henter : Goes 1 met (⟨enterAll ((c :: r).map .char ++ nodes) label ts, p, caps⟩ :: ws) met
        (⟨.enter (.one label (.single c)) :: enterAll (r.map .char ++ nodes) (label + 1) ts, p,
          caps⟩ :: ws) :=
      goes_enterAll (.char c) (r.map .char ++ nodes)
    by_cases hc : p.rest.head? = some c
    · obtain ⟨rest, hrest⟩ := List.head?_eq_some_iff.1 hc
      have hover := henter.trans <| goes_one hrest (by simp) (hnew 0 (Nat.zero_lt_succ _))
      have hrest' : (p.behind [c]).rest = rest := Place.rest_behind_of_eq hrest
      obtain ⟨met', halong, hgoes⟩ := ih (p := p.behind [c]) hnew.next
      refine ⟨met', halong.next, ?_⟩
      have hstands : c :: r <+: p.rest ↔ r <+: (p.behind [c]).rest := by
        rw [hrest, hrest', List.cons_prefix_cons]
        simp
      have hlabel : label + (c :: r).length = label + 1 + r.length := by
        rw [List.length_cons, Nat.add_comm r.length, Nat.add_assoc]
      simp only [hstands, hlabel]
      refine (hover.trans hgoes).mono ?_
      rw [List.length_cons]
      omega
    · -- The first character that differs ends this way, and the other ways are left.
      have hmiss : ¬c :: r <+: p.rest := by
        rintro ⟨rest, hrest⟩
        exact hc (by rw [← hrest]; rfl)
      refine ⟨met, fun key hkey => .inl hkey, ?_⟩
      rw [if_neg hmiss]
      refine (henter.trans (goes_one_miss fun d hd => ?_)).mono
        (by rw [List.length_cons]; omega)
      rw [Text.CharSet.contains_single, beq_eq_false_iff_ne]
      rintro rfl
      exact hc hd

/-- A greedy repetition tries its part once more before it goes on without. -/
theorem goes_many (a : Track) (ts : List Task) (caps : List Capture) (ws : List Way)
    (hmet : (label, p.pos) ∉ met) :
    Goes 1 met (⟨.enter (.many label true a) :: ts, p, caps⟩ :: ws) (met.insert (label, p.pos))
      (⟨.enter a :: .enter (.many label true a) :: ts, p, caps⟩ :: ⟨ts, p, caps⟩ :: ws) :=
  .of_goOnAt [_, _] rfl hmet

/-- A greedy repetition of single characters takes all that is left of a text, if it can. Its two
labels must not have been met from the place on. -/
theorem goes_many_one {s : Text.CharSet} {label' : Nat} {r : List Char} (ts : List Task)
    (caps : List Capture) (ws : List Way) (hne : label ≠ label') (hr : ∀ c ∈ r, s.contains c = true)
    (hrest : p.rest = r) (hnew : ∀ q, p.pos ≤ q → (label, q) ∉ met ∧ (label', q) ∉ met) :
    ∃ met' ws', Goes (2 * r.length + 2) met
      (⟨.enter (.many label true (.one label' s)) :: ts, p, caps⟩ :: ws) met'
      (⟨ts, p.behind r, caps⟩ :: ws') := by
  have hbranch := goes_many (.one label' s) ts caps ws (hnew p.pos (Nat.le_refl _)).1
  -- By induction on the run: each character is taken by one more round of the repetition.
  induction r generalizing p met ws with
  | nil =>
    refine ⟨_, ws, (hbranch.trans (goes_one_miss fun c hc => ?_)).mono (by simp)⟩
    rw [hrest] at hc
    cases hc
  | cons c r ih =>
    obtain ⟨hc, hr⟩ := List.forall_mem_cons.1 hr
    have hmet : (label', p.pos) ∉ met.insert (label, p.pos) := by
      rw [Std.HashSet.mem_insert, not_or]
      exact ⟨by simp [hne], (hnew p.pos (Nat.le_refl _)).2⟩
    -- What was met at this place does not matter at the places behind it.
    have hnew' : ∀ q, (p.behind [c]).pos ≤ q →
        (label, q) ∉ (met.insert (label, p.pos)).insert (label', p.pos) ∧
          (label', q) ∉ (met.insert (label, p.pos)).insert (label', p.pos) := by
      intro q hq
      rw [Place.pos_behind, List.length_singleton] at hq
      obtain ⟨hlabel, hlabel'⟩ := hnew q (Nat.le_of_succ_le hq)
      have hpos : p.pos ≠ q := Nat.ne_of_lt hq
      simp [Std.HashSet.mem_insert, hlabel, hlabel', hpos]
    have hrest' : (p.behind [c]).rest = r := Place.rest_behind_of_eq hrest
    obtain ⟨met', ws', hgoes⟩ := ih (⟨ts, p, caps⟩ :: ws) hr hrest' hnew'
      (goes_many (.one label' s) ts caps _ (hnew' _ (Nat.le_refl _)).1)
    refine ⟨met', ws', ((hbranch.trans (goes_one hrest hc hmet)).trans hgoes).mono ?_⟩
    rw [List.length_cons]
    omega

end Text

/-! ### Matches up to the end -/

section End

variable {t : List Char} {s : Searcher} {p : Place}

/-- A place further on is one of the text's, too. -/
theorem Place.Of.behind {cs ds : List Char} (hp : p.Of t) (h : p.rest = cs ++ ds) :
    (p.behind cs).Of t := by
  induction cs generalizing p with
  | nil => exact hp
  | cons c r ih =>
    have hnext := (hp.next h).2
    rw [Place.behind, h]
    exact ih hnext rfl

/-- A search finds a match that starts at its very start. -/
theorem find?_of_follow {w : Way} {met : Met}
    (h : follow (s.steps p.rest.length) ∅ [⟨[.enter s.track], p, []⟩] = (some w, met)) :
    s.find? p = some ⟨p, w.place, w.captures⟩ := by
  obtain ⟨pos, before, rest⟩ := p
  cases rest <;> rw [Searcher.find?, Searcher.find, h]

/-- Nothing is found at the end of a text that a match has come to. -/
theorem findAfter?_end (hp : p.Of t) (hrest : p.rest = []) :
    s.findAfter? (some p.pos) p = none := by
  have hend : t.length ≤ p.pos := by
    rw [hp.rest] at hrest
    exact List.drop_eq_nil_iff.1 hrest
  cases hfind : s.find? p with
  | none => rw [Searcher.findAfter?, hfind]
  | some m =>
    -- The match is empty, and there is no place behind it to search from.
    have hm : m.start.pos = m.stop.pos ∧ some p.pos = some m.stop.pos := by
      obtain ⟨pos, before, rest⟩ := p
      obtain rfl : rest = [] := hrest
      rw [Searcher.find?, Searcher.find] at hfind
      split at hfind
      · next w _ hfollow =>
        cases hfind
        obtain ⟨hw, hspan⟩ := span_of_follow hp hfollow
        have hpos : pos = w.place.pos :=
          Nat.le_antisymm hspan.le (Nat.le_trans hspan.le_length hend)
        exact ⟨hpos, congrArg some hpos⟩
      · cases hfind
    have hnext : p.next? = none := by rw [Place.next?, hrest]
    rw [Searcher.findAfter?, hfind]
    dsimp only
    rw [if_pos hm, hnext]
    rfl

/-- A match from the start of a text to its end is the only one. -/
theorem matchesIn_of_find? {m : Match} (h : s.find? (.start t) = some m) (hstop : m.stop.Of t)
    (hrest : m.stop.rest = []) : s.matchesIn t = [m] := by
  have hfirst : s.findAfter? none (.start t) = some m := by
    rw [Searcher.findAfter?, h]
    exact if_neg (by simp)
  have hnone : s.matchesFrom t.length (some m.stop.pos) m.stop = [] := by
    cases t.length with
    | zero => rfl
    | succ n => rw [Searcher.matchesFrom, findAfter?_end hstop hrest]
  rw [Searcher.matchesIn, Searcher.matchesFrom, hfirst]
  dsimp only
  rw [hnone]

end End

/-! ### Searching for a text -/

section Find

variable {word new : List Char}

/-- What was met from starts further in front is on other diagonals of labels and places. -/
def MetBefore (met : Met) (pos : Nat) : Prop := ∀ key ∈ met, key.2 < pos + key.1

/-- From one start, a search for a text finds it if it stands there. -/
theorem follow_text (hne : word ≠ []) {steps : Nat} {met : Met} {p : Place}
    (hsteps : 2 * word.length < steps) (hmet : MetBefore met p.pos) :
    ∃ met', MetBefore met' (p.pos + 1) ∧
      follow steps met [⟨[.enter (Searcher.ofNode (.text word)).track], p, []⟩] =
        (if word <+: p.rest then some ⟨[], p.behind word, []⟩ else none, met') := by
  -- All that was met is in front of this place.
  have hnew : Unmet met 0 p.pos word.length := by
    intro i _ hkey
    have hbefore := hmet _ hkey
    simp only at hbefore
    omega
  obtain ⟨met', halong, hgoes⟩ := goes_text word [] [] [] [] hnew
  refine ⟨met', fun key hkey => ?_, ?_⟩
  · rcases halong key hkey with hkey | ⟨i, -, rfl⟩
    · have hbefore := hmet key hkey
      omega
    · simp only
      omega
  · have htasks : enterAll (word.map .char ++ []) 0 [] =
        [.enter (Searcher.ofNode (.text word)).track] := by
      obtain ⟨c, r, rfl⟩ := List.exists_cons_of_ne_nil hne
      rw [List.append_nil]
      rfl
    rw [htasks] at hgoes
    split at hgoes
    · next hword =>
      rw [if_pos hword]
      exact hgoes.follow_found rfl hsteps
    · next hword =>
      rw [if_neg hword]
      exact hgoes.follow_none (Nat.le_of_lt hsteps)

/-- A search for a text finds its first place. -/
theorem find_text (hne : word ≠ []) {steps pos : Nat} {met : Met} {before : Option Char}
    {rest : List Char} (hsteps : 2 * word.length < steps) (hmet : MetBefore met pos) :
    (Searcher.ofNode (.text word)).find steps met before pos rest =
      (Text.cutWord? word rest).map fun (front, _) =>
        ⟨Place.behind ⟨pos, before, rest⟩ front, Place.behind ⟨pos, before, rest⟩ (front ++ word),
          []⟩ := by
  induction rest generalizing met before pos with
  | nil =>
    obtain ⟨met', -, hfollow⟩ := follow_text (p := ⟨pos, before, []⟩) hne hsteps hmet
    have hword : ¬word <+: [] := by simpa using hne
    rw [Searcher.find, hfollow, if_neg hword, Text.cutWord?_nil hword]
    rfl
  | cons c r ih =>
    obtain ⟨met', hmet', hfollow⟩ := follow_text (p := ⟨pos, before, c :: r⟩) hne hsteps hmet
    rw [Searcher.find, hfollow]
    by_cases hword : word <+: c :: r
    · rw [if_pos hword, Text.cutWord?_of_stands hword]
      rfl
    · rw [if_neg hword, Text.cutWord?_cons hword, Option.map_map]
      exact ih hmet'

/-- A search for a word finds the first place where it stands, and no groups. -/
theorem find?_text (hne : word ≠ []) (p : Place) :
    (Searcher.ofNode (.text word)).find? p =
      (Text.cutWord? word p.rest).map fun (front, _) =>
        ⟨p.behind front, p.behind (front ++ word), []⟩ := by
  have hlabels : (Searcher.ofNode (.text word)).labels = word.length := by
    have hsnd := snd_ofNode_seqAll_text word [] 0
    rw [List.append_nil, Nat.zero_add] at hsnd
    exact hsnd
  have hsteps := le_steps (Searcher.ofNode (.text word)) p.rest.length
  rw [hlabels] at hsteps
  have hmul : 2 * word.length ≤ 2 * word.length * (p.rest.length + 1) :=
    Nat.le_mul_of_pos_right _ (Nat.succ_pos _)
  have hmet : MetBefore ∅ p.pos := fun key hkey => absurd hkey Std.HashSet.not_mem_empty
  exact find_text hne (by omega) hmet

/-- A text whose replacement does not depend on the match is replaced as a word is. -/
theorem splice_matchesFrom_text (hne : word ≠ []) {names : List (List Char × Nat)}
    {template : List TemplatePart} (htemplate : ∀ m, Template.expand names m template = new)
    {n : Nat} {last : Option Nat} {p : Place} (hn : p.rest.length < n) :
    splice names template p ((Searcher.ofNode (.text word)).matchesFrom n last p) =
      Text.replaceWord word new p.rest := by
  -- By induction on the bound of the matches: each of them takes some of the text.
  induction n generalizing last p with
  | zero => exact absurd hn (Nat.not_lt_zero _)
  | succ n ih =>
    rw [Searcher.matchesFrom, Searcher.findAfter?, find?_text hne]
    cases hcut : Text.cutWord? word p.rest with
    | none => exact (Text.replaceWord_of_cutWord?_eq_none hcut).symm
    | some halves =>
      obtain ⟨front, back⟩ := halves
      obtain ⟨hrest, -⟩ := Text.cutWord?_eq_some_iff.1 hcut
      have hlength : word.length ≠ 0 := fun hzero => hne (List.length_eq_zero_iff.1 hzero)
      -- A match of a word is not empty, so it is never one that was taken before.
      have htaken : ¬((p.behind front).pos = (p.behind (front ++ word)).pos ∧
          last = some (p.behind (front ++ word)).pos) := by
        rintro ⟨hpos, -⟩
        rw [Place.pos_behind, Place.pos_behind, List.length_append] at hpos
        omega
      have hback : (p.behind (front ++ word)).rest = back := Place.rest_behind_of_eq hrest
      have hn' : (p.behind (front ++ word)).rest.length < n := by
        rw [hrest, List.length_append, List.length_append] at hn
        rw [hback]
        omega
      dsimp only [Option.map_some]
      rw [if_neg htaken]
      dsimp only [splice]
      rw [ih hn', hback, htemplate, Place.upTo_behind (hrest.trans (List.append_assoc ..)),
        Text.replaceWord_of_cutWord? hne hcut]

end Find

end ImageSync.Regex
