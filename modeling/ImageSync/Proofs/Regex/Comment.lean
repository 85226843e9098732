import ImageSync.Proofs.Regex.Closing
import ImageSync.Proofs.Regex.Leaves

/-!
# `ImageSync.Proofs.Regex.Comment`: where a comment can run on

A comment at the end of a pattern runs on over the closing that is put behind it
(`CommentRunsOn`). That is a fact about reading; `CommentRunsOn.noteAtEnd` says what it takes in the
text of the pattern: a number sign in the last line, and somewhere the letter `x`, without which no
part of a pattern is verbose (`Draft.Terse`). Behind all other patterns the closing is left over as
it stands (`addAll_behind`).
-/

set_option autoImplicit false

namespace ImageSync.Regex

/-! ### Patterns without the flag -/

/-- A piece does not make a pattern verbose. -/
def Piece.Terse : Piece → Prop
  | .openGroup _ flags => flags.verbose = false
  | .setFlags flags => flags.verbose = false
  | _ => True

/-- A draft is not verbose, and does not get so where a group ends. -/
structure Draft.Terse (d : Draft) : Prop where
  flags : d.flags.verbose = false
  frames : ∀ fr ∈ d.frames, fr.flags.verbose = false

section Terse

variable {f : Flags} {cs rest : List Char} {d e : Draft} {piece : Piece}

/-- A group that is opened with flags that are not verbose leaves the draft terse, since the flags
that are in force so far go on the stack. -/
theorem Draft.Terse.openGroup (h : d.Terse) (index : Option Nat) (hf : f.verbose = false) :
    (d.openGroup index f).Terse :=
  ⟨hf, List.forall_mem_cons.2 ⟨h.flags, h.frames⟩⟩

/-- A terse piece keeps a draft terse. Only groups and flags change what is in force, and the end of
a group takes it back from the stack. -/
theorem Draft.Terse.add (h : d.Terse) (hpiece : piece.Terse) (hadd : d.add piece = some e) :
    e.Terse := by
  -- One case for each kind of piece. The named group may be refused for its name, and a repetition
  -- for what stands before it.
  cases piece with
  | atom node depth =>
    cases hadd
    exact ⟨h.flags, h.frames⟩
  | openGroup kind flags =>
    cases kind with
    | silent =>
      cases hadd
      exact h.openGroup _ hpiece
    | numbered =>
      cases hadd
      exact ⟨hpiece, (h.openGroup (some (d.groups + 1)) hpiece).frames⟩
    | named name =>
      simp only [Draft.add] at hadd
      split at hadd
      · cases hadd
      · cases hadd
        exact ⟨hpiece, (h.openGroup (some (d.groups + 1)) hpiece).frames⟩
  | closeGroup =>
    obtain ⟨flags, items, alternatives, frames, groups, names⟩ := d
    cases frames with
    | nil => cases hadd
    | cons fr frames =>
      cases hadd
      exact ⟨h.frames fr List.mem_cons_self, fun _ hfr => h.frames _ (List.mem_cons_of_mem _ hfr)⟩
  | setFlags flags =>
    cases hadd
    exact ⟨hpiece, h.frames⟩
  | bar =>
    cases hadd
    exact ⟨h.flags, h.frames⟩
  | repetition min max lazily =>
    simp only [Draft.add] at hadd
    split at hadd
    · cases hadd
    · split at hadd
      · cases hadd
      · cases hadd
        exact ⟨h.flags, h.frames⟩

/-- Only the letter `x` switches the flag for comments. -/
theorem switch?_terse {c : Char} {on : Bool} {g : Flags} (hf : f.verbose = false) (hc : c ≠ 'x')
    (h : f.switch? c on = some g) : g.verbose = false := by
  unfold Flags.switch? at h
  split at h
  case h_7 => exact absurd rfl hc
  case h_8 => cases h
  all_goals
    cases h
    exact hf

/-- Flags that are read from a text without the letter `x` leave the flag for comments as it is. -/
theorem readFlags_terse {g : Flags} {seen seen' : List Char} {on bare : Bool} {c : Char}
    (hf : f.verbose = false) (hx : 'x' ∉ cs)
    (h : readFlags f seen on bare cs = some (g, seen', c, rest)) : g.verbose = false := by
  -- The induction is on the text; the flags change on the way, so it is for all of them.
  induction cs generalizing f seen on bare with
  | nil => cases h
  | cons d r ih =>
    obtain ⟨hd, hr⟩ := not_or.1 (mt List.mem_cons.2 hx)
    rw [readFlags] at h
    split at h
    · split at h
      · cases h
      · cases h
        exact hf
    · split at h
      · split at h
        · exact ih hf hr h
        · cases h
      · split at h
        · cases h
        · split at h
          · cases h
          · next f' hswitch => exact ih (switch?_terse hf (Ne.symm hd) hswitch) hr h

/-- The opening of a group is terse if the flags in force are and there is no `x` in the text. -/
theorem readGroup_terse (hf : f.verbose = false) (hx : 'x' ∉ cs)
    (h : readGroup f cs = some (piece, rest)) : piece.Terse := by
  -- Without the flag no blanks are skipped, so the letters that follow are those of the text.
  have hskip : f.skip cs = cs := by
    rw [Flags.skip, hf]
    rfl
  unfold readGroup at h
  rw [hskip] at h
  split at h
  · obtain ⟨⟨name, rest'⟩, -, h⟩ := Option.bind_eq_some_iff.1 h
    cases h
    exact hf
  · obtain ⟨⟨name, rest'⟩, -, h⟩ := Option.bind_eq_some_iff.1 h
    cases h
    exact hf
  · next r _ _ =>
    obtain ⟨⟨flags, seen, terminator, rest'⟩, hflags, h⟩ := Option.bind_eq_some_iff.1 h
    have hterse := readFlags_terse hf (fun hmem => hx (List.mem_cons_of_mem _ hmem)) hflags
    dsimp only at h
    split at h
    · cases h
      exact hterse
    · split at h
      · cases h
      · cases h
        exact hterse
  · cases h
    exact hf

/-- A piece is terse if the flags in force are and there is no `x` in the text. -/
theorem readPiece_terse {c : Char} (hf : f.verbose = false) (hx : 'x' ∉ cs)
    (h : readPiece f c cs = some (piece, rest)) : piece.Terse := by
  have hrepeated {min : Nat} {max : Option Nat} {text : List Char}
      (h : repetitionPiece min max text = (piece, rest)) : piece.Terse := by
    unfold repetitionPiece at h
    split at h <;> cases h <;> trivial
  unfold readPiece at h
  -- One case for each character that a piece can start with, in the order of `readPiece`. Only a
  -- group can change the flags.
  split at h
  · exact readGroup_terse hf hx h
  · cases h
    trivial
  · cases h
    trivial
  · obtain ⟨_, -, heq⟩ := Option.map_eq_some_iff.1 h
    cases heq
    trivial
  · exact hrepeated (Option.some.inj h)
  · exact hrepeated (Option.some.inj h)
  · exact hrepeated (Option.some.inj h)
  · obtain ⟨⟨min, max, rest'⟩, -, heq⟩ := Option.map_eq_some_iff.1 h
    exact hrepeated heq
  · obtain ⟨s, -, heq⟩ := Option.map_eq_some_iff.1 h
    cases heq
    trivial
  · cases h
    trivial
  · cases h
    trivial
  · obtain ⟨⟨p, rest'⟩, -, h⟩ := Option.bind_eq_some_iff.1 h
    obtain ⟨node, -, h⟩ := Option.bind_eq_some_iff.1 h
    cases h
    trivial
  · obtain ⟨node, -, heq⟩ := Option.map_eq_some_iff.1 h
    cases heq
    trivial

end Terse

/-! ### Where a comment can run on -/

section RunsOn

variable {cs : List Char} {d e : Draft}

/-- A number sign in the last line of an anchored text is in the last line of the pattern itself,
for the closing has none. -/
theorem NoteAtEnd.of_closing (h : NoteAtEnd (cs ++ closing)) : NoteAtEnd cs := by
  obtain ⟨front, note, heq, hnote⟩ := h
  rcases List.append_eq_append_iff.1 heq with ⟨gap, -, hgap⟩ | ⟨gap, rfl, hgap⟩
  · -- The number sign is none of the closing.
    have hmem : '#' ∈ closing := hgap ▸ List.mem_append_right gap List.mem_cons_self
    exact absurd hmem (by decide)
  · cases gap with
    | nil => cases hgap
    | cons c gap =>
      cases hgap
      exact ⟨front, gap, rfl, fun hmem => hnote (List.mem_append_left _ hmem)⟩

/-- No comment can run on behind a text: there is no number sign in its last line, or the flag for
comments occurs neither in force nor in the text. -/
def Tidy (d : Draft) (cs : List Char) : Prop := ¬NoteAtEnd cs ∨ d.Terse ∧ 'x' ∉ cs

/-- Behind a tidy text the closing ends in the open, so its dollar sign is left by every reader. -/
theorem Tidy.endsOpen (h : Tidy d cs) : EndsOpen d.flags (cs ++ closing) := by
  refine ⟨⟨cs ++ [')'], by simp [closing]⟩, fun hverbose hnote => ?_⟩
  rcases h with hno | ⟨hterse, -⟩
  · exact hno hnote.of_closing
  · rw [hterse.flags] at hverbose
    cases hverbose

/-- What is left of a tidy text is tidy, as long as the draft made in between is terse whenever the
old one was and the text has no `x`. -/
theorem Tidy.of_suffix {rest : List Char} (h : Tidy d cs) (hs : rest <:+ cs)
    (hterse : d.Terse → 'x' ∉ cs → e.Terse) : Tidy e rest :=
  h.imp (fun hno hnote => hno (hnote.of_suffix hs)) fun ⟨hd, hx⟩ =>
    ⟨hterse hd hx, fun hmem => hx (hs.subset hmem)⟩

/-- Behind such a text the closing is left over. -/
theorem Draft.addAll_behind {n : Nat} (h : Draft.addAll n d cs = some e) (htidy : Tidy d cs) :
    ∃ m, ∀ k, Draft.addAll (n + k) d (cs ++ closing) = Draft.addAll (m + 1 + k) e closing := by
  induction n generalizing d cs with
  | zero => cases h
  | succ n ih =>
    -- Nothing of the closing is skipped before the next piece, for the text is tidy.
    have hbehind := ((Longer.behind cs).skip d.flags).eq_or_nil.resolve_right
      ((skip_leaves d.flags _).ne_nil htidy.endsOpen)
    rw [addAll] at h
    split at h
    · next hnil =>
      cases h
      rw [hnil] at hbehind
      refine ⟨n, fun k => addAll_skip ?_⟩
      rw [hbehind]
      exact (skip_of_longer_nil _ (.behind [])).symm
    · next c r hcons =>
      rw [hcons] at hbehind
      obtain ⟨⟨piece, rest⟩, hread, h⟩ := Option.bind_eq_some_iff.1 h
      obtain ⟨d', hadd, h⟩ := Option.bind_eq_some_iff.1 h
      obtain ⟨⟨_, rest'⟩, hread', rfl, hrest⟩ :=
        readPiece_longer d.flags c (.behind r) _ hread
      have hr : r <:+ cs := (List.suffix_cons c r).trans (hcons ▸ (skip_leaves d.flags cs).suffix)
      -- A backslash as the last character of the pattern would have been refused already.
      have hescape : c = '\\' → r ≠ [] := by
        rintro rfl rfl
        cases hread
      have hleaves := readPiece_leaves hread' hescape
      have htidy' : Tidy d r := htidy.of_suffix hr fun hterse _ => hterse
      -- The piece is read as before, and the closing is left behind it.
      obtain rfl := hrest.eq_or_nil.resolve_right (hleaves.ne_nil htidy'.endsOpen)
      have hrest' : rest <:+ r := by
        obtain ⟨front, hfront⟩ := hleaves.suffix
        exact ⟨front, List.append_cancel_right ((List.append_assoc ..).trans hfront)⟩
      obtain ⟨m, hall⟩ := ih h (htidy'.of_suffix hrest' fun hterse hx =>
        hterse.add (readPiece_terse hterse.flags hx hread) hadd)
      refine ⟨m, fun k => ?_⟩
      rw [← hall k, Nat.succ_add, addAll, hbehind]
      show (readPiece d.flags c (r ++ closing) >>= fun p =>
        d.add p.1 >>= fun d' => addAll (n + k) d' p.2) = _
      rw [hread']
      show (d.add piece >>= fun d' => addAll (n + k) d' (rest ++ closing)) = _
      rw [hadd]
      rfl

/-- A comment runs on behind a pattern only if the last line of the pattern has a number sign, and
if the letter of the flag for comments occurs in the pattern. -/
theorem CommentRunsOn.noteAtEnd {p : Pattern} (halone : readPattern cs = some p)
    (h : CommentRunsOn cs) : NoteAtEnd cs ∧ 'x' ∈ cs := by
  obtain ⟨d, hd, hframes, -, -⟩ := exists_draft halone
  -- If the closing were left over, it would be refused: it closes a group that the pattern, which
  -- is complete, has not opened.
  have hstops (htidy : Tidy {} cs) : False := by
    obtain ⟨m, hall⟩ := Draft.addAll_behind hd htidy
    have hnone : Draft.addAll ((cs ++ closing).length + 1) {} (cs ++ closing) = none := by
      rw [List.length_append, Nat.add_right_comm, hall]
      exact Draft.addAll_closing_of_no_frames _ hframes
    rw [CommentRunsOn, readPattern_of_no_draft hnone, halone] at h
    cases h
  have hterse : Draft.Terse {} := ⟨rfl, List.forall_mem_nil _⟩
  refine ⟨Classical.byContradiction fun hno => hstops (.inl hno), ?_⟩
  exact Classical.byContradiction fun hx => hstops (.inr ⟨hterse, hx⟩)

end RunsOn

end ImageSync.Regex
