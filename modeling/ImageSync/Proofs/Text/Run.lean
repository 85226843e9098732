import ImageSync.Text.Blank
import ImageSync.Text.Cut

/-!
# `ImageSync.Proofs.Text.Run`: texts that are put together

What is cut out of a text is known if the text is put together from parts: a run of characters
of a kind ends where the first other one stands (`span_eq`), a text between blanks is what
trimming leaves (`trim_eq`), and pieces without a separator are cut where they were joined
(`splitAtChar_joinWith`). The other way round, any text is what trimming leaves of it between
blanks (`exists_trim`), and its pieces stand in it as they are (`infix_of_mem_splitAtChar`).
-/

set_option autoImplicit false

namespace ImageSync.Text

/-! ### Characters -/

/-- Letters and digits are ASCII characters. -/
theorem toNat_lt_of_isAlphanum {c : Char} (h : c.isAlphanum = true) : c.toNat < 128 := by
  -- All three classes are ranges below 128.
  change (decide ('A'.val ≤ c.val ∧ c.val ≤ 'Z'.val) ||
    (decide ('a'.val ≤ c.val) && decide (c.val ≤ 'z'.val)) ||
    (decide ('0'.val ≤ c.val) && decide (c.val ≤ '9'.val))) = true at h
  simp only [Bool.or_eq_true, Bool.and_eq_true, decide_eq_true_eq, UInt32.le_iff_toNat_le] at h
  change ((65 ≤ c.toNat ∧ c.toNat ≤ 90) ∨ (97 ≤ c.toNat ∧ c.toNat ≤ 122)) ∨
    (48 ≤ c.toNat ∧ c.toNat ≤ 57) at h
  omega

/-! ### Runs -/

/-- Nothing is dropped where the first character is of another kind. -/
theorem dropWhile_of_head? {p : Char → Bool} {cs : List Char}
    (h : ∀ c, cs.head? = some c → p c = false) : cs.dropWhile p = cs := by
  cases cs with
  | nil => rfl
  | cons c r => exact List.dropWhile_cons_of_neg (by simp [h c rfl])

/-- A run of characters of a kind ends where the first other one stands. -/
theorem span_eq {p : Char → Bool} {run rest : List Char} (hrun : ∀ c ∈ run, p c = true)
    (hrest : ∀ c, rest.head? = some c → p c = false) :
    (run ++ rest).takeWhile p = run ∧ (run ++ rest).dropWhile p = rest := by
  have hnone : rest.takeWhile p = [] := by
    cases rest with
    | nil => rfl
    | cons c r => exact List.takeWhile_cons_of_neg (by simp [hrest c rfl])
  rw [List.takeWhile_append_of_pos hrun, List.dropWhile_append_of_pos hrun, hnone,
    dropWhile_of_head? hrest, List.append_nil]
  exact ⟨rfl, rfl⟩

/-- A run ends where a character of another kind is put behind it. -/
theorem takeWhile_append_of_head? {p : Char → Bool} {cs tail : List Char}
    (h : ∀ c, tail.head? = some c → p c = false) : (cs ++ tail).takeWhile p = cs.takeWhile p := by
  induction cs with
  | nil => exact (span_eq (List.forall_mem_nil _) h).1
  | cons c r ih => rw [List.cons_append, List.takeWhile_cons, List.takeWhile_cons, ih]

/-- Without the characters at the start that satisfy a condition, what is left begins behind them.
-/
theorem drop_length_takeWhile (p : Char → Bool) (cs : List Char) :
    cs.drop (cs.takeWhile p).length = cs.dropWhile p := by
  calc cs.drop (cs.takeWhile p).length
    _ = (cs.takeWhile p ++ cs.dropWhile p).drop (cs.takeWhile p).length := by
      rw [List.takeWhile_append_dropWhile]
    _ = cs.dropWhile p := List.drop_left

/-- A run is cut off before or after the characters that come first in it are dropped. -/
theorem dropWhile_takeWhile {p q : Char → Bool} (h : ∀ c, q c = true → p c = true)
    (cs : List Char) : (cs.takeWhile p).dropWhile q = (cs.dropWhile q).takeWhile p := by
  induction cs with
  | nil => rfl
  | cons c r ih =>
    cases hq : q c with
    | true =>
      rw [List.takeWhile_cons_of_pos (h c hq), List.dropWhile_cons_of_pos hq,
        List.dropWhile_cons_of_pos hq, ih]
    | false =>
      rw [List.dropWhile_cons_of_neg (by rw [hq]; decide), dropWhile_of_head?]
      intro d hd
      rw [List.head?_takeWhile] at hd
      cases (Option.filter_eq_some_iff.1 hd).1
      exact hq

/-- What is left out of a text does not end a run, if it could be part of it. -/
theorem takeWhile_filter {p q : Char → Bool} (h : ∀ c, p c = false → q c = true)
    (cs : List Char) : (cs.filter p).takeWhile q = (cs.takeWhile q).filter p := by
  induction cs with
  | nil => rfl
  | cons c r ih =>
    cases hp : p c with
    | false =>
      rw [List.filter_cons_of_neg (by rw [hp]; decide), ih, List.takeWhile_cons_of_pos (h c hp),
        List.filter_cons_of_neg (by rw [hp]; decide)]
    | true =>
      rw [List.filter_cons_of_pos hp, List.takeWhile_cons, List.takeWhile_cons]
      split
      · rw [List.filter_cons_of_pos hp, ih]
      · rfl

/-- What can be decided of a character is decided of all characters of a text by going through it.
-/
theorem forall_mem_of_all {p : Char → Prop} [DecidablePred p] {cs : List Char}
    (h : (cs.all fun c => decide (p c)) = true) : ∀ c ∈ cs, p c :=
  fun c hc => of_decide_eq_true (List.all_eq_true.1 h c hc)

/-- What is taken satisfies the condition. -/
theorem forall_mem_takeWhile (p : Char → Bool) (cs : List Char) :
    ∀ c ∈ cs.takeWhile p, p c = true :=
  List.all_eq_true.1 List.all_takeWhile

/-- What is left does not start with a character that satisfies the condition. -/
theorem head?_dropWhile (p : Char → Bool) (cs : List Char) :
    ∀ c, (cs.dropWhile p).head? = some c → p c = false := by
  intro c hc
  have hstop := List.head?_dropWhile_not p cs
  rw [hc] at hstop
  exact hstop

/-! ### Trimming -/

/-- A text between blanks is what trimming leaves, if it has none at its own ends. -/
theorem trim_of_edges {before text after : List Char} (hbefore : ∀ c ∈ before, isBlank c = true)
    (hafter : ∀ c ∈ after, isBlank c = true) (hne : text ≠ [])
    (hfirst : ∀ c, text.head? = some c → isBlank c = false)
    (hlast : ∀ c, text.getLast? = some c → isBlank c = false) :
    trim (before ++ text ++ after) = text := by
  have hstart : trimStart (before ++ (text ++ after)) = text ++ after := by
    refine (span_eq hbefore fun c hc => hfirst c ?_).2
    obtain ⟨first, rest, rfl⟩ := List.exists_cons_of_ne_nil hne
    exact hc
  -- From the end the text is read backwards, so it is a run in front of the reversed rest.
  have hend : (after.reverse ++ text.reverse).dropWhile isBlank = text.reverse := by
    refine (span_eq (fun c hc => hafter c (List.mem_reverse.1 hc)) fun c hc => hlast c ?_).2
    rw [← hc, List.head?_reverse]
  rw [List.append_assoc, trim, hstart, trimEnd, List.reverse_append, hend, List.reverse_reverse]

/-- A text between blanks is what trimming leaves, if it has none of its own. -/
theorem trim_eq {before text after : List Char} (hbefore : ∀ c ∈ before, isBlank c = true)
    (hafter : ∀ c ∈ after, isBlank c = true) (hne : text ≠ [])
    (htext : ∀ c ∈ text, isBlank c = false) : trim (before ++ text ++ after) = text :=
  trim_of_edges hbefore hafter hne (fun c hc => htext c (List.mem_of_head? hc))
    fun c hc => htext c (List.mem_of_getLast? hc)

/-- Blanks around a text do not count. -/
theorem trim_between {before after : List Char} (hbefore : ∀ c ∈ before, isBlank c = true)
    (hafter : ∀ c ∈ after, isBlank c = true) (text : List Char) :
    trim (before ++ text ++ after) = trim text := by
  have hend : ∀ cs : List Char, trimEnd (cs ++ after) = trimEnd cs := by
    intro cs
    have hblank : ∀ c ∈ after.reverse, isBlank c = true := fun c hc =>
      hafter c (List.mem_reverse.1 hc)
    rw [trimEnd, trimEnd, List.reverse_append, List.dropWhile_append_of_pos hblank]
  rw [trim, trim, List.append_assoc, trimStart, List.dropWhile_append_of_pos hbefore,
    List.dropWhile_append]
  split
  · next hempty =>
    -- There are only blanks.
    have hblanks := hend []
    rw [List.nil_append] at hblanks
    rw [trimStart, List.isEmpty_iff.1 hempty, ← hblanks]
    have hnone : (after ++ []).dropWhile isBlank = [].dropWhile isBlank :=
      List.dropWhile_append_of_pos hafter
    rw [List.append_nil] at hnone
    rw [hnone, hblanks]
    rfl
  · exact hend _

/-- A text is what is left without the characters of a kind at its ends, between these. -/
theorem exists_strip (p : Char → Bool) (cs : List Char) :
    ∃ before after, cs = before ++ ((cs.dropWhile p).reverse.dropWhile p).reverse ++ after ∧
      (∀ c ∈ before, p c = true) ∧ ∀ c ∈ after, p c = true := by
  refine ⟨cs.takeWhile p, ((cs.dropWhile p).reverse.takeWhile p).reverse, ?_,
    forall_mem_takeWhile _ _, fun c hc => forall_mem_takeWhile _ _ c (List.mem_reverse.1 hc)⟩
  have hfront : cs.dropWhile p = ((cs.dropWhile p).reverse.dropWhile p).reverse ++
      ((cs.dropWhile p).reverse.takeWhile p).reverse := by
    rw [← List.reverse_append, List.takeWhile_append_dropWhile, List.reverse_reverse]
  rw [List.append_assoc, ← hfront, List.takeWhile_append_dropWhile]

/-- A text is what trimming leaves of it, between blanks. -/
theorem exists_trim (cs : List Char) :
    ∃ before after, cs = before ++ trim cs ++ after ∧ (∀ c ∈ before, isBlank c = true) ∧
      ∀ c ∈ after, isBlank c = true := exists_strip isBlank cs

/-- Nothing is left of blanks, and only of blanks. -/
theorem trim_eq_nil_iff {cs : List Char} : trim cs = [] ↔ ∀ c ∈ cs, isBlank c = true := by
  constructor
  · intro hnil
    obtain ⟨before, after, hcs, hbefore, hafter⟩ := exists_trim cs
    rw [hnil, List.append_nil] at hcs
    rw [hcs, List.forall_mem_append]
    exact ⟨hbefore, hafter⟩
  · intro hblank
    have hbetween := trim_between hblank (List.forall_mem_nil _) []
    rw [List.append_nil, List.append_nil] at hbetween
    rw [hbetween]
    rfl

/-- What trimming leaves ends with no blank. -/
theorem getLast?_trim (cs : List Char) : ∀ c, (trim cs).getLast? = some c → isBlank c = false := by
  intro c hc
  obtain ⟨front, hfront⟩ := List.getLast?_eq_some_iff.1 hc
  exact not_isBlank_of_getLast_trimEnd hfront

/-- What trimming leaves starts with no blank. -/
theorem head?_trim (cs : List Char) : ∀ c, (trim cs).head? = some c → isBlank c = false := by
  intro c hc
  -- Trimming the end leaves a front of what is there.
  obtain ⟨back, hback⟩ : trim cs <+: trimStart cs := by
    rw [trim, trimEnd, ← List.reverse_suffix, List.reverse_reverse]
    exact List.dropWhile_suffix _
  obtain ⟨rest, hrest⟩ := List.head?_eq_some_iff.1 hc
  rw [hrest] at hback
  exact not_isBlank_of_head_trimStart hback.symm

/-- A text that ends with no blank is not trimmed at its end. -/
theorem trimEnd_of_getLast? {cs : List Char} (h : ∀ c, cs.getLast? = some c → isBlank c = false) :
    trimEnd cs = cs := by
  have hstop : cs.reverse.dropWhile isBlank = cs.reverse :=
    dropWhile_of_head? fun c hc => h c (by rwa [List.head?_reverse] at hc)
  rw [trimEnd, hstop, List.reverse_reverse]

/-- A first character that is no blank stays. -/
theorem trim_cons {c : Char} (h : isBlank c = false) (cs : List Char) :
    trim (c :: cs) = c :: trimEnd cs := by
  have hstart : trimStart (c :: cs) = c :: cs := List.dropWhile_cons_of_neg (by simp [h])
  rw [trim, hstart, trimEnd, trimEnd, List.reverse_cons, List.dropWhile_append]
  split
  · next hempty => simp [List.isEmpty_iff.1 hempty, h]
  · simp

/-- It does not matter which end is trimmed first. -/
theorem trimStart_trimEnd (cs : List Char) : trimStart (trimEnd cs) = trim cs := by
  have hlast : ∀ c, (trimStart (trimEnd cs)).getLast? = some c → isBlank c = false := by
    intro c hc
    obtain ⟨front, hfront⟩ := List.getLast?_eq_some_iff.1 hc
    obtain ⟨blanks, hblanks⟩ : trimStart (trimEnd cs) <:+ trimEnd cs := List.dropWhile_suffix _
    rw [hfront, ← List.append_assoc] at hblanks
    exact not_isBlank_of_getLast_trimEnd hblanks.symm
  have hcs : cs = [] ++ trimEnd cs ++ (cs.reverse.takeWhile isBlank).reverse := by
    rw [List.nil_append, trimEnd, ← List.reverse_append, List.takeWhile_append_dropWhile,
      List.reverse_reverse]
  calc trimStart (trimEnd cs) = trim (trimEnd cs) := (trimEnd_of_getLast? hlast).symm
    _ = trim ([] ++ trimEnd cs ++ (cs.reverse.takeWhile isBlank).reverse) :=
      (trim_between (List.forall_mem_nil _)
        (fun c hc => forall_mem_takeWhile _ _ c (List.mem_reverse.1 hc)) _).symm
    _ = trim cs := by rw [← hcs]

/-- What is left after trimming was there before. -/
theorem mem_of_mem_trim {cs : List Char} {c : Char} (h : c ∈ trim cs) : c ∈ cs := by
  rw [trim, trimEnd, List.mem_reverse] at h
  have hstart : c ∈ trimStart cs := List.mem_reverse.1 ((List.dropWhile_suffix _).subset h)
  exact (List.dropWhile_suffix _).subset hstart

/-- What goes from the end of a text goes from its back, and from its front only if nothing of the
back is left. -/
theorem dropEnd_append (p : Char → Bool) (front back : List Char) :
    ((front ++ back).reverse.dropWhile p).reverse =
      if ((back.reverse.dropWhile p).reverse).isEmpty then (front.reverse.dropWhile p).reverse
      else front ++ (back.reverse.dropWhile p).reverse := by
  rw [List.reverse_append, List.dropWhile_append, List.isEmpty_reverse]
  split
  · rfl
  · rw [List.reverse_append, List.reverse_reverse]

/-- From the end of a text only its back goes, if its front ends with another character. -/
theorem dropEnd_append_of_getLast? {p : Char → Bool} {front : List Char}
    (hfront : ∀ c, front.getLast? = some c → p c = false) (back : List Char) :
    ((front ++ back).reverse.dropWhile p).reverse =
      front ++ (back.reverse.dropWhile p).reverse := by
  have hstop : front.reverse.dropWhile p = front.reverse :=
    dropWhile_of_head? fun c hc => hfront c (by rwa [List.head?_reverse] at hc)
  rw [dropEnd_append, hstop, List.reverse_reverse]
  split
  · next hempty => rw [List.isEmpty_iff.1 hempty, List.append_nil]
  · rfl

/-- A copy of a character goes from the end of a text only if nothing else is behind it. -/
theorem trimEndOf_append {c : Char} {front back : List Char} (hfront : front.getLast? ≠ some c) :
    trimEndOf c (front ++ back) = front ++ trimEndOf c back := by
  refine dropEnd_append_of_getLast? (fun d hd => ?_) back
  rw [beq_eq_false_iff_ne]
  rintro rfl
  exact hfront hd

/-- A text is trimmed from its end only. -/
theorem prefix_trimEndOf (c : Char) (cs : List Char) : trimEndOf c cs <+: cs := by
  rw [trimEndOf, ← List.reverse_suffix, List.reverse_reverse]
  exact List.dropWhile_suffix _

/-! ### Cutting -/

/-- A text without the separator is not cut. -/
theorem cutFirst?_eq_none {sep : Char} {cs : List Char} (h : sep ∉ cs) :
    cutFirst? sep cs = none := by
  rw [Option.eq_none_iff_forall_not_mem]
  rintro ⟨before, after⟩ hcut
  refine h ?_
  rw [eq_of_cutFirst? (Option.mem_def.1 hcut)]
  exact List.mem_append_right _ List.mem_cons_self

/-- A text is cut in one way at a separator that it holds once. -/
theorem append_cons_inj {sep : Char} {before after before' after' : List Char}
    (hbefore : sep ∉ before) (hafter : sep ∉ after)
    (h : before ++ sep :: after = before' ++ sep :: after') :
    before = before' ∧ after = after' := by
  -- The other front cannot hold the separator: there is only one copy of it to share.
  have hcount := congrArg (List.count sep) h
  rw [List.count_append, List.count_append, List.count_cons_self, List.count_cons_self,
    List.count_eq_zero.2 hbefore, List.count_eq_zero.2 hafter] at hcount
  have hbefore' : sep ∉ before' := List.count_eq_zero.1 (by omega)
  have hcut := cutFirst?_eq_some_iff.2 ⟨h, hbefore'⟩
  rw [cutFirst?_eq_some_iff.2 ⟨rfl, hbefore⟩] at hcut
  exact Prod.mk.inj (Option.some.inj hcut)

/-- A text without the separator is one piece. -/
theorem splitAtChar_of_not_mem {sep : Char} {cs : List Char} (h : sep ∉ cs) :
    splitAtChar sep cs = [cs] := by
  induction cs with
  | nil => rfl
  | cons c r ih =>
    rw [List.mem_cons, not_or] at h
    rw [splitAtChar, if_neg (Ne.symm h.1), ih h.2]

/-- The piece in front of the first separator is the first one. -/
theorem splitAtChar_append {sep : Char} {piece : List Char} (h : sep ∉ piece) (rest : List Char) :
    splitAtChar sep (piece ++ sep :: rest) = piece :: splitAtChar sep rest := by
  induction piece with
  | nil => rw [List.nil_append, splitAtChar, if_pos rfl]
  | cons c r ih =>
    rw [List.mem_cons, not_or] at h
    rw [List.cons_append, splitAtChar, if_neg (Ne.symm h.1), ih h.2]

/-- A text is cut at each of its separators, so at any one of them. -/
theorem splitAtChar_append_cons (sep : Char) (front back : List Char) :
    splitAtChar sep (front ++ sep :: back) = splitAtChar sep front ++ splitAtChar sep back := by
  induction front with
  | nil => exact splitAtChar_append (List.not_mem_nil) back
  | cons c r ih =>
    rw [List.cons_append, splitAtChar, splitAtChar, ih]
    by_cases hc : c = sep
    · rw [if_pos hc, if_pos hc, List.cons_append]
    · rw [if_neg hc, if_neg hc]
      cases hr : splitAtChar sep r with
      | nil => exact absurd hr (splitAtChar_ne_nil sep r)
      | cons p ps => rfl

/-- A piece of a text stands in it as a whole. -/
theorem infix_of_mem_splitAtChar {sep : Char} {cs piece : List Char}
    (h : piece ∈ splitAtChar sep cs) : piece <:+: cs := by
  -- The first piece is at the start of the text, and only that one grows with it.
  suffices hparts : ∀ first rest, splitAtChar sep cs = first :: rest →
      first <+: cs ∧ ∀ piece ∈ rest, piece <:+: cs by
    cases hsplit : splitAtChar sep cs with
    | nil => exact absurd hsplit (splitAtChar_ne_nil sep cs)
    | cons first rest =>
      obtain ⟨hfirst, hrest⟩ := hparts first rest hsplit
      rw [hsplit] at h
      rcases List.mem_cons.1 h with rfl | h
      · exact hfirst.isInfix
      · exact hrest piece h
  clear h
  induction cs with
  | nil =>
    intro first rest hsplit
    cases hsplit
    exact ⟨List.prefix_refl _, nofun⟩
  | cons c r ih =>
    intro first rest hsplit
    rw [splitAtChar] at hsplit
    cases hr : splitAtChar sep r with
    | nil => exact absurd hr (splitAtChar_ne_nil sep r)
    | cons p ps =>
      obtain ⟨hp, hps⟩ := ih p ps hr
      rw [hr] at hsplit
      split at hsplit
      · cases hsplit
        refine ⟨List.nil_prefix, fun piece hpiece => ?_⟩
        rcases List.mem_cons.1 hpiece with rfl | hpiece
        · exact hp.isInfix.trans (List.suffix_cons c r).isInfix
        · exact (hps piece hpiece).trans (List.suffix_cons c r).isInfix
      · cases hsplit
        exact ⟨(List.prefix_cons_inj c).2 hp, fun piece hpiece =>
          (hps piece hpiece).trans (List.suffix_cons c r).isInfix⟩

/-- Pieces without the separator are cut where they were joined. -/
theorem splitAtChar_joinWith {sep : Char} {pieces : List (List Char)} (hpieces : pieces ≠ [])
    (h : ∀ piece ∈ pieces, sep ∉ piece) : splitAtChar sep (joinWith sep pieces) = pieces := by
  induction pieces with
  | nil => exact absurd rfl hpieces
  | cons piece pieces ih =>
    obtain ⟨hpiece, hrest⟩ := List.forall_mem_cons.1 h
    cases pieces with
    | nil => exact splitAtChar_of_not_mem hpiece
    | cons next pieces => rw [joinWith, splitAtChar_append hpiece, ih (List.cons_ne_nil _ _) hrest]

/-- Two rows of pieces are joined with a separator in between. -/
theorem joinWith_append {sep : Char} {front back : List (List Char)} (hfront : front ≠ [])
    (hback : back ≠ []) :
    joinWith sep (front ++ back) = joinWith sep front ++ sep :: joinWith sep back := by
  induction front with
  | nil => exact absurd rfl hfront
  | cons p front ih =>
    -- The last piece of the first row is where the separator comes in.
    cases front with
    | nil =>
      obtain ⟨q, back, rfl⟩ := List.exists_cons_of_ne_nil hback
      rfl
    | cons q front =>
      have hrest := ih (List.cons_ne_nil q front)
      rw [List.cons_append] at hrest
      rw [List.cons_append, List.cons_append, joinWith, joinWith, hrest, List.append_assoc]
      rfl

/-- Text behind the last piece is behind the joined text. -/
theorem joinWith_append_last (sep : Char) (pieces : List (List Char)) (piece more : List Char) :
    joinWith sep (pieces ++ [piece ++ more]) = joinWith sep (pieces ++ [piece]) ++ more := by
  induction pieces with
  | nil => rfl
  | cons p pieces ih =>
    cases pieces with
    | nil => simp [joinWith]
    | cons q pieces => simpa [joinWith] using ih

/-- What stands in front of a text without a separator is part of its first piece. -/
theorem splitAtChar_front {sep : Char} {before cs piece : List Char} {pieces : List (List Char)}
    (hbefore : sep ∉ before) (h : splitAtChar sep cs = piece :: pieces) :
    splitAtChar sep (before ++ cs) = (before ++ piece) :: pieces := by
  have hjoin : before ++ cs = joinWith sep ((before ++ piece) :: pieces) := by
    rw [← joinWith_splitAtChar sep cs, h]
    cases pieces with
    | nil => rfl
    | cons q pieces => exact (List.append_assoc ..).symm
  have hpieces : ∀ p ∈ piece :: pieces, sep ∉ p := fun p hp =>
    not_mem_of_mem_splitAtChar (h ▸ hp)
  rw [List.forall_mem_cons] at hpieces
  rw [hjoin]
  refine splitAtChar_joinWith (List.cons_ne_nil _ _) (List.forall_mem_cons.2 ⟨?_, hpieces.2⟩)
  rw [List.mem_append, not_or]
  exact ⟨hbefore, hpieces.1⟩

/-- What stands behind it is part of its last piece. -/
theorem splitAtChar_back {sep : Char} {after cs piece : List Char} {pieces : List (List Char)}
    (hafter : sep ∉ after) (h : splitAtChar sep cs = pieces ++ [piece]) :
    splitAtChar sep (cs ++ after) = pieces ++ [piece ++ after] := by
  have hjoin : cs ++ after = joinWith sep (pieces ++ [piece ++ after]) := by
    rw [joinWith_append_last, ← h, joinWith_splitAtChar]
  have hpieces : ∀ p ∈ pieces ++ [piece], sep ∉ p := fun p hp =>
    not_mem_of_mem_splitAtChar (h ▸ hp)
  rw [List.forall_mem_append, List.forall_mem_singleton] at hpieces
  rw [hjoin]
  refine splitAtChar_joinWith (by simp) ?_
  rw [List.forall_mem_append, List.forall_mem_singleton, List.mem_append, not_or]
  exact ⟨hpieces.1, hpieces.2, hafter⟩

/-- Of what stands around a text, the first piece has the front and the last one the back. -/
theorem splitAtChar_between {sep : Char} {before after : List Char} (hbefore : sep ∉ before)
    (hafter : sep ∉ after) (cs : List Char) :
    (∃ piece, splitAtChar sep cs = [piece] ∧
        splitAtChar sep (before ++ cs ++ after) = [before ++ piece ++ after]) ∨
      ∃ first pieces last, splitAtChar sep cs = first :: (pieces ++ [last]) ∧
        splitAtChar sep (before ++ cs ++ after) =
          (before ++ first) :: (pieces ++ [last ++ after]) := by
  rcases List.eq_nil_or_concat (splitAtChar sep cs) with hnil | ⟨front, last, hpieces⟩
  · exact absurd hnil (splitAtChar_ne_nil sep cs)
  · rw [List.concat_eq_append] at hpieces
    cases front with
    | nil =>
      have hfront : splitAtChar sep (before ++ cs) = [] ++ [before ++ last] :=
        splitAtChar_front hbefore hpieces
      exact .inl ⟨last, hpieces, splitAtChar_back hafter hfront⟩
    | cons first pieces =>
      have hfront : splitAtChar sep (before ++ cs) = (before ++ first) :: pieces ++ [last] :=
        splitAtChar_front hbefore hpieces
      exact .inr ⟨first, pieces, last, hpieces, splitAtChar_back hafter hfront⟩

/-- What holds of the separator and within all pieces holds of the joined text. -/
theorem forall_mem_joinWith {p : Char → Prop} {sep : Char} (hsep : p sep)
    {pieces : List (List Char)} (h : ∀ piece ∈ pieces, ∀ c ∈ piece, p c) :
    ∀ c ∈ joinWith sep pieces, p c := by
  induction pieces with
  | nil => exact List.forall_mem_nil _
  | cons piece pieces ih =>
    obtain ⟨hpiece, hrest⟩ := List.forall_mem_cons.1 h
    cases pieces with
    | nil => exact hpiece
    | cons next pieces =>
      rw [joinWith, List.forall_mem_append, List.forall_mem_cons]
      exact ⟨hpiece, hsep, ih hrest⟩

end ImageSync.Text
