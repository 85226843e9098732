import ImageSync.Proofs.Regex.Reading

/-!
# `ImageSync.Proofs.Regex.Leaves`: what the readers of a pattern leave

Every reader of a pattern leaves a suffix of its text. Behind the text of a pattern there may stand
the closing of an anchored one, and then its dollar sign is left, too: a reader stops behind a
character of its own (`Leaves.of_cons`), which is no dollar sign, or skips what does not count,
which is none either outside a comment. So a reader that leaves nothing was in a comment, and that
takes a number sign in the last line (`NoteAtEnd`) and the flag for comments (`EndsOpen`).

Inside brackets a dollar sign may be read, but a class ends with its bracket. For a class it is
enough that the readers inside leave suffixes (`readLevels_suffix`). The main statement is
`readPiece_leaves`.
-/

set_option autoImplicit false

namespace ImageSync.Regex

open ImageSync.Text (isBlank)

/-- There is a number sign in the last line of a text. -/
def NoteAtEnd (cs : List Char) : Prop := ∃ front note, cs = front ++ '#' :: note ∧ '\n' ∉ note

/-- A text ends with the dollar sign of a closing, and not in a comment. -/
structure EndsOpen (f : Flags) (cs : List Char) : Prop where
  dollar : ['$'] <:+ cs
  no_note : f.verbose = true → ¬NoteAtEnd cs

/-- What a reader leaves of a text is a suffix of it, and the dollar sign at the end of the text is
left. -/
structure Leaves (f : Flags) (cs rest : List Char) : Prop where
  suffix : rest <:+ cs
  ne_nil : EndsOpen f cs → rest ≠ []

section Leaves

variable {f : Flags} {cs rest rest' : List Char}

/-- A text that is read in place of another one is that text with the closing, or nothing is left.
-/
theorem Longer.eq_or_nil {cs' : List Char} (h : Longer cs cs') :
    cs' = cs ++ closing ∨ cs' = [] := by
  cases h with
  | behind => exact .inl rfl
  | swallowed => exact .inr rfl

/-- A number sign in the last line of a suffix is in the last line of the text. -/
theorem NoteAtEnd.of_suffix (h : NoteAtEnd rest) (hs : rest <:+ cs) : NoteAtEnd cs := by
  obtain ⟨front, note, rfl, hnote⟩ := h
  obtain ⟨before, rfl⟩ := hs
  exact ⟨before ++ front, note, by simp, hnote⟩

/-- What is left of a text that ends in the open ends in the open, unless nothing is left. -/
theorem EndsOpen.of_suffix (h : EndsOpen f cs) (hs : rest <:+ cs) (hne : rest ≠ []) :
    EndsOpen f rest :=
  -- Two suffixes of one text, of which the dollar sign is the shorter one.
  ⟨List.suffix_of_suffix_length_le h.dollar hs (List.length_pos_iff.2 hne),
    fun hverbose hnote => h.no_note hverbose (hnote.of_suffix hs)⟩

/-- A text that ends in the open has at least the dollar sign. -/
theorem EndsOpen.ne_nil (h : EndsOpen f cs) : cs ≠ [] := by
  rintro rfl
  cases List.suffix_nil.1 h.dollar

namespace Leaves

/-- A reader that takes nothing leaves the text. -/
theorem refl (cs : List Char) : Leaves f cs cs := ⟨List.suffix_rfl, EndsOpen.ne_nil⟩

/-- Readers in a row: what the second leaves is left of the whole text. -/
theorem trans (h : Leaves f cs rest) (h' : Leaves f rest rest') : Leaves f cs rest' :=
  ⟨h'.suffix.trans h.suffix, fun hopen => h'.ne_nil (hopen.of_suffix h.suffix (h.ne_nil hopen))⟩

/-- A reader may stop behind any character but a dollar sign. -/
theorem of_cons {c : Char} (h : c :: rest <:+ cs) (hc : c ≠ '$') : Leaves f cs rest := by
  refine ⟨(List.suffix_cons c rest).trans h, ?_⟩
  rintro hopen rfl
  -- If nothing is left, the character the reader stopped at is the last one of the text, the dollar
  -- sign.
  have hlast := List.suffix_of_suffix_length_le hopen.dollar h (Nat.le_refl _)
  exact hc (List.cons.inj (hlast.eq_of_length rfl)).1.symm

end Leaves

/-! ### What does not count -/

/-- Skipping blanks and comments leaves a suffix. -/
theorem skipComments_suffix (inComment : Bool) (cs : List Char) :
    Flags.skipComments inComment cs <:+ cs := by
  -- By induction on the text, for readers inside a comment and outside.
  induction cs generalizing inComment with
  | nil => exact List.suffix_rfl
  | cons c r ih =>
    rw [Flags.skipComments]
    repeat' split
    all_goals first
      | exact (ih _).trans (List.suffix_cons c r)
      | exact List.suffix_rfl

/-- If a text with a dollar sign at its end is skipped, then as a comment. -/
theorem skipComments_dollar {inComment : Bool} {front : List Char}
    (h : Flags.skipComments inComment (front ++ ['$']) = []) :
    (inComment = true ∧ '\n' ∉ front ++ ['$']) ∨ NoteAtEnd (front ++ ['$']) := by
  induction front generalizing inComment with
  | nil =>
    cases inComment with
    | true => exact .inl ⟨rfl, by decide⟩
    | false => exact absurd h (by decide)
  | cons c r ih =>
    have htail : NoteAtEnd (r ++ ['$']) → NoteAtEnd (c :: r ++ ['$']) :=
      fun h => h.of_suffix (List.suffix_cons c _)
    rw [List.cons_append, Flags.skipComments] at h
    split at h
    · -- A line break would have ended the comment that is skipped here.
      next hin =>
      refine (ih h).imp (fun hno => ⟨hin, fun hmem => ?_⟩) htail
      rcases List.mem_cons.1 hmem with rfl | hmem
      · exact absurd hno.1 (by decide)
      · exact hno.2 hmem
    · split at h
      · exact .inr (htail ((ih h).resolve_left fun hin => Bool.noConfusion hin.1))
      · split at h
        · next hnumber =>
          -- The comment starts here.
          refine .inr ((ih h).elim (fun hno => ⟨[], _, ?_, hno.2⟩) htail)
          rw [hnumber]
          rfl
        · cases h

/-- What does not count is skipped up to the dollar sign at most, because the text does not end in a
comment. -/
theorem skip_leaves (f : Flags) (cs : List Char) : Leaves f cs (f.skip cs) := by
  unfold Flags.skip
  split
  · next hverbose =>
    refine ⟨skipComments_suffix _ _, fun hopen hnil => ?_⟩
    obtain ⟨front, rfl⟩ := hopen.dollar
    exact hopen.no_note hverbose
      ((skipComments_dollar hnil).resolve_left fun hin => Bool.noConfusion hin.1)
  · exact .refl cs

/-- A dollar sign is no blank. -/
theorem dropBlanks_leaves (cs : List Char) : Leaves f cs (cs.dropWhile isBlank) := by
  induction cs with
  | nil => exact .refl []
  | cons c r ih =>
    rw [List.dropWhile_cons]
    split
    · next hblank =>
      have hc : c ≠ '$' := fun heq => absurd (heq ▸ hblank) (by decide)
      exact (Leaves.of_cons List.suffix_rfl hc).trans ih
    · exact .refl _

/-- The text before a closing brace does not reach beyond it. -/
theorem untilBrace_suffix {inComment : Bool} {name : List Char}
    (h : f.untilBrace inComment cs = some (name, rest)) : '\x7d' :: rest <:+ cs := by
  -- Each character is skipped as a blank, skipped in a comment, or taken for the name.
  induction cs generalizing inComment name with
  | nil => cases h
  | cons c r ih =>
    have hcons := List.suffix_cons c r
    rw [Flags.untilBrace] at h
    split at h
    · exact (ih h).trans hcons
    · split at h
      · next hbrace =>
        cases h
        subst hbrace
        exact List.suffix_rfl
      · split at h
        · exact (ih h).trans hcons
        · split at h
          · exact (ih h).trans hcons
          · obtain ⟨⟨name', rest'⟩, hread, heq⟩ := Option.map_eq_some_iff.1 h
            cases heq
            exact (ih hread).trans hcons

/-- Behind a name in braces the dollar sign is left, for the reader stops at the brace. -/
theorem untilBrace_leaves {inComment : Bool} {name : List Char}
    (h : f.untilBrace inComment cs = some (name, rest)) : Leaves f cs rest :=
  .of_cons (untilBrace_suffix h) (by decide)

/-! ### Escapes -/

/-- Digits are read up to the last of them. -/
theorem takeCounted_leaves {n : Nat} {taken : List Char}
    (h : takeCounted f n cs = some (taken, rest)) (hdollar : '$' ∉ taken) : Leaves f cs rest := by
  induction n generalizing cs taken with
  | zero =>
    cases h
    exact .refl _
  -- The digits are those taken, so none of them is the dollar sign by assumption.
  | succ n ih =>
    cases cs with
    | nil => cases h
    | cons c r =>
      obtain ⟨⟨taken', rest'⟩, hread, heq⟩ := Option.map_eq_some_iff.1 h
      cases heq
      obtain ⟨hc, htail⟩ := not_or.1 (mt List.mem_cons.2 hdollar)
      exact (Leaves.of_cons List.suffix_rfl (Ne.symm hc)).trans
        ((skip_leaves f r).trans (ih hread htail))

/-- A dollar sign is no digit. -/
theorem not_mem_of_hexValue? {digits : List Char} {n : Nat} (h : hexValue? digits = some n) :
    '$' ∉ digits := by
  intro hmem
  obtain ⟨front, back, rfl⟩ := List.append_of_mem hmem
  unfold hexValue? at h
  split at h
  · cases h
  · rw [List.foldlM_append] at h
    obtain ⟨k, -, h⟩ := Option.bind_eq_some_iff.1 h
    rw [List.foldlM_cons] at h
    cases h

/-- The code of a character, in braces or with a fixed number of digits, does not reach to the
dollar sign. -/
theorem readHex_leaves {count : Nat} {p : Primitive} (h : readHex f count cs = some (p, rest)) :
    Leaves f cs rest := by
  have finish {digits : List Char} {asByte : Bool} {rest' : List Char}
      (h : (hexValue? digits >>= fun n => charOfCode? n >>= fun c =>
        some (Primitive.literal c asByte, rest')) = some (p, rest)) :
      '$' ∉ digits ∧ rest' = rest := by
    obtain ⟨n, hn, h⟩ := Option.bind_eq_some_iff.1 h
    obtain ⟨c, -, h⟩ := Option.bind_eq_some_iff.1 h
    cases h
    exact ⟨not_mem_of_hexValue? hn, rfl⟩
  refine (skip_leaves f cs).trans ?_
  unfold readHex at h
  split at h
  · next r hbrace =>
    obtain ⟨_, hmap, h⟩ := Option.bind_eq_some_iff.1 h
    obtain ⟨⟨digits, rest'⟩, hread, rfl⟩ := Option.map_eq_some_iff.1 hmap
    obtain ⟨-, rfl⟩ := finish h
    rw [hbrace]
    exact (Leaves.of_cons List.suffix_rfl (by decide)).trans (untilBrace_leaves hread)
  · obtain ⟨_, hmap, h⟩ := Option.bind_eq_some_iff.1 h
    obtain ⟨⟨digits, rest'⟩, hread, rfl⟩ := Option.map_eq_some_iff.1 hmap
    obtain ⟨hdollar, rfl⟩ := finish h
    exact takeCounted_leaves hread hdollar

/-- What is left of a property, and that its name is not empty. -/
theorem readProperty_cases {negated : Bool} {p : Primitive}
    (h : readProperty f negated cs = some (p, rest)) :
    (∃ r, f.skip cs = '\x7b' :: r ∧ '\x7d' :: rest <:+ r) ∨ ∃ c, f.skip cs = c :: rest := by
  have finish {named : Option Text.CharSet} {rest' : List Char}
      (h : (named >>= fun set => f.negateIf? negated (f.foldCase set) >>= fun s =>
        some (Primitive.chars s, rest')) = some (p, rest)) : rest' = rest := by
    obtain ⟨set, -, h⟩ := Option.bind_eq_some_iff.1 h
    obtain ⟨s, -, h⟩ := Option.bind_eq_some_iff.1 h
    cases h
    rfl
  unfold readProperty at h
  obtain ⟨_, -, h⟩ := Option.bind_eq_some_iff.1 h
  split at h
  · cases h
  · next r hbrace =>
    obtain ⟨_, hmap, h⟩ := Option.bind_eq_some_iff.1 h
    obtain ⟨⟨text, rest'⟩, hread, rfl⟩ := Option.map_eq_some_iff.1 hmap
    obtain rfl := finish h
    exact .inl ⟨r, hbrace, untilBrace_suffix hread⟩
  · next c r _ hletter =>
    obtain rfl := finish h
    exact .inr ⟨c, hletter⟩

/-- A property leaves a suffix, in braces and as one letter. -/
theorem readProperty_suffix {negated : Bool} {p : Primitive}
    (h : readProperty f negated cs = some (p, rest)) : rest <:+ cs := by
  refine List.IsSuffix.trans ?_ (skip_leaves f cs).suffix
  obtain ⟨r, hskip, hrest⟩ | ⟨c, hskip⟩ := readProperty_cases h
  · rw [hskip]
    exact (List.suffix_cons _ rest).trans (hrest.trans (List.suffix_cons _ r))
  · rw [hskip]
    exact List.suffix_cons c rest

/-- A property of one letter does not take the dollar sign of the closing for it, for the
parenthesis of the closing stands before. -/
theorem readProperty_leaves {negated : Bool} {p : Primitive}
    (h : readProperty f negated (cs ++ closing) = some (p, rest)) :
    Leaves f (cs ++ closing) rest := by
  obtain ⟨r, hskip, hrest⟩ | ⟨c, hskip⟩ := readProperty_cases h
  · refine (skip_leaves f (cs ++ closing)).trans ?_
    rw [hskip]
    exact .of_cons (hrest.trans (List.suffix_cons _ r)) (by decide)
  · -- A single letter: if nothing were left, the closing would consist of one character.
    refine ⟨readProperty_suffix h, ?_⟩
    rintro - rfl
    obtain hbehind | hnil := ((Longer.behind cs).skip f).eq_or_nil
    · have hlength := congrArg List.length (hskip.symm.trans hbehind)
      simp [closing] at hlength
    · cases hskip.symm.trans hnil

/-- The kinds of word boundaries are spelled in braces or have no further characters. -/
theorem readBoundary_leaves {p : Primitive} (h : readBoundary f cs = some (p, rest)) :
    Leaves f cs rest := by
  by_cases hbrace : ∃ r, cs = '\x7b' :: r
  · obtain ⟨r, rfl⟩ := hbrace
    rw [readBoundary_brace] at h
    split at h
    · cases h
    · split at h
      · obtain ⟨⟨name, rest'⟩, hread, h⟩ := Option.bind_eq_some_iff.1 h
        obtain ⟨l, -, h⟩ := Option.bind_eq_some_iff.1 h
        cases h
        exact .of_cons ((untilBrace_suffix hread).trans (List.suffix_cons _ r)) (by decide)
      · cases h
        exact .refl _
  · rw [readBoundary_of_ne f fun r hr => hbrace ⟨r, hr⟩] at h
    cases h
    exact .refl _

/-- What follows a backslash is one character, or goes on as one of three kinds of escapes. -/
theorem readEscape_cases {c : Char} {r : List Char} {p : Primitive}
    (h : readEscape f (c :: r) = some (p, rest)) :
    rest = r ∨ (∃ count, readHex f count r = some (p, rest)) ∨
      (∃ negated, readProperty f negated r = some (p, rest)) ∨
        readBoundary f r = some (p, rest) := by
  have hclass {set : Text.CharSet} {negated : Bool}
      (h : ((f.negateIf? negated set).map fun s => (Primitive.chars s, r)) = some (p, rest)) :
      rest = r := by
    obtain ⟨s, -, heq⟩ := Option.map_eq_some_iff.1 h
    cases heq
    rfl
  unfold readEscape at h
  dsimp only at h
  split at h
  -- Most escapes are one letter. The other ones go on with a code, a property or a boundary.
  all_goals first
    | exact .inr (.inl ⟨_, h⟩)
    | exact .inr (.inr (.inl ⟨_, h⟩))
    | exact .inr (.inr (.inr h))
    | exact .inl (hclass h)
    | exact .inl (Prod.mk.inj (Option.some.inj h)).2.symm
    | skip
  split at h
  · exact .inl (Prod.mk.inj (Option.some.inj h)).2.symm
  · cases h

/-- Every escape leaves a suffix. -/
theorem readEscape_suffix {p : Primitive} (h : readEscape f cs = some (p, rest)) :
    rest <:+ cs := by
  cases cs with
  | nil => cases h
  | cons c r =>
    refine List.IsSuffix.trans ?_ (List.suffix_cons c r)
    obtain rfl | ⟨count, h⟩ | ⟨negated, h⟩ | h := readEscape_cases h
    · exact List.suffix_rfl
    · exact (readHex_leaves h).suffix
    · exact readProperty_suffix h
    · exact (readBoundary_leaves h).suffix

/-- An escape whose first character is before the closing leaves the dollar sign. -/
theorem readEscape_leaves {c : Char} {p : Primitive}
    (h : readEscape f (c :: (cs ++ closing)) = some (p, rest)) : Leaves f (cs ++ closing) rest := by
  obtain rfl | ⟨count, h⟩ | ⟨negated, h⟩ | h := readEscape_cases h
  · exact .refl _
  · exact readHex_leaves h
  · exact readProperty_leaves h
  · exact readBoundary_leaves h

/-! ### Classes between brackets -/

/-- A single character of a class, escaped or not, leaves a suffix. -/
theorem readPrimitive_suffix {p : Primitive} (h : readPrimitive f cs = some (p, rest)) :
    rest <:+ cs := by
  unfold readPrimitive at h
  split at h
  · cases h
  · exact (readEscape_suffix h).trans (List.suffix_cons _ _)
  · cases h
    exact List.suffix_cons _ _

/-- The name of an ASCII class is read up to its end. -/
theorem asciiClassRest_suffix {negated : Bool} {set : Option Text.CharSet}
    (h : asciiClassRest f negated cs = some (set, rest)) : rest <:+ cs := by
  unfold asciiClassRest at h
  obtain ⟨⟨name, rest'⟩, hcut, h⟩ := Option.bind_eq_some_iff.1 h
  dsimp only at h
  split at h
  · next r =>
    obtain ⟨s, -, h⟩ := Option.bind_eq_some_iff.1 h
    cases h
    rw [Text.eq_of_cutFirst? hcut]
    exact ⟨name ++ [':', ']'], by simp⟩
  · cases h

/-- An ASCII class leaves a suffix, with a caret before its name or without. -/
theorem readAsciiClass_suffix {set : Option Text.CharSet}
    (h : readAsciiClass f cs = some (set, rest)) : rest <:+ cs := by
  by_cases hcolon : ∃ r, cs = ':' :: r
  · obtain ⟨r, rfl⟩ := hcolon
    refine List.IsSuffix.trans ?_ (List.suffix_cons _ r)
    by_cases hcaret : ∃ s, r = '^' :: s
    · obtain ⟨s, rfl⟩ := hcaret
      exact (asciiClassRest_suffix (show asciiClassRest f true s = _ from h)).trans
        (List.suffix_cons _ s)
    · rw [readAsciiClass_colon f fun s hs => hcaret ⟨s, hs⟩] at h
      exact asciiClassRest_suffix h
  · rw [readAsciiClass_of_ne f fun r hr => hcolon ⟨r, hr⟩] at h
    cases h

/-- The hyphens at the start of a class leave a suffix. -/
theorem readHyphens_suffix (n : Nat) (l : Level) (cs : List Char) :
    (readHyphens f n l cs).2 <:+ cs := by
  induction n generalizing l cs with
  | zero => exact List.suffix_rfl
  | succ n ih =>
    by_cases hhyphen : ∃ r, cs = '-' :: r
    · obtain ⟨r, rfl⟩ := hhyphen
      rw [readHyphens_hyphen]
      exact (ih _ _).trans ((skip_leaves f r).suffix.trans (List.suffix_cons _ r))
    · rewrite [readHyphens_of_ne f _ l fun r hr => hhyphen ⟨r, hr⟩]
      exact List.suffix_rfl

/-- The start of a class behind the caret leaves a suffix. A bracket that comes first is a character
of the class. -/
theorem openRest_suffix (negated : Bool) (cs : List Char) : (openRest f negated cs).2 <:+ cs := by
  have hhyphens := @readHyphens_suffix f cs.length { negated } cs
  unfold openRest
  generalize readHyphens f cs.length { negated } cs = p at hhyphens
  obtain ⟨l, rest⟩ := p
  dsimp only at hhyphens ⊢
  split
  · next r =>
    split
    · exact (skip_leaves f r).suffix.trans ((List.suffix_cons _ r).trans hhyphens)
    · exact hhyphens
  · exact hhyphens

/-- The start of a class leaves a suffix. -/
theorem openBracket_suffix (cs : List Char) : (openBracket f cs).2 <:+ cs := by
  refine List.IsSuffix.trans ?_ (skip_leaves f cs).suffix
  by_cases hcaret : ∃ r, f.skip cs = '^' :: r
  · obtain ⟨r, hr⟩ := hcaret
    rw [openBracket_caret f hr, hr]
    exact (openRest_suffix true _).trans ((skip_leaves f r).suffix.trans (List.suffix_cons _ r))
  · rw [openBracket_of_ne f fun r hr => hcaret ⟨r, hr⟩]
    exact openRest_suffix false _

/-- An item of a class is one character or a range, and leaves a suffix. -/
theorem readItem_suffix {set : Text.CharSet} (h : readItem f cs = some (set, rest)) :
    rest <:+ cs := by
  unfold readItem at h
  obtain ⟨⟨first, rest'⟩, hfirst, h⟩ := Option.bind_eq_some_iff.1 h
  refine List.IsSuffix.trans ?_ (readPrimitive_suffix hfirst)
  refine List.IsSuffix.trans ?_ (skip_leaves f rest').suffix
  dsimp only at h
  split at h
  · next r hhyphen =>
    rw [hhyphen]
    split at h
    · obtain ⟨s, -, h⟩ := Option.bind_eq_some_iff.1 h
      cases h
      exact List.suffix_rfl
    · obtain ⟨⟨last, rest''⟩, hlast, h⟩ := Option.bind_eq_some_iff.1 h
      obtain ⟨s, -, h⟩ := Option.bind_eq_some_iff.1 h
      cases h
      exact (readPrimitive_suffix hlast).trans
        ((skip_leaves f r).suffix.trans (List.suffix_cons _ r))
  · obtain ⟨s, -, h⟩ := Option.bind_eq_some_iff.1 h
    cases h
    exact List.suffix_rfl

/-- A class ends with its bracket. -/
theorem readLevels_suffix {n : Nat} {l : Level} {outer : List Level} {s : NestedSet}
    (h : readLevels f n l outer cs = some (s, rest)) : ']' :: rest <:+ cs := by
  -- The fuel bounds the pieces of the class; the nesting of classes is in the stack, so it is for
  -- all of them.
  induction n generalizing l outer cs with
  | zero => cases h
  | succ n ih =>
    refine List.IsSuffix.trans ?_ (skip_leaves f cs).suffix
    rw [readLevels] at h
    split at h
    · cases h
    · next r hskip =>
      rw [hskip]
      refine List.IsSuffix.trans ?_ (List.suffix_cons _ r)
      split at h
      · next set rest' hclass =>
        obtain ⟨set', -, h⟩ := Option.bind_eq_some_iff.1 h
        exact (ih h).trans (readAsciiClass_suffix hclass)
      · exact (ih h).trans (openBracket_suffix r)
    · next r hskip =>
      rw [hskip]
      obtain ⟨closed, -, h⟩ := Option.bind_eq_some_iff.1 h
      -- The bracket closes the whole class, or one that stands in another.
      cases outer with
      | nil =>
        cases h
        exact List.suffix_rfl
      | cons l' outer => exact (ih h).trans (List.suffix_cons _ r)
    · next r hskip =>
      rw [hskip]
      exact (ih h).trans ((List.suffix_cons _ r).trans (List.suffix_cons _ _))
    · next r hskip =>
      rw [hskip]
      exact (ih h).trans ((List.suffix_cons _ r).trans (List.suffix_cons _ _))
    · next r hskip =>
      rw [hskip]
      exact (ih h).trans ((List.suffix_cons _ r).trans (List.suffix_cons _ _))
    · next c r _ _ _ _ _ hskip =>
      rw [hskip]
      obtain ⟨⟨set, rest'⟩, hitem, h⟩ := Option.bind_eq_some_iff.1 h
      exact (ih h).trans (readItem_suffix hitem)

/-- A class between brackets ends with its bracket, so it does not take the dollar sign. -/
theorem readBracket_suffix {s : NestedSet} (h : readBracket f cs = some (s, rest)) :
    ']' :: rest <:+ cs :=
  (readLevels_suffix h).trans (openBracket_suffix cs)

/-! ### Groups and repetitions -/

/-- Flags end with a colon or a parenthesis. -/
theorem readFlags_leaves {g g' : Flags} {seen seen' : List Char} {on bare : Bool} {c : Char}
    (h : readFlags g seen on bare cs = some (g', seen', c, rest)) : Leaves f cs rest := by
  -- The reader stops at the sign that ends the flags, which is no dollar sign.
  have key : c :: rest <:+ cs ∧ c ≠ '$' := by
    induction cs generalizing g seen on bare with
    | nil => cases h
    | cons d r ih =>
      have hcons := List.suffix_cons d r
      rw [readFlags] at h
      split at h
      · next hend =>
        split at h
        · cases h
        · cases h
          refine ⟨List.suffix_rfl, ?_⟩
          rintro rfl
          exact absurd hend (by decide)
      · split at h
        · split at h
          · exact (ih h).imp_left (·.trans hcons)
          · cases h
        · split at h
          · cases h
          · split at h
            · cases h
            · exact (ih h).imp_left (·.trans hcons)
  exact .of_cons key.1 key.2

/-- The name of a group ends with its angle bracket. -/
theorem readName_leaves {name : List Char} (h : readName cs = some (name, rest)) :
    Leaves f cs rest := by
  unfold readName at h
  obtain ⟨⟨name', rest'⟩, hcut, h⟩ := Option.bind_eq_some_iff.1 h
  dsimp only at h
  split at h
  · cases h
  · next c r =>
    obtain ⟨_, -, h⟩ := Option.bind_eq_some_iff.1 h
    cases h
    exact .of_cons ⟨_, (Text.eq_of_cutFirst? hcut).symm⟩ (by decide)

/-- The opening of a group does not take the dollar sign. -/
theorem readGroup_leaves {piece : Piece} (h : readGroup f cs = some (piece, rest)) :
    Leaves f cs rest := by
  refine (skip_leaves f cs).trans ?_
  have hcons {c : Char} {r : List Char} (hc : c ≠ '$') : Leaves f (c :: r) r :=
    .of_cons List.suffix_rfl hc
  unfold readGroup at h
  -- A group opens with a name, in one of two spellings, or with flags, or is just opened.
  split at h
  · next r hskip =>
    obtain ⟨⟨name, rest'⟩, hname, h⟩ := Option.bind_eq_some_iff.1 h
    cases h
    rw [hskip]
    exact (((hcons (by decide)).trans (hcons (by decide))).trans (hcons (by decide))).trans
      (readName_leaves hname)
  · next r hskip =>
    obtain ⟨⟨name, rest'⟩, hname, h⟩ := Option.bind_eq_some_iff.1 h
    cases h
    rw [hskip]
    exact ((hcons (by decide)).trans (hcons (by decide))).trans (readName_leaves hname)
  · next r _ _ hskip =>
    obtain ⟨⟨flags, seen, terminator, rest'⟩, hflags, h⟩ := Option.bind_eq_some_iff.1 h
    rw [hskip]
    refine (hcons (by decide)).trans ?_
    dsimp only at h
    split at h
    · cases h
      exact readFlags_leaves hflags
    · split at h
      · cases h
      · cases h
        exact readFlags_leaves hflags
  · cases h
    exact .refl _

/-- Digits are read as long as they follow, and a dollar sign is none. -/
theorem readDigits_leaves (n : Nat) (cs : List Char) : Leaves f cs (readDigits f n cs).2 := by
  induction n generalizing cs with
  | zero => exact .refl cs
  | succ n ih =>
    cases cs with
    | nil => exact .refl []
    | cons c r =>
      rw [readDigits]
      split
      · next hdigit =>
        -- A dollar sign would have stopped the reader.
        have hc : c ≠ '$' := fun heq => absurd (heq ▸ hdigit) (by decide)
        exact (Leaves.of_cons List.suffix_rfl hc).trans ((skip_leaves f r).trans (ih _))
      · exact .refl _

/-- A number with blanks around it does not reach to the dollar sign. -/
theorem readDecimal_leaves {n? : Option Nat} (h : readDecimal f cs = some (n?, rest)) :
    Leaves f cs rest := by
  have hdigits := @readDigits_leaves f (cs.dropWhile isBlank).length (cs.dropWhile isBlank)
  have hrest := ((dropBlanks_leaves cs).trans hdigits).trans (dropBlanks_leaves _)
  unfold readDecimal at h
  dsimp only at h
  split at h
  · cases h
    exact hrest
  · split at h
    · cases h
      exact hrest
    · cases h

/-- The upper bound of a repetition is read up to the brace. -/
theorem readUpper_suffix {min : Nat} {bounds : Nat × Option Nat × List Char}
    (h : readUpper f min cs = some bounds) : '\x7d' :: bounds.2.2 <:+ cs := by
  unfold readUpper at h
  obtain ⟨⟨max?, rest'⟩, hread, h⟩ := Option.bind_eq_some_iff.1 h
  obtain ⟨max, -, h⟩ := Option.bind_eq_some_iff.1 h
  obtain ⟨_, -, h⟩ := Option.bind_eq_some_iff.1 h
  refine List.IsSuffix.trans ?_ (readDecimal_leaves hread).suffix
  split at h
  · cases h
    exact List.suffix_rfl
  · cases h

/-- Bounds behind the comma are read up to the brace. -/
theorem boundsRest_suffix {min? : Option Nat} {bounds : Nat × Option Nat × List Char}
    (h : boundsRest f min? cs = some bounds) : '\x7d' :: bounds.2.2 <:+ cs := by
  refine List.IsSuffix.trans ?_ (skip_leaves f cs).suffix
  unfold boundsRest at h
  split at h
  · next r hskip =>
    obtain ⟨min, -, h⟩ := Option.bind_eq_some_iff.1 h
    cases h
    rewrite [hskip]
    exact List.suffix_rfl
  · obtain ⟨min, -, h⟩ := Option.bind_eq_some_iff.1 h
    exact readUpper_suffix h

/-- Bounds end with their brace. -/
theorem readBounds_suffix {bounds : Nat × Option Nat × List Char}
    (h : readBounds f cs = some bounds) : '\x7d' :: bounds.2.2 <:+ cs := by
  unfold readBounds at h
  obtain ⟨⟨min?, rest'⟩, hread, h⟩ := Option.bind_eq_some_iff.1 h
  refine List.IsSuffix.trans ?_ ((skip_leaves f cs).trans (readDecimal_leaves hread)).suffix
  dsimp only at h
  split at h
  · obtain ⟨min, -, h⟩ := Option.bind_eq_some_iff.1 h
    obtain ⟨min', -, h⟩ := Option.bind_eq_some_iff.1 h
    cases h
    exact List.suffix_rfl
  · next r => exact (boundsRest_suffix h).trans (List.suffix_cons _ r)
  · cases h

/-- Behind a repetition there may be a question mark, which is no dollar sign. -/
theorem repetitionPiece_leaves (min : Nat) (max : Option Nat) (cs : List Char) :
    Leaves f cs (repetitionPiece min max cs).2 := by
  unfold repetitionPiece
  split
  · exact .of_cons List.suffix_rfl (by decide)
  · exact .refl _

/-- No piece takes the dollar sign of the closing. -/
theorem readPiece_leaves {c : Char} {piece : Piece}
    (h : readPiece f c (cs ++ closing) = some (piece, rest)) (hescape : c = '\\' → cs ≠ []) :
    Leaves f (cs ++ closing) rest := by
  have hrepeated {min : Nat} {max : Option Nat} {text : List Char}
      (h : repetitionPiece min max text = (piece, rest)) : Leaves f text rest := by
    have hleaves := @repetitionPiece_leaves f min max text
    rwa [h] at hleaves
  unfold readPiece at h
  split at h
  · exact readGroup_leaves h
  · cases h
    exact .refl _
  · cases h
    exact .refl _
  · obtain ⟨⟨set, rest'⟩, hread, heq⟩ := Option.map_eq_some_iff.1 h
    cases heq
    exact .of_cons (readBracket_suffix hread) (by decide)
  · exact hrepeated (Option.some.inj h)
  · exact hrepeated (Option.some.inj h)
  · exact hrepeated (Option.some.inj h)
  · obtain ⟨⟨min, max, rest'⟩, hread, heq⟩ := Option.map_eq_some_iff.1 h
    have hbounds : Leaves f (cs ++ closing) rest' := .of_cons (readBounds_suffix hread) (by decide)
    exact (hbounds.trans (skip_leaves f rest')).trans (hrepeated heq)
  · obtain ⟨s, -, heq⟩ := Option.map_eq_some_iff.1 h
    cases heq
    exact .refl _
  · cases h
    exact .refl _
  · cases h
    exact .refl _
  · obtain ⟨⟨p, rest'⟩, hread, h⟩ := Option.bind_eq_some_iff.1 h
    obtain ⟨node, -, h⟩ := Option.bind_eq_some_iff.1 h
    cases h
    obtain ⟨d, r, rfl⟩ := List.exists_cons_of_ne_nil (hescape rfl)
    -- The character behind the backslash is one of the pattern, and the closing stands behind it.
    have hleaves := readEscape_leaves hread
    refine ⟨hleaves.suffix.trans (List.suffix_cons d _), fun hopen => hleaves.ne_nil ?_⟩
    exact hopen.of_suffix (List.suffix_cons d _) (by simp [closing])
  · obtain ⟨node, -, heq⟩ := Option.map_eq_some_iff.1 h
    cases heq
    exact .refl _

end Leaves

end ImageSync.Regex
