import ImageSync.Proofs.Text.Run
import ImageSync.Url.Path

/-!
# `ImageSync.Proofs.Url.Walk`: what a path is written as

The text of a path is cut into segments, these are encoded and then walked. A segment that is no dot
is added to the place (`walk_of_no_dots`), so without dots the path is written as its text, with
slashes for backslashes (`render_cutSegments`). A dot takes away more than it adds, so with one the
path is written shorter than that (`writtenLength_walk_lt`). So a path that is written as its text
has been walked without dots (`render_walk_eq_iff`).

Encoding loses nothing of a text that is not encoded already (`percentEncode_inj`).
-/

set_option autoImplicit false

namespace ImageSync.Url

open Text

/-! ### Encoding -/

/-- Bytes that are escaped one by one are decoded to the same bytes. -/
theorem percentDecode_escapeBytes (bytes : List UInt8) (r : List Char) :
    percentDecode (bytes.flatMap escapeByte ++ r) = bytes ++ percentDecode r := by
  induction bytes with
  | nil => rfl
  | cons b bytes ih =>
    rw [List.flatMap_cons, List.append_assoc, percentDecode_escapeByte, ih, List.cons_append]

/-- An encoded text stands for the bytes of the text, if it is not encoded already. -/
theorem percentDecode_percentEncode {set : EscapeSet} {cs : List Char} (h : '%' ∉ cs) :
    percentDecode (percentEncode set cs) = utf8 cs := by
  -- By induction on the text. A percent sign would be taken for an escape, and there is none.
  induction cs with
  | nil => rfl
  | cons c r ih =>
    rw [List.mem_cons, not_or] at h
    obtain ⟨hc, hr⟩ := h
    have hrest := ih hr
    rw [percentEncode] at hrest
    rw [percentEncode, List.flatMap_cons, escapeChar, utf8, List.flatMap_cons]
    split
    · rw [percentDecode_escapeBytes, hrest]
      rfl
    · rw [List.singleton_append, percentDecode, hrest]
      · rfl
      · rintro a b r' rfl
        exact absurd rfl hc

/-- Texts with the same bytes are the same. -/
theorem utf8_inj {cs ds : List Char} (h : utf8 cs = utf8 ds) : cs = ds := by
  have hencode : cs.utf8Encode = ds.utf8Encode := congrArg List.toByteArray h
  have hdecode := congrArg ByteArray.utf8Decode? hencode
  rw [List.utf8Decode?_utf8Encode, List.utf8Decode?_utf8Encode] at hdecode
  exact congrArg Array.toList (Option.some.inj hdecode)

/-- Texts that are not encoded already are encoded differently. -/
theorem percentEncode_inj {set : EscapeSet} {cs ds : List Char} (hcs : '%' ∉ cs) (hds : '%' ∉ ds)
    (h : percentEncode set cs = percentEncode set ds) : cs = ds := by
  refine utf8_inj ?_
  rw [← percentDecode_percentEncode hcs, h, percentDecode_percentEncode hds]

/-- A character is written as something, escaped or not. -/
theorem escapeChar_ne_nil (set : EscapeSet) (c : Char) : escapeChar set c ≠ [] := by
  rw [escapeChar]
  split
  · obtain ⟨b, bytes, hbytes⟩ := List.exists_cons_of_ne_nil (String.utf8EncodeChar_ne_nil (c := c))
    rw [hbytes, List.flatMap_cons]
    exact List.append_ne_nil_of_left_ne_nil (List.cons_ne_nil _ _) _
  · exact List.cons_ne_nil _ _

/-- Each character is encoded by itself. -/
theorem percentEncode_append (set : EscapeSet) (cs ds : List Char) :
    percentEncode set (cs ++ ds) = percentEncode set cs ++ percentEncode set ds :=
  List.flatMap_append

/-- What is left out of a text makes its encoded form shorter. -/
theorem length_percentEncode_of_sublist (set : EscapeSet) {cs ds : List Char} (h : cs.Sublist ds) :
    cs = ds ∨ (percentEncode set cs).length < (percentEncode set ds).length := by
  -- By induction on what is left out: a character that is left out is written as something, and one
  -- that is kept is written alike in both texts.
  induction h with
  | slnil => exact .inl rfl
  | @cons cs ds c h ih =>
    have hpos := List.length_pos_iff.2 (escapeChar_ne_nil set c)
    have hle : (percentEncode set cs).length ≤ (percentEncode set ds).length := by
      rcases ih with rfl | hlt
      · exact Nat.le_refl _
      · exact Nat.le_of_lt hlt
    refine .inr ?_
    rw [percentEncode, percentEncode, List.flatMap_cons, List.length_append]
    rw [percentEncode, percentEncode] at hle
    omega
  | @cons_cons cs ds c h ih =>
    rcases ih with rfl | hlt
    · exact .inl rfl
    · refine .inr ?_
      rw [percentEncode, percentEncode] at hlt ⊢
      rw [List.flatMap_cons, List.flatMap_cons, List.length_append, List.length_append]
      omega

/-! ### Cutting -/

/-- There is always a first segment, which may be empty. -/
theorem cutSegments_ne_nil (kind : SchemeKind) (cs : List Char) : cutSegments kind cs ≠ [] := by
  cases cs with
  | nil => exact List.cons_ne_nil _ _
  | cons c r =>
    rw [cutSegments]
    split
    · exact List.cons_ne_nil _ _
    · split <;> exact List.cons_ne_nil _ _

/-- What stands before and behind a separator is cut on its own. -/
theorem cutSegments_append_cons {kind : SchemeKind} {c : Char} (hc : isSeparator kind c = true)
    (front back : List Char) :
    cutSegments kind (front ++ c :: back) = cutSegments kind front ++ cutSegments kind back := by
  induction front with
  | nil =>
    rw [List.nil_append, cutSegments.eq_2, if_pos hc]
    rfl
  | cons d front ih =>
    rw [List.cons_append, cutSegments, cutSegments, ih]
    split
    · rfl
    · cases hcut : cutSegments kind front with
      | nil => exact absurd hcut (cutSegments_ne_nil kind front)
      | cons s segments => rfl

/-- A text without separators is one segment. -/
theorem cutSegments_of_not_isSeparator {kind : SchemeKind} {cs : List Char}
    (h : ∀ c ∈ cs, isSeparator kind c = false) : cutSegments kind cs = [cs] := by
  induction cs with
  | nil => rfl
  | cons c r ih =>
    obtain ⟨hc, hr⟩ := List.forall_mem_cons.1 h
    rw [cutSegments, hc, ih hr]
    rfl

/-- Segments that hold no separator are what their text is cut into. -/
theorem cutSegments_joinWith {list : List (List Char)} (hne : list ≠ [])
    (h : ∀ s ∈ list, ∀ c ∈ s, isSeparator .web c = false) :
    cutSegments .web (joinWith '/' list) = list := by
  induction list with
  | nil => exact absurd rfl hne
  | cons s rest ih =>
    obtain ⟨hs, hrest⟩ := List.forall_mem_cons.1 h
    cases rest with
    | nil => exact cutSegments_of_not_isSeparator hs
    | cons t rest =>
      rw [joinWith, cutSegments_append_cons (by decide), cutSegments_of_not_isSeparator hs,
        ih (List.cons_ne_nil _ _) hrest]
      rfl

/-- A text as it is written in a path: its separators are slashes, and the rest is encoded. -/
def pathText (cs : List Char) : List Char :=
  cs.flatMap fun c => if isSeparator .web c then ['/'] else escapeChar pathSet c

/-- With slashes for its separators, a text is written no longer or shorter than encoded. -/
theorem length_pathText (cs : List Char) :
    (pathText cs).length = (percentEncode pathSet cs).length := by
  rw [pathText, percentEncode]
  induction cs with
  | nil => rfl
  | cons c r ih =>
    rw [List.flatMap_cons, List.flatMap_cons, List.length_append, List.length_append, ih]
    split
    · next hc =>
      rw [isSeparator, Bool.or_eq_true, beq_iff_eq, Bool.and_eq_true, beq_iff_eq] at hc
      rcases hc with rfl | ⟨rfl, -⟩ <;> rfl
    · rfl

/-- Only backslashes are written as something else. -/
theorem pathText_eq_iff {cs : List Char} :
    pathText cs = percentEncode pathSet cs ↔ '\\' ∉ cs := by
  rw [pathText, percentEncode]
  induction cs with
  | nil => exact iff_of_true rfl List.not_mem_nil
  | cons c r ih =>
    rw [List.flatMap_cons, List.flatMap_cons, List.mem_cons, not_or, ← ih]
    by_cases hback : c = '\\'
    · rw [hback]
      -- A backslash becomes a slash, and escaping makes none of it.
      refine iff_of_false (fun heq => ?_) fun hne => hne.1 rfl
      cases (List.cons.inj heq).1
    · have hsame : (if isSeparator .web c then ['/'] else escapeChar pathSet c) =
          escapeChar pathSet c := by
        split
        · next hc =>
          rw [isSeparator, Bool.or_eq_true, beq_iff_eq, Bool.and_eq_true, beq_iff_eq] at hc
          obtain rfl : c = '/' := hc.resolve_right fun h => hback h.1
          rfl
        · rfl
      rw [hsame, List.append_cancel_left_eq]
      exact ⟨fun heq => ⟨Ne.symm hback, heq⟩, fun h => h.2⟩

/-- The segments of a text are written as the text. -/
theorem render_cutSegments (cs : List Char) :
    (Path.segments ((cutSegments .web cs).map (percentEncode pathSet))).render =
      '/' :: pathText cs := by
  rw [Path.render]
  -- A separator opens a new segment, and any other character goes to the front of the first one.
  induction cs with
  | nil => rfl
  | cons c r ih =>
    rw [cutSegments, pathText, List.flatMap_cons, ← pathText]
    split
    · rw [List.map_cons, List.flatMap_cons, ih]
      rfl
    · cases hcut : cutSegments .web r with
      | nil => exact absurd hcut (cutSegments_ne_nil .web r)
      | cons s segments =>
        rw [hcut, List.map_cons, List.flatMap_cons, List.cons_append, List.cons.injEq] at ih
        rw [List.map_cons, List.flatMap_cons, ← ih.2, percentEncode, List.flatMap_cons,
          ← percentEncode, List.cons_append, List.append_assoc]

/-! ### Dots -/

/-- Without a percent sign no dot is encoded. -/
theorem plainDots_of_not_mem {s : List Char} (h : '%' ∉ s) : plainDots s = s := by
  induction s with
  | nil => rfl
  | cons c r ih =>
    rw [List.mem_cons, not_or] at h
    rw [plainDots.eq_3 c r (fun _ hc => absurd hc.symm h.1) (fun _ hc => absurd hc.symm h.1),
      ih h.2]

/-- Without dots and escapes, and without anything that is encoded, a segment is plain. -/
theorem isPlain_of_forall {s : List Char}
    (h : ∀ c ∈ s, isEscaped pathSet c = false ∧ c ≠ '%' ∧ c ≠ '.') : IsPlain s := by
  have hdots : plainDots s = s := plainDots_of_not_mem fun hmem => (h _ hmem).2.1 rfl
  have hdot : '.' ∉ s := fun hmem => (h _ hmem).2.2 rfl
  refine ⟨fun c hc => (h c hc).1, ?_, ?_⟩
  · rw [isDot, hdots, beq_eq_false_iff_ne]
    rintro rfl
    exact hdot List.mem_cons_self
  · rw [isDoubleDot, hdots, beq_eq_false_iff_ne]
    rintro rfl
    exact hdot List.mem_cons_self

/-- Whether a segment is no dot as it is written. -/
def IsNoDot (s : List Char) : Prop :=
  isDot (percentEncode pathSet s) = false ∧ isDoubleDot (percentEncode pathSet s) = false

/-- Outside files, walking adds the segments to the place if none of them is a dot. -/
theorem walk_of_no_dots {kind : SchemeKind} (hkind : kind ≠ .file)
    {place list : List (List Char)} (h : ∀ s ∈ list, IsNoDot s) :
    walk kind place list = place ++ list.map (percentEncode pathSet) := by
  induction list generalizing place with
  | nil => rw [walk, List.map_nil, List.append_nil]
  | cons s r ih =>
    obtain ⟨⟨hdot, hdouble⟩, hr⟩ := List.forall_mem_cons.1 h
    have hsettle : settle kind place (percentEncode pathSet s) = percentEncode pathSet s :=
      if_neg fun hfile => hkind hfile.1
    rw [walk]
    simp only [hdot, hdouble, hsettle, Bool.false_eq_true, if_false]
    rw [ih hr, List.append_assoc, List.map_cons, List.singleton_append]

/-- The length of a path as it is written. -/
def writtenLength (place : List (List Char)) : Nat := (Path.segments place).render.length

/-- Each segment is written by itself. -/
theorem writtenLength_append (place list : List (List Char)) :
    writtenLength (place ++ list) = writtenLength place + writtenLength list := by
  rw [writtenLength, Path.render, List.flatMap_append, List.length_append]
  rfl

/-- A segment is written with a slash in front of it. -/
theorem writtenLength_cons (s : List Char) (list : List (List Char)) :
    writtenLength (s :: list) = s.length + 1 + writtenLength list := by
  rw [writtenLength, Path.render, List.flatMap_cons, List.length_append, List.length_cons]
  rfl

/-- A place higher up is not written longer. -/
theorem writtenLength_climb_le (place : List (List Char)) :
    writtenLength (climb place) ≤ writtenLength place := by
  rw [climb]
  split
  · exact Nat.le_refl _
  · cases List.eq_nil_or_concat place with
    | inl hnil => rw [hnil]; exact Nat.le_refl _
    | inr hlast =>
      obtain ⟨front, s, rfl⟩ := hlast
      rw [List.concat_eq_append, List.dropLast_concat, writtenLength_append]
      exact Nat.le_add_right _ _

/-- A dot that is encoded takes three characters, so decoding dots makes no segment longer. -/
theorem length_plainDots_le (s : List Char) : (plainDots s).length ≤ s.length := by
  -- The cases are those of the decoder: an escaped dot in two spellings, any other character, and
  -- the end.
  induction s using plainDots.induct with
  | case1 r ih =>
    simp only [plainDots, List.length_cons]
    omega
  | case2 r ih =>
    simp only [plainDots, List.length_cons]
    omega
  | case3 c r hlower hupper ih =>
    rw [plainDots.eq_3 c r hlower hupper, List.length_cons, List.length_cons]
    omega
  | case4 => exact Nat.le_refl _

/-- A step adds no more than its segment to the place, and less if that is a dot. -/
theorem walk_cons {kind : SchemeKind} (hkind : kind ≠ .file) (place : List (List Char))
    (s : List Char) (rest : List (List Char)) :
    ∃ next, walk kind place (s :: rest) = walk kind next rest ∧
      writtenLength next ≤ writtenLength (place ++ [percentEncode pathSet s]) ∧
      (¬IsNoDot s → writtenLength next < writtenLength (place ++ [percentEncode pathSet s])) := by
  have hadded : writtenLength (place ++ [percentEncode pathSet s]) =
      writtenLength place + ((percentEncode pathSet s).length + 1) :=
    (writtenLength_append _ _).trans (congrArg _ (writtenLength_cons _ []))
  -- At the end a dot leaves an empty segment, which is written as one slash.
  have hfinal : writtenLength (if rest.isEmpty then [[]] else []) ≤ 1 := by
    split
    · exact Nat.le_refl 1
    · exact Nat.zero_le 1
  have hdots := length_plainDots_le (percentEncode pathSet s)
  rw [walk, hadded]
  cases hdouble : isDoubleDot (percentEncode pathSet s) with
  | true =>
    have hclimb := writtenLength_climb_le place
    have hlt : writtenLength (climb place ++ if rest.isEmpty then [[]] else []) <
        writtenLength place + ((percentEncode pathSet s).length + 1) := by
      rw [isDoubleDot, beq_iff_eq] at hdouble
      rw [hdouble, List.length_cons, List.length_singleton] at hdots
      rw [writtenLength_append]
      omega
    exact ⟨_, if_pos rfl, Nat.le_of_lt hlt, fun _ => hlt⟩
  | false =>
    cases hdot : isDot (percentEncode pathSet s) with
    | true =>
      have hlt : writtenLength (place ++ if rest.isEmpty then [[]] else []) <
          writtenLength place + ((percentEncode pathSet s).length + 1) := by
        rw [isDot, beq_iff_eq] at hdot
        rw [hdot, List.length_singleton] at hdots
        rw [writtenLength_append]
        omega
      exact ⟨_, (if_neg Bool.false_ne_true).trans (if_pos rfl), Nat.le_of_lt hlt, fun _ => hlt⟩
    | false =>
      have hsettle : settle kind place (percentEncode pathSet s) = percentEncode pathSet s :=
        if_neg fun hfile => hkind hfile.1
      refine ⟨place ++ [percentEncode pathSet s], ?_, Nat.le_of_eq hadded, fun hno => ?_⟩
      · simp only [hsettle, Bool.false_eq_true, if_false]
      · exact absurd ⟨hdot, hdouble⟩ hno

/-- Walking makes no path longer than its text. -/
theorem writtenLength_walk_le {kind : SchemeKind} (hkind : kind ≠ .file)
    (place list : List (List Char)) :
    writtenLength (walk kind place list) ≤
      writtenLength (place ++ list.map (percentEncode pathSet)) := by
  induction list generalizing place with
  | nil => exact Nat.le_of_eq (by rw [walk, List.map_nil, List.append_nil])
  | cons s rest ih =>
    obtain ⟨next, hwalk, hle, -⟩ := walk_cons hkind place s rest
    have hrest := ih next
    rw [hwalk, List.map_cons, List.append_cons]
    rw [writtenLength_append] at hrest ⊢
    omega

/-- A dot makes a path shorter. -/
theorem writtenLength_walk_lt {kind : SchemeKind} (hkind : kind ≠ .file)
    (place : List (List Char)) {list : List (List Char)} (h : ∃ s ∈ list, ¬IsNoDot s) :
    writtenLength (walk kind place list) <
      writtenLength (place ++ list.map (percentEncode pathSet)) := by
  induction list generalizing place with
  | nil =>
    obtain ⟨s, hs, -⟩ := h
    cases hs
  | cons s rest ih =>
    obtain ⟨next, hwalk, hle, hlt⟩ := walk_cons hkind place s rest
    rw [hwalk, List.map_cons, List.append_cons, writtenLength_append]
    -- Either this segment is a dot, or there is one in the rest.
    by_cases hs : IsNoDot s
    · have hrest := ih next (by simpa [hs] using h)
      rw [writtenLength_append] at hrest
      omega
    · have hrest := writtenLength_walk_le hkind next rest
      have hlt := hlt hs
      rw [writtenLength_append] at hrest
      omega

/-! ### Paths that are written as their text -/

/-- A text without dots is walked to a path that is written as this text. -/
theorem render_walk_of_no_dots {text : List Char}
    (h : ∀ s ∈ cutSegments .web text, IsNoDot s) :
    (Path.segments (walk .web [] (cutSegments .web text))).render = '/' :: pathText text := by
  rw [walk_of_no_dots (by decide) h, List.nil_append, render_cutSegments]

/-- The path of a text, of which something may have been left out, is written as the whole text
exactly if nothing was left out, and the text holds no backslash and no dot. -/
theorem render_walk_eq_iff {text whole : List Char} (hsub : text.Sublist whole) :
    (Path.segments (walk .web [] (cutSegments .web text))).render =
        '/' :: percentEncode pathSet whole ↔
      text = whole ∧ '\\' ∉ whole ∧ ∀ s ∈ cutSegments .web whole, IsNoDot s := by
  -- Only lengths are compared: leaving out a character and walking over a dot make what is written
  -- shorter.
  have hlength := length_percentEncode_of_sublist pathSet hsub
  constructor
  · intro hrender
    by_cases hdots : ∀ s ∈ cutSegments .web text, IsNoDot s
    · rw [render_walk_of_no_dots hdots, List.cons.injEq] at hrender
      have hsame := length_pathText text
      rw [hrender.2] at hsame
      obtain rfl : text = whole := hlength.resolve_right (by omega)
      exact ⟨rfl, pathText_eq_iff.1 hrender.2, hdots⟩
    · -- With a dot the path is written too short.
      have hlt : writtenLength (walk .web [] (cutSegments .web text)) <
          writtenLength ([] ++ (cutSegments .web text).map (percentEncode pathSet)) :=
        writtenLength_walk_lt (by decide) [] (by simpa using hdots)
      rw [writtenLength, hrender, List.nil_append, writtenLength, render_cutSegments,
        List.length_cons, List.length_cons, length_pathText] at hlt
      rcases hlength with rfl | hle
      · omega
      · omega
  · rintro ⟨rfl, hback, hdots⟩
    rw [render_walk_of_no_dots hdots, pathText_eq_iff.2 hback]

end ImageSync.Url
