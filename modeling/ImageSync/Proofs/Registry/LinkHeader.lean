import ImageSync.Proofs.Text.Run
import ImageSync.Registry.NextLink

/-!
# `ImageSync.Proofs.Registry.LinkHeader`: reading back a `Link` header

A `Link` header is written entry by entry: the target in angle brackets, then its relation
(`LinkEntry.chars`), and a comma between two entries (`linkHeader`). A target may hold any
character but the brackets themselves.

The reader cuts the header at every comma and an entry at every semicolon, wherever they stand.
So it sees exactly the entries whose target holds neither (`LinkEntry.isWhole`): of these it finds
the first one with the relation `next`, and all others are as if they were not there. This is the
main statement `nextLink?_linkHeader`. Its second half says when that is the first entry with the
relation among all of them, which is the one that leads to the next page: exactly if it is in one
piece, or there is none.

A header is read entry by entry (`nextLink?_append`), so the law of a single one is the step
(`LinkEntry.nextLink?_chars`). An entry that is cut up leads nowhere, whatever its pieces are: a
piece that leads somewhere holds both brackets (`exists_part_of_nextTarget?`), so it holds all that
stands between them (`subset_of_infix`).
-/

set_option autoImplicit false

namespace ImageSync

open Text

/-! ### Headers -/

/-- An entry of a `Link` header. -/
structure LinkEntry where
  target : List Char
  /-- What the target is to the page. -/
  relation : List Char
  deriving DecidableEq, Repr

namespace LinkEntry

/-- Writes the relation of an entry. -/
def parameter (e : LinkEntry) : List Char := " rel=\"".toList ++ e.relation ++ ['"']

/-- Writes an entry. -/
def chars (e : LinkEntry) : List Char := '<' :: (e.target ++ '>' :: ';' :: e.parameter)

/-- Whether an entry has the relation of the next page. -/
def leadsOn (e : LinkEntry) : Bool := e.relation == "next".toList

/-- Whether a character ends an entry or a part of it, as far as the reader can tell. -/
def isLinkSeparator (c : Char) : Bool := c == ',' || c == ';'

/-- Whether a target is in one piece for the reader. -/
def isWhole (e : LinkEntry) : Bool := e.target.all fun c => !isLinkSeparator c

/-- An entry that can be told from what stands around it: the brackets are those around the
target, and the relation is a word. -/
structure Proper (e : LinkEntry) : Prop where
  target : ∀ c ∈ e.target, c ≠ '<' ∧ c ≠ '>'
  relation : ∀ c ∈ e.relation, c ≠ '<' ∧ c ≠ '>' ∧ isLinkSeparator c = false

end LinkEntry

/-- Writes the entries of a header. -/
def linkHeader : List LinkEntry → List Char
  | [] => []
  | [e] => e.chars
  | e :: next :: rest => e.chars ++ ", ".toList ++ linkHeader (next :: rest)

/-! ### Pieces -/

section Piece

variable {piece target : List Char}

/-- A target is what stands between brackets. -/
theorem bracketed_eq_some_iff {cs : List Char} :
    (stripPrefix? ['<'] cs).bind (stripSuffix? ['>']) = some target ↔
      cs = '<' :: (target ++ ['>']) := by
  simp only [Option.bind_eq_some_iff, stripPrefix?_eq_some_iff, stripSuffix?_eq_some_iff]
  constructor
  · intro h
    obtain ⟨rest, rfl, rfl⟩ := h
    rfl
  · intro h
    exact ⟨_, h, rfl⟩

/-- A piece leads somewhere if it has the relation and, up to its first semicolon, nothing but a
target in brackets. -/
theorem nextTarget?_eq_some_iff :
    nextTarget? piece = some target ↔ ∃ first parameters,
      splitAtChar ';' piece = first :: parameters ∧ parameters.any isNextRelation = true ∧
        trim first = '<' :: (target ++ ['>']) := by
  rw [nextTarget?]
  cases hsplit : splitAtChar ';' piece with
  | nil => exact absurd hsplit (splitAtChar_ne_nil ';' piece)
  | cons first parameters =>
    dsimp only
    constructor
    · intro h
      split at h
      · next hany => exact ⟨first, parameters, rfl, hany, bracketed_eq_some_iff.1 h⟩
      · cases h
    · intro h
      obtain ⟨_, _, hparts, hany, htrim⟩ := h
      cases hparts
      rw [if_pos hany]
      exact bracketed_eq_some_iff.2 htrim

/-- The target of a piece stands in it up to the first semicolon, with both brackets. -/
theorem exists_part_of_nextTarget? (h : nextTarget? piece = some target) :
    ∃ part ∈ splitAtChar ';' piece, '<' ∈ part ∧ '>' ∈ part := by
  obtain ⟨first, parameters, hsplit, -, htrim⟩ := nextTarget?_eq_some_iff.1 h
  refine ⟨first, ?_, mem_of_mem_trim ?_, mem_of_mem_trim ?_⟩
  · rw [hsplit]
    exact List.mem_cons_self
  · rw [htrim]
    exact List.mem_cons_self
  · rw [htrim]
    simp

/-- Where no piece holds both brackets between two semicolons, nothing leads on. -/
theorem nextLink?_eq_none {cs : List Char}
    (h : ∀ piece ∈ splitAtChar ',' cs, ∀ part ∈ splitAtChar ';' piece,
      ¬('<' ∈ part ∧ '>' ∈ part)) : nextLink? cs = none := by
  rw [nextLink?, List.findSome?_eq_none_iff]
  intro piece hpiece
  rw [Option.eq_none_iff_forall_not_mem]
  intro target htarget
  obtain ⟨part, hpart, hbrackets⟩ := exists_part_of_nextTarget? htarget
  exact h piece hpiece part hpart hbrackets

/-- A comma separates two headers, of which the first one counts if it leads on. -/
theorem nextLink?_append (front back : List Char) :
    nextLink? (front ++ ',' :: back) = (nextLink? front).or (nextLink? back) := by
  rw [nextLink?, splitAtChar_append_cons, List.findSome?_append]
  rfl

end Piece

/-! ### Entries -/

/-- A part of a text that holds both brackets holds all that stands between them. -/
theorem subset_of_infix {before target after part : List Char} (hbefore : '<' ∉ before)
    (hfront : '>' ∉ before) (htarget : ∀ c ∈ target, c ≠ '<' ∧ c ≠ '>') (hafter : '<' ∉ after)
    (hpart : part <:+: before ++ '<' :: (target ++ '>' :: after)) (hopen : '<' ∈ part)
    (hclose : '>' ∈ part) : target ⊆ part := by
  obtain ⟨front, back, htext⟩ := hpart
  obtain ⟨part₁, part₂, rfl⟩ := List.append_of_mem hopen
  -- The text holds one opening bracket, so it stands at the same place in both.
  have hbehind : '<' ∉ target ++ '>' :: after := by
    simp only [List.mem_append, List.mem_cons, not_or]
    exact ⟨fun hmem => (htarget _ hmem).1 rfl, by decide, hafter⟩
  have hcut : before ++ '<' :: (target ++ '>' :: after) =
      (front ++ part₁) ++ '<' :: (part₂ ++ back) := by
    rw [← htext]
    simp
  obtain ⟨rfl, hrest⟩ := append_cons_inj hbefore hbehind hcut
  -- The closing one of the part is behind that, so the part goes at least to the end of the target.
  have hclose₂ : '>' ∈ part₂ := by
    simp only [List.mem_append, List.mem_cons, not_or] at hfront hclose
    exact hclose.resolve_left hfront.2 |>.resolve_left (by decide)
  intro c hc
  rcases List.append_eq_append_iff.1 hrest with ⟨more, rfl, -⟩ | ⟨more, rfl, -⟩
  · simp [hc]
  · exact absurd rfl (htarget '>' (List.mem_append_left _ hclose₂)).2

namespace LinkEntry

variable {e : LinkEntry} {before : List Char}

/-- Nothing in the parameter can be mistaken for a mark of the entry. -/
theorem Proper.parameter (h : e.Proper) :
    ∀ c ∈ e.parameter, c ≠ '<' ∧ c ≠ '>' ∧ isLinkSeparator c = false := by
  unfold LinkEntry.parameter
  rw [List.forall_mem_append, List.forall_mem_append]
  exact ⟨⟨forall_mem_of_all (by decide), h.relation⟩, forall_mem_of_all (by decide)⟩

/-- A parameter says that an entry leads to the next page exactly if its relation is that. -/
theorem isNextRelation_parameter (e : LinkEntry) : isNextRelation e.parameter = e.leadsOn := by
  have htrim : trim e.parameter = "rel=\"".toList ++ e.relation ++ ['"'] := by
    have hparameter : e.parameter = [' '] ++ ("rel=\"".toList ++ e.relation ++ ['"']) ++ [] := by
      rw [List.append_nil]
      rfl
    rw [hparameter]
    refine trim_of_edges (List.forall_mem_singleton.2 rfl) nofun (by simp) ?_ ?_
    · intro c hc
      cases hc
      decide
    · intro c hc
      rw [List.getLast?_concat] at hc
      cases hc
      decide
  have hquoted : "rel=\"next\"".toList = "rel=\"".toList ++ "next".toList ++ ['"'] := rfl
  rw [Bool.eq_iff_iff, isNextRelation, leadsOn, htrim, hquoted, Bool.or_eq_true, beq_iff_eq,
    beq_iff_eq, beq_iff_eq, List.append_left_inj, List.append_right_inj, or_iff_left_iff_imp]
  -- Without quotes, the word would start where the quote stands.
  intro h
  cases h

/-- An entry in one piece leads on if it has the relation. -/
theorem nextLink?_of_whole (h : e.Proper) (hbefore : ∀ c ∈ before, c = ' ')
    (hwhole : e.isWhole = true) :
    nextLink? (before ++ e.chars) = if e.leadsOn then some e.target else none := by
  have hplain : ∀ c ∈ before ++ '<' :: (e.target ++ ['>']), isLinkSeparator c = false := by
    have htarget : ∀ c ∈ e.target, isLinkSeparator c = false := by
      simpa [isWhole] using hwhole
    rw [List.forall_mem_append, List.forall_mem_cons, List.forall_mem_append]
    refine ⟨fun c hc => ?_, rfl, htarget, List.forall_mem_singleton.2 rfl⟩
    rw [hbefore c hc]
    decide
  have hchars : before ++ e.chars = before ++ '<' :: (e.target ++ ['>']) ++ ';' :: e.parameter := by
    simp [chars]
  -- No comma cuts the value, and of its semicolons only the one behind the bracket does.
  have hcomma : ',' ∉ before ++ e.chars := by
    rw [hchars, List.mem_append, List.mem_cons, not_or, not_or]
    refine ⟨fun hmem => ?_, by decide, fun hmem => ?_⟩
    · cases hplain _ hmem
    · cases (h.parameter _ hmem).2.2
  have hparts : splitAtChar ';' (before ++ e.chars) =
      [before ++ '<' :: (e.target ++ ['>']), e.parameter] := by
    rw [hchars, splitAtChar_append, splitAtChar_of_not_mem]
    · intro hmem
      cases (h.parameter _ hmem).2.2
    · intro hmem
      cases hplain _ hmem
  have htrim : trim (before ++ '<' :: (e.target ++ ['>'])) = '<' :: (e.target ++ ['>']) := by
    have hblank : ∀ c ∈ before, isBlank c = true := fun c hc => hbefore c hc ▸ rfl
    have hlast : ∀ c ∈ ('<' :: (e.target ++ ['>'])).getLast?, isBlank c = false := by
      intro c hc
      rw [← List.cons_append, List.getLast?_concat] at hc
      cases hc
      decide
    have hedges := trim_of_edges hblank (List.forall_mem_nil _) (List.cons_ne_nil _ _)
      (fun c hc => by cases hc; decide) hlast
    rwa [List.append_nil] at hedges
  rw [nextLink?, splitAtChar_of_not_mem hcomma, List.findSome?_singleton, nextTarget?, hparts]
  dsimp only
  rw [htrim, List.any_cons, List.any_nil, Bool.or_false, isNextRelation_parameter]
  congr 1
  exact bracketed_eq_some_iff.2 rfl

/-- An entry that is not in one piece leads nowhere. -/
theorem nextLink?_of_not_whole (h : e.Proper) (hbefore : ∀ c ∈ before, c = ' ')
    (hwhole : e.isWhole = false) : nextLink? (before ++ e.chars) = none := by
  refine nextLink?_eq_none fun piece hpiece part hpart hbrackets => ?_
  have hinpiece := infix_of_mem_splitAtChar hpart
  have hbehind : '<' ∉ ';' :: e.parameter := by
    rw [List.mem_cons, not_or]
    exact ⟨by decide, fun hmem => (h.parameter _ hmem).1 rfl⟩
  have hsubset : e.target ⊆ part := by
    refine subset_of_infix (fun hmem => ?_) (fun hmem => ?_) h.target hbehind
      (hinpiece.trans (infix_of_mem_splitAtChar hpiece)) hbrackets.1 hbrackets.2
    · cases hbefore _ hmem
    · cases hbefore _ hmem
  -- A separator in the target would stand in a part that was cut at all of them.
  obtain ⟨c, hc, hsep⟩ : ∃ c ∈ e.target, isLinkSeparator c = true := by
    simpa [isWhole] using hwhole
  simp only [isLinkSeparator, Bool.or_eq_true, beq_iff_eq] at hsep
  rcases hsep with rfl | rfl
  · exact not_mem_of_mem_splitAtChar hpiece (hinpiece.subset (hsubset hc))
  · exact not_mem_of_mem_splitAtChar hpart (hsubset hc)

/-- An entry leads to the next page if it has the relation and is in one piece. -/
theorem nextLink?_chars (h : e.Proper) (hbefore : ∀ c ∈ before, c = ' ') :
    nextLink? (before ++ e.chars) = if e.leadsOn && e.isWhole then some e.target else none := by
  cases hwhole : e.isWhole with
  | true => rw [nextLink?_of_whole h hbefore hwhole, Bool.and_true]
  | false =>
    rw [nextLink?_of_not_whole h hbefore hwhole, Bool.and_false]
    rfl

end LinkEntry

/-! ### Headers -/

section Header

variable {entries : List LinkEntry}

/-- Behind some blanks, a header leads to the first entry that has the relation and is in one
piece. -/
theorem nextLink?_append_linkHeader (h : ∀ e ∈ entries, e.Proper) {before : List Char}
    (hbefore : ∀ c ∈ before, c = ' ') :
    nextLink? (before ++ linkHeader entries) =
      (entries.find? fun e => e.leadsOn && e.isWhole).map LinkEntry.target := by
  -- By induction on the entries. What stands before one of them is the blank behind the comma.
  induction entries generalizing before with
  | nil =>
    refine nextLink?_eq_none fun piece hpiece part hpart hbrackets => ?_
    have hmem := (infix_of_mem_splitAtChar hpiece).subset
      ((infix_of_mem_splitAtChar hpart).subset hbrackets.1)
    rw [linkHeader, List.append_nil] at hmem
    cases hbefore _ hmem
  | cons e rest ih =>
    obtain ⟨he, hrest⟩ := List.forall_mem_cons.1 h
    have hfirst : (((e :: rest).find? fun e => e.leadsOn && e.isWhole).map LinkEntry.target) =
        (nextLink? (before ++ e.chars)).or
          ((rest.find? fun e => e.leadsOn && e.isWhole).map LinkEntry.target) := by
      rw [LinkEntry.nextLink?_chars he hbefore, List.find?_cons]
      cases e.leadsOn && e.isWhole <;> rfl
    rw [hfirst]
    cases rest with
    | nil => rw [linkHeader, List.find?_nil, Option.map_none, Option.or_none]
    | cons next rest =>
      -- The blank behind the comma is one before the next entry.
      have hcut : before ++ linkHeader (e :: next :: rest) =
          before ++ e.chars ++ ',' :: ([' '] ++ linkHeader (next :: rest)) := by
        simp [linkHeader]
      rw [hcut, nextLink?_append, ih hrest (List.forall_mem_singleton.2 rfl)]

/-- The first entry that leads on in one piece is the first one that leads on at all exactly if that
is in one piece. -/
theorem find?_whole_iff (entries : List LinkEntry) :
    (entries.find? fun e => e.leadsOn && e.isWhole).map LinkEntry.target =
        (entries.find? LinkEntry.leadsOn).map LinkEntry.target ↔
      ∀ e, entries.find? LinkEntry.leadsOn = some e → e.isWhole = true := by
  constructor
  · intro heq e hfirst
    rw [hfirst, Option.map_some, Option.map_eq_some_iff] at heq
    obtain ⟨found, hfound, htarget⟩ := heq
    have hwhole := List.find?_some hfound
    rw [Bool.and_eq_true] at hwhole
    -- Whether an entry is in one piece shows in its target.
    rw [LinkEntry.isWhole, ← htarget]
    exact hwhole.2
  · intro hwhole
    congr 1
    cases hfirst : entries.find? LinkEntry.leadsOn with
    | none =>
      rw [List.find?_eq_none] at hfirst ⊢
      intro e he hboth
      exact hfirst e he (Bool.and_eq_true .. ▸ hboth).1
    | some e =>
      obtain ⟨hleads, front, rest, rfl, hfront⟩ := List.find?_eq_some_iff_append.1 hfirst
      refine List.find?_eq_some_iff_append.2 ⟨?_, front, rest, rfl, fun a ha => ?_⟩
      · rw [hleads, hwhole e hfirst]
        rfl
      · rw [Bool.not_and, hfront a ha, Bool.true_or]

/-- A header leads to the first entry that has the relation of the next page and a target without
commas and semicolons. This is the first entry with the relation, or none if there is none, exactly
if the target of that first entry holds no commas and no semicolons. -/
theorem nextLink?_linkHeader (h : ∀ e ∈ entries, e.Proper) :
    nextLink? (linkHeader entries) =
        (entries.find? fun e => e.leadsOn && e.isWhole).map LinkEntry.target ∧
      (nextLink? (linkHeader entries) = (entries.find? LinkEntry.leadsOn).map LinkEntry.target ↔
        ∀ e, entries.find? LinkEntry.leadsOn = some e → e.isWhole = true) := by
  have hfound := nextLink?_append_linkHeader h (List.forall_mem_nil _)
  rw [List.nil_append] at hfound
  refine ⟨hfound, ?_⟩
  rw [hfound]
  exact find?_whole_iff entries

/-- The next page among others, of which one has a comma in its target. -/
theorem nextLink?_linkHeader_among_others :
    let entries : List LinkEntry := [
      ⟨"https://r.test/v2/_catalog?first=a,b;c".toList, "first".toList⟩,
      ⟨"/v2/_catalog?last=d&n=2".toList, "next".toList⟩,
      ⟨"/v2/_catalog?n=2".toList, "next".toList⟩]
    linkHeader entries = ("<https://r.test/v2/_catalog?first=a,b;c>; rel=\"first\", " ++
        "</v2/_catalog?last=d&n=2>; rel=\"next\", </v2/_catalog?n=2>; rel=\"next\"").toList ∧
      (∀ e ∈ entries, e.Proper) ∧
      nextLink? (linkHeader entries) = some "/v2/_catalog?last=d&n=2".toList ∧
      nextLink? (linkHeader entries) =
        (entries.find? fun e => e.leadsOn && e.isWhole).map LinkEntry.target ∧
      (nextLink? (linkHeader entries) = (entries.find? LinkEntry.leadsOn).map LinkEntry.target ↔
        ∀ e, entries.find? LinkEntry.leadsOn = some e → e.isWhole = true) := by
  intro entries
  have hproper : ∀ e ∈ entries, e.Proper := by
    simp only [entries, List.forall_mem_cons]
    exact ⟨⟨forall_mem_of_all (by decide), forall_mem_of_all (by decide)⟩,
      ⟨forall_mem_of_all (by decide), forall_mem_of_all (by decide)⟩,
      ⟨forall_mem_of_all (by decide), forall_mem_of_all (by decide)⟩, nofun⟩
  have h := nextLink?_linkHeader hproper
  exact ⟨by decide +kernel, hproper, by decide +kernel, h⟩

/-- A target with a comma is lost, and with it the only way to the next page. -/
theorem nextLink?_of_comma :
    let e : LinkEntry := ⟨"/v2/_catalog?n=2&last=a,b".toList, "next".toList⟩
    e.Proper ∧ linkHeader [e] = "</v2/_catalog?n=2&last=a,b>; rel=\"next\"".toList ∧
      ([e].find? LinkEntry.leadsOn).map LinkEntry.target =
        some "/v2/_catalog?n=2&last=a,b".toList ∧
      nextLink? (linkHeader [e]) = none := by
  intro e
  exact ⟨⟨forall_mem_of_all (by decide), forall_mem_of_all (by decide)⟩, by decide +kernel,
    by decide +kernel, by decide +kernel⟩

end Header

end ImageSync
