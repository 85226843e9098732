import ImageSync.Proofs.Registry.LastPage
import ImageSync.Proofs.Registry.LinkHeader

/-!
# `ImageSync.Proofs.Registry.LinkFields`: links in one header field and in several

The entries of a `Link` header are a list. They may stand in one field, with commas between them
(`Joined`), or each in a field of its own; what they say is the same (`Spread`).

A source looks at the first `Link` field of an answer and at no other, and it looks at nothing that
is not plain text. So it sees the entries of one field all together or not at all, and of several
fields it sees the first entry (`link_eq`). Mostly this comes to the same. `Overlooked` says when
it does not: a later entry is the first one that leads on, or a later entry is not plain.

The main statement is `session_spread`. Where no entry is overlooked in an answer of success, a
session does not depend on the way in which the entries of any answer are sent. The condition is
exact for a page of a listing that wants more (`retrieve_spread`): if an entry is overlooked there,
the page has no next one in one of the two ways. The listing then ends with it, without an error,
and in the other way it makes another request or fails.

What a session does with its answers is in `unaffected_session`: two sessions over scripts with
corresponding answers run alike (`SameRun`) if these differ in nothing but their links and lead to
the same next page (`AlikePages`). `SpreadCounts` says of an answer that the way in which its
entries are sent makes a difference exactly if one of them is missed.
-/

set_option autoImplicit false

namespace ImageSync

open Http (Network Response Reply Matched AlikeOutcomes AlikeScripts isHeaderBlank isPlainHeaderChar
  sameHeader)
open Text

/-! ### Blanks around entries -/

section Blanks

variable {before after : List Char}

/-- The blanks of a header are among those that entries are trimmed of. They are plain text, and
none of the signs that entries are cut at. -/
theorem of_isHeaderBlank {c : Char} (h : isHeaderBlank c = true) :
    isBlank c = true ∧ isPlainHeaderChar c = true ∧ c ≠ ',' ∧ c ≠ ';' := by
  simp only [isHeaderBlank, Bool.or_eq_true, beq_iff_eq] at h
  rcases h with rfl | rfl
  · decide
  · decide

/-- Trimming takes away the blanks of a header on both sides. -/
theorem trim_between_headerBlanks (hbefore : ∀ c ∈ before, isHeaderBlank c = true)
    (hafter : ∀ c ∈ after, isHeaderBlank c = true) (cs : List Char) :
    trim (before ++ cs ++ after) = trim cs :=
  trim_between (fun c hc => (of_isHeaderBlank (hbefore c hc)).1)
    (fun c hc => (of_isHeaderBlank (hafter c hc)).1) cs

/-- Blanks around an entry do not count. -/
theorem nextTarget?_between (hbefore : ∀ c ∈ before, isHeaderBlank c = true)
    (hafter : ∀ c ∈ after, isHeaderBlank c = true) (entry : List Char) :
    nextTarget? (before ++ entry ++ after) = nextTarget? entry := by
  have hfirst := fun cs => trim_between_headerBlanks hbefore (List.forall_mem_nil _) cs
  have hlast := fun cs => trim_between_headerBlanks (List.forall_mem_nil _) hafter cs
  simp only [List.append_nil] at hfirst
  simp only [List.nil_append] at hlast
  -- Blanks at the ends belong to the first and the last part of an entry, which may be the same
  -- one.
  rcases splitAtChar_between (fun hmem => (of_isHeaderBlank (hbefore _ hmem)).2.2.2 rfl)
    (fun hmem => (of_isHeaderBlank (hafter _ hmem)).2.2.2 rfl) entry with
    ⟨piece, hpiece, hpiece'⟩ | ⟨first, parameters, last, hparts, hparts'⟩
  · rw [nextTarget?, nextTarget?, hpiece, hpiece']
    rfl
  · rw [nextTarget?, nextTarget?, hparts, hparts']
    simp only [List.any_append, List.any_cons, List.any_nil, isNextRelation, hfirst, hlast]

/-- Blanks around a header do not count. -/
theorem nextLink?_between (hbefore : ∀ c ∈ before, isHeaderBlank c = true)
    (hafter : ∀ c ∈ after, isHeaderBlank c = true) (header : List Char) :
    nextLink? (before ++ header ++ after) = nextLink? header := by
  have hboth := fun entry => nextTarget?_between hbefore hafter entry
  have hfirst := fun entry => nextTarget?_between hbefore (List.forall_mem_nil _) entry
  have hlast := fun entry => nextTarget?_between (List.forall_mem_nil _) hafter entry
  simp only [List.append_nil] at hfirst
  simp only [List.nil_append] at hlast
  -- In the same way they belong to the first and the last entry.
  rcases splitAtChar_between (fun hmem => (of_isHeaderBlank (hbefore _ hmem)).2.2.1 rfl)
    (fun hmem => (of_isHeaderBlank (hafter _ hmem)).2.2.1 rfl) header with
    ⟨entry, hentry, hentry'⟩ | ⟨first, entries, last, hentries, hentries'⟩
  · rw [nextLink?, nextLink?, hentry, hentry', List.findSome?_singleton, hboth,
      List.findSome?_singleton]
  · rw [nextLink?, nextLink?, hentries, hentries']
    simp only [List.findSome?_cons, List.findSome?_append, List.findSome?_nil, hfirst, hlast]

/-- Blanks around a value do not make it less plain. -/
theorem all_plain_between (hbefore : ∀ c ∈ before, isHeaderBlank c = true)
    (hafter : ∀ c ∈ after, isHeaderBlank c = true) (value : List Char) :
    (before ++ value ++ after).all isPlainHeaderChar = value.all isPlainHeaderChar := by
  have hplain : ∀ {blanks : List Char}, (∀ c ∈ blanks, isHeaderBlank c = true) →
      blanks.all isPlainHeaderChar = true := fun hblanks =>
    List.all_eq_true.2 fun c hc => (of_isHeaderBlank (hblanks c hc)).2.1
  rw [List.all_append, List.all_append, hplain hbefore, hplain hafter, Bool.true_and,
    Bool.and_true]

end Blanks

/-! ### What a field says -/

/-- The target that the value of a field leads to, as far as it is read: a value that is not plain
text leads nowhere. -/
def linkIn (value : List Char) : Option (List Char) :=
  if value.all isPlainHeaderChar then nextLink? value else none

/-- Only the first field with the name is read. -/
theorem link_eq (r : Response) :
    (r.plainHeader? "link").bind nextLink? =
      (r.headers.find? fun h => sameHeader h.1 "link").bind fun h => linkIn h.2.toList := by
  rw [Response.plainHeader?, Response.header?]
  cases r.headers.find? fun h => sameHeader h.1 "link" with
  | none => rfl
  | some field =>
    -- A value is received without the blanks at its ends.
    obtain ⟨before, after, hvalue, hbefore, hafter⟩ := exists_strip isHeaderBlank field.2.toList
    have hlink := nextLink?_between hbefore hafter (Http.received field.2)
    have hplain := all_plain_between hbefore hafter (Http.received field.2)
    rw [Option.map_some, Option.bind_some, linkIn, hvalue]
    change _ = if (before ++ Http.received field.2 ++ after).all isPlainHeaderChar = true then
      nextLink? (before ++ Http.received field.2 ++ after) else none
    rw [hlink, hplain, Option.filter_some]
    split
    · rfl
    · rfl

/-- Entries in one field: there is a comma between two of them, with any blanks around it. -/
inductive Joined : List (List Char) → List Char → Prop where
  | last (entry : List Char) : Joined [entry] entry
  | cons {before after : List Char} {entries : List (List Char)} {value : List Char}
      (entry : List Char) (hbefore : ∀ c ∈ before, isHeaderBlank c = true)
      (hafter : ∀ c ∈ after, isHeaderBlank c = true) (h : Joined entries value) :
      Joined (entry :: entries) (entry ++ before ++ ',' :: (after ++ value))

namespace Joined

variable {entries : List (List Char)} {value : List Char}

/-- One field leads to the target of the first entry that leads on. -/
theorem nextLink?_eq (h : Joined entries value) :
    nextLink? value = entries.findSome? nextLink? := by
  induction h with
  | last entry => rw [List.findSome?_singleton]
  | @cons before after entries value entry hbefore hafter h ih =>
    have hentry := nextLink?_between (List.forall_mem_nil _) hbefore entry
    have hvalue := nextLink?_between hafter (List.forall_mem_nil _) value
    rw [List.nil_append] at hentry
    rw [List.append_nil] at hvalue
    rw [nextLink?_append, hentry, hvalue, ih, List.findSome?_cons]
    cases nextLink? entry <;> rfl

/-- It is plain text if all entries are. -/
theorem all_plain (h : Joined entries value) :
    value.all isPlainHeaderChar = entries.all fun entry => entry.all isPlainHeaderChar := by
  induction h with
  | last entry => rw [List.all_cons, List.all_nil, Bool.and_true]
  | @cons before after entries value entry hbefore hafter h ih =>
    have hentry := all_plain_between (List.forall_mem_nil _) hbefore entry
    have hvalue := all_plain_between hafter (List.forall_mem_nil _) value
    rw [List.nil_append] at hentry
    rw [List.append_nil] at hvalue
    have hcomma : isPlainHeaderChar ',' = true := by decide
    rw [List.all_append, List.all_cons, hentry, hvalue, ih, hcomma, Bool.true_and, List.all_cons]

/-- One field leads where the first entry that leads on does, unless some entry is not plain text.
-/
theorem linkIn_eq (h : Joined entries value) :
    linkIn value =
      if entries.all fun entry => entry.all isPlainHeaderChar then entries.findSome? nextLink?
      else none := by
  rw [linkIn, h.all_plain, h.nextLink?_eq]

end Joined

/-- The first entry does not say where all of them lead to. -/
inductive Overlooked : List (List Char) → Prop where
  /-- It leads nowhere, but a later one leads on. -/
  | later {first : List Char} {rest : List (List Char)}
      (hplain : ∀ entry ∈ first :: rest, entry.all isPlainHeaderChar = true)
      (hfirst : nextLink? first = none) (hrest : ∃ entry ∈ rest, nextLink? entry ≠ none) :
      Overlooked (first :: rest)
  /-- It leads on, but not together with a later one that is not plain text. -/
  | hidden {first : List Char} {rest : List (List Char)}
      (hplain : first.all isPlainHeaderChar = true) (hfirst : nextLink? first ≠ none)
      (hrest : ∃ entry ∈ rest, entry.all isPlainHeaderChar = false) : Overlooked (first :: rest)

namespace Joined

variable {first value : List Char} {rest : List (List Char)}

/-- Where the first entry says where all of them lead to, one field leads there, too. -/
theorem linkIn_of_not_overlooked (h : Joined (first :: rest) value)
    (hnot : ¬Overlooked (first :: rest)) : linkIn value = linkIn first := by
  have hvalue := h.linkIn_eq
  rw [List.all_cons, List.findSome?_cons] at hvalue
  rw [hvalue, linkIn]
  cases hplain : first.all isPlainHeaderChar with
  | false => rfl
  | true =>
    rw [Bool.true_and, if_pos rfl]
    by_cases hrest : ∀ entry ∈ rest, entry.all isPlainHeaderChar = true
    · rw [if_pos (List.all_eq_true.2 hrest)]
      cases hfirst : nextLink? first with
      | some target => rfl
      | none =>
        -- A later entry that leads on would be overlooked.
        refine List.findSome?_eq_none_iff.2 fun entry hentry => Classical.not_not.1 fun hleads => ?_
        exact hnot (.later (List.forall_mem_cons.2 ⟨hplain, hrest⟩) hfirst ⟨entry, hentry, hleads⟩)
    · rw [if_neg fun hall => hrest (List.all_eq_true.1 hall)]
      cases hfirst : nextLink? first with
      | none => rfl
      | some target =>
        have hleads : nextLink? first ≠ none := by
          rw [hfirst]
          nofun
        exact absurd (.hidden hplain hleads (by simpa using hrest)) hnot

/-- Where it does not, either the first entry or the field leads nowhere, and the other one does
lead on. -/
theorem linkIn_of_overlooked (h : Joined (first :: rest) value)
    (hoverlooked : Overlooked (first :: rest)) :
    (linkIn value = none ∧ linkIn first ≠ none) ∨ (linkIn value ≠ none ∧ linkIn first = none) := by
  rw [h.linkIn_eq, linkIn]
  cases hoverlooked with
  | later hplain hfirst hrest =>
    refine .inr ⟨?_, ?_⟩
    · rw [if_pos (List.all_eq_true.2 hplain), Ne, List.findSome?_eq_none_iff]
      obtain ⟨entry, hentry, hleads⟩ := hrest
      exact fun hnone => hleads (hnone entry (List.mem_cons_of_mem _ hentry))
    · rw [if_pos (hplain first List.mem_cons_self), hfirst]
  | hidden hplain hfirst hrest =>
    refine .inl ⟨if_neg fun hall => ?_, ?_⟩
    · obtain ⟨entry, hentry, hnot⟩ := hrest
      rw [List.all_eq_true.1 hall entry (List.mem_cons_of_mem _ hentry)] at hnot
      cases hnot
    · rw [if_pos hplain]
      exact hfirst

end Joined

/-! ### Answers -/

/-- An answer has all entries in one `Link` field, and another one is the same but has each of them
in a field of its own, in the same place and order. -/
inductive Spread (front : List (String × String)) (entries : List (List Char)) :
    Response → Response → Prop where
  | intro {r : Response} {name value : String} {fields back : List (String × String)}
      (hname : sameHeader name "link" = true) (hvalue : Joined entries value.toList)
      (hnames : ∀ field ∈ fields, sameHeader field.1 "link" = true)
      (hvalues : fields.map (fun field => field.2.toList) = entries) :
      Spread front entries { r with headers := front ++ (name, value) :: back }
        { r with headers := front ++ (fields ++ back) }

/-- The way in which the entries are sent shows: no `Link` field stands in front of them, and the
first one does not say where all of them lead to. -/
structure Missed (front : List (String × String)) (entries : List (List Char)) : Prop where
  front : ∀ field ∈ front, sameHeader field.1 "link" = false
  entries : Overlooked entries

namespace Spread

variable {front : List (String × String)} {entries : List (List Char)} {r r' : Response}

/-- The two answers differ in nothing but their links. -/
theorem sameBut (h : Spread front entries r r') : Response.SameBut "link" r r' := by
  cases h with
  | @intro r name value fields back hname hvalue hnames hvalues =>
    refine ⟨rfl, rfl, rfl, ?_⟩
    have hfields : fields.filter (fun field => !sameHeader field.1 "link") = [] := by
      rw [List.filter_eq_nil_iff]
      intro field hfield
      rw [hnames field hfield]
      nofun
    dsimp only
    rw [List.filter_append, List.filter_append, List.filter_append, List.filter_cons, hname,
      hfields]
    rfl

/-- Both lead to the same target unless an entry is missed. Then one of them leads nowhere. -/
theorem missed_cases (h : Spread front entries r r') :
    (¬Missed front entries ∧
        (r.plainHeader? "link").bind nextLink? = (r'.plainHeader? "link").bind nextLink?) ∨
      Missed front entries ∧
        (((r.plainHeader? "link").bind nextLink? = none ∧
            (r'.plainHeader? "link").bind nextLink? ≠ none) ∨
          ((r.plainHeader? "link").bind nextLink? ≠ none ∧
            (r'.plainHeader? "link").bind nextLink? = none)) := by
  rw [link_eq, link_eq]
  cases h with
  | @intro r name value fields back hname hvalue hnames hvalues =>
    dsimp only
    rw [List.find?_append, List.find?_append]
    cases hfront : front.find? fun field => sameHeader field.1 "link" with
    | some field =>
      -- A field in front of them is the one that is read.
      refine .inl ⟨fun hmissed => ?_, rfl⟩
      have hnot := hmissed.front field (List.mem_of_find?_eq_some hfront)
      rw [List.find?_some hfront] at hnot
      cases hnot
    | none =>
      rw [List.find?_eq_none] at hfront
      have hclear : ∀ field ∈ front, sameHeader field.1 "link" = false := fun field hfield =>
        Bool.eq_false_iff.2 (hfront field hfield)
      rw [Option.none_or, Option.none_or, List.find?_cons, hname]
      cases fields with
      | nil =>
        subst hvalues
        cases hvalue
      | cons field fields =>
        subst hvalues
        rw [List.cons_append, List.find?_cons, hnames field List.mem_cons_self]
        dsimp only
        rw [Option.bind_some, Option.bind_some]
        by_cases hoverlooked : Overlooked (field.2.toList :: fields.map fun field => field.2.toList)
        · exact .inr ⟨⟨hclear, hoverlooked⟩, hvalue.linkIn_of_overlooked hoverlooked⟩
        · exact .inl ⟨fun hmissed => hoverlooked hmissed.entries,
            hvalue.linkIn_of_not_overlooked hoverlooked⟩

end Spread

namespace CatalogSource

variable {s : CatalogSource} {front : List (String × String)} {entries : List (List Char)}
  {r r' : Response}

/-- The next page depends on the target of the link, and on nothing else in an answer. -/
theorem nextPage_congr
    (h : (r.plainHeader? "link").bind nextLink? = (r'.plainHeader? "link").bind nextLink?) :
    s.nextPage r = s.nextPage r' := by
  rw [nextPage, nextPage, h]

/-- There is no next page exactly if the link of an answer leads nowhere. -/
theorem nextPage_eq_none_iff :
    s.nextPage r = .ok none ↔ (r.plainHeader? "link").bind nextLink? = none := by
  rw [nextPage_eq_ok_iff]
  constructor
  · intro hleads
    cases hleads with
    | nowhere h => exact h
  · exact .nowhere

/-- The next page is the same for both answers exactly if no entry is missed. Otherwise one of them
has no next page. -/
theorem nextPage_spread (h : Spread front entries r r') :
    (s.nextPage r = s.nextPage r' ↔ ¬Missed front entries) ∧
      (Missed front entries → s.nextPage r = .ok none ∨ s.nextPage r' = .ok none) := by
  rcases h.missed_cases with ⟨hnot, heq⟩ | ⟨hmissed, hdiffer⟩
  · exact ⟨⟨fun _ => hnot, fun _ => nextPage_congr heq⟩, fun hmissed => absurd hmissed hnot⟩
  · have hnone : s.nextPage r = .ok none ∨ s.nextPage r' = .ok none := by
      rcases hdiffer with ⟨hnone, -⟩ | ⟨-, hnone⟩
      · exact .inl (nextPage_eq_none_iff.2 hnone)
      · exact .inr (nextPage_eq_none_iff.2 hnone)
    refine ⟨⟨fun heq => ?_, fun hnot => absurd hmissed hnot⟩, fun _ => hnone⟩
    -- If the next page were the same, there would be none for both.
    rcases hdiffer with ⟨hr, hr'⟩ | ⟨hr, hr'⟩
    · exact absurd (nextPage_eq_none_iff.1 (heq.symm.trans (nextPage_eq_none_iff.2 hr))) hr'
    · exact absurd (nextPage_eq_none_iff.1 (heq.trans (nextPage_eq_none_iff.2 hr'))) hr

/-! ### Sessions -/

/-- Two answers that a source cannot tell apart: they differ in nothing but their links, and with a
status of success they lead to the same next page. -/
structure AlikePages (s : CatalogSource) (r r' : Response) : Prop where
  same : Response.SameBut "link" r r'
  next : r.isSuccess = true → s.nextPage r = s.nextPage r'

namespace AlikePages

/-- An answer cannot be told apart from itself. -/
theorem refl (s : CatalogSource) (r : Response) : s.AlikePages r r := ⟨.refl _ r, fun _ => rfl⟩

/-- It does not matter which of the two answers comes first, since they are answers of success
together. -/
theorem symm (h : s.AlikePages r r') : s.AlikePages r' r :=
  ⟨h.same.symm, fun hsuccess => (h.next (h.same.isSuccess_eq.trans hsuccess)).symm⟩

/-- The text of an answer is in none of its links. -/
theorem text_eq (h : s.AlikePages r r') : r.text = r'.text :=
  h.same.text_eq (by decide)

/-- Where an answer redirects to is in none of its links. -/
theorem redirectTarget?_eq (h : s.AlikePages r r') (url : Url) :
    Http.redirectTarget? url r = Http.redirectTarget? url r' :=
  h.same.redirectTarget?_eq (by decide) url

/-- An error quotes the status and the text, so both answers are reported in the same words. -/
theorem statusError_eq (h : s.AlikePages r r') : statusError r = statusError r' := by
  rw [statusError, statusError, h.same.status, h.text_eq]

/-- The names of an answer are in its body. -/
theorem readNames_eq (h : s.AlikePages r r') (record field : String) :
    readNames record field r = readNames record field r' := by
  rw [readNames, readNames, h.same.content?_eq]

/-- Both answers hold the same page: the same names, and the same next page behind them. -/
theorem readPage_eq (h : s.AlikePages r r') : s.readPage r = s.readPage r' := by
  rw [CatalogSource.readPage_eq, CatalogSource.readPage_eq, ← h.same.isSuccess_eq, ← h.text_eq,
    ← h.same.status, ← h.readNames_eq]
  cases hsuccess : r.isSuccess with
  | false => rfl
  | true => rw [h.next hsuccess]

/-- Both answers hold the same tags, or fail in the same way. -/
theorem readTags_eq (h : s.AlikePages r r') : readTags r = readTags r' := by
  rw [readTags, readTags, ← h.same.status, ← h.same.isSuccess_eq, ← h.statusError_eq,
    ← h.readNames_eq]

end AlikePages

/-- An action has the same outcome on networks that a source cannot tell apart, and leaves such
networks. -/
abbrev Unaffected (s : CatalogSource) {α : Type} (x x' : StateM Network α) : Prop :=
  Matched (Network.Alike s.AlikePages) Eq x x'

section Unaffected

variable {α β : Type}

/-- Actions in a row are unaffected if each of them is. After a failure the second one is not run.
-/
theorem Unaffected.bindM {x : CatalogM α} {k : α → CatalogM β} (hx : s.Unaffected x.run x.run)
    (hk : ∀ a, s.Unaffected (k a).run (k a).run) : s.Unaffected (x >>= k).run (x >>= k).run := by
  rw [ExceptT.run_bind]
  refine hx.bind fun outcome outcome' h => ?_
  subst h
  cases outcome with
  | error e => exact .pure rfl
  | ok a => exact hk a

/-- What does not reach for the network is unaffected. -/
theorem unaffected_ofExcept (x : Except RegistryError α) :
    s.Unaffected (CatalogM.ofExcept x).run (CatalogM.ofExcept x).run := .pure rfl

/-- A request gets answers that cannot be told apart. -/
theorem matched_request (s : CatalogSource) (url : Url) :
    Matched (Network.Alike s.AlikePages) (AlikeOutcomes s.AlikePages) (s.request url).run
      (s.request url).run := by
  cases hcredentials : s.credentialsFor url with
  | error e =>
    intro n n' hn
    have hrequest : ∀ n, (s.request url).run n = (.error e, n) := by
      intro n
      have happly := s.request_apply url n
      rwa [hcredentials] at happly
    rw [hrequest, hrequest]
    exact ⟨.same _, hn⟩
  | ok a =>
    rw [run_request hcredentials]
    refine (Http.matched_send (fun r r' h => h.redirectTarget?_eq) _ url a).bind ?_
    intro outcome outcome' h
    cases h with
    | same outcome => exact .pure (.same _)
    | answered hr => exact .pure (.answered hr)

/-- What is done with an answer is the same if it is for answers that cannot be told apart. -/
theorem unaffected_request_bind (url : Url) {k : Response → CatalogM α}
    (hk : ∀ r r', s.AlikePages r r' → s.Unaffected (k r).run (k r').run) :
    s.Unaffected (s.request url >>= k).run (s.request url >>= k).run := by
  rw [ExceptT.run_bind]
  refine (s.matched_request url).bind fun outcome outcome' h => ?_
  cases h with
  | same outcome =>
    cases outcome with
    | error e => exact .pure rfl
    | ok r => exact hk r r (.refl s r)
  | answered hr => exact hk _ _ hr

/-- A listing is unaffected, whatever pages it may still ask for. -/
theorem unaffected_listPages (bound fuel : Nat) (url : Url) (names : List String) :
    s.Unaffected (s.listPages bound fuel url names).run (s.listPages bound fuel url names).run := by
  -- By induction on the pages that may be asked for: one request, and the rest of the listing.
  induction fuel generalizing url names with
  | zero => exact .pure rfl
  | succ fuel ih =>
    rw [listPages]
    refine unaffected_request_bind url fun r r' hr => ?_
    rw [hr.readPage_eq]
    refine (unaffected_ofExcept (s.readPage r')).bindM fun page => ?_
    dsimp only
    split
    · split
      · exact ih _ _
      · exact .pure rfl
    · exact .pure rfl

/-- The listing of a repository is unaffected, for any bound. -/
theorem unaffected_retrieve (bound : Nat) :
    s.Unaffected (s.retrieve bound).run (s.retrieve bound).run := by
  rw [retrieve]
  refine (unaffected_ofExcept s.firstPage).bindM fun first => ?_
  intro n n' hn
  -- The number of replies to come bounds the pages, and is the same on both networks.
  have hpages := unaffected_listPages bound (n.replies.length + 1) first [] n n' hn
  have hlimit : n.replies.length + 1 = n'.replies.length + 1 := by rw [hn.replies.length_eq]
  rw [show (s.listPages bound (n.replies.length + 1) first []).run n' =
    (s.listPages bound (n'.replies.length + 1) first []).run n' by rw [hlimit]] at hpages
  exact hpages

/-- The probe is unaffected: it looks at the status, and quotes the text. -/
theorem unaffected_ping : s.Unaffected s.ping.run s.ping.run := by
  rw [ping]
  refine (unaffected_ofExcept (s.endpoint "v2/".toList)).bindM fun url => ?_
  refine unaffected_request_bind url fun r r' hr => ?_
  rw [hr.same.isSuccess_eq, hr.same.status, hr.text_eq]
  split
  · exact .pure rfl
  · exact .pure rfl

/-- The listing of tags is unaffected, although it reads no link at all. -/
theorem unaffected_listTags (repository : String) :
    s.Unaffected (s.listTags repository).run (s.listTags repository).run := by
  rw [listTags]
  refine (unaffected_ofExcept (s.endpoint (tagsPath repository))).bindM fun url => ?_
  refine unaffected_request_bind url fun r r' hr => ?_
  rw [hr.readTags_eq]
  exact unaffected_ofExcept _

/-- No operation of a source is affected. -/
theorem unaffected_perform (op : Operation) :
    s.Unaffected (s.perform op).run (s.perform op).run := by
  cases op with
  | retrieve bound => exact unaffected_retrieve bound
  | ping => exact unaffected_ping.bindM fun _ => .pure rfl
  | listTags repository => exact unaffected_listTags repository

/-- A session has the same outcomes and makes the same requests on networks that a source cannot
tell apart. -/
theorem unaffected_session (ops : List Operation) :
    s.Unaffected (s.session ops) (s.session ops) := by
  -- Each operation leaves networks that cannot be told apart, so the next one can start from them.
  induction ops with
  | nil => exact .pure rfl
  | cons op ops ih =>
    rw [session]
    refine (unaffected_perform op).bind fun outcome outcome' h => ?_
    subst h
    refine ih.bind fun outcomes outcomes' h => ?_
    subst h
    exact .pure rfl

end Unaffected

/-! ### Entries in other fields -/

/-- Of two answers one has in one `Link` field what the other has in several. With a status of
success, no entry is missed. -/
inductive Respread : Response → Response → Prop where
  | spread {front : List (String × String)} {entries : List (List Char)} {r r' : Response}
      (h : Spread front entries r r') (hseen : r.isSuccess = true → ¬Missed front entries) :
      Respread r r'
  | joined {front : List (String × String)} {entries : List (List Char)} {r r' : Response}
      (h : Spread front entries r r') (hseen : r.isSuccess = true → ¬Missed front entries) :
      Respread r' r

/-- Answers that have their entries in other fields, with none missed, cannot be told apart. -/
theorem Respread.alikePages (h : Respread r r') : s.AlikePages r r' := by
  cases h with
  | spread h hseen =>
    exact ⟨h.sameBut, fun hsuccess => (nextPage_spread h).1.2 (hseen hsuccess)⟩
  | joined h hseen =>
    have halike : s.AlikePages r' r :=
      ⟨h.sameBut, fun hsuccess => (nextPage_spread h).1.2 (hseen hsuccess)⟩
    exact halike.symm

/-- Two runs are the same: they have the same outcome, and make the same requests. -/
def SameRun {α : Type} (run run' : α × Network) : Prop :=
  run.1 = run'.1 ∧ run.2.requests = run'.2.requests

section Listing

variable {bound : Nat} {first url : Url} {n : Network} {names all : List String}

/-- A listing that goes on and comes to names has made another request. -/
theorem requests_lt_list {tooMany : RegistryError} {fuel : Nat}
    (h : (s.pager.list tooMany bound fuel url names n).1 = .ok all) :
    n.requests.length < (s.pager.list tooMany bound fuel url names n).2.requests.length := by
  cases fuel with
  | zero => cases h
  | succ fuel =>
    -- The first page is asked for with a request of its own, and those of later pages only add to
    -- it.
    have hgrown : (s.pager url n).2.requests <+:
        (s.pager.list tooMany bound (fuel + 1) url names n).2.requests :=
      Pager.list_succ_related (R := fun n n' => n.requests <+: n'.requests)
        (fun _ => List.prefix_refl _) List.IsPrefix.trans s.requests_prefix_pager tooMany bound fuel
        url names n
    have hpage : ∃ more next, (s.pager url n).1 = .ok (more, next) := by
      rw [Pager.list] at h
      rcases hfetch : s.pager url n with ⟨e | ⟨more, next⟩, n'⟩
      · rw [hfetch] at h
        cases h
      · exact ⟨more, next, rfl⟩
    obtain ⟨more, next, hpage⟩ := hpage
    exact Nat.lt_of_lt_of_le (requests_pager_lt hpage) hgrown.length_le

/-- A listing that wants more does not come to the same with a next page and without one: it fails,
or it makes another request. -/
theorem goOn_ne {fuel : Nat} {next : Except RegistryError (Option Url)}
    (hmore : wantsMore bound names.length = true) (hnext : next ≠ .ok none) :
    ¬SameRun (s.goOn bound fuel names n (.ok none)) (s.goOn bound fuel names n next) := by
  intro heq
  obtain ⟨hnames, hrequests⟩ := heq
  -- The listing without a next page is over. The other one fails or goes on.
  rcases next with e | _ | next
  · cases hnames
  · exact hnext rfl
  · rw [goOn, goOn, if_pos hmore] at hnames hrequests
    have hlt := requests_lt_list hnames.symm
    rw [← hrequests] at hlt
    exact Nat.lt_irrefl _ hlt

/-- The way in which the entries of an answer are sent makes no difference to a listing exactly if
no entry is missed: with an answer in its place that has them in other fields, the run is the
same. -/
def SpreadCounts (s : CatalogSource) (bound : Nat) (n : Network) (r : Response) : Prop :=
  ∃ used left, n.replies = used ++ .answered r :: left ∧
    ∀ front entries r', Spread front entries r r' ∨ Spread front entries r' r →
      (SameRun (s.retrieve bound n)
          (s.retrieve bound (n.scripted (used ++ .answered r' :: left))) ↔
        ¬Missed front entries)

/-- This is so for each page of a listing that wants more. -/
theorem retrieve_spread (t : s.pager.Trail bound first n) (hfirst : s.firstPage = .ok first)
    {i : Nat} (hi : i ≤ t.last) (hrequest : (s.request (t.key i) (t.before i)).1 = .ok r)
    (hsuccess : r.isSuccess = true) (hnames : Lists r "repositories" names)
    (hmore : wantsMore bound (t.page.names i ++ names).length = true) :
    s.SpreadCounts bound n r := by
  obtain ⟨used, left, fuel, hreplies, hother⟩ :=
    retrieve_other_link t hfirst hi hrequest hsuccess hnames
  refine ⟨used, left, hreplies, fun front entries r' hspread => ?_⟩
  have hown := hother r (.refl "link" r)
  rw [Network.scripted, ← hreplies] at hown
  have hsame : Response.SameBut "link" r r' := hspread.elim Spread.sameBut fun h => h.sameBut.symm
  -- What is said of the next page does not depend on which of the two answers is the one that came.
  have hnext : (s.nextPage r = s.nextPage r' ↔ ¬Missed front entries) ∧
      (Missed front entries → s.nextPage r = .ok none ∨ s.nextPage r' = .ok none) := by
    rcases hspread with h | h
    · exact nextPage_spread h
    · obtain ⟨hiff, hnone⟩ := @nextPage_spread s _ _ _ _ h
      exact ⟨eq_comm.trans hiff, fun hmissed => (hnone hmissed).symm⟩
  rw [show s.retrieve bound n = _ from hown, hother r' hsame, ← hnext.1]
  constructor
  · intro heq
    refine Classical.byContradiction fun hne => ?_
    have hmissed := Classical.not_not.1 fun hnot => hne (hnext.1.2 hnot)
    rcases hnext.2 hmissed with hnone | hnone
    · rw [hnone] at heq hne
      exact goOn_ne hmore (Ne.symm hne) heq
    · rw [hnone] at heq hne
      exact goOn_ne hmore hne ⟨heq.1.symm, heq.2.symm⟩
  · intro heq
    rw [heq]
    exact ⟨rfl, rfl⟩

end Listing

/-- Over two scripts that have the entries of their links in other fields, a session has the same
outcomes and makes the same requests, if no entry is missed in an answer of success. The condition
is exact for the pages of each listing, as long as it wants more: it has the same outcome and makes
the same requests with the entries of one page in other fields if and only if no entry is missed. -/
theorem session_spread {files : Files} {config : RegistryConfig}
    (hs : create files config = .ok s) :
    (∀ (ops : List Operation) (n n' : Network), n.Alike Respread n' →
      SameRun (s.session ops n) (s.session ops n')) ∧
    ∀ (bound : Nat) (n : Network), ∃ first, ∃ t : s.pager.Trail bound first n, GoesAlong t ∧
      ∀ i ≤ t.last, ∀ r names, (s.request (t.key i) (t.before i)).1 = .ok r →
        r.isSuccess = true → Lists r "repositories" names →
        wantsMore bound (t.page.names i ++ names).length = true → s.SpreadCounts bound n r := by
  constructor
  · intro ops n n' hn
    have halike : n.Alike s.AlikePages n' :=
      ⟨hn.connects, hn.replies.mono fun r r' h => h.alikePages, hn.requests⟩
    obtain ⟨houtcomes, hafter⟩ := unaffected_session ops n n' halike
    exact ⟨houtcomes, hafter.requests⟩
  · intro bound n
    obtain ⟨first, t, ht⟩ := exists_trail hs bound n
    refine ⟨first, t, ht, fun i hi r names hrequest hsuccess hnames hmore => ?_⟩
    exact retrieve_spread t ht.opens hi hrequest hsuccess hnames hmore

/-- A first page that leads on with its first entry, which once shares its field with another one
and once has a field of its own. -/
theorem session_spread_first_entry :
    let config : RegistryConfig := { url := "http://registry.test" }
    let place : Url.Authority := ⟨[], [], .name "registry.test".toList, none⟩
    let s : CatalogSource := ⟨config, ⟨"http".toList, some place, .segments [[]], none, none⟩⟩
    let opens : Url := ⟨"http".toList, some place, .segments ["v2".toList, "_catalog".toList],
      some "n=100".toList, none⟩
    let page : Response := { body := Text.utf8 "[[\"a\"]]".toList }
    let next := "</v2/_catalog?last=a>; rel=\"next\""
    let first := "</v2/_catalog>; rel=\"first\""
    let r : Response :=
      { page with headers := [("Date", "now"), ("Link", next ++ " , " ++ first), ("Via", "x")] }
    let r' : Response :=
      { page with headers := [("Date", "now"), ("link", next), ("LINK", first), ("Via", "x")] }
    let n : Network := ⟨["http".toList], [.answered r, .answered page], []⟩
    let n' : Network := ⟨["http".toList], [.answered r', .answered page], []⟩
    create (fun _ => .error .absent) config = .ok s ∧
      (n.Alike Respread n' ∧ Spread [("Date", "now")] [next.toList, first.toList] r r' ∧
        (s.session [.retrieve 0] n).2.requests.map (·.url.render) =
          ["http://registry.test/v2/_catalog?n=100", "http://registry.test/v2/_catalog?last=a"] ∧
        SameRun (s.session [.retrieve 0] n) (s.session [.retrieve 0] n')) ∧
      (s.request opens n).1 = .ok r ∧ r.isSuccess = true ∧ Lists r "repositories" ["a"] ∧
      s.SpreadCounts 0 n r := by
  intro config place s opens page next first r r' n n'
  have hs : create (fun _ => .error .absent) config = .ok s :=
    eq_ok_of_toOption (by decide +kernel)
  have hvalue : Joined [next.toList, first.toList] (next ++ " , " ++ first).toList := by
    have hchars : (next ++ " , " ++ first).toList =
        next.toList ++ [' '] ++ ',' :: ([' '] ++ first.toList) := by decide +kernel
    rw [hchars]
    exact .cons _ (List.forall_mem_singleton.2 rfl) (List.forall_mem_singleton.2 rfl) (.last _)
  have hspread : Spread [("Date", "now")] [next.toList, first.toList] r r' :=
    @Spread.intro _ _ page "Link" (next ++ " , " ++ first) [("link", next), ("LINK", first)]
      [("Via", "x")] (by decide) hvalue (by decide) rfl
  have hseen : ¬Missed [("Date", "now")] [next.toList, first.toList] := by
    intro hmissed
    cases hmissed.entries with
    | later _ hfirst => exact absurd hfirst (by decide +kernel)
    | hidden _ _ hrest => exact absurd hrest (by decide +kernel)
  have halike : n.Alike Respread n' :=
    ⟨rfl, .answered (.spread hspread fun _ => hseen) (.same _ .nil), rfl⟩
  have hrequest : (s.request opens n).1 = .ok r := eq_ok_of_toOption (by decide +kernel)
  have hsuccess : r.isSuccess = true := by decide
  have hnames : Lists r "repositories" ["a"] :=
    (@readNames_eq_ok_iff r "a page" _ _).1 (eq_ok_of_toOption (by decide +kernel))
  obtain ⟨hsession, hlisting⟩ := session_spread hs
  refine ⟨hs, ⟨halike, hspread, by decide +kernel, hsession [.retrieve 0] n n' halike⟩, hrequest,
    hsuccess, hnames, ?_⟩
  obtain ⟨opens', t, ht, hpages⟩ := hlisting 0 n
  obtain rfl : opens = opens' :=
    Except.ok.inj ((eq_ok_of_toOption (by decide +kernel)).symm.trans ht.opens)
  have hfirst := hpages 0 (Nat.zero_le _) r ["a"]
  rw [t.key_zero, t.before_zero] at hfirst
  exact hfirst hrequest hsuccess hnames rfl

/-- The next page is named by the second entry. If this shares the field of the first one, the
listing goes on; if it has a field of its own, the listing ends with the first page. -/
theorem second_field_overlooked :
    let config : RegistryConfig := { url := "http://registry.test" }
    let s : CatalogSource := ⟨config, ⟨"http".toList,
      some ⟨[], [], .name "registry.test".toList, none⟩, .segments [[]], none, none⟩⟩
    let page : String → List (String × String) → Response := fun name headers =>
      { headers, body := Text.utf8 ("[[\"" ++ name ++ "\"]]").toList }
    let first := "</v2/_catalog>; rel=\"first\""
    let next := "</v2/_catalog?last=a>; rel=\"next\""
    let r := page "a" [("Link", first ++ ", " ++ next)]
    let r' := page "a" [("Link", first), ("Link", next)]
    let session := fun r : Response =>
      s.session [.retrieve 0] ⟨["http".toList], [.answered r, .answered (page "b" [])], []⟩
    (create (fun _ => .error .absent) config).toOption = some s ∧
      Spread [] [first.toList, next.toList] r r' ∧
      (session r).1.map Except.toOption = [some ["a", "b"]] ∧
      (session r).2.requests.map (·.url.render) =
        ["http://registry.test/v2/_catalog?n=100", "http://registry.test/v2/_catalog?last=a"] ∧
      (session r').1.map Except.toOption = [some ["a"]] ∧
      (session r').2.requests.map (·.url.render) = ["http://registry.test/v2/_catalog?n=100"] := by
  intro config s page first next r r' session
  have hvalue : Joined [first.toList, next.toList] (first ++ ", " ++ next).toList := by
    have hchars : (first ++ ", " ++ next).toList =
        first.toList ++ [] ++ ',' :: ([' '] ++ next.toList) := by decide +kernel
    rw [hchars]
    exact .cons _ (List.forall_mem_nil _) (List.forall_mem_singleton.2 rfl) (.last _)
  have hspread : Spread [] [first.toList, next.toList] r r' :=
    @Spread.intro _ _ (page "a" []) "Link" (first ++ ", " ++ next)
      [("Link", first), ("Link", next)] [] (by decide) hvalue (by decide) rfl
  refine ⟨?_, hspread, ?_, ?_, ?_, ?_⟩
  · decide +kernel
  · decide +kernel
  · decide +kernel
  · decide +kernel
  · decide +kernel

end CatalogSource

end ImageSync
