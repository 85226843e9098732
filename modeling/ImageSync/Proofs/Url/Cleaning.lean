import ImageSync.Proofs.Text.Run
import ImageSync.Url.Resolve
import Mathlib.Data.List.TakeWhile

/-!
# `ImageSync.Proofs.Url.Cleaning`: what is left of a reference, and where it is cut

Before a reference is read, characters that no URL holds are dropped. At the end of a text these are
all blanks and control characters (`cleaned_append`), but in front of any other character only tabs
and line ends (`cleanedEnd_append`). What is left is cut at the marks of the query and the fragment
(`cutMarks`).
-/

set_option autoImplicit false

namespace ImageSync.Url

open Text

/-! ### Characters that are dropped -/

/-- The characters that are dropped from anywhere are among those that are dropped from the ends. -/
theorem isEdge_of_isBreak {c : Char} (h : isBreak c = true) : isEdge c = true := by
  simp only [isBreak, Bool.or_eq_true, beq_iff_eq] at h
  obtain (rfl | rfl) | rfl := h <;> rfl

/-- A text without the characters that are dropped from anywhere. -/
def unbroken (cs : List Char) : List Char := cs.filter fun c => !isBreak c

/-- What is left is in the same order. -/
theorem unbroken_sublist (cs : List Char) : (unbroken cs).Sublist cs := List.filter_sublist

/-- Each character is dropped or kept by itself, so two texts can be cleaned one by one. -/
theorem unbroken_append (cs tail : List Char) :
    unbroken (cs ++ tail) = unbroken cs ++ unbroken tail :=
  List.filter_append ..

/-- Nothing is dropped from a text without blanks and control characters. -/
theorem unbroken_eq {cs : List Char} (h : ∀ c ∈ cs, isEdge c = false) : unbroken cs = cs := by
  refine List.filter_eq_self.2 fun c hc => ?_
  cases hbreak : isBreak c with
  | false => rfl
  | true =>
    have hedge := h c hc
    rw [isEdge_of_isBreak hbreak] at hedge
    cases hedge

/-- What is left of a text at the end of a reference. -/
def cleanedEnd (cs : List Char) : List Char := unbroken (cs.reverse.dropWhile isEdge).reverse

/-- Nothing is dropped at the end of such a text. -/
theorem cleanedEnd_eq {cs : List Char} (h : ∀ c ∈ cs, isEdge c = false) : cleanedEnd cs = cs := by
  have hedges : ∀ c, cs.reverse.head? = some c → isEdge c = false := fun c hc =>
    h c (List.mem_reverse.1 (List.mem_of_head? hc))
  rw [cleanedEnd, dropWhile_of_head? hedges, List.reverse_reverse, unbroken_eq h]

/-- Behind other characters, only the end of a text counts. -/
theorem cleaned_append {front : List Char} (hne : front ≠ [])
    (hfront : ∀ c ∈ front, isEdge c = false) (cs : List Char) :
    cleaned (front ++ cs) = front ++ cleanedEnd cs := by
  -- The front keeps the start of the text, so only the end of `cs` is an end.
  have hstart : (front ++ cs).dropWhile isEdge = front ++ cs := by
    refine dropWhile_of_head? fun c hc => ?_
    rw [List.head?_append, List.head?_eq_some_head hne, Option.some_or] at hc
    exact hfront c (Option.some.inj hc ▸ List.head_mem hne)
  have hend : ((front ++ cs).reverse.dropWhile isEdge).reverse =
      front ++ (cs.reverse.dropWhile isEdge).reverse :=
    dropEnd_append_of_getLast? (fun c hc => hfront c (List.mem_of_getLast? hc)) cs
  have hclean : cleaned (front ++ cs) =
      unbroken (((front ++ cs).dropWhile isEdge).reverse.dropWhile isEdge).reverse := rfl
  rw [hclean, hstart, hend, unbroken_append, unbroken_eq hfront, cleanedEnd]

/-- Nothing is dropped from a text without blanks. -/
theorem cleaned_eq {cs : List Char} (h : ∀ c ∈ cs, isEdge c = false) : cleaned cs = cs := by
  rw [cleaned, dropWhile_of_head? fun c hc => h c (List.mem_of_head? hc)]
  exact cleanedEnd_eq h

/-- In front of other characters, nothing is at the end. -/
theorem cleanedEnd_append {tail : List Char} (hne : tail ≠ [])
    (htail : ∀ c ∈ tail, isEdge c = false) (cs : List Char) :
    cleanedEnd (cs ++ tail) = unbroken cs ++ tail := by
  -- The tail keeps the end of the text.
  have hstop : (cs ++ tail).reverse.dropWhile isEdge = (cs ++ tail).reverse := by
    refine dropWhile_of_head? fun c hc => ?_
    rw [List.head?_reverse, List.getLast?_append, List.getLast?_eq_some_getLast hne,
      Option.some_or] at hc
    exact htail c (Option.some.inj hc ▸ List.getLast_mem hne)
  rw [cleanedEnd, hstop, List.reverse_reverse, unbroken_append, unbroken_eq htail]

/-- What is dropped at the end is blanks and control characters. -/
theorem exists_cleanedEnd (cs : List Char) :
    ∃ edges, unbroken cs = cleanedEnd cs ++ edges ∧ ∀ c ∈ edges, isEdge c = true := by
  -- Read from its end, the text splits into edges and the rest, and breaks are dropped from each.
  refine ⟨unbroken (cs.reverse.takeWhile isEdge).reverse, ?_, fun c hc => ?_⟩
  · rw [cleanedEnd, ← unbroken_append, ← List.reverse_append, List.takeWhile_append_dropWhile,
      List.reverse_reverse]
  · exact forall_mem_takeWhile _ _ c (List.mem_reverse.1 (List.mem_filter.1 hc).1)

/-! ### Marks -/

/-- Without the mark a text is not cut. -/
theorem cutMark_of_not_mem {mark : Char} {cs : List Char} (h : mark ∉ cs) :
    cutMark mark cs = (cs, none) := by
  rw [cutMark, cutFirst?_eq_none h]

/-- A text that cannot be cut at a separator does not hold it. -/
theorem not_mem_of_cutFirst? {mark : Char} {cs : List Char} (h : cutFirst? mark cs = none) :
    mark ∉ cs := fun hmem => by
  obtain ⟨before, after, rfl, hbefore⟩ := List.eq_append_cons_of_mem hmem
  rw [cutFirst?_eq_some_iff.2 ⟨rfl, hbefore⟩] at h
  cases h

/-- In front of the mark stands what is read up to it. -/
theorem fst_cutMark (mark : Char) (cs : List Char) :
    (cutMark mark cs).1 = cs.takeWhile (· != mark) := by
  rw [cutMark]
  cases hcut : cutFirst? mark cs with
  | none =>
    have hmark := not_mem_of_cutFirst? hcut
    refine (List.takeWhile_eq_self_iff.2 fun c hc => ?_).symm
    exact bne_iff_ne.2 (ne_of_mem_of_not_mem hc hmark)
  | some sides =>
    obtain ⟨before, after⟩ := sides
    obtain ⟨rfl, hmark⟩ := cutFirst?_eq_some_iff.1 hcut
    refine (span_eq (fun c hc => ?_) fun c hc => ?_).1.symm
    · exact bne_iff_ne.2 (ne_of_mem_of_not_mem hc hmark)
    · cases hc
      exact bne_self_eq_false mark

/-- Something stands behind the mark exactly if the text holds it. -/
theorem snd_cutMark_eq_none_iff {mark : Char} {cs : List Char} :
    (cutMark mark cs).2 = none ↔ mark ∉ cs := by
  constructor
  · intro hnone
    rw [cutMark] at hnone
    split at hnone
    · cases hnone
    · next hcut => exact not_mem_of_cutFirst? hcut
  · intro hmark
    rw [cutMark_of_not_mem hmark]

/-- In front of the mark a text is not cut. -/
theorem cutMark_append {mark : Char} {front : List Char} (h : mark ∉ front) (cs : List Char) :
    cutMark mark (front ++ cs) = (front ++ (cutMark mark cs).1, (cutMark mark cs).2) := by
  rw [cutMark, cutMark]
  -- The first mark of the text is the first one behind the front.
  cases hcut : cutFirst? mark cs with
  | none =>
    have hcs : mark ∉ cs := not_mem_of_cutFirst? hcut
    rw [cutFirst?_eq_none fun hmem => (List.mem_append.1 hmem).elim h hcs]
  | some sides =>
    obtain ⟨before, after⟩ := sides
    obtain ⟨rfl, hbefore⟩ := cutFirst?_eq_some_iff.1 hcut
    have hwhole : mark ∉ front ++ before := fun hmem => (List.mem_append.1 hmem).elim h hbefore
    rw [cutFirst?_eq_some_iff.2 ⟨(List.append_assoc front before (mark :: after)).symm, hwhole⟩]

/-- A text, cut at its marks: what stands in front of them, the query and the fragment. -/
def cutMarks (cs : List Char) : List Char × Option (List Char) × Option (List Char) :=
  let front := cutMark '#' cs
  let body := cutMark '?' front.1
  (body.1, body.2, front.2)

/-- Text without marks stays in front of the query and the fragment. -/
theorem cutMarks_append {front : List Char} (h : '#' ∉ front ∧ '?' ∉ front) (cs : List Char) :
    cutMarks (front ++ cs) = (front ++ (cutMarks cs).1, (cutMarks cs).2) := by
  rw [cutMarks, cutMark_append h.1]
  dsimp only
  rw [cutMark_append h.2]
  rfl

/-- There is a query if a question mark stands in front of the fragment. -/
theorem query_cutMarks_eq_none_iff {cs : List Char} :
    (cutMarks cs).2.1 = none ↔ '?' ∉ cs.takeWhile (· != '#') := by
  rw [← fst_cutMark]
  exact snd_cutMark_eq_none_iff

/-- Without marks a text has no query and no fragment. -/
theorem cutMarks_of_not_mem {cs : List Char} (h : '#' ∉ cs ∧ '?' ∉ cs) :
    cutMarks cs = (cs, none, none) := by
  rw [cutMarks, cutMark_of_not_mem h.1]
  dsimp only
  rw [cutMark_of_not_mem h.2]

end ImageSync.Url
