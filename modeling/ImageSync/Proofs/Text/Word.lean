import ImageSync.Text.Cut

/-!
# `ImageSync.Proofs.Text.Word`: a word in a text, and another text in its place

`cutWord?` is `cutFirst?` for words: it gives what stands before and after the first place of a
word. `cutWord?_eq_some_iff` says that no place of the word is before it, and
`cutWord?_eq_none_iff` that it finds the word wherever it is.

`replaceWord` goes through a text once, from the front, and puts another text in each place of a
word that it comes to. It goes on behind the word, so places that overlap do not both count, and
the new text is not looked at again. From cut to cut it is `replaceWord_of_cutWord?`.
-/

set_option autoImplicit false

namespace ImageSync.Text

/-- What stands before and after the first place of a word, if it has one. -/
def cutWord? (word text : List Char) : Option (List Char × List Char) :=
  if word <+: text then some ([], text.drop word.length)
  else match text with
    | [] => none
    | c :: r => (cutWord? word r).map fun (front, back) => (c :: front, back)

/-- A text with a word, which is not empty, replaced in every place that is come to from the front
and does not overlap the place before. -/
def replaceWord (word new : List Char) : List Char → List Char
  | [] => []
  | c :: r =>
    if word <+: c :: r then new ++ replaceWord word new (r.drop (word.length - 1))
    else c :: replaceWord word new r
  termination_by text => text.length
  decreasing_by
    · simp only [List.length_drop, List.length_cons]
      omega
    · exact Nat.lt_succ_self _

variable {word new text front back : List Char} {c : Char}

/-- A word at the start of a text is cut off there. -/
theorem cutWord?_of_stands (h : word <+: text) :
    cutWord? word text = some ([], text.drop word.length) := by
  rw [cutWord?.eq_def, if_pos h]

/-- An empty text has no word in it but the empty one. -/
theorem cutWord?_nil (h : ¬word <+: []) : cutWord? word [] = none := by
  rw [cutWord?.eq_def, if_neg h]

/-- If a word does not stand at the start, it is looked for behind the first character. -/
theorem cutWord?_cons (h : ¬word <+: c :: text) :
    cutWord? word (c :: text) =
      (cutWord? word text).map fun (front, back) => (c :: front, back) := by
  rw [cutWord?.eq_def, if_neg h]

/-- A word that stands nowhere is not found, and one that stands somewhere is. -/
theorem cutWord?_eq_none_iff : cutWord? word text = none ↔ ¬word <:+: text := by
  induction text with
  | nil =>
    by_cases h : word <+: []
    · simp [cutWord?_of_stands h, h.isInfix]
    · have hne : word ≠ [] := by simpa using h
      simp [cutWord?_nil h, hne]
  | cons c r ih =>
    by_cases h : word <+: c :: r
    · simp [cutWord?_of_stands h, h.isInfix]
    · rw [cutWord?_cons h, Option.map_eq_none_iff, ih, List.infix_cons_iff]
      simp [h]

/-- A text is cut at the first place of a word: there, and not where it has stood before. -/
theorem cutWord?_eq_some_iff :
    cutWord? word text = some (front, back) ↔
      text = front ++ word ++ back ∧
        ∀ front' back', text = front' ++ word ++ back' → front.length ≤ front'.length := by
  -- By induction on the text. The first place counts, so at each character the word stands here, or
  -- no earlier than in the rest.
  induction text generalizing front with
  | nil =>
    by_cases h : word <+: []
    · have hnil : word = [] := by simpa using h
      subst hnil
      simp only [cutWord?_of_stands h, List.drop_nil, Option.some.injEq, Prod.mk.injEq]
      constructor
      · rintro ⟨rfl, rfl⟩
        simp
      · rintro ⟨heq, -⟩
        simpa [eq_comm] using heq
    · have hne : word ≠ [] := by simpa using h
      simp [cutWord?_nil h, hne]
  | cons c r ih =>
    by_cases h : word <+: c :: r
    · obtain ⟨rest, hrest⟩ := h
      rw [cutWord?_of_stands ⟨rest, hrest⟩, ← hrest, List.drop_left, Option.some.injEq,
        Prod.mk.injEq]
      constructor
      · rintro ⟨rfl, rfl⟩
        simp
      · rintro ⟨heq, hfirst⟩
        have hfront : front = [] := List.length_eq_zero_iff.1 (Nat.le_zero.1 (hfirst [] rest rfl))
        subst hfront
        exact ⟨rfl, List.append_cancel_left heq⟩
    · rw [cutWord?_cons h, Option.map_eq_some_iff]
      constructor
      · rintro ⟨⟨front', back'⟩, hcut, heq⟩
        cases heq
        obtain ⟨rfl, hfirst⟩ := ih.1 hcut
        refine ⟨rfl, fun front₁ back₁ heq => ?_⟩
        cases front₁ with
        | nil => exact absurd ⟨back₁, heq.symm⟩ h
        | cons d front₁ => exact Nat.succ_le_succ (hfirst front₁ back₁ (List.cons.inj heq).2)
      · rintro ⟨heq, hfirst⟩
        cases front with
        | nil => exact absurd ⟨back, heq.symm⟩ h
        | cons d front =>
          obtain ⟨rfl, hr⟩ := List.cons.inj heq
          refine ⟨(front, back), ih.2 ⟨hr, fun front₁ back₁ heq₁ => ?_⟩, rfl⟩
          exact Nat.le_of_succ_le_succ (hfirst (c :: front₁) back₁ (by rw [heq₁]; rfl))

/-- A text in which a word stands nowhere is left as it is. -/
theorem replaceWord_of_cutWord?_eq_none (h : cutWord? word text = none) :
    replaceWord word new text = text := by
  induction text with
  | nil => rw [replaceWord]
  | cons c r ih =>
    by_cases hword : word <+: c :: r
    · rw [cutWord?_of_stands hword] at h
      cases h
    · rw [cutWord?_cons hword, Option.map_eq_none_iff] at h
      rw [replaceWord, if_neg hword, ih h]

/-- Of a text in which a word stands, the first place of the word is replaced, and the text behind
it in the same way. -/
theorem replaceWord_of_cutWord? (hne : word ≠ []) (h : cutWord? word text = some (front, back)) :
    replaceWord word new text = front ++ new ++ replaceWord word new back := by
  induction text generalizing front with
  | nil =>
    have hword : ¬word <+: [] := by simpa using hne
    rw [cutWord?_nil hword] at h
    cases h
  | cons c r ih =>
    by_cases hword : word <+: c :: r
    · rw [cutWord?_of_stands hword] at h
      cases h
      obtain ⟨w, ws, rfl⟩ := List.exists_cons_of_ne_nil hne
      rw [replaceWord, if_pos hword]
      rfl
    · rw [cutWord?_cons hword, Option.map_eq_some_iff] at h
      obtain ⟨⟨front', back'⟩, hcut, heq⟩ := h
      cases heq
      rw [replaceWord, if_neg hword, ih hcut]
      rfl

/-- Of places that overlap the first one counts, and what was put in is not looked at again. -/
example : replaceWord ['a', 'a'] ['b', 'a'] ['a', 'a', 'a', 'a', 'a'] =
    ['b', 'a', 'b', 'a', 'a'] := by
  cbv

end ImageSync.Text
