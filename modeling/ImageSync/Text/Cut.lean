/-!
# `ImageSync.Text.Cut`: cutting texts at characters and known words

Texts are cut as lists of characters. `splitAtChar` gives the pieces between the copies of
one character, `cutFirst?` what stands before and after its first copy, `stripPrefix?`
and `stripSuffix?` what is left after a known word at one end.

Main statements: the pieces joined again give the text (`joinWith_splitAtChar`), none of
them holds the separator (`not_mem_of_mem_splitAtChar`), and a word is stripped exactly
where it stands (`stripPrefix?_eq_some_iff`). `holdsWord` asks for a word anywhere
(`holdsWord_eq_true_iff`).
-/

set_option autoImplicit false

namespace ImageSync.Text

/-- The pieces of a text between the copies of `sep`; always at least one. -/
def splitAtChar (sep : Char) : List Char → List (List Char)
  | [] => [[]]
  | c :: r =>
    if c = sep then [] :: splitAtChar sep r
    else match splitAtChar sep r with
      | [] => [[c]]
      | p :: ps => (c :: p) :: ps

/-- The pieces with one `sep` between each two neighbours. -/
def joinWith (sep : Char) : List (List Char) → List Char
  | [] => []
  | [p] => p
  | p :: q :: ps => p ++ sep :: joinWith sep (q :: ps)

/-- What stands before and after the first `sep`, if there is one. -/
def cutFirst? (sep : Char) : List Char → Option (List Char × List Char)
  | [] => none
  | c :: r =>
    if c = sep then some ([], r)
    else (cutFirst? sep r).map fun (before, after) => (c :: before, after)

/-- The rest of a text that starts with `word`. -/
def stripPrefix? : (word text : List Char) → Option (List Char)
  | [], text => some text
  | _ :: _, [] => none
  | w :: ws, c :: cs => if w = c then stripPrefix? ws cs else none

/-- The front of a text that ends with `word`. -/
def stripSuffix? (word text : List Char) : Option (List Char) :=
  (stripPrefix? word.reverse text.reverse).map List.reverse

/-- Whether a word stands somewhere in a text. -/
def holdsWord (word : List Char) : List Char → Bool
  | [] => word.isEmpty
  | c :: r => (stripPrefix? word (c :: r)).isSome || holdsWord word r

/-- Splitting never gives an empty list of pieces. -/
theorem splitAtChar_ne_nil (sep : Char) (cs : List Char) : splitAtChar sep cs ≠ [] := by
  cases cs with
  | nil => simp [splitAtChar]
  | cons c r =>
    rw [splitAtChar]
    split
    · simp
    · split <;> simp

/-- The pieces joined again give the text. -/
theorem joinWith_splitAtChar (sep : Char) (cs : List Char) :
    joinWith sep (splitAtChar sep cs) = cs := by
  induction cs with
  | nil => rfl
  | cons c r ih =>
    rw [splitAtChar]
    cases hp : splitAtChar sep r with
    | nil => exact absurd hp (splitAtChar_ne_nil sep r)
    | cons p ps =>
      rw [hp] at ih
      split
      · next h => simp [joinWith, ih, h]
      · cases ps <;> simp_all [joinWith]

/-- No piece holds the separator. -/
theorem not_mem_of_mem_splitAtChar {sep : Char} {cs p : List Char}
    (h : p ∈ splitAtChar sep cs) : sep ∉ p := by
  induction cs generalizing p with
  | nil => simp_all [splitAtChar]
  | cons c r ih =>
    rw [splitAtChar] at h
    split at h
    · rcases List.mem_cons.1 h with rfl | h
      · simp
      · exact ih h
    · next hc =>
      cases hr : splitAtChar sep r with
      | nil => exact absurd hr (splitAtChar_ne_nil sep r)
      | cons q qs =>
        rw [hr] at h ih
        rcases List.mem_cons.1 h with rfl | h
        · have hq := ih (p := q) (by simp)
          simp [hq, Ne.symm hc]
        · exact ih (by simp [h])

/-- The first separator is the one with none before it. -/
theorem cutFirst?_eq_some_iff {sep : Char} {cs before after : List Char} :
    cutFirst? sep cs = some (before, after) ↔ cs = before ++ sep :: after ∧ sep ∉ before := by
  induction cs generalizing before with
  | nil => simp [cutFirst?]
  | cons c r ih =>
    rw [cutFirst?]
    by_cases hc : c = sep
    · cases before with
      | nil => simp [hc]
      | cons b before =>
        rw [if_pos hc]
        constructor
        · intro h
          cases h
        · -- A text that starts with the separator has nothing before it.
          rintro ⟨h, hnot⟩
          rw [List.cons_append, List.cons.injEq] at h
          exact absurd (by simp [← h.1, hc]) hnot
    · cases before with
      | nil => simp [hc]
      | cons b before =>
        have hsep : sep ∉ b :: before ↔ sep ≠ b ∧ sep ∉ before := by simp
        rw [if_neg hc, Option.map_eq_some_iff, List.cons_append, List.cons.injEq, hsep]
        constructor
        · rintro ⟨⟨before', after'⟩, hcut, heq⟩
          cases heq
          obtain ⟨hr, hnot⟩ := ih.1 hcut
          exact ⟨⟨rfl, hr⟩, Ne.symm hc, hnot⟩
        · rintro ⟨⟨rfl, hr⟩, -, hnot⟩
          exact ⟨(before, after), ih.2 ⟨hr, hnot⟩, rfl⟩

/-- What stands before and after the first separator makes up the text. -/
theorem eq_of_cutFirst? {sep : Char} {cs before after : List Char}
    (h : cutFirst? sep cs = some (before, after)) : cs = before ++ sep :: after :=
  (cutFirst?_eq_some_iff.1 h).1

/-- A word is stripped exactly where it stands. -/
theorem stripPrefix?_eq_some_iff {word text rest : List Char} :
    stripPrefix? word text = some rest ↔ text = word ++ rest := by
  induction word generalizing text with
  | nil => simp [stripPrefix?, eq_comm]
  | cons w ws ih =>
    cases text with
    | nil => simp [stripPrefix?]
    | cons c cs =>
      by_cases h : w = c
      · simp [stripPrefix?, h, ih]
      · simp [stripPrefix?, h, Ne.symm h]

/-- A word is stripped from the end exactly where it stands there. -/
theorem stripSuffix?_eq_some_iff {word text front : List Char} :
    stripSuffix? word text = some front ↔ text = front ++ word := by
  rw [stripSuffix?, Option.map_eq_some_iff]
  constructor
  · rintro ⟨r, hr, rfl⟩
    have := congrArg List.reverse (stripPrefix?_eq_some_iff.1 hr)
    simpa using this
  · rintro rfl
    exact ⟨front.reverse, stripPrefix?_eq_some_iff.2 (by simp), by simp⟩

/-- A word is held exactly where the text has a front and a rest around it. -/
theorem holdsWord_eq_true_iff {word text : List Char} :
    holdsWord word text = true ↔ ∃ front rest, text = front ++ word ++ rest := by
  induction text with
  | nil => simp [holdsWord]
  | cons c r ih =>
    rw [holdsWord, Bool.or_eq_true, ih]
    constructor
    · rintro (h | ⟨front, rest, rfl⟩)
      · obtain ⟨rest, h⟩ := Option.isSome_iff_exists.1 h
        exact ⟨[], rest, stripPrefix?_eq_some_iff.1 h⟩
      · exact ⟨c :: front, rest, rfl⟩
    · rintro ⟨front, rest, h⟩
      cases front with
      | nil =>
        -- The word stands at the start.
        rw [List.nil_append] at h
        exact .inl (by rw [stripPrefix?_eq_some_iff.2 h]; rfl)
      | cons d front =>
        cases h
        exact .inr ⟨front, rest, rfl⟩

end ImageSync.Text
