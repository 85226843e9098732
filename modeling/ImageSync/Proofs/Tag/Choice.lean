import ImageSync.Proofs.Regex.Plain
import ImageSync.Proofs.Tag.Meaning

/-!
# `ImageSync.Proofs.Tag.Choice`: several names, or one pattern of them

Tags may be listed one by one, or as one pattern with bars between them. If their names are plain
(`TagSpec.IsName`), both ways want the same tags, and with a mark both exclude the same. Names of
letters, digits, low lines and hyphens are plain (`TagSpec.isName_of_isAlphanum`), and so are names
with letters of other scripts.

A list whose specs are all on one side is easy to read: it selects by whether some spec stands for
the tag (`TagFilter.selects_of_same_side`). What a name and what a pattern of names stands for is
`TagSpec.standsFor_name` and `TagSpec.exists_means_choice`; that no name hides a longer one behind
it, and that a part of a tag is not enough, is what the latter takes from the anchored pattern. The
main statement is `TagFilter.selects_choice`.
-/

set_option autoImplicit false

namespace ImageSync

open Text

namespace TagSpec

/-- A name of plain characters that are no blanks and nothing that a spec is cut at. -/
structure IsName (name : String) : Prop where
  ne_empty : name ≠ ""
  plain : ∀ c ∈ name.toList, Regex.IsPlain c
  uncut : ∀ c ∈ name.toList, isBlank c = false ∧ c ≠ '!' ∧ c ≠ ':'

instance : DecidablePred IsName := fun name =>
  decidable_of_iff (name ≠ "" ∧ name.toList.all (fun c => decide (Regex.IsPlain c)) = true ∧
      name.toList.all (fun c => decide (isBlank c = false ∧ c ≠ '!' ∧ c ≠ ':')) = true)
    ⟨fun ⟨hne, hplain, huncut⟩ => ⟨hne, forall_mem_of_all hplain, forall_mem_of_all huncut⟩,
      fun h => ⟨h.ne_empty, List.all_eq_true.2 fun c hc => decide_eq_true (h.plain c hc),
        List.all_eq_true.2 fun c hc => decide_eq_true (h.uncut c hc)⟩⟩

/-- Letters and digits are no blanks. -/
theorem isBlank_of_isAlphanum {c : Char} (h : c.isAlphanum = true) : isBlank c = false := by
  -- Both are unions of ranges of code points.
  change (decide ('A'.val ≤ c.val ∧ c.val ≤ 'Z'.val) ||
    (decide ('a'.val ≤ c.val) && decide (c.val ≤ 'z'.val)) ||
    (decide ('0'.val ≤ c.val) && decide (c.val ≤ '9'.val))) = true at h
  simp only [Bool.or_eq_true, Bool.and_eq_true, decide_eq_true_eq, UInt32.le_iff_toNat_le] at h
  change ((65 ≤ c.toNat ∧ c.toNat ≤ 90) ∨ (97 ≤ c.toNat ∧ c.toNat ≤ 122)) ∨
    (48 ≤ c.toNat ∧ c.toNat ≤ 57) at h
  simp only [isBlank, Bool.or_eq_false_iff, Bool.and_eq_false_imp, decide_eq_true_eq,
    decide_eq_false_iff_not, beq_eq_false_iff_ne]
  omega

/-- Letters, digits, low lines and hyphens make up names, so the tags that most registries hold are
names. -/
theorem isName_of_isAlphanum {name : String} (hne : name ≠ "")
    (h : ∀ c ∈ name.toList, c.isAlphanum = true ∨ c = '_' ∨ c = '-') : IsName name := by
  refine ⟨hne, fun c hc => ?_, fun c hc => ?_⟩
  · rcases h c hc with hc | rfl | rfl
    · exact Regex.isPlain_of_isAlphanum (.inl hc)
    · decide
    · decide
  · rcases h c hc with hc | rfl | rfl
    · refine ⟨isBlank_of_isAlphanum hc, ?_, ?_⟩
      · rintro rfl
        exact absurd hc (by decide)
      · rintro rfl
        exact absurd hc (by decide)
    · decide
    · decide

/-- A body with the mark for tags that are excluded, or with none. -/
def marked (negated : Bool) (body : String) : String := if negated then "!" ++ body else body

variable {name : String} {names : List String} {negated : Bool} {tag : String}

/-- A marked body is what the spec says. -/
theorem says_marked {body : String} (hbody : IsBody body.toList)
    (hmark : body.toList.head? ≠ some '!') : Says (marked negated body) negated body.toList := by
  have hnil : ∀ c ∈ ([] : List Char), isBlank c = true := List.forall_mem_nil _
  cases negated with
  | true =>
    refine .excludes hnil hnil hnil hbody ?_
    simp [marked]
  | false =>
    refine .wants hnil hnil hbody hmark ?_
    simp [marked]

/-- A name is the body of a spec. -/
theorem IsName.isBody (h : IsName name) : IsBody name.toList where
  ne_nil := fun hnil => h.ne_empty (String.toList_eq_nil_iff.1 hnil)
  first := fun c hc => (h.uncut c (List.mem_of_head? hc)).1
  last := fun c hc => (h.uncut c (List.mem_of_getLast? hc)).1

/-- A name starts with no mark, so without one it is wanted. -/
theorem IsName.head?_ne (h : IsName name) : name.toList.head? ≠ some '!' := fun hc =>
  (h.uncut _ (List.mem_of_head? hc)).2.1 rfl

/-- A name means the tag of that name. -/
theorem IsName.means (h : IsName name) :
    Means name.toList (.exact (String.ofList name.toList)) := by
  refine .name fun hprefix => ?_
  have hcolon : ':' ∈ name.toList := hprefix.subset (by decide)
  exact (h.uncut _ hcolon).2.2 rfl

/-- A name stands for the tag of that name and for no other. -/
theorem standsFor_name (h : IsName name) : StandsFor name.toList tag ↔ tag = name := by
  rw [← h.means.accepts_iff, TagMatcher.accepts, beq_iff_eq, String.ofList_toList]
  exact eq_comm

/-- A pattern of names is a body. -/
theorem isBody_choice (hnames : ∀ name ∈ names, IsName name) :
    IsBody ("regex:" ++ "|".intercalate names).toList := by
  have hchoice : ∀ c ∈ ("|".intercalate names).toList, isBlank c = false := by
    rw [Regex.toList_intercalate_bar]
    exact forall_mem_joinWith (by decide)
      (List.forall_mem_map.2 fun name hname c hc => ((hnames name hname).uncut c hc).1)
  have hall : ∀ c ∈ ("regex:" ++ "|".intercalate names).toList, isBlank c = false := by
    rw [String.toList_append, List.forall_mem_append]
    exact ⟨forall_mem_of_all (by decide), hchoice⟩
  refine ⟨?_, fun c hc => hall c (List.mem_of_head? hc), fun c hc =>
    hall c (List.mem_of_getLast? hc)⟩
  rw [String.toList_append]
  exact fun hnil => absurd (List.append_eq_nil_iff.1 hnil).1 (by decide)

/-- A pattern of names, if it is not refused for its size, means the tags of these names. -/
theorem exists_means_choice (hne : names ≠ []) (hnames : ∀ name ∈ names, IsName name)
    (hsize : Regex.compileAnchored ("|".intercalate names) ≠ .error .tooLarge) :
    (∃ m, Means ("regex:" ++ "|".intercalate names).toList m) ∧
      ∀ tag, StandsFor ("regex:" ++ "|".intercalate names).toList tag ↔ tag ∈ names := by
  obtain ⟨e, he, hmatch⟩ := Regex.isMatch_compileAnchored_choices hne
    (fun name hname => (hnames name hname).plain) hsize
  have hmeans : Means ("regex:" ++ "|".intercalate names).toList (.pattern e) :=
    .pattern String.toList_append he
  exact ⟨⟨_, hmeans⟩, fun tag => hmeans.accepts_iff.symm.trans (hmatch tag)⟩

end TagSpec

namespace TagFilter

open TagSpec (Says StandsFor IsName marked)

variable {specs : List String} {f : TagFilter} {negated : Bool} {tag : String}

/-- A list whose specs all want tags selects those that some spec stands for, and one whose specs
all exclude tags selects the others. -/
theorem selects_of_same_side (h : parse specs = .ok f) (hne : specs ≠ [])
    (hside : ∀ raw ∈ specs, ∃ body, Says raw negated body) (tag : String) :
    f.selects tag = true ↔
      (negated = false ↔ ∃ raw ∈ specs, ∃ body, Says raw negated body ∧ StandsFor body tag) := by
  -- A spec says one thing, so none of them is on the other side.
  have hother : ∀ raw ∈ specs, ∀ body, ¬Says raw (!negated) body := by
    intro raw hraw body hsaid
    obtain ⟨body', hsaid'⟩ := hside raw hraw
    have hsame := (hsaid'.unique hsaid).1
    cases negated <;> cases hsame
  rw [selects_iff h, Wanted]
  cases negated with
  | false =>
    have hsome : ¬∀ raw ∈ specs, ∀ body, ¬Says raw false body := by
      intro hnone
      obtain ⟨raw, hraw⟩ := List.exists_mem_of_ne_nil specs hne
      obtain ⟨body, hsaid⟩ := hside raw hraw
      exact hnone raw hraw body hsaid
    have hexcludes : ∀ raw ∈ specs, ∀ body, Says raw true body → ¬StandsFor body tag :=
      fun raw hraw body hsaid => absurd hsaid (hother raw hraw body)
    simp only [hsome, false_or, true_iff, and_iff_left hexcludes]
  | true =>
    have hnone : ∀ raw ∈ specs, ∀ body, ¬Says raw false body := hother
    simp only [and_iff_right (Or.inl hnone), Bool.true_eq_false, false_iff, not_exists, not_and]

/-- Bodies that all are marked or all are not make a filter. It selects by whether one of them
stands for the tag. -/
theorem exists_parse_marked (negated : Bool) {bodies : List String} (hne : bodies ≠ [])
    (hsaid : ∀ body ∈ bodies, Says (marked negated body) negated body.toList)
    (hmeans : ∀ body ∈ bodies, ∃ m, TagSpec.Means body.toList m) :
    ∃ f, parse (bodies.map (marked negated)) = .ok f ∧
      ∀ tag, f.selects tag = true ↔
        (negated = false ↔ ∃ body ∈ bodies, StandsFor body.toList tag) := by
  obtain ⟨f, hf⟩ : ∃ f, parse (bodies.map (marked negated)) = .ok f := by
    refine (exists_parseFrom_iff 0).2 (List.forall_mem_map.2 fun body hbody => ?_)
    obtain ⟨m, hm⟩ := hmeans body hbody
    exact ⟨negated, _, m, hsaid body hbody, hm⟩
  refine ⟨f, hf, fun tag => ?_⟩
  -- The mark says on which side a spec is, so what it says is its body.
  have hsome : (∃ raw ∈ bodies.map (marked negated), ∃ body,
      Says raw negated body ∧ StandsFor body tag) ↔
        ∃ body ∈ bodies, StandsFor body.toList tag := by
    constructor
    · rintro ⟨raw, hraw, said, hsaid', htag⟩
      obtain ⟨body, hbody, rfl⟩ := List.mem_map.1 hraw
      rw [(hsaid'.unique (hsaid body hbody)).2] at htag
      exact ⟨body, hbody, htag⟩
    · rintro ⟨body, hbody, htag⟩
      exact ⟨_, List.mem_map_of_mem hbody, _, hsaid body hbody, htag⟩
  rw [selects_of_same_side hf (by simp [hne])
    (List.forall_mem_map.2 fun body hbody => ⟨_, hsaid body hbody⟩), hsome]

/-- Specs on one side, for plain names and for one pattern of them, select the same. -/
theorem exists_selects_choice (negated : Bool) {names : List String} (hne : names ≠ [])
    (hnames : ∀ name ∈ names, IsName name)
    (hsize : Regex.compileAnchored ("|".intercalate names) ≠ .error .tooLarge) :
    ∃ f g, parse (names.map (marked negated)) = .ok f ∧
      parse [marked negated ("regex:" ++ "|".intercalate names)] = .ok g ∧
      ∀ tag, (f.selects tag = true ↔ (negated = false ↔ tag ∈ names)) ∧
        f.selects tag = g.selects tag := by
  obtain ⟨f, hf, hnamed⟩ := exists_parse_marked negated hne
    (fun name hname => TagSpec.says_marked (hnames name hname).isBody (hnames name hname).head?_ne)
    fun name hname => ⟨_, (hnames name hname).means⟩
  obtain ⟨hmeans, hstands⟩ := TagSpec.exists_means_choice hne hnames hsize
  have hchoice : Says (marked negated ("regex:" ++ "|".intercalate names)) negated
      ("regex:" ++ "|".intercalate names).toList :=
    TagSpec.says_marked (TagSpec.isBody_choice hnames) (by simp)
  obtain ⟨g, hg, hchosen⟩ := exists_parse_marked negated (List.cons_ne_nil _ [])
    (List.forall_mem_singleton.2 hchoice) (List.forall_mem_singleton.2 hmeans)
  have hname : ∀ tag, (∃ name ∈ names, StandsFor name.toList tag) ↔ tag ∈ names := by
    intro tag
    constructor
    · rintro ⟨name, hname, htag⟩
      rwa [(TagSpec.standsFor_name (hnames name hname)).1 htag]
    · intro htag
      exact ⟨tag, htag, (TagSpec.standsFor_name (hnames tag htag)).2 rfl⟩
  refine ⟨f, g, hf, hg, fun tag => ?_⟩
  have hselected := hnamed tag
  have hselected' := hchosen tag
  rw [hname] at hselected
  simp only [List.mem_singleton, exists_eq_left, hstands] at hselected'
  exact ⟨hselected, Bool.eq_iff_iff.2 (hselected.trans hselected'.symm)⟩

/-- Plain names as specs of their own and one pattern of them with bars in between, as long as it
is not refused for its size, make filters that select the same tags, namely those of these names.
With a mark in front of each name and of the pattern, both select all other tags. -/
theorem selects_choice {names : List String} (hne : names ≠ [])
    (hnames : ∀ name ∈ names, IsName name)
    (hsize : Regex.compileAnchored ("|".intercalate names) ≠ .error .tooLarge) :
    (∃ f g, parse names = .ok f ∧ parse ["regex:" ++ "|".intercalate names] = .ok g ∧
      ∀ tag, f.selects tag = g.selects tag ∧ (f.selects tag = true ↔ tag ∈ names)) ∧
    ∃ f g, parse (names.map ("!" ++ ·)) = .ok f ∧
      parse ["!regex:" ++ "|".intercalate names] = .ok g ∧
      ∀ tag, f.selects tag = g.selects tag ∧ (f.selects tag = true ↔ tag ∉ names) := by
  constructor
  · obtain ⟨f, g, hf, hg, hselects⟩ := exists_selects_choice false hne hnames hsize
    have hmap : names.map (marked false) = names := List.map_id _
    rw [hmap] at hf
    refine ⟨f, g, hf, hg, fun tag => ⟨(hselects tag).2, (hselects tag).1.trans ?_⟩⟩
    rw [eq_self, true_iff]
  · obtain ⟨f, g, hf, hg, hselects⟩ := exists_selects_choice true hne hnames hsize
    have hspec : "!regex:" ++ "|".intercalate names =
        marked true ("regex:" ++ "|".intercalate names) := by
      rw [marked, if_pos rfl, ← String.append_assoc]
      rfl
    rw [hspec]
    refine ⟨f, g, hf, hg, fun tag => ⟨(hselects tag).2, (hselects tag).1.trans ?_⟩⟩
    rw [Bool.true_eq_false, false_iff]

/-- The second name starts with the first, which comes first in the pattern. -/
theorem selects_choice_longer_name :
    let names := ["v1", "v1-rc_2", "größe"]
    names ≠ [] ∧ (∀ name ∈ names, IsName name) ∧
      Regex.compileAnchored ("|".intercalate names) ≠ .error .tooLarge ∧
      (∃ f g, parse names = .ok f ∧ parse ["regex:v1|v1-rc_2|größe"] = .ok g ∧
        ∀ tag, f.selects tag = g.selects tag ∧ (f.selects tag = true ↔ tag ∈ names)) ∧
      ∃ f g, parse ["!v1", "!v1-rc_2", "!größe"] = .ok f ∧
        parse ["!regex:v1|v1-rc_2|größe"] = .ok g ∧
        ∀ tag, f.selects tag = g.selects tag ∧ (f.selects tag = true ↔ tag ∉ names) := by
  intro names
  have hne : names ≠ [] := by decide
  have hletters : ∀ name ∈ ["v1", "v1-rc_2"],
      name ≠ "" ∧ ∀ c ∈ name.toList, c.isAlphanum = true ∨ c = '_' ∨ c = '-' :=
    List.forall_mem_cons.2 ⟨⟨by decide, forall_mem_of_all (by decide)⟩,
      List.forall_mem_singleton.2 ⟨by decide, forall_mem_of_all (by decide)⟩⟩
  -- The last name has letters that are not ASCII, so each of its characters is looked up.
  have hnames : ∀ name ∈ names, IsName name := by
    rw [show names = ["v1", "v1-rc_2"] ++ ["größe"] from rfl, List.forall_mem_append]
    exact ⟨fun name hname =>
      TagSpec.isName_of_isAlphanum (hletters name hname).1 (hletters name hname).2, by decide⟩
  have hpattern : "|".intercalate names = "v1|v1-rc_2|größe" := by
    simp [names]
  have hcompile : Regex.compileAnchored "v1|v1-rc_2|größe" = .ok _ := rfl
  have hsize : Regex.compileAnchored ("|".intercalate names) ≠ .error .tooLarge := by
    rw [hpattern, hcompile]
    nofun
  have hselects := selects_choice hne hnames hsize
  rw [hpattern] at hselects
  exact ⟨hne, hnames, hsize, hselects⟩

end TagFilter

end ImageSync
