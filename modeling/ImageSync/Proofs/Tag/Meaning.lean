import ImageSync.Proofs.Text.Run
import ImageSync.Tag.Filter

/-!
# `ImageSync.Proofs.Tag.Meaning`: what a list of tag specs means

A spec says which tags it is about, and whether it wants or excludes them. `TagSpec.Says` reads this
off its characters: blanks, perhaps an exclamation mark and more blanks, and a body.
`TagSpec.StandsFor` gives the tags of a body, and `TagFilter.Wanted` puts the specs of a list
together: a tag is wanted if some spec wants it, or none wants anything, and no spec excludes it.

The main statement is `TagFilter.parse_meaning`. A filter selects just the wanted tags. The order of
the specs, copies of them and blanks that do not count (`TagSpec.Respaced`) change nothing, and a
further spec that excludes never brings in a tag.

All of it rests on two facts. A spec is read as it says, wherever it stands in the list
(`TagSpec.parse_eq_ok_iff`), and the matchers of a filter are those of its specs, each on its side
(`TagFilter.of_parseFrom`).
-/

set_option autoImplicit false

namespace ImageSync

open Text

namespace TagSpec

/-- What a spec is about, without the blanks around it. -/
structure IsBody (body : List Char) : Prop where
  ne_nil : body ≠ []
  first : ∀ c, body.head? = some c → isBlank c = false
  last : ∀ c, body.getLast? = some c → isBlank c = false

/-- A spec wants what its body is about, or with a mark in front of the body excludes it. -/
inductive Says (raw : String) : Bool → List Char → Prop where
  | wants {before body after : List Char} (hbefore : ∀ c ∈ before, isBlank c = true)
      (hafter : ∀ c ∈ after, isBlank c = true) (hbody : IsBody body)
      (hmark : body.head? ≠ some '!') (h : raw.toList = before ++ body ++ after) :
      Says raw false body
  | excludes {before gap body after : List Char} (hbefore : ∀ c ∈ before, isBlank c = true)
      (hgap : ∀ c ∈ gap, isBlank c = true) (hafter : ∀ c ∈ after, isBlank c = true)
      (hbody : IsBody body) (h : raw.toList = before ++ '!' :: (gap ++ body ++ after)) :
      Says raw true body

/-- A body stands for a tag: it is its name, or a pattern that matches all of it. -/
inductive StandsFor (body : List Char) (tag : String) : Prop where
  | name (hbody : ¬"regex:".toList <+: body) (htag : tag.toList = body) : StandsFor body tag
  | pattern {text : String} {e : Regex} (hbody : body = "regex:".toList ++ text.toList)
      (he : Regex.compileAnchored text = .ok e) (hmatch : e.isMatch tag = true) :
      StandsFor body tag

/-- What a body is read as. -/
inductive Means (body : List Char) : TagMatcher → Prop where
  | name (hbody : ¬"regex:".toList <+: body) : Means body (.exact (String.ofList body))
  | pattern {text : String} {e : Regex} (hbody : body = "regex:".toList ++ text.toList)
      (he : Regex.compileAnchored text = .ok e) : Means body (.pattern e)

/-- Two specs differ only in blanks around them or behind their marks. -/
inductive Respaced : String → String → Prop where
  | around {raw raw' : String} {before after : List Char}
      (hbefore : ∀ c ∈ before, isBlank c = true) (hafter : ∀ c ∈ after, isBlank c = true)
      (h : raw'.toList = before ++ raw.toList ++ after) : Respaced raw raw'
  | behindMark {raw raw' : String} {before gap rest : List Char}
      (hbefore : ∀ c ∈ before, isBlank c = true) (hgap : ∀ c ∈ gap, isBlank c = true)
      (h : raw.toList = before ++ '!' :: rest) (h' : raw'.toList = before ++ '!' :: (gap ++ rest)) :
      Respaced raw raw'
  | symm {raw raw' : String} (h : Respaced raw raw') : Respaced raw' raw
  | trans {raw raw' raw'' : String} (h : Respaced raw raw') (h' : Respaced raw' raw'') :
      Respaced raw raw''

variable {raw raw' : String} {negated : Bool} {body : List Char} {m : TagMatcher} {tag : String}

/-! ### What a spec says -/

/-- Without a mark, the body of a spec is what trimming leaves. -/
theorem cut_unmarked (h : (trim raw.toList).head? ≠ some '!') :
    cut raw = (false, trim raw.toList) := by
  rw [cut]
  split
  · next r hr => exact absurd (by rw [hr]; rfl) h
  · rfl

/-- Behind a mark, the body of a spec is what trimming leaves of the rest. -/
theorem cut_marked {before rest : List Char} (hbefore : ∀ c ∈ before, isBlank c = true)
    (h : raw.toList = before ++ '!' :: rest) : cut raw = (true, trim rest) := by
  have htrim : trim raw.toList = '!' :: trimEnd rest := by
    have hbetween := trim_between hbefore (List.forall_mem_nil _) ('!' :: rest)
    rw [List.append_nil] at hbetween
    rw [h, hbetween, trim_cons (by decide)]
  rw [cut, htrim, ← trimStart_trimEnd]
  rfl

/-- A spec is cut into what it says. -/
theorem says_iff : Says raw negated body ↔ cut raw = (negated, body) ∧ body ≠ [] := by
  constructor
  · intro h
    cases h with
    | wants hbefore hafter hbody hmark h =>
      have htrim : trim raw.toList = body := by
        rw [h, trim_of_edges hbefore hafter hbody.ne_nil hbody.first hbody.last]
      rw [← htrim] at hmark ⊢
      exact ⟨cut_unmarked hmark, by rw [htrim]; exact hbody.ne_nil⟩
    | excludes hbefore hgap hafter hbody h =>
      rw [cut_marked hbefore h,
        trim_of_edges hgap hafter hbody.ne_nil hbody.first hbody.last]
      exact ⟨rfl, hbody.ne_nil⟩
  · rintro ⟨hcut, hne⟩
    obtain ⟨before, after, hraw, hbefore, hafter⟩ := exists_trim raw.toList
    by_cases hmark : (trim raw.toList).head? = some '!'
    · -- Behind the mark there are blanks around the body, too.
      obtain ⟨rest, hrest⟩ := List.head?_eq_some_iff.1 hmark
      have hmarked : raw.toList = before ++ '!' :: (rest ++ after) := by
        rw [hrest] at hraw
        simpa using hraw
      rw [cut_marked hbefore hmarked] at hcut
      cases hcut
      obtain ⟨gap, after', hbody, hgap, hafter'⟩ := exists_trim (rest ++ after)
      rw [hbody] at hmarked
      exact .excludes hbefore hgap hafter' ⟨hne, head?_trim _, getLast?_trim _⟩ hmarked
    · rw [cut_unmarked hmark] at hcut
      cases hcut
      exact .wants hbefore hafter ⟨hne, head?_trim _, getLast?_trim _⟩ hmark hraw

/-- A spec says one thing. -/
theorem Says.unique {negated' : Bool} {body' : List Char} (h : Says raw negated body)
    (h' : Says raw negated' body') : negated = negated' ∧ body = body' := by
  have hcut := (says_iff.1 h).1
  rw [(says_iff.1 h').1, Prod.mk.injEq] at hcut
  exact ⟨hcut.1.symm, hcut.2.symm⟩

/-- Blanks that do not count are not in what a spec is cut into. -/
theorem Respaced.cut_eq (h : Respaced raw raw') : cut raw = cut raw' := by
  induction h with
  | @around raw raw' before after hbefore hafter h =>
    have htrim : trim raw'.toList = trim raw.toList := by
      rw [h, trim_between hbefore hafter]
    rw [cut, cut, htrim]
  | @behindMark raw raw' before gap rest hbefore hgap h h' =>
    have hbetween := trim_between hgap (List.forall_mem_nil _) rest
    rw [List.append_nil] at hbetween
    rw [cut_marked hbefore h, cut_marked hbefore h', hbetween]
  | symm _ ih => exact ih.symm
  | trans _ _ ih ih' => exact ih.trans ih'

/-- Blanks around its parts do not change what a spec says. -/
theorem Respaced.says_iff (h : Respaced raw raw') :
    Says raw negated body ↔ Says raw' negated body := by
  rw [TagSpec.says_iff, TagSpec.says_iff, h.cut_eq]

/-! ### What a spec is read as -/

/-- A matcher accepts the tags that its body stands for. -/
theorem Means.accepts_iff (h : Means body m) : m.accepts tag = true ↔ StandsFor body tag := by
  cases h with
  | name hbody =>
    have hname :
        (TagMatcher.exact (String.ofList body)).accepts tag = true ↔ tag.toList = body := by
      rw [TagMatcher.accepts, beq_iff_eq, ← String.toList_inj, String.toList_ofList]
      exact eq_comm
    rw [hname]
    constructor
    · exact .name hbody
    · intro h
      cases h with
      | name _ htag => exact htag
      | pattern hpattern _ _ => exact absurd ⟨_, hpattern.symm⟩ hbody
  | @pattern text e hbody he =>
    constructor
    · exact .pattern hbody he
    · intro h
      cases h with
      | name hname _ => exact absurd ⟨_, hbody.symm⟩ hname
      | @pattern text' e' hbody' he' hmatch =>
        -- The text of the pattern is what stands behind the word, so it is the same.
        rw [hbody, List.append_right_inj, String.toList_inj] at hbody'
        subst hbody'
        rw [he] at he'
        cases he'
        exact hmatch

/-- A body is a pattern if it starts with the word for it. -/
theorem patternText?_ofList {text : String} :
    Rule.patternText? (String.ofList body) = some text ↔
      body = "regex:".toList ++ text.toList := by
  rw [Rule.patternText?_eq_some_iff, ← String.toList_inj, String.toList_ofList,
    String.toList_append]

/-- A body is a name if it does not start with the word for patterns. -/
theorem patternText?_ofList_eq_none :
    Rule.patternText? (String.ofList body) = none ↔ ¬"regex:".toList <+: body := by
  constructor
  · rintro hnone ⟨rest, hrest⟩
    have hsome := (@patternText?_ofList body (String.ofList rest)).2
      (hrest.symm.trans (congrArg _ String.toList_ofList.symm))
    rw [hnone] at hsome
    cases hsome
  · intro hprefix
    cases htext : Rule.patternText? (String.ofList body) with
    | none => rfl
    | some text => exact absurd ⟨_, (patternText?_ofList.1 htext).symm⟩ hprefix

/-- A spec is read as it says, wherever it stands. -/
theorem parse_eq_ok_iff {index : Nat} {spec : TagSpec} :
    parse index raw = .ok spec ↔ ∃ body, Says raw spec.negated body ∧ Means body spec.matcher := by
  obtain ⟨negated, m⟩ := spec
  simp only [says_iff]
  rw [parse]
  generalize cut raw = cut
  obtain ⟨negated', body⟩ := cut
  dsimp only
  constructor
  · intro h
    split at h
    · cases h
    · next hne =>
      have hbody : body ≠ [] := fun hnil => hne (List.isEmpty_iff.2 hnil)
      split at h
      · next hname =>
        cases h
        exact ⟨body, ⟨rfl, hbody⟩, .name (patternText?_ofList_eq_none.1 hname)⟩
      · next text htext =>
        split at h
        · next e he =>
          cases h
          exact ⟨body, ⟨rfl, hbody⟩, .pattern (patternText?_ofList.1 htext) he⟩
        · cases h
  · rintro ⟨body', ⟨hcut, hne⟩, hmeans⟩
    cases hcut
    rw [if_neg (fun hempty => hne (List.isEmpty_iff.1 hempty))]
    cases hmeans with
    | name hbody => rw [patternText?_ofList_eq_none.2 hbody]
    | pattern hbody he =>
      rw [patternText?_ofList.2 hbody]
      dsimp only
      rw [he]

end TagSpec

namespace TagFilter

open TagSpec (Says StandsFor Means Respaced)

/-- A tag is wanted: some spec wants it, or none wants anything, and no spec excludes it. -/
def Wanted (specs : List String) (tag : String) : Prop :=
  ((∀ raw ∈ specs, ∀ body, ¬Says raw false body) ∨
      ∃ raw ∈ specs, ∃ body, Says raw false body ∧ StandsFor body tag) ∧
    ∀ raw ∈ specs, ∀ body, Says raw true body → ¬StandsFor body tag

/-- Each of two lists has every spec of the other, but for blanks that do not count. Their order
and the number of copies may differ. -/
def SameSpecs (specs specs' : List String) : Prop :=
  (∀ raw ∈ specs, ∃ raw' ∈ specs', Respaced raw raw') ∧
    ∀ raw' ∈ specs', ∃ raw ∈ specs, Respaced raw' raw

/-- The matchers of a filter that want tags, or those that exclude them. -/
def matchers (f : TagFilter) (negated : Bool) : List TagMatcher :=
  if negated then f.excluded else f.included

variable {specs specs' : List String} {f f' : TagFilter} {negated : Bool} {tag : String}

/-! ### The matchers of a filter -/

/-- A list is read if each of its specs is: the matchers on each side are those of its specs. -/
theorem of_parseFrom {index : Nat} (h : parseFrom index specs = .ok f) :
    (∀ raw ∈ specs, ∃ negated body m, Says raw negated body ∧ Means body m) ∧
      ∀ negated m, m ∈ f.matchers negated ↔
        ∃ raw ∈ specs, ∃ body, Says raw negated body ∧ Means body m := by
  -- By induction on the list, for specs with any index. Each spec goes to one of the two sides.
  induction specs generalizing index f with
  | nil =>
    cases h
    refine ⟨List.forall_mem_nil _, fun negated m => ?_⟩
    cases negated <;> simp [matchers]
  | cons raw rest ih =>
    rw [parseFrom] at h
    cases hspec : TagSpec.parse index raw with
    | error fault =>
      rw [hspec] at h
      cases h
    | ok spec =>
      cases hfilter : parseFrom (index + 1) rest with
      | error fault =>
        rw [hspec, hfilter] at h
        cases h
      | ok filter =>
        obtain ⟨hread, hmatchers⟩ := ih hfilter
        obtain ⟨body, hsaid, hmeans⟩ := TagSpec.parse_eq_ok_iff.1 hspec
        have hf : f =
            if spec.negated then { filter with excluded := spec.matcher :: filter.excluded }
            else { filter with included := spec.matcher :: filter.included } := by
          rw [hspec, hfilter] at h
          cases h
          rfl
        refine ⟨List.forall_mem_cons.2 ⟨⟨_, body, _, hsaid, hmeans⟩, hread⟩, fun negated m => ?_⟩
        have hmem : m ∈ f.matchers negated ↔
            negated = spec.negated ∧ m = spec.matcher ∨ m ∈ filter.matchers negated := by
          rw [hf, matchers, matchers]
          cases negated <;> cases spec.negated <;> simp
        have hraw : (∃ body, Says raw negated body ∧ Means body m) ↔
            negated = spec.negated ∧ m = spec.matcher := by
          rw [← @TagSpec.parse_eq_ok_iff raw index ⟨negated, m⟩, hspec, Except.ok.injEq]
          constructor
          · rintro rfl
            exact ⟨rfl, rfl⟩
          · rintro ⟨rfl, rfl⟩
            rfl
        rw [hmem, hmatchers, ← hraw]
        simp only [List.mem_cons, or_and_right, exists_or, exists_eq_left]

/-- A list is read exactly if each of its specs says something, and patterns are such. -/
theorem exists_parseFrom_iff (index : Nat) :
    (∃ f, parseFrom index specs = .ok f) ↔
      ∀ raw ∈ specs, ∃ negated body m, Says raw negated body ∧ Means body m := by
  constructor
  · rintro ⟨f, hf⟩
    exact (of_parseFrom hf).1
  · intro h
    induction specs generalizing index with
    | nil => exact ⟨_, rfl⟩
    | cons raw rest ih =>
      obtain ⟨⟨negated, body, m, hsaid, hmeans⟩, hrest⟩ := List.forall_mem_cons.1 h
      have hspec : TagSpec.parse index raw = .ok ⟨negated, m⟩ :=
        TagSpec.parse_eq_ok_iff.2 ⟨body, hsaid, hmeans⟩
      obtain ⟨filter, hfilter⟩ := ih (index + 1) hrest
      rw [parseFrom, hspec, hfilter]
      exact ⟨_, rfl⟩

/-- A matcher on one side of a filter accepts a tag if a spec of that side has a body for it. -/
theorem any_matchers_iff (h : parse specs = .ok f) (negated : Bool) (tag : String) :
    (f.matchers negated).any (·.accepts tag) = true ↔
      ∃ raw ∈ specs, ∃ body, Says raw negated body ∧ StandsFor body tag := by
  obtain ⟨hread, hmatchers⟩ := of_parseFrom h
  rw [List.any_eq_true]
  constructor
  · rintro ⟨m, hm, haccepts⟩
    obtain ⟨raw, hraw, body, hsaid, hmeans⟩ := (hmatchers negated m).1 hm
    exact ⟨raw, hraw, body, hsaid, hmeans.accepts_iff.1 haccepts⟩
  · rintro ⟨raw, hraw, body, hsaid, hstands⟩
    obtain ⟨negated', body', m, hsaid', hmeans⟩ := hread raw hraw
    obtain ⟨rfl, rfl⟩ := hsaid.unique hsaid'
    exact ⟨m, (hmatchers negated m).2 ⟨raw, hraw, body, hsaid, hmeans⟩,
      hmeans.accepts_iff.2 hstands⟩

/-- A side of a filter is empty if no spec is on that side. -/
theorem matchers_eq_nil_iff (h : parse specs = .ok f) (negated : Bool) :
    f.matchers negated = [] ↔ ∀ raw ∈ specs, ∀ body, ¬Says raw negated body := by
  obtain ⟨hread, hmatchers⟩ := of_parseFrom h
  rw [List.eq_nil_iff_forall_not_mem]
  constructor
  · intro hnone raw hraw body hsaid
    obtain ⟨negated', body', m, hsaid', hmeans⟩ := hread raw hraw
    obtain ⟨rfl, rfl⟩ := hsaid.unique hsaid'
    exact hnone m ((hmatchers negated m).2 ⟨raw, hraw, body, hsaid, hmeans⟩)
  · intro hnone m hm
    obtain ⟨raw, hraw, body, hsaid, -⟩ := (hmatchers negated m).1 hm
    exact hnone raw hraw body hsaid

/-! ### What a filter selects -/

/-- A filter selects the tags that its specs want. -/
theorem selects_iff (h : parse specs = .ok f) (tag : String) :
    f.selects tag = true ↔ Wanted specs tag := by
  have hwants := any_matchers_iff h false tag
  have hnone := matchers_eq_nil_iff h false
  have hexcludes := any_matchers_iff h true tag
  simp only [matchers, if_true, Bool.false_eq_true, if_false] at hwants hnone hexcludes
  rw [selects, Bool.and_eq_true, Bool.or_eq_true, List.isEmpty_iff, hnone, hwants,
    Bool.not_eq_true', ← Bool.not_eq_true, hexcludes, Wanted]
  simp only [not_exists, not_and]

/-- A filter is empty if it was made from no specs. -/
theorem isEmpty_iff (h : parse specs = .ok f) : f.isEmpty = true ↔ specs = [] := by
  have hwants := matchers_eq_nil_iff h false
  have hexcludes := matchers_eq_nil_iff h true
  simp only [matchers, if_true, Bool.false_eq_true, if_false] at hwants hexcludes
  rw [isEmpty, Bool.and_eq_true, List.isEmpty_iff, List.isEmpty_iff, hwants, hexcludes]
  constructor
  · rintro ⟨hnotWants, hnotExcludes⟩
    rw [List.eq_nil_iff_forall_not_mem]
    intro raw hraw
    -- Each spec says something, so it would be on one of the two sides.
    obtain ⟨negated, body, -, hsaid, -⟩ := (of_parseFrom h).1 raw hraw
    cases negated with
    | true => exact hnotExcludes raw hraw body hsaid
    | false => exact hnotWants raw hraw body hsaid
  · rintro rfl
    exact ⟨List.forall_mem_nil _, List.forall_mem_nil _⟩

/-! ### Lists that say the same -/

/-- Lists hold the same specs either way round. -/
theorem SameSpecs.symm (h : SameSpecs specs specs') : SameSpecs specs' specs := ⟨h.2, h.1⟩

/-- What some spec of a list says, some spec of the other list says, too. -/
theorem SameSpecs.exists_says {p : List Char → Prop} (h : SameSpecs specs specs')
    (hsaid : ∃ raw ∈ specs, ∃ body, Says raw negated body ∧ p body) :
    ∃ raw ∈ specs', ∃ body, Says raw negated body ∧ p body := by
  obtain ⟨raw, hraw, body, hbody, hp⟩ := hsaid
  obtain ⟨raw', hraw', hrespaced⟩ := h.1 raw hraw
  exact ⟨raw', hraw', body, hrespaced.says_iff.1 hbody, hp⟩

/-- What no spec of a list says, no spec of the other list says. -/
theorem SameSpecs.forall_says {p : List Char → Prop} (h : SameSpecs specs specs')
    (hsaid : ∀ raw ∈ specs, ∀ body, Says raw negated body → p body) :
    ∀ raw ∈ specs', ∀ body, Says raw negated body → p body := by
  intro raw' hraw' body hbody
  obtain ⟨raw, hraw, hrespaced⟩ := h.2 raw' hraw'
  exact hsaid raw hraw body (hrespaced.says_iff.1 hbody)

/-- Lists with the same specs want the same tags. -/
theorem SameSpecs.wanted (h : SameSpecs specs specs') (hwanted : Wanted specs tag) :
    Wanted specs' tag := by
  obtain ⟨hwants, hexcludes⟩ := hwanted
  refine ⟨?_, h.forall_says hexcludes⟩
  rcases hwants with hnone | hsome
  · exact .inl (h.forall_says hnone)
  · exact .inr (h.exists_says hsome)

/-- If a list makes a filter, so does one with the same specs. -/
theorem SameSpecs.readable (h : SameSpecs specs specs') (hread : ∃ f, parse specs = .ok f) :
    ∃ f, parse specs' = .ok f := by
  have hall := (exists_parseFrom_iff 0).1 hread
  refine (exists_parseFrom_iff 0).2 fun raw' hraw' => ?_
  obtain ⟨raw, hraw, hrespaced⟩ := h.2 raw' hraw'
  obtain ⟨negated, body, m, hsaid, hmeans⟩ := hall raw hraw
  exact ⟨negated, body, m, hrespaced.says_iff.2 hsaid, hmeans⟩

/-- Only the empty list has no specs. -/
theorem SameSpecs.eq_nil (h : SameSpecs specs specs') (hnil : specs = []) : specs' = [] := by
  subst hnil
  rw [List.eq_nil_iff_forall_not_mem]
  intro raw' hraw'
  obtain ⟨raw, hraw, -⟩ := h.2 raw' hraw'
  exact List.not_mem_nil hraw

/-- A further spec that excludes brings in no tag. -/
theorem wanted_of_insert {front back : List String} {raw : String} {body : List Char}
    (hsaid : Says raw true body) (h : Wanted (front ++ raw :: back) tag) :
    Wanted (front ++ back) tag := by
  have hsubset : ∀ r ∈ front ++ back, r ∈ front ++ raw :: back := by
    intro r hr
    rcases List.mem_append.1 hr with hr | hr
    · exact List.mem_append_left _ hr
    · exact List.mem_append_right _ (List.mem_cons_of_mem _ hr)
  obtain ⟨hwants, hexcludes⟩ := h
  refine ⟨?_, fun r hr => hexcludes r (hsubset r hr)⟩
  rcases hwants with hnone | ⟨r, hr, body', hbody', hstands⟩
  · exact .inl fun r hr => hnone r (hsubset r hr)
  · -- The spec that wants the tag is none that excludes, so it was there before.
    have hold : r ∈ front ++ back := by
      rcases List.mem_append.1 hr with hr | hr
      · exact List.mem_append_left _ hr
      · rcases List.mem_cons.1 hr with rfl | hr
        · cases (hbody'.unique hsaid).1
        · exact List.mem_append_right _ hr
    exact .inr ⟨r, hold, body', hbody', hstands⟩

/-- A list of specs that is read selects just the tags that are wanted, and is empty if it has no
spec at all. Two lists that have the same specs, but for their order, the number of copies and
blanks that do not count, are both read or both not, and select the same. A further spec that
excludes selects no tag that was not selected without it. -/
theorem parse_meaning (specs : List String) :
    (∀ f, parse specs = .ok f →
      (∀ raw ∈ specs, ∃ negated body, Says raw negated body) ∧
        (∀ tag, f.selects tag = true ↔ Wanted specs tag) ∧ (f.isEmpty = true ↔ specs = [])) ∧
    (∀ specs', SameSpecs specs specs' →
      ((∃ f, parse specs = .ok f) ↔ ∃ f, parse specs' = .ok f) ∧
        ∀ f f', parse specs = .ok f → parse specs' = .ok f' →
          (∀ tag, f.selects tag = f'.selects tag) ∧ f.isEmpty = f'.isEmpty) ∧
    ∀ front back raw body f f', specs = front ++ back → Says raw true body →
      parse specs = .ok f → parse (front ++ raw :: back) = .ok f' →
        ∀ tag, f'.selects tag = true → f.selects tag = true := by
  refine ⟨fun f hf => ⟨fun raw hraw => ?_, selects_iff hf, isEmpty_iff hf⟩,
    fun specs' hsame => ⟨⟨hsame.readable, hsame.symm.readable⟩, fun f f' hf hf' =>
      ⟨fun tag => ?_, ?_⟩⟩, ?_⟩
  · obtain ⟨negated, body, -, hsaid, -⟩ := (of_parseFrom hf).1 raw hraw
    exact ⟨negated, body, hsaid⟩
  · rw [Bool.eq_iff_iff, selects_iff hf, selects_iff hf']
    exact ⟨hsame.wanted, hsame.symm.wanted⟩
  · rw [Bool.eq_iff_iff, isEmpty_iff hf, isEmpty_iff hf']
    exact ⟨hsame.eq_nil, hsame.symm.eq_nil⟩
  · rintro front back raw body f f' rfl hsaid hf hf' tag hselected
    exact (selects_iff hf tag).2 (wanted_of_insert hsaid ((selects_iff hf' tag).1 hselected))

/-- Blanks do not count, and the spec that excludes wins wherever it stands. -/
example : ((parse ["! v1 ", " regex:v.*", "w"]).map fun f =>
    ["v1", "v2", "w", "x"].map f.selects).toOption = some [false, true, true, false] := by
  cbv

end TagFilter

end ImageSync
