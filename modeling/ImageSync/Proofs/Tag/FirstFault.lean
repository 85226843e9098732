import ImageSync.Proofs.Tag.Meaning

/-!
# `ImageSync.Proofs.Tag.FirstFault`: why a list of tag specs is refused

There are two ways for a spec to be of no use. It may say nothing (`TagSpec.Blank`), or its body may
be a pattern that is none. `TagSpec.Faulty` names the fault of a spec at a place of a list, and
`TagSpec.parse_eq_error_iff` says that this is the one it is refused for.

A list is refused for its first spec of no use. The main statement is
`TagFilter.parse_first_fault`: the place that is named counts all specs in front, whether they want
or exclude, and nothing behind that spec has a part in it. Its step is
`TagFilter.parseFrom_cons_eq_error_iff`.
-/

set_option autoImplicit false

namespace ImageSync

open Text

namespace TagSpec

/-- A spec says nothing: it has only blanks, or only blanks around a mark. -/
inductive Blank (raw : String) : Prop where
  | bare (h : ∀ c ∈ raw.toList, isBlank c = true) : Blank raw
  | marked {before after : List Char} (hbefore : ∀ c ∈ before, isBlank c = true)
      (hafter : ∀ c ∈ after, isBlank c = true) (h : raw.toList = before ++ '!' :: after) : Blank raw

/-- What is wrong with the spec at a place of a list. -/
inductive Faulty (index : Nat) (raw : String) : TagSpecFault → Prop where
  | blank (h : Blank raw) : Faulty index raw (.blank index)
  | pattern {negated : Bool} {body : List Char} {text : String} {cause : Regex.CompileError}
      (hsaid : Says raw negated body) (hbody : body = "regex:".toList ++ text.toList)
      (hcause : Regex.compileAnchored text = .error cause) :
      Faulty index raw (.invalidPattern (String.ofList body) cause)

/-- A spec says nothing, or is about the tags of a pattern that is none. -/
def Unusable (raw : String) : Prop :=
  Blank raw ∨ ∃ negated text cause, Says raw negated ("regex:".toList ++ text.toList) ∧
    Regex.compileAnchored text = .error cause

variable {raw : String} {index : Nat} {fault : TagSpecFault}

/-- A spec that says nothing has an empty body, and only such a spec has. -/
theorem blank_iff : Blank raw ↔ (cut raw).2 = [] := by
  constructor
  · intro h
    cases h with
    | bare h =>
      have htrim : trim raw.toList = [] := trim_eq_nil_iff.2 h
      rw [cut_unmarked (by simp [htrim]), htrim]
    | marked hbefore hafter h => rw [cut_marked hbefore h, trim_eq_nil_iff.2 hafter]
  · intro hbody
    obtain ⟨before, after, hraw, hbefore, hafter⟩ := exists_trim raw.toList
    by_cases hmark : (trim raw.toList).head? = some '!'
    · obtain ⟨rest, hrest⟩ := List.head?_eq_some_iff.1 hmark
      have hmarked : raw.toList = before ++ '!' :: (rest ++ after) := by
        rw [hrest] at hraw
        simpa using hraw
      rw [cut_marked hbefore hmarked] at hbody
      exact .marked hbefore (trim_eq_nil_iff.1 hbody) hmarked
    · rw [cut_unmarked hmark] at hbody
      exact .bare (trim_eq_nil_iff.1 hbody)

/-- A spec is refused exactly for what is wrong with it. -/
theorem parse_eq_error_iff : parse index raw = .error fault ↔ Faulty index raw fault := by
  rw [parse]
  constructor
  · intro h
    -- The body is looked at in this order: it may be blank, a name, or a pattern that does not
    -- compile. A name is no fault.
    generalize hcut : cut raw = parts at h
    obtain ⟨negated, body⟩ := parts
    dsimp only at h
    split at h
    · next hempty =>
      cases h
      exact .blank (blank_iff.2 (by rw [hcut]; exact List.isEmpty_iff.1 hempty))
    · next hne =>
      have hsaid : Says raw negated body :=
        says_iff.2 ⟨hcut, fun hnil => hne (List.isEmpty_iff.2 hnil)⟩
      split at h
      · cases h
      · next text htext =>
        split at h
        · cases h
        · next cause hcause =>
          cases h
          exact .pattern hsaid (patternText?_ofList.1 htext) hcause
  · intro h
    cases h with
    | blank h => simp [blank_iff.1 h]
    | pattern hsaid hbody hcause =>
      obtain ⟨hcut, hne⟩ := says_iff.1 hsaid
      rw [hcut]
      dsimp only
      rw [if_neg (fun hempty => hne (List.isEmpty_iff.1 hempty)), patternText?_ofList.2 hbody]
      dsimp only
      rw [hcause]

/-- Whether there is something wrong with a spec does not depend on its place. -/
theorem exists_faulty_iff : (∃ fault, Faulty index raw fault) ↔ Unusable raw := by
  constructor
  · rintro ⟨fault, h⟩
    cases h with
    | blank h => exact .inl h
    | pattern hsaid hbody hcause => exact .inr ⟨_, _, _, hbody ▸ hsaid, hcause⟩
  · rintro (h | ⟨negated, text, cause, hsaid, hcause⟩)
    · exact ⟨_, .blank h⟩
    · exact ⟨_, .pattern hsaid rfl hcause⟩

/-- A spec is read unless it is of no use. -/
theorem exists_parse_eq_ok_iff : (∃ spec, parse index raw = .ok spec) ↔ ¬Unusable raw := by
  rw [← @exists_faulty_iff raw index]
  simp only [← parse_eq_error_iff]
  cases parse index raw <;> simp

end TagSpec

namespace TagFilter

open TagSpec (Faulty Unusable)

variable {specs : List String} {fault : TagSpecFault}

/-- The step of reading a list: it is refused for its first spec, or this one is good and the rest is
refused. -/
theorem parseFrom_cons_eq_error_iff {index : Nat} {first : String} {rest : List String} :
    parseFrom index (first :: rest) = .error fault ↔
      Faulty index first fault ∨
        ¬Unusable first ∧ parseFrom (index + 1) rest = .error fault := by
  rw [parseFrom]
  cases hfirst : TagSpec.parse index first with
  | error firstFault =>
    have hfaulty : Faulty index first firstFault := TagSpec.parse_eq_error_iff.1 hfirst
    constructor
    · intro h
      cases h
      exact .inl hfaulty
    · rintro (h | ⟨hgood, -⟩)
      · -- There is one fault at most.
        have hparse := TagSpec.parse_eq_error_iff.2 h
        rw [hfirst] at hparse
        cases hparse
        rfl
      · exact absurd (TagSpec.exists_faulty_iff.1 ⟨_, hfaulty⟩) hgood
  | ok spec =>
    have hgood : ¬Unusable first := TagSpec.exists_parse_eq_ok_iff.1 ⟨spec, hfirst⟩
    constructor
    · intro h
      refine .inr ⟨hgood, ?_⟩
      cases hrest : parseFrom (index + 1) rest with
      | error restFault =>
        rw [hrest] at h
        exact h
      | ok filter =>
        rw [hrest] at h
        cases h
    · rintro (h | ⟨-, h⟩)
      · exact absurd (TagSpec.exists_faulty_iff.1 ⟨_, h⟩) hgood
      · rw [h]
        rfl

/-- A list is refused from a place on for the first of its specs that is of no use. -/
theorem parseFrom_eq_error_iff {index : Nat} :
    parseFrom index specs = .error fault ↔
      ∃ front raw back, specs = front ++ raw :: back ∧ (∀ r ∈ front, ¬Unusable r) ∧
        Faulty (index + front.length) raw fault := by
  -- By induction on the list: the good specs in front are those that the steps went over.
  induction specs generalizing index with
  | nil => simp [parseFrom]
  | cons first rest ih =>
    rw [parseFrom_cons_eq_error_iff, ih]
    constructor
    · rintro (hfaulty | ⟨hgood, front, raw, back, rfl, hfront, hraw⟩)
      · exact ⟨[], first, rest, rfl, List.forall_mem_nil _, hfaulty⟩
      · refine ⟨first :: front, raw, back, rfl, List.forall_mem_cons.2 ⟨hgood, hfront⟩, ?_⟩
        rwa [List.length_cons, Nat.add_comm front.length, ← Nat.add_assoc]
    · rintro ⟨front, raw, back, hspecs, hfront, hraw⟩
      cases front with
      | nil =>
        cases hspecs
        exact .inl hraw
      | cons r front =>
        cases hspecs
        obtain ⟨hgood, hfront⟩ := List.forall_mem_cons.1 hfront
        refine .inr ⟨hgood, front, raw, back, rfl, hfront, ?_⟩
        rwa [List.length_cons, Nat.add_comm front.length, ← Nat.add_assoc] at hraw

/-- A list is refused if some of its specs is of no use. -/
theorem exists_parse_eq_error_iff :
    (∃ fault, parse specs = .error fault) ↔ ∃ raw ∈ specs, Unusable raw := by
  have hread : (∃ f, parse specs = .ok f) ↔ ∀ raw ∈ specs, ¬Unusable raw := by
    rw [parse, exists_parseFrom_iff]
    refine forall₂_congr fun raw _ => ?_
    rw [← @TagSpec.exists_parse_eq_ok_iff raw 0]
    simp only [TagSpec.parse_eq_ok_iff]
    constructor
    · rintro ⟨negated, body, m, hsaid, hmeans⟩
      exact ⟨⟨negated, m⟩, body, hsaid, hmeans⟩
    · rintro ⟨⟨negated, m⟩, body, hsaid, hmeans⟩
      exact ⟨negated, body, m, hsaid, hmeans⟩
  have hnot : (∃ fault, parse specs = .error fault) ↔ ¬∃ f, parse specs = .ok f := by
    cases parse specs <;> simp
  rw [hnot, hread]
  simp

/-- The selector of some specs is refused for what the specs are refused for. -/
theorem ofSpecs_eq_error_iff :
    TagSelector.ofSpecs specs = .error fault ↔ parse specs = .error fault := by
  rw [TagSelector.ofSpecs]
  cases parse specs with
  | error f => simp [Except.map]
  | ok f => exact ⟨nofun, nofun⟩

/-- A list of specs is refused if some spec is of no use, for the first such spec and with its
place. The same holds of the selector that is made of the list. Other specs behind that one, of
whatever kind, do not change for what the list is refused. -/
theorem parse_first_fault (specs : List String) :
    ((∃ fault, parse specs = .error fault) ↔ ∃ raw ∈ specs, Unusable raw) ∧
    (∀ fault, parse specs = .error fault ↔
      ∃ front raw back, specs = front ++ raw :: back ∧ (∀ r ∈ front, ¬Unusable r) ∧
        Faulty front.length raw fault) ∧
    (∀ fault, TagSelector.ofSpecs specs = .error fault ↔ parse specs = .error fault) ∧
    ∀ front raw back back', specs = front ++ raw :: back → (∀ r ∈ front, ¬Unusable r) →
      Unusable raw → parse (front ++ raw :: back') = parse specs := by
  refine ⟨exists_parse_eq_error_iff, fun fault => ?_, fun fault => ofSpecs_eq_error_iff, ?_⟩
  · rw [parse, parseFrom_eq_error_iff]
    simp only [Nat.zero_add]
  · rintro front raw back back' rfl hfront hraw
    obtain ⟨fault, hfault⟩ := (@TagSpec.exists_faulty_iff raw (0 + front.length)).2 hraw
    have hrefused : ∀ behind, parse (front ++ raw :: behind) = .error fault := fun behind =>
      parseFrom_eq_error_iff.2 ⟨front, raw, behind, rfl, hfront, hfault⟩
    rw [hrefused, hrefused]

/-- The place of a blank spec counts the specs of both signs before it. -/
example : parse ["v1", "!regex:v.*", " ! ", "regex:("] = .error (.blank 2) := by
  cbv

/-- A pattern that is none is named without the blanks and the mark of its spec. -/
example : parse ["v1", " ! regex:( ", ""] = .error (.invalidPattern "regex:(" .malformed) := rfl

end TagFilter

end ImageSync
