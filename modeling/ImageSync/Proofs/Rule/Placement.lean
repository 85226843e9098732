import ImageSync.Proofs.Rule.Validation

/-!
# `ImageSync.Proofs.Rule.Placement`: where a rule puts its repositories

A plan names for each repository that a rule selects the place that the rule puts it in. Two
repositories in one place would overwrite each other. A replacement may do that: it can make
the same text of any two paths. Here it is shown that nothing else does.

The argument rests on what validation makes of the configured texts. A source selects
repositories by absolute paths (`Source.isAbsolute_of_mem_select`), and a target without a
replacement is `Target.Rooted`: it leaves a path alone, or is an absolute path itself. Below
such a target different paths stay different (`Target.Rooted.place_injective`), as the whole path
of the source stands behind the target. A source that is no pattern may take the very place of
the target, but it selects only one repository (`Source.eq_of_mem_select`).

The main statement is `plan_without_collision`.
-/

set_option autoImplicit false

namespace ImageSync.Rule

/-- A path starts with a slash. -/
def IsAbsolute (path : String) : Prop := ∃ rest, path.toList = '/' :: rest

/-- A path that is made absolute is absolute. -/
theorem isAbsolute_absolutePath (path : String) : IsAbsolute (absolutePath path) :=
  absolutePath_cons path

/-- What stands behind an absolute path does not matter. -/
theorem IsAbsolute.append {front : String} (h : IsAbsolute front) (path : String) :
    IsAbsolute (front ++ path) := by
  obtain ⟨rest, hrest⟩ := h
  exact ⟨rest ++ path.toList, by rw [String.toList_append, hrest, List.cons_append]⟩

/-! ### Sources -/

namespace Source

variable {s : Source} {raw : String} {repositories : List String} {path path' : String}

/-- A configured source selects repositories by absolute paths. -/
theorem isAbsolute_of_mem_select (h : parse raw = .ok s) (hpath : path ∈ s.select repositories) :
    IsAbsolute path := by
  cases s with
  | literal place =>
    -- The only path is that of the source, which was made absolute when it was read.
    obtain rfl : path = place := List.mem_singleton.1 hpath
    unfold parse at h
    split at h
    · cases h
    · split at h
      · cases h
        exact isAbsolute_absolutePath raw
      · split at h <;> cases h
  | pattern e =>
    obtain ⟨name, -, rfl⟩ := List.mem_map.1 hpath
    exact isAbsolute_absolutePath name

/-- A source that is no pattern selects one repository. -/
theorem eq_of_mem_select (h : s.isPattern = false) (hpath : path ∈ s.select repositories)
    (hpath' : path' ∈ s.select repositories) : path = path' := by
  cases s with
  | literal place => exact (List.mem_singleton.1 hpath).trans (List.mem_singleton.1 hpath').symm
  | pattern e => cases h

end Source

/-! ### Targets -/

namespace Target

variable {t : Target} {raw : String} {path path' : String}

/-- A target that leaves paths alone or is an absolute path, under which they are put. -/
inductive Rooted : Target → Prop where
  | same : Rooted .same
  | literal {place : String} (h : IsAbsolute place) : Rooted (.literal place)

/-- A configured target is a replacement, or it is rooted. -/
theorem rooted_of_parse (h : parse raw = .ok t) (hraw : ∀ text, raw ≠ "regex:" ++ text) :
    t.Rooted := by
  have htext : patternText? raw = none := by
    cases htext : patternText? raw with
    | none => rfl
    | some text => exact absurd (patternText?_eq_some_iff.1 htext) (hraw text)
  rw [parse, htext] at h
  dsimp only at h
  split at h
  · cases h
    exact .same
  · cases h
    exact .literal (isAbsolute_absolutePath raw)

/-- A rooted target puts absolute paths at absolute places. -/
theorem Rooted.isAbsolute_place (h : t.Rooted) (sourceIsPattern : Bool) (hpath : IsAbsolute path) :
    IsAbsolute (t.place sourceIsPattern path) := by
  cases h with
  | same => exact hpath
  | literal hplace =>
    rw [place]
    split
    · exact hplace.append path
    · exact hplace

/-- Under a rooted target, the repositories of a pattern keep the whole of their paths. -/
theorem Rooted.place_injective (h : t.Rooted) (heq : t.place true path = t.place true path') :
    path = path' := by
  cases h with
  | same => exact heq
  | literal hplace => exact String.append_right_inj _ |>.1 heq

end Target

/-! ### Plans -/

section Plan

variable {config : RuleConfig} {rule : Rule}

/-- A configuration is validated by the verdict on its fields, with the tags that its specs make. -/
theorem validate_eq_verdict (config : RuleConfig) :
    validate config = verdict config (TagSelector.ofSpecs config.tags) := by
  unfold validate verdict validateWith
  rfl

/-- A rule whose target is no replacement puts repositories of different paths in different
places, and all paths and places are absolute. -/
theorem plan_without_collision (h : validate config = .ok rule)
    (htarget : ∀ text, config.target ≠ "regex:" ++ text) (repositories : List String) :
    (∀ entry ∈ rule.plan repositories, IsAbsolute entry.1 ∧ IsAbsolute entry.2) ∧
      ∀ entry ∈ rule.plan repositories, ∀ other ∈ rule.plan repositories,
        entry.1 ≠ other.1 → entry.2 ≠ other.2 := by
  rw [validate_eq_verdict] at h
  have hholds := holds_of_verdict_eq_ok h
  have hrooted := Target.rooted_of_parse hholds.target htarget
  have hsource : ∀ path ∈ rule.source.select repositories, IsAbsolute path := fun path hpath =>
    Source.isAbsolute_of_mem_select hholds.source hpath
  constructor
  · intro entry hentry
    obtain ⟨path, hpath, rfl⟩ := List.mem_map.1 hentry
    exact ⟨hsource path hpath, hrooted.isAbsolute_place _ (hsource path hpath)⟩
  · intro entry hentry other hother hne heq
    obtain ⟨path, hpath, rfl⟩ := List.mem_map.1 hentry
    obtain ⟨path', hpath', rfl⟩ := List.mem_map.1 hother
    refine hne ?_
    change rule.target.place rule.source.isPattern path =
      rule.target.place rule.source.isPattern path' at heq
    -- A source that is a literal selects one path. With a pattern, each path keeps its own place.
    cases hpattern : rule.source.isPattern with
    | false => exact Source.eq_of_mem_select hpattern hpath hpath'
    | true =>
      rw [hpattern] at heq
      exact hrooted.place_injective heq

/-- Three repositories of a team under a mirror. Two of them are one, and the slashes of the third
are its own. -/
theorem plan_without_collision_mirror :
    let config : RuleConfig := { source := "regex:/?team/.*", target := "mirror" }
    let repositories := ["team/a", "/team/a", "team//a/", "other/a"]
    ∃ rule, validate config = .ok rule ∧
      (∀ text, config.target ≠ "regex:" ++ text) ∧
      rule.plan repositories = [("/team/a", "/mirror/team/a"), ("/team/a", "/mirror/team/a"),
        ("/team//a/", "/mirror/team//a/")] ∧
      (∀ entry ∈ rule.plan repositories, IsAbsolute entry.1 ∧ IsAbsolute entry.2) ∧
        ∀ entry ∈ rule.plan repositories, ∀ other ∈ rule.plan repositories,
          entry.1 ≠ other.1 → entry.2 ≠ other.2 := by
  intro config repositories
  have hplan : ((validate config).map fun rule => rule.plan repositories).toOption =
      some [("/team/a", "/mirror/team/a"), ("/team/a", "/mirror/team/a"),
        ("/team//a/", "/mirror/team//a/")] := by
    decide +kernel
  have htarget : ∀ text, config.target ≠ "regex:" ++ text := by
    intro text heq
    have hnone : patternText? config.target = none := by decide +kernel
    rw [patternText?_eq_some_iff.2 heq] at hnone
    cases hnone
  cases hvalidate : validate config with
  | error fault =>
    rw [hvalidate] at hplan
    cases hplan
  | ok rule =>
    rw [hvalidate] at hplan
    exact ⟨rule, rfl, htarget, Option.some.inj hplan,
      plan_without_collision hvalidate htarget repositories⟩

/-- A replacement may put two repositories in one place. -/
example : ((validate { source := "regex:.*", target := "regex:[ab]$,c" }).map fun rule =>
    rule.plan ["a", "b"]).toOption = some [("/a", "/c"), ("/b", "/c")] := by
  cbv

end Plan

end ImageSync.Rule
