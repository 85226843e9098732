import ImageSync.Text.Cut

/-!
# `ImageSync.Rule.Path`: paths of repositories, and the mark of a pattern

Repositories are named by absolute paths. `absolutePath` puts a slash in front of a path
that has none and changes nothing else. A configured path that starts with `regex:` is a
pattern; `patternText?` gives the text after that mark.

Main statements: an absolute path starts with a slash and making it absolute again changes
nothing (`absolutePath_cons`, `absolutePath_absolutePath`); the text of a pattern is what
stands after its mark (`patternText?_eq_some_iff`).
-/

set_option autoImplicit false

namespace ImageSync.Rule

/-- The absolute form of a path. -/
def absolutePath (path : String) : String :=
  match path.toList with
  | '/' :: _ => path
  | cs => String.ofList ('/' :: cs)

/-- The text of a pattern, if a configured path or tag is one. -/
def patternText? (raw : String) : Option String :=
  (Text.stripPrefix? "regex:".toList raw.toList).map String.ofList

/-- The text of a pattern is what stands after its mark. -/
theorem patternText?_eq_some_iff {raw text : String} :
    patternText? raw = some text ↔ raw = "regex:" ++ text := by
  rw [patternText?, Option.map_eq_some_iff]
  constructor
  · rintro ⟨rest, hrest, rfl⟩
    rw [Text.stripPrefix?_eq_some_iff] at hrest
    rw [← String.toList_inj, hrest, String.toList_append]
    exact congrArg _ String.toList_ofList.symm
  · rintro rfl
    exact ⟨text.toList, Text.stripPrefix?_eq_some_iff.2 String.toList_append,
      String.ofList_toList⟩

/-- An absolute path starts with a slash. -/
theorem absolutePath_cons (path : String) : ∃ r, (absolutePath path).toList = '/' :: r := by
  unfold absolutePath
  split
  · next r h => exact ⟨r, h⟩
  · exact ⟨_, String.toList_ofList⟩

/-- Making an absolute path absolute changes nothing. -/
theorem absolutePath_absolutePath (path : String) :
    absolutePath (absolutePath path) = absolutePath path := by
  obtain ⟨r, h⟩ := absolutePath_cons path
  generalize absolutePath path = q at h ⊢
  simp [absolutePath, h]

end ImageSync.Rule
