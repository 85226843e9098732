import ImageSync.Proofs.Outcome
import ImageSync.Proofs.Regex.Scan
import ImageSync.Proofs.Regex.Template
import ImageSync.Proofs.Rule.Placement

/-!
# `ImageSync.Proofs.Rule.Replacement`: rules that replace a word

A target with a pattern and a template puts a repository where replacing the matches of the pattern
puts its path. If the pattern is a plain word and the template a plain text, this is what
`Text.replaceWord` does to the path. That is the main statement, `mapPath_eq_replaceWord`.

Whether such a rule is valid is decided by `validate_replacement`: if the rest of the configuration
is valid and the text before the comma is a pattern, nothing but the size of the pattern can be
wrong. That can be, as `validate_long_word` shows.
-/

set_option autoImplicit false

namespace ImageSync.Rule

open Regex (IsPlain)

variable {config : RuleConfig} {plain : Rule} {text pattern template : String}

/-- A valid configuration with another target is valid if the target is. -/
theorem validate_with_target (h : validate { config with target := "" } = .ok plain)
    (raw : String) :
    validate { config with target := raw } =
      match Target.parse raw with
      | .ok target => .ok { plain with target }
      | .error fault => .error (.target fault) := by
  -- Without a target text the target is the same path, which is never refused.
  have hempty : Target.parse "" = .ok .same := rfl
  rw [validate_eq_verdict] at h ⊢
  simp only [verdict, validateWith, hempty] at h ⊢
  generalize TagSelector.ofSpecs config.tags = answer at h ⊢
  cases hsource : Source.parse config.source with
  | error f =>
    rw [hsource] at h
    cases h
  | ok source =>
    rw [hsource] at h
    cases answer with
    | error f => cases h
    | ok tags =>
      dsimp only at h
      cases hsince : readSince config.since with
      | error f =>
        rw [hsince] at h
        cases h
      | ok since =>
        rw [hsince] at h
        cases h
        cases Target.parse raw <;> rfl

/-- A target that is a replacement is valid if its pattern compiles. -/
theorem Target.parse_of_isReplacement (h : IsReplacement text pattern template) :
    Target.parse ("regex:" ++ text) =
      match Regex.compile pattern with
      | .ok e => .ok (.replacement e template)
      | .error cause => .error (.invalidPattern pattern cause) := by
  have htext : patternText? ("regex:" ++ text) = some text := patternText?_eq_some_iff.2 rfl
  rw [Target.parse, htext]
  rcases parseReplacement_cases text with ⟨pattern', template', h', hparse⟩ | ⟨hno, -⟩
  · have hcut := (cutFirst?_of_isReplacement h').symm.trans (cutFirst?_of_isReplacement h)
    obtain ⟨rfl, rfl⟩ : pattern' = pattern ∧ template' = template := by
      simpa [String.toList_inj] using hcut
    exact hparse
  · exact absurd h (hno pattern template)

/-- A valid configuration with a replacement for its target is refused if the pattern is too large,
and otherwise puts a repository where the replacement of the matches does. -/
theorem validate_replacement (config : RuleConfig)
    (h : validate { config with target := "" } = .ok plain)
    (hreplacement : IsReplacement text pattern template) {p : Regex.Pattern}
    (hread : Regex.readPattern pattern.toList = some p) :
    (Regex.compile pattern = .error .tooLarge →
      validate { config with target := "regex:" ++ text } =
        .error (.target (.invalidPattern pattern .tooLarge))) ∧
    (Regex.compile pattern ≠ .error .tooLarge →
      ∃ rule, validate { config with target := "regex:" ++ text } = .ok rule ∧
        ∀ path, rule.mapPath path = Regex.replaceAll ⟨pattern, p⟩ template path) := by
  rw [validate_with_target h, Target.parse_of_isReplacement hreplacement]
  constructor
  · intro hlarge
    rw [hlarge]
  · intro hsize
    have hcompile : Regex.compile pattern = .ok ⟨String.ofList pattern.toList, p⟩ :=
      Regex.compileChars_eq_ok hread hsize
    rw [String.ofList_toList] at hcompile
    rw [hcompile]
    exact ⟨_, rfl, fun path => rfl⟩

/-- A word that stands for itself is replaced wherever it is come to from the front. A pattern that
is no larger than allowed is not refused, and one that is larger is refused for its size. -/
theorem mapPath_eq_replaceWord (h : validate { config with target := "" } = .ok plain)
    {word new : String} (hword : word ≠ "") (hplain : ∀ c ∈ word.toList, IsPlain c ∧ c ≠ ',')
    (hnew : new ≠ "") (hdollar : '$' ∉ new.toList) :
    (Regex.compile word = .error .tooLarge →
      validate { config with target := "regex:" ++ word ++ "," ++ new } =
        .error (.target (.invalidPattern word .tooLarge))) ∧
    (Regex.compile word ≠ .error .tooLarge →
      ∃ rule, validate { config with target := "regex:" ++ word ++ "," ++ new } = .ok rule ∧
        ∀ path, rule.mapPath path =
          String.ofList (Text.replaceWord word.toList new.toList path.toList)) := by
  have htarget : "regex:" ++ word ++ "," ++ new = "regex:" ++ (word ++ "," ++ new) := by
    simp only [String.append_assoc]
  have hreplacement : IsReplacement (word ++ "," ++ new) word new :=
    ⟨rfl, fun hcomma => (hplain _ hcomma).2 rfl, hnew⟩
  have hnil : word.toList ≠ [] := fun hnil => hword (String.toList_eq_nil_iff.1 hnil)
  have hread := Regex.readPattern_plain fun c hc => (hplain c hc).1
  rw [htarget]
  refine ⟨(validate_replacement config h hreplacement hread).1, fun hsize => ?_⟩
  obtain ⟨rule, hrule, hmap⟩ := (validate_replacement config h hreplacement hread).2 hsize
  refine ⟨rule, hrule, fun path => ?_⟩
  -- There are no groups in the word and no references in what is put in.
  have htemplate : ∀ m, Regex.Template.expand [] m (Regex.Template.parse new.toList) = new.toList :=
    fun m => by rw [Regex.Template.parse_plain hdollar, Regex.Template.expand_plain]
  rw [hmap, Regex.replaceAll]
  exact congrArg String.ofList
    (Regex.splice_matchesFrom_text hnil htemplate (Nat.lt_succ_self _))

/-- Two of the three places of the word overlap, and what is put in holds the word again. -/
theorem mapPath_eq_replaceWord_overlap :
    let config : RuleConfig := { source := "regex:.*", tags := ["v1", "!v2"], since := "24h" }
    let word := "a/a"
    let new := "<a/a>"
    (∃ plain, validate { config with target := "" } = .ok plain) ∧ word ≠ "" ∧
      (∀ c ∈ word.toList, IsPlain c ∧ c ≠ ',') ∧ new ≠ "" ∧ '$' ∉ new.toList ∧
      ∃ rule, validate { config with target := "regex:a/a,<a/a>" } = .ok rule ∧
        rule.mapPath "/é/a/a/a/ba/a" = "/é/<a/a>/a/b<a/a>" := by
  intro config word new
  have hword : word ≠ "" := by decide
  have hplain : ∀ c ∈ word.toList, IsPlain c ∧ c ≠ ',' := Text.forall_mem_of_all (by decide)
  have hnew : new ≠ "" := by decide
  have hdollar : '$' ∉ new.toList := by decide
  have hcompile : Regex.compile "a/a" = .ok _ := rfl
  have hsize : Regex.compile word ≠ .error .tooLarge := by
    rw [hcompile]
    intro hlarge
    cases hlarge
  have htarget : "regex:" ++ word ++ "," ++ new = "regex:a/a,<a/a>" := by decide
  obtain ⟨plain, hconfig⟩ : ∃ plain, validate { config with target := "" } = .ok plain :=
    exists_eq_ok_of_isOk (by decide +kernel)
  obtain ⟨rule, hrule, hmap⟩ := (mapPath_eq_replaceWord hconfig hword hplain hnew hdollar).2 hsize
  rw [htarget] at hrule
  refine ⟨⟨plain, hconfig⟩, hword, hplain, hnew, hdollar, rule, hrule, ?_⟩
  rw [hmap]
  decide +kernel

/-- A text of one letter, so many times. -/
theorem letters (n : Nat) :
    (String.ofList (List.replicate n 'a')).toList.length = n ∧
      ∀ c ∈ (String.ofList (List.replicate n 'a')).toList, c = 'a' := by
  rw [String.toList_ofList]
  exact ⟨List.length_replicate, fun c => List.eq_of_mem_replicate⟩

/-- A word of half a million letters is too large a pattern, and a rule with it is not valid. -/
theorem validate_long_word :
    let word := String.ofList (List.replicate 500000 'a')
    word ≠ "" ∧ (∀ c ∈ word.toList, c = 'a') ∧ (∃ plain, validate { source := "a" } = .ok plain) ∧
      validate { source := "a", target := "regex:" ++ (word ++ ",x") } =
        .error (.target (.invalidPattern word .tooLarge)) := by
  intro word
  obtain ⟨hlength, hall⟩ : word.toList.length = 500000 ∧ ∀ c ∈ word.toList, c = 'a' :=
    letters 500000
  -- From here on the letters of the word are not looked at any more.
  clear_value word
  have hword : word ≠ "" := by
    rintro rfl
    exact absurd hlength (by decide)
  have hplain : ∀ c ∈ word.toList, IsPlain c ∧ c ≠ ',' := fun c hc => by
    rw [hall c hc]
    decide
  have hreplacement : IsReplacement (word ++ ",x") word "x" :=
    ⟨by rw [String.append_assoc]; rfl, fun hcomma => (hplain _ hcomma).2 rfl, by decide⟩
  have hread := Regex.readPattern_plain fun c hc => (hplain c hc).1
  have hlarge : Regex.compile word = .error .tooLarge := by
    refine Regex.compileChars_eq_tooLarge hread (Nat.lt_of_lt_of_le ?_ (Regex.le_size_text _))
    rw [hlength]
    decide
  have hvalid : validate { source := "a" } = .ok _ := rfl
  have hrefused := validate_replacement { source := "a" } hvalid hreplacement hread
  exact ⟨hword, hall, ⟨_, hvalid⟩, hrefused.1 hlarge⟩

end ImageSync.Rule
