import ImageSync.Rule.Basic

/-!
# `ImageSync.Proofs.Rule.Validation`: why a configuration is refused

Four fields of a configuration can be at fault: the source, the target, the tag specs and the
window of time. `Faulty` says of each of them what is wrong with it, by the text that is
configured and without looking at the other fields; of the tag specs it is what the maker of
selectors answers.

The main statement is `validateWith_spec`, for any maker of selectors, with a state of its
own. A configuration is a rule if none of the four fields is at fault, and otherwise it is
refused for the first field that is, in the order `Field.order`. The maker is asked once, for
the tag specs as they are configured, if source and target are not at fault, and otherwise
not at all (`recorded` writes down what it is asked for). The other two fields, the platform
and whether active images alone are wanted, decide nothing.

The step is `verdict_cases`: what `verdict` looks for in one field after the other is what
`fault?` finds in each of them by itself.
-/

set_option autoImplicit false

namespace ImageSync.Rule

/-! ### Faults of single fields -/

/-- The fields of a configuration that can be at fault. -/
inductive Field where
  | source
  | target
  | tags
  | since
  deriving DecidableEq

/-- The fields in the order in which they are looked at. -/
def Field.order : List Field := [.source, .target, .tags, .since]

/-- Whether a text is a pattern, a comma and a template that is not empty. The pattern holds
no comma. -/
def IsReplacement (text pattern template : String) : Prop :=
  text = pattern ++ "," ++ template ∧ ',' ∉ pattern.toList ∧ template ≠ ""

/-- What is wrong with a field, where `answer` is the answer of a maker of selectors to the
tag specs. -/
inductive Faulty (config : RuleConfig) (answer : Except TagSpecFault TagSelector) :
    Field → RuleFault → Prop where
  /-- There is no source. -/
  | missingSource (h : config.source = "") : Faulty config answer .source (.source .missing)
  /-- The source is a pattern that does not compile. -/
  | sourcePattern {pattern : String} {cause : Regex.CompileError}
      (h : config.source = "regex:" ++ pattern)
      (hcause : Regex.compileAnchored pattern = .error cause) :
      Faulty config answer .source (.source (.invalidPattern pattern cause))
  /-- The target is marked as a pattern, but is no replacement. -/
  | missingReplacement {text : String} (h : config.target = "regex:" ++ text)
      (hnone : ∀ pattern template, ¬IsReplacement text pattern template) :
      Faulty config answer .target (.target .missingReplacement)
  /-- The target is a replacement by a pattern that does not compile. -/
  | targetPattern {text pattern template : String} {cause : Regex.CompileError}
      (h : config.target = "regex:" ++ text) (hcut : IsReplacement text pattern template)
      (hcause : Regex.compile pattern = .error cause) :
      Faulty config answer .target (.target (.invalidPattern pattern cause))
  /-- The tag specs make no selector. -/
  | tags {fault : TagSpecFault} (h : answer = .error fault) :
      Faulty config answer .tags (.tags fault)
  /-- The window of time is no duration. -/
  | since {fault : Duration.Fault} (h : config.since ≠ "")
      (hfault : Duration.parse config.since = .error fault) :
      Faulty config answer .since (.since config.since fault)

section Fields

variable {config : RuleConfig} {answer : Except TagSpecFault TagSelector} {fault : RuleFault}

/-- A source is at fault exactly if it cannot be read, and for that reason. -/
theorem faulty_source_iff :
    Faulty config answer .source fault ↔
      ∃ f, Source.parse config.source = .error f ∧ fault = .source f := by
  constructor
  · intro h
    cases h with
    | missingSource h => exact ⟨.missing, by rw [h]; rfl, rfl⟩
    | @sourcePattern pattern cause h hcause =>
      refine ⟨.invalidPattern pattern cause, ?_, rfl⟩
      have hne : config.source.isEmpty = false := by simp [h]
      simp [Source.parse, hne, patternText?_eq_some_iff.2 h, hcause]
  · rintro ⟨f, hf, rfl⟩
    unfold Source.parse at hf
    split at hf
    · next hempty =>
      cases hf
      exact .missingSource (String.isEmpty_iff.1 hempty)
    · split at hf
      · cases hf
      · next pattern hpattern =>
        split at hf
        · cases hf
        · next cause hcause =>
          cases hf
          exact .sourcePattern (patternText?_eq_some_iff.1 hpattern) hcause

/-- A replacement is cut at its first comma. -/
theorem cutFirst?_of_isReplacement {text pattern template : String}
    (h : IsReplacement text pattern template) :
    Text.cutFirst? ',' text.toList = some (pattern.toList, template.toList) := by
  obtain ⟨htext, hcomma, -⟩ := h
  rw [Text.cutFirst?_eq_some_iff]
  exact ⟨by simp [htext], hcomma⟩

/-- What a text is, after the mark of a pattern: a replacement, or none. -/
theorem parseReplacement_cases (text : String) :
    (∃ pattern template, IsReplacement text pattern template ∧
      Target.parseReplacement text =
        match Regex.compile pattern with
        | .ok e => .ok (.replacement e template)
        | .error cause => .error (.invalidPattern pattern cause)) ∨
    ((∀ pattern template, ¬IsReplacement text pattern template) ∧
      Target.parseReplacement text = .error .missingReplacement) := by
  rw [Target.parseReplacement]
  split
  · next hcut =>
    refine .inr ⟨fun pattern template h => ?_, rfl⟩
    rw [cutFirst?_of_isReplacement h] at hcut
    cases hcut
  · next before hcut =>
    refine .inr ⟨fun pattern template h => ?_, rfl⟩
    rw [cutFirst?_of_isReplacement h] at hcut
    -- Nothing follows the first comma, so the template would be empty.
    simp only [Option.some.injEq, Prod.mk.injEq] at hcut
    exact h.2.2 (String.toList_eq_nil_iff.1 hcut.2)
  · next before template hne hcut =>
    obtain ⟨htext, hcomma⟩ := Text.cutFirst?_eq_some_iff.1 hcut
    refine .inl ⟨String.ofList before, String.ofList template, ⟨?_, ?_, ?_⟩, rfl⟩
    · rw [← String.toList_inj, htext]
      simp
    · rw [String.toList_ofList]
      exact hcomma
    · intro hempty
      rw [String.ofList_eq_empty_iff] at hempty
      subst hempty
      exact hne rfl

/-- A target is at fault exactly if it cannot be read, and for that reason. -/
theorem faulty_target_iff :
    Faulty config answer .target fault ↔
      ∃ f, Target.parse config.target = .error f ∧ fault = .target f := by
  constructor
  · intro h
    cases h with
    | @missingReplacement text h hnone =>
      refine ⟨.missingReplacement, ?_, rfl⟩
      rw [Target.parse, patternText?_eq_some_iff.2 h]
      rcases parseReplacement_cases text with ⟨pattern, template, hcut, -⟩ | ⟨-, hparse⟩
      · exact absurd hcut (hnone pattern template)
      · exact hparse
    | @targetPattern text pattern template cause h hcut hcause =>
      refine ⟨.invalidPattern pattern cause, ?_, rfl⟩
      rw [Target.parse, patternText?_eq_some_iff.2 h]
      rcases parseReplacement_cases text with ⟨pattern', template', hcut', hparse⟩ | ⟨hnone, -⟩
      · -- There is only one way to cut the text.
        have heq := (cutFirst?_of_isReplacement hcut).symm.trans (cutFirst?_of_isReplacement hcut')
        simp only [Option.some.injEq, Prod.mk.injEq, String.toList_inj] at heq
        dsimp only
        rw [hparse, ← heq.1, hcause]
      · exact absurd hcut (hnone pattern template)
  · -- Conversely, each way to refuse a target is one of the two.
    rintro ⟨f, hf, rfl⟩
    unfold Target.parse at hf
    split at hf
    · next text htext =>
      have htext := patternText?_eq_some_iff.1 htext
      rcases parseReplacement_cases text with ⟨pattern, template, hcut, hparse⟩ | ⟨hnone, hparse⟩
      · rw [hparse] at hf
        split at hf
        · cases hf
        · next cause hcause =>
          cases hf
          exact .targetPattern htext hcut hcause
      · rw [hparse] at hf
        cases hf
        exact .missingReplacement htext hnone
    · cases hf

/-- Tag specs are at fault exactly if they make no selector, and for that reason. -/
theorem faulty_tags_iff :
    Faulty config answer .tags fault ↔ ∃ f, answer = .error f ∧ fault = .tags f := by
  constructor
  · intro h
    cases h with
    | tags h => exact ⟨_, h, rfl⟩
  · rintro ⟨f, hf, rfl⟩
    exact .tags hf

/-- A window of time is at fault exactly if it cannot be read, and for that reason. -/
theorem faulty_since_iff :
    Faulty config answer .since fault ↔ readSince config.since = .error fault := by
  constructor
  · intro h
    cases h with
    | since h hfault => simp [readSince, h, hfault]
  · intro h
    unfold readSince at h
    split at h
    · cases h
    · next hne =>
      split at h
      · cases h
      · next f hf =>
        cases h
        exact .since (fun hempty => hne (String.isEmpty_iff.2 hempty)) hf

/-- The fault of a field by itself. -/
def fault? (config : RuleConfig) (answer : Except TagSpecFault TagSelector) :
    Field → Option RuleFault
  | .source => match Source.parse config.source with
    | .ok _ => none
    | .error f => some (.source f)
  | .target => match Target.parse config.target with
    | .ok _ => none
    | .error f => some (.target f)
  | .tags => match answer with
    | .ok _ => none
    | .error f => some (.tags f)
  | .since => match readSince config.since with
    | .ok _ => none
    | .error f => some f

/-- The fault of a field is found if the field has it. -/
theorem fault?_eq_some_iff {field : Field} :
    fault? config answer field = some fault ↔ Faulty config answer field fault := by
  cases field with
  | source =>
    rw [faulty_source_iff, fault?]
    cases Source.parse config.source <;> simp [eq_comm]
  | target =>
    rw [faulty_target_iff, fault?]
    cases Target.parse config.target <;> simp [eq_comm]
  | tags =>
    rw [faulty_tags_iff]
    cases answer <;> simp [fault?, eq_comm]
  | since =>
    rw [faulty_since_iff, fault?]
    cases readSince config.since <;> simp

/-- No fault of a field is found if the field has none. -/
theorem fault?_eq_none_iff {field : Field} :
    fault? config answer field = none ↔ ∀ fault, ¬Faulty config answer field fault := by
  rw [Option.eq_none_iff_forall_ne_some]
  exact forall_congr' fun fault => not_congr fault?_eq_some_iff

end Fields

/-! ### The first fault -/

/-- Whether a fault is that of the first field that has one. -/
def FirstFault (config : RuleConfig) (answer : Except TagSpecFault TagSelector)
    (fault : RuleFault) : Prop :=
  ∃ before field after, Field.order = before ++ field :: after ∧
    Faulty config answer field fault ∧ ∀ earlier ∈ before, ∀ f, ¬Faulty config answer earlier f

/-- What a configuration has to be to make a rule. -/
structure Acceptable (config : RuleConfig) (answer : Except TagSpecFault TagSelector) : Prop where
  source : ∃ source, Source.parse config.source = .ok source
  target : ∃ target, Target.parse config.target = .ok target
  tags : ∃ selector, answer = .ok selector
  since : config.since = "" ∨ ∃ d, Duration.parse config.since = .ok d

/-- What a configuration comes to if this is the answer of a maker of selectors. -/
def verdict (config : RuleConfig) (answer : Except TagSpecFault TagSelector) :
    Except RuleFault Rule :=
  Id.run (validateWith (fun _ => pure answer) config)

/-- The parts of a rule that platform and activity have no part in. -/
def essentials (r : Rule) : Source × Target × TagSelector × Duration :=
  (r.source, r.target, r.tags, r.since)

/-- A rule with the source, the target, the selector and the window of time of a
configuration. -/
structure Holds (config : RuleConfig) (answer : Except TagSpecFault TagSelector) (rule : Rule) :
    Prop where
  source : Source.parse config.source = .ok rule.source
  target : Target.parse config.target = .ok rule.target
  tags : answer = .ok rule.tags
  since : readSince config.since = .ok rule.since

section Verdict

variable {config : RuleConfig} {answer : Except TagSpecFault TagSelector} {fault : RuleFault}

/-- The fields are looked at one after the other: up to the first fault, or to the end. -/
theorem verdict_cases (config : RuleConfig) (answer : Except TagSpecFault TagSelector) :
    (∃ fault, Field.order.findSome? (fault? config answer) = some fault ∧
      verdict config answer = .error fault) ∨
    (Field.order.findSome? (fault? config answer) = none ∧
      ∃ rule, verdict config answer = .ok rule ∧ Holds config answer rule) := by
  simp only [verdict, validateWith, Field.order, List.findSome?_cons, List.findSome?_nil, fault?]
  cases hsource : Source.parse config.source with
  | error f => exact .inl ⟨_, rfl, rfl⟩
  | ok source =>
    cases htarget : Target.parse config.target with
    | error f => exact .inl ⟨_, rfl, rfl⟩
    | ok target =>
      cases answer with
      | error f => exact .inl ⟨_, rfl, rfl⟩
      | ok tags =>
        cases hsince : readSince config.since with
        | error f => exact .inl ⟨_, rfl, rfl⟩
        | ok since => exact .inr ⟨rfl, _, rfl, hsource, htarget, rfl, hsince⟩

/-- A configuration is refused exactly for its first fault. -/
theorem verdict_eq_error_iff :
    verdict config answer = .error fault ↔ FirstFault config answer fault := by
  have hfirst : FirstFault config answer fault ↔
      Field.order.findSome? (fault? config answer) = some fault := by
    simp only [List.findSome?_eq_some_iff, FirstFault, fault?_eq_some_iff, fault?_eq_none_iff]
  rw [hfirst]
  rcases verdict_cases config answer with ⟨f, hfind, hverdict⟩ | ⟨hfind, rule, hverdict, -⟩
  · rw [hfind, hverdict, Except.error.injEq, Option.some.injEq]
  · simp [hfind, hverdict]

/-- A rule holds what its configuration says. -/
theorem holds_of_verdict_eq_ok {rule : Rule} (h : verdict config answer = .ok rule) :
    Holds config answer rule := by
  rcases verdict_cases config answer with ⟨f, -, hverdict⟩ | ⟨-, rule', hverdict, hholds⟩
  · rw [hverdict] at h
    cases h
  · rw [hverdict] at h
    cases h
    exact hholds

/-- A window of time can be read exactly if it is empty or a duration. -/
theorem exists_readSince_iff {text : String} :
    (∃ d, readSince text = .ok d) ↔ text = "" ∨ ∃ d, Duration.parse text = .ok d := by
  unfold readSince
  by_cases hempty : text = ""
  · simp [hempty]
  · cases Duration.parse text <;> simp [hempty]

/-- A configuration makes a rule exactly if it is acceptable. -/
theorem exists_verdict_eq_ok_iff :
    (∃ rule, verdict config answer = .ok rule) ↔ Acceptable config answer := by
  constructor
  · rintro ⟨rule, h⟩
    obtain ⟨hsource, htarget, htags, hsince⟩ := holds_of_verdict_eq_ok h
    exact ⟨⟨_, hsource⟩, ⟨_, htarget⟩, ⟨_, htags⟩, exists_readSince_iff.1 ⟨_, hsince⟩⟩
  · rintro ⟨⟨source, hsource⟩, ⟨target, htarget⟩, ⟨tags, rfl⟩, hsince⟩
    obtain ⟨since, hsince⟩ := exists_readSince_iff.2 hsince
    rcases verdict_cases config (.ok tags) with ⟨f, hfind, -⟩ | ⟨-, rule, hverdict, -⟩
    · have hnone : ∀ field ∈ Field.order, fault? config (.ok tags) field = none := by
        intro field _
        cases field <;> simp [fault?, hsource, htarget, hsince]
      rw [List.findSome?_eq_none_iff.2 hnone] at hfind
      cases hfind
    · exact ⟨rule, hverdict⟩

/-- Platform and activity change neither the fault of a configuration nor the rest of the
rule. -/
theorem verdict_map_essentials (config : RuleConfig) (platform onlyActive : String) :
    (verdict { config with platform, onlyActive } answer).map essentials =
      (verdict config answer).map essentials := by
  simp only [verdict, validateWith]
  cases Source.parse config.source with
  | error f => rfl
  | ok source =>
    cases Target.parse config.target with
    | error f => rfl
    | ok target =>
      cases answer with
      | error f => rfl
      | ok tags => cases readSince config.since <;> rfl

end Verdict

/-! ### Makers of selectors -/

/-- Whether source and target are without fault, so that a selector is asked for. -/
def wantsSelector (config : RuleConfig) : Bool :=
  (Source.parse config.source).isOk && (Target.parse config.target).isOk

section Maker

variable {σ : Type} (makeTags : List String → StateM σ (Except TagSpecFault TagSelector))

/-- The maker that also writes down the tag specs of each call. -/
def recorded : List String → StateM (σ × List (List String)) (Except TagSpecFault TagSelector) :=
  fun specs s => ((makeTags specs s.1).1, (makeTags specs s.1).2, s.2 ++ [specs])

/-- The maker is asked for a selector, or is left alone. -/
theorem validateWith_apply (config : RuleConfig) (w : σ) :
    validateWith makeTags config w =
      (verdict config (makeTags config.tags w).1,
        if wantsSelector config then (makeTags config.tags w).2 else w) := by
  unfold verdict validateWith wantsSelector
  cases Source.parse config.source with
  | error f => rfl
  | ok source =>
    cases Target.parse config.target with
    | error f => rfl
    | ok target =>
      -- From here on only the answer counts, and the state stays as the maker left it.
      have hbind : ∀ k, (makeTags config.tags >>= k : StateM σ (Except RuleFault Rule)) w =
        k (makeTags config.tags w).1 (makeTags config.tags w).2 := fun _ => rfl
      refine (hbind _).trans ?_
      cases (makeTags config.tags w).1 with
      | error f => rfl
      | ok tags =>
        cases hsince : readSince config.since with
        | error f => rfl
        | ok since => rfl

/-- A configuration makes a rule if none of its source, target, tag specs and window of time
is at fault, and is refused for the first of them that is, whoever makes the selectors. The
maker is asked once, for the tag specs as they are configured, if source and target are
without fault, and not at all otherwise. Platform and activity change neither the fault nor
the rest of the rule. -/
theorem validateWith_spec (config : RuleConfig) (w : σ) (calls : List (List String)) :
    let answer := (makeTags config.tags w).1
    let outcome := (validateWith makeTags config w).1
    let w' := (validateWith makeTags config w).2
    ((∃ rule, outcome = .ok rule) ↔ Acceptable config answer) ∧
      (∀ rule, outcome = .ok rule → Holds config answer rule) ∧
      (∀ fault, outcome = .error fault ↔ FirstFault config answer fault) ∧
      validateWith (recorded makeTags) config (w, calls) =
        (outcome, w', if wantsSelector config then calls ++ [config.tags] else calls) ∧
      w' = (if wantsSelector config then (makeTags config.tags w).2 else w) ∧
      ∀ platform onlyActive,
        let other := validateWith makeTags { config with platform, onlyActive } w
        other.1.map essentials = outcome.map essentials ∧ other.2 = w' := by
  intro answer outcome w'
  have houtcome : outcome = verdict config answer :=
    congrArg Prod.fst (validateWith_apply makeTags config w)
  have hstate : w' = if wantsSelector config then (makeTags config.tags w).2 else w :=
    congrArg Prod.snd (validateWith_apply makeTags config w)
  rw [houtcome]
  refine ⟨exists_verdict_eq_ok_iff, fun _ => holds_of_verdict_eq_ok,
    fun _ => verdict_eq_error_iff, ?_, hstate, ?_⟩
  · rw [validateWith_apply, hstate]
    show (verdict config answer, _) = _
    split
    · rfl
    · rfl
  · -- Neither of the two fields is looked at before the rule is put together.
    intro platform onlyActive
    rw [validateWith_apply, hstate]
    exact ⟨verdict_map_essentials config platform onlyActive, rfl⟩

/-- A bad target is told before bad tag specs and a bad window of time. -/
example : validate { source := "a", target := "regex:b", tags := [""], since := "1" } =
    .error (.target .missingReplacement) := rfl

end Maker

end ImageSync.Rule
