import ImageSync.Proofs.Regex.Remainder
import ImageSync.Proofs.Rule.Replacement

/-!
# `ImageSync.Proofs.Rule.Remainder`: rules that replace the front of a path

A target such as `regex:^team/(.*)$,mirror/$1` puts what stands behind a front behind another one.
`mapPath_remainder` says what the rule does to every path: where the front stands and no line feed
is behind it, the other front takes its place (`replaceAll_front`), and any other path is left alone
(`replaceAll_of_not_startsLine`). So of the paths that the rule changes no two come to the same
place.

The pattern of such a rule may be too large like any other (`validate_long_front`).
-/

set_option autoImplicit false

namespace ImageSync.Rule

open Regex (IsPlain)

/-- A path that starts with a front and goes on in one line. -/
def StartsLine (front path : String) : Prop := ∃ rest, path = front ++ rest ∧ '\n' ∉ rest.toList

variable {config : RuleConfig} {plain : Rule} {front new path : String}

/-- The pattern of a front, as characters. -/
theorem toList_frontPattern (front : String) :
    ("^" ++ front ++ "(.*)$").toList = Regex.remainderPattern front.toList := by
  simp [Regex.remainderPattern]

/-- The pattern for a front has no comma, so the target is cut behind it. -/
theorem isReplacement_front (hplain : ∀ c ∈ front.toList, IsPlain c ∧ c ≠ ',') (new : String) :
    IsReplacement ("^" ++ front ++ "(.*)$" ++ "," ++ (new ++ "$1")) ("^" ++ front ++ "(.*)$")
      (new ++ "$1") := by
  refine ⟨rfl, ?_, by simp⟩
  rw [toList_frontPattern, Regex.remainderPattern, List.mem_cons, List.mem_append]
  rintro (hc | hc | hc)
  · cases hc
  · exact (hplain _ hc).2 rfl
  · exact absurd hc (by decide)

/-- The pattern of a plain front is read as the front and a group for the remainder. -/
theorem readPattern_front (hplain : ∀ c ∈ front.toList, IsPlain c ∧ c ≠ ',') :
    Regex.readPattern ("^" ++ front ++ "(.*)$").toList = some ⟨.remainder front.toList, []⟩ := by
  rw [toList_frontPattern]
  exact Regex.readPattern_remainder fun c hc => (hplain c hc).1

/-- Where a path starts with the front and goes on in one line, the new front takes its place. -/
theorem replaceAll_front {pattern rest : String} (hdollar : '$' ∉ new.toList)
    (hline : '\n' ∉ rest.toList) :
    Regex.replaceAll ⟨pattern, ⟨.remainder front.toList, []⟩⟩ (new ++ "$1") (front ++ rest) =
      new ++ rest := by
  -- The match is the whole path up to its end, and its group is the rest, so that the template puts
  -- the rest behind the new front.
  have htemplate := Regex.Template.expand_group_one hdollar []
    (Regex.groupText?_remainderMatch front.toList rest.toList)
  have hsplice := Regex.splice_remainder htemplate hline
  rw [Regex.replaceAll, ← String.toList_inj, String.toList_ofList, String.toList_append,
    String.toList_append, String.toList_append]
  exact hsplice

/-- Any other path stays as it is. -/
theorem replaceAll_of_not_startsLine {pattern template : String}
    (hproper : (Regex.Node.remainder front.toList).Proper) (hpath : ¬StartsLine front path) :
    Regex.replaceAll ⟨pattern, ⟨.remainder front.toList, []⟩⟩ template path = path := by
  have hnone : (Regex.Searcher.ofNode (.remainder front.toList)).matchesIn path.toList = [] := by
    refine Regex.matchesIn_remainder_eq_nil hproper fun rest hline hrest =>
      hpath ⟨String.ofList rest, ?_, ?_⟩
    · rw [← String.toList_inj, hrest, String.toList_append, String.toList_ofList]
    · rwa [String.toList_ofList]
  rw [Regex.replaceAll, ← String.toList_inj, String.toList_ofList, hnone]
  rfl

/-- A rule for a front of characters that stand for themselves puts another front in its place,
where it stands and the path goes on in one line, and leaves other paths alone. It takes no two
paths of the first kind to the same place. A pattern that is no larger than allowed is not refused,
and one that is larger is refused for its size. -/
theorem mapPath_remainder (h : validate { config with target := "" } = .ok plain)
    (hplain : ∀ c ∈ front.toList, IsPlain c ∧ c ≠ ',') (hdollar : '$' ∉ new.toList) :
    let pattern := "^" ++ front ++ "(.*)$"
    let config' := { config with target := "regex:" ++ pattern ++ "," ++ new ++ "$1" }
    (Regex.compile pattern = .error .tooLarge →
      validate config' = .error (.target (.invalidPattern pattern .tooLarge))) ∧
    (Regex.compile pattern ≠ .error .tooLarge →
      ∃ rule, validate config' = .ok rule ∧
        (∀ rest, '\n' ∉ rest.toList → rule.mapPath (front ++ rest) = new ++ rest) ∧
        (∀ path, ¬StartsLine front path → rule.mapPath path = path) ∧
        ∀ path path', StartsLine front path → StartsLine front path' → path ≠ path' →
          rule.mapPath path ≠ rule.mapPath path') := by
  intro pattern config'
  have htarget : "regex:" ++ pattern ++ "," ++ new ++ "$1" =
      "regex:" ++ (pattern ++ "," ++ (new ++ "$1")) := by
    simp only [String.append_assoc]
  have hread := readPattern_front hplain
  have hvalidate := validate_replacement config h (isReplacement_front hplain new) hread
  rw [← htarget] at hvalidate
  refine ⟨hvalidate.1, fun hsize => ?_⟩
  obtain ⟨rule, hrule, hmap⟩ := hvalidate.2 hsize
  have hmoved : ∀ rest, '\n' ∉ rest.toList → rule.mapPath (front ++ rest) = new ++ rest := by
    intro rest hline
    rw [hmap, replaceAll_front hdollar hline]
  refine ⟨rule, hrule, hmoved, fun path hpath => ?_, ?_⟩
  · rw [hmap, replaceAll_of_not_startsLine (Regex.proper_of_readPattern hread) hpath]
  · -- Both paths move to the new front with their rests, and these differ.
    rintro _ _ ⟨rest, rfl, hline⟩ ⟨rest', rfl, hline'⟩ hne heq
    rw [hmoved rest hline, hmoved rest' hline'] at heq
    exact hne (congrArg _ (String.append_right_inj _ |>.1 heq))

/-- The front stands again in the rest of the first path, behind something in the second, and over
two lines in the third. The new front has a comma. -/
theorem mapPath_remainder_mirror :
    let config : RuleConfig := { source := "regex:.*", tags := ["v1", "!v2"], since := "24h" }
    (∃ plain, validate { config with target := "" } = .ok plain) ∧
      (∀ c ∈ "/team/".toList, IsPlain c ∧ c ≠ ',') ∧ '$' ∉ "/a,b/".toList ∧
      ∃ rule, validate { config with target := "regex:^/team/(.*)$,/a,b/$1" } = .ok rule ∧
        rule.mapPath "/team/é/team/" = "/a,b/é/team/" ∧
        rule.mapPath "/x/team/" = "/x/team/" ∧ rule.mapPath "/team/\n" = "/team/\n" := by
  intro config
  have hplain : ∀ c ∈ "/team/".toList, IsPlain c ∧ c ≠ ',' := Text.forall_mem_of_all (by decide)
  have hdollar : '$' ∉ "/a,b/".toList := by decide
  obtain ⟨plain, hconfig⟩ : ∃ plain, validate { config with target := "" } = .ok plain :=
    exists_eq_ok_of_isOk (by decide +kernel)
  have hsize : Regex.compile ("^" ++ "/team/" ++ "(.*)$") ≠ .error .tooLarge := by
    obtain ⟨e, hcompile⟩ : ∃ e, Regex.compile ("^" ++ "/team/" ++ "(.*)$") = .ok e :=
      exists_eq_ok_of_isOk (by decide +kernel)
    rw [hcompile]
    intro hlarge
    cases hlarge
  obtain ⟨rule, hrule, hmoved, hleft, -⟩ := (mapPath_remainder hconfig hplain hdollar).2 hsize
  refine ⟨⟨plain, hconfig⟩, hplain, hdollar, rule, hrule, hmoved "é/team/" (by decide), ?_, ?_⟩
  · refine hleft _ ?_
    rintro ⟨rest, heq, -⟩
    exact absurd (congrArg String.toList heq) (by simp)
  · refine hleft _ ?_
    rintro ⟨rest, heq, hline⟩
    have hrest : ['\n'] = rest.toList := by simpa using congrArg String.toList heq
    rw [← hrest] at hline
    exact hline (by decide)

/-- A front of half a million letters makes too large a pattern, and a rule with it is not valid. -/
theorem validate_long_front :
    let front := String.ofList (List.replicate 500000 'a')
    let pattern := "^" ++ front ++ "(.*)$"
    (∀ c ∈ front.toList, c = 'a') ∧ (∃ plain, validate { source := "a" } = .ok plain) ∧
      validate { source := "a", target := "regex:" ++ (pattern ++ "," ++ ("x" ++ "$1")) } =
        .error (.target (.invalidPattern pattern .tooLarge)) := by
  intro front pattern
  obtain ⟨hlength, hall⟩ : front.toList.length = 500000 ∧ ∀ c ∈ front.toList, c = 'a' :=
    letters 500000
  -- From here on the letters of the front are not looked at any more.
  clear_value front
  have hplain : ∀ c ∈ front.toList, IsPlain c ∧ c ≠ ',' := fun c hc => by
    rw [hall c hc]
    decide
  have hread := readPattern_front hplain
  have hlarge : Regex.compile pattern = .error .tooLarge := by
    refine Regex.compileChars_eq_tooLarge hread
      (Nat.lt_of_lt_of_le ?_ (Regex.le_size_remainder front.toList))
    rw [hlength]
    decide
  have hvalid : validate { source := "a" } = .ok _ := rfl
  have hrefused := validate_replacement { source := "a" } hvalid
    (isReplacement_front hplain "x") hread
  exact ⟨hall, ⟨_, hvalid⟩, hrefused.1 hlarge⟩

end ImageSync.Rule
