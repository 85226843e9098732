import ImageSync.Proofs.Regex.Comment
import ImageSync.Proofs.Tag.FirstFault
import ImageSync.Rule.Source

/-!
# `ImageSync.Proofs.Rule.Anchoring`: which patterns are accepted

A pattern of a source or of a tag spec is put between anchors before it is compiled. So whether it
is accepted is a matter of the anchored pattern, and `accepted_between_anchors` says what a pattern
that compiles alone needs for that: room for the anchors, and no comment that runs on behind it.

Only a pattern with the letter `x` and with a number sign in its last line can have such a comment.
`refused_comment` is one that is refused for it.
-/

set_option autoImplicit false

namespace ImageSync

open Text (isBlank trim)
open Regex (CommentRunsOn HasRoom NoteAtEnd compile compileAnchored)

variable {text : String}

/-- A source that is given by a pattern is accepted if the pattern compiles between anchors. -/
theorem Rule.Source.exists_parse_pattern_iff :
    (∃ source, Rule.Source.parse ("regex:" ++ text) = .ok source) ↔
      ∃ whole, compileAnchored text = .ok whole := by
  have htext : patternText? ("regex:" ++ text) = some text := patternText?_eq_some_iff.2 rfl
  have hne : ("regex:" ++ text).isEmpty = false := by simp
  rw [parse, if_neg (by simp [hne]), htext]
  dsimp only
  cases compileAnchored text <;> simp

/-- The same of a tag spec, with a mark or without. -/
theorem TagFilter.exists_parse_pattern_iff {raw : String} {negated : Bool}
    (hsaid : TagSpec.Says raw negated ("regex:".toList ++ text.toList)) :
    (∃ f, TagFilter.parse [raw] = .ok f) ↔ ∃ whole, compileAnchored text = .ok whole := by
  rw [parse, exists_parseFrom_iff, List.forall_mem_singleton]
  constructor
  · rintro ⟨negated', body, m, hsaid', hmeans⟩
    obtain ⟨-, rfl⟩ := hsaid.unique hsaid'
    cases hmeans with
    | name hname => exact absurd (List.prefix_append _ _) hname
    | pattern hbody he =>
      rw [List.append_right_inj, String.toList_inj] at hbody
      exact ⟨_, hbody ▸ he⟩
  · rintro ⟨whole, hwhole⟩
    exact ⟨negated, _, _, hsaid, .pattern rfl hwhole⟩

/-- A spec with a pattern wants the tags that the pattern stands for, if no blanks are around it. -/
theorem TagSpec.says_pattern (htrim : trim text.toList = text.toList) :
    TagSpec.Says ("regex:" ++ text) false ("regex:".toList ++ text.toList) := by
  have hbody : IsBody ("regex:".toList ++ text.toList) := by
    refine ⟨List.append_ne_nil_of_left_ne_nil (by decide) _, ?_, ?_⟩
    · rintro _ ⟨⟩
      decide
    · intro c hc
      cases hlast : text.toList.getLast? with
      | none =>
        rw [List.getLast?_eq_none_iff.1 hlast] at hc
        cases hc
        decide
      | some d =>
        rw [List.getLast?_append, hlast] at hc
        cases hc
        exact Text.getLast?_trim text.toList _ (htrim.symm ▸ hlast)
  exact .wants (List.forall_mem_nil _) (List.forall_mem_nil _) hbody nofun (by simp)

/-- A pattern that compiles alone is accepted between anchors if there is room for them and no
comment runs on behind it, and so are sources and tag specs with it. -/
theorem accepted_between_anchors {pattern : String} {alone : Regex}
    (halone : compile pattern = .ok alone) :
    ((∃ whole, compileAnchored pattern = .ok whole) ↔
      ¬CommentRunsOn pattern.toList ∧ HasRoom pattern.toList alone.pattern.root) ∧
    (CommentRunsOn pattern.toList → compileAnchored pattern = .error .malformed ∧
      NoteAtEnd pattern.toList ∧ 'x' ∈ pattern.toList) ∧
    ((∃ source, Rule.Source.parse ("regex:" ++ pattern) = .ok source) ↔
      ∃ whole, compileAnchored pattern = .ok whole) ∧
    (trim pattern.toList = pattern.toList →
      ((∃ f, TagFilter.parse ["regex:" ++ pattern] = .ok f) ↔
        ∃ whole, compileAnchored pattern = .ok whole)) := by
  refine ⟨Regex.exists_compileChars_anchored_iff halone, fun hon => ?_,
    Rule.Source.exists_parse_pattern_iff,
    fun htrim => TagFilter.exists_parse_pattern_iff (TagSpec.says_pattern htrim)⟩
  have hread := Regex.readPattern_of_compileChars halone
  refine ⟨?_, hon.noteAtEnd hread⟩
  obtain ⟨-, hnone⟩ | ⟨hoff, -⟩ := Regex.readPattern_anchored_cases hread
  · rw [compileAnchored, Regex.compileChars, hnone]
  · exact absurd hon hoff

/-- A comment that a line feed ends does not run on. -/
theorem accepted_closed_comment :
    ∃ alone whole, compile "(?x)a # note\n|b" = .ok alone ∧
      compileAnchored "(?x)a # note\n|b" = .ok whole := by
  have halone : compile "(?x)a # note\n|b" = .ok _ := rfl
  have hbehind : Regex.readPattern ("(?x)a # note\n|b".toList ++ Regex.closing) = none := rfl
  have hoff : ¬CommentRunsOn "(?x)a # note\n|b".toList := by
    intro hon
    rw [CommentRunsOn, hbehind, Regex.readPattern_of_compileChars halone] at hon
    cases hon
  obtain ⟨whole, hwhole⟩ :=
    (accepted_between_anchors halone).1.2 ⟨hoff, by decide, by decide⟩
  exact ⟨_, whole, halone, hwhole⟩

/-- A comment at the end of a pattern runs on over the closing, and the pattern is refused, also as
a source and as a tag spec. -/
theorem refused_comment :
    (∃ alone, compile "(?x)a # note" = .ok alone ∧
      HasRoom "(?x)a # note".toList alone.pattern.root) ∧
      compileAnchored "(?x)a # note" = .error .malformed ∧
      Rule.Source.parse "regex:(?x)a # note" =
        .error (.invalidPattern "(?x)a # note" .malformed) ∧
      TagFilter.parse ["regex:(?x)a # note"] =
        .error (.invalidPattern "regex:(?x)a # note" .malformed) :=
  ⟨⟨_, rfl, by decide, by decide⟩, rfl, rfl, rfl⟩

end ImageSync
