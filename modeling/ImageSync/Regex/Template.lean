import ImageSync.Text.Cut
import ImageSync.Regex.Search

/-!
# `ImageSync.Regex.Template`: replacement texts that refer to groups

In a replacement text `$` and a run of letters, digits and low lines refer to a group of
the match, by number or by name; with braces, as in `$` and then a name between braces, the
name may hold any character. Two `$` stand for one, and a `$` that begins none of these
stands for itself. A group that is not there or took no part gives nothing.

`Template.parse` reads such a text, `Template.expand` fills it in for a match.
-/

set_option autoImplicit false

namespace ImageSync.Regex

/-- One part of a replacement text. -/
inductive TemplatePart where
  | char (c : Char)
  | group (index : Nat)
  | named (name : List Char)
  deriving DecidableEq, Repr

/-- Whether a character may stand in a reference without braces. -/
def isReferenceChar (c : Char) : Bool := c.isAlphanum || c == '_'

/-- The number that a reference names: decimal digits, perhaps after a plus sign, below
`2 ^ 64`. -/
def groupNumber? (name : List Char) : Option Nat :=
  let digits := match name with
    | '+' :: r => r
    | r => r
  if digits.isEmpty || !digits.all Char.isDigit then none
  else
    let n := digits.foldl (fun n c => 10 * n + (c.toNat - '0'.toNat)) 0
    if n < UInt64.size then some n else none

/-- The part that a reference stands for. -/
def TemplatePart.reference (name : List Char) : TemplatePart :=
  match groupNumber? name with
  | some n => .group n
  | none => .named name

/-- Reads a reference after its `$`. -/
def readReference (cs : List Char) : Option (TemplatePart × List Char) :=
  match cs with
  | '$' :: r => some (.char '$', r)
  | '\x7b' :: r => (Text.cutFirst? '\x7d' r).map fun (name, rest) => (.reference name, rest)
  | _ =>
    let name := cs.takeWhile isReferenceChar
    if name.isEmpty then none else some (.reference name, cs.dropWhile isReferenceChar)

/-- A reference takes nothing but some of the text, so reading a template comes to an end. -/
theorem length_le_of_readReference {cs rest : List Char} {part : TemplatePart}
    (h : readReference cs = some (part, rest)) : rest.length ≤ cs.length := by
  unfold readReference at h
  split at h
  · cases h; exact Nat.le_succ _
  · obtain ⟨⟨name, after⟩, hcut, heq⟩ := Option.map_eq_some_iff.1 h
    cases heq
    rw [Text.eq_of_cutFirst? hcut]
    simp only [List.length_cons, List.length_append]
    omega
  · dsimp only at h
    split at h
    · cases h
    · cases h
      exact (List.dropWhile_suffix _).length_le

/-- Reads a replacement text. -/
def Template.parse (cs : List Char) : List TemplatePart :=
  match cs with
  | [] => []
  | c :: r =>
    if c = '$' then
      match _h : readReference r with
      | some (part, rest) => part :: Template.parse rest
      | none => .char '$' :: Template.parse r
    else .char c :: Template.parse r
  termination_by cs.length
  decreasing_by
    · have := length_le_of_readReference _h
      simp only [List.length_cons]; omega
    all_goals simp

/-- What a part of a replacement text gives for a match. -/
def TemplatePart.expand (names : List (List Char × Nat)) (m : Match) : TemplatePart → List Char
  | .char c => [c]
  | .group i => (m.groupText? i).getD []
  | .named name => ((names.lookup name).bind m.groupText?).getD []

/-- A replacement text filled in for a match. -/
def Template.expand (names : List (List Char × Nat)) (m : Match) (parts : List TemplatePart) :
    List Char :=
  parts.flatMap (TemplatePart.expand names m)

end ImageSync.Regex
