import ImageSync.Regex.Basic
import ImageSync.Rule.Path

/-!
# `ImageSync.Rule.Target`: where a rule puts a repository

The target of a rule is either the path the repository has anyway, a configured path, or a
replacement: every part of the path that a pattern matches is replaced by a filled-in
template. `Target.parse` reads the configured text; the pattern of a replacement ends at
the first comma, and the template after it must not be empty.
-/

set_option autoImplicit false

namespace ImageSync.Rule

/-- The places that a rule puts repositories in. -/
inductive Target where
  /-- The path of the source. -/
  | same
  /-- A configured absolute path. -/
  | literal (path : String)
  /-- What replacing all matches in the path of the source gives. -/
  | replacement (expression : Regex) (template : String)

/-- Why a text describes no target. -/
inductive TargetFault where
  | missingReplacement
  | invalidPattern (pattern : String) (cause : Regex.CompileError)
  deriving DecidableEq, Repr

/-- The fault of a configured target, for a reader. -/
def TargetFault.message : TargetFault → String
  | .missingReplacement => "replacement expression missing in 'to'"
  | .invalidPattern pattern _ => "'to' uses invalid regular expression '" ++ pattern ++ "'"

namespace Target

/-- Reads a replacement after the mark of a pattern. -/
def parseReplacement (text : String) : Except TargetFault Target :=
  match Text.cutFirst? ',' text.toList with
  | none | some (_, []) => .error .missingReplacement
  | some (before, template) =>
    let pattern := String.ofList before
    match Regex.compile pattern with
    | .ok e => .ok (.replacement e (String.ofList template))
    | .error cause => .error (.invalidPattern pattern cause)

/-- Reads a configured target. -/
def parse (raw : String) : Except TargetFault Target :=
  match patternText? raw with
  | some text => parseReplacement text
  | none => .ok (if raw.isEmpty then .same else .literal (absolutePath raw))

/-- Where a target puts the repository with a path. Under a literal target a source that is
given by a pattern keeps its whole path, and a single one takes the place of the target. -/
def place (t : Target) (sourceIsPattern : Bool) (path : String) : String :=
  match t with
  | .same => path
  | .literal target => if sourceIsPattern then target ++ path else target
  | .replacement e template => e.replaceAll template path

end Target

end ImageSync.Rule
