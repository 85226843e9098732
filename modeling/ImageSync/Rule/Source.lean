import ImageSync.Regex.Basic
import ImageSync.Rule.Path

/-!
# `ImageSync.Rule.Source`: which repositories a rule covers

The source of a rule is either one repository, by its absolute path, or all repositories
whose name a pattern matches as a whole. `Source.parse` reads the configured text.
-/

set_option autoImplicit false

namespace ImageSync.Rule

/-- The repositories that a rule covers. -/
inductive Source where
  /-- The repository with this absolute path. -/
  | literal (path : String)
  /-- The repositories that an anchored expression matches. -/
  | pattern (expression : Regex)

/-- Why a text describes no source. -/
inductive SourceFault where
  | missing
  | invalidPattern (pattern : String) (cause : Regex.CompileError)
  deriving DecidableEq, Repr

/-- The fault of a configured source, for a reader. -/
def SourceFault.message : SourceFault → String
  | .missing => "mapping without 'from' path"
  | .invalidPattern pattern _ => "'from' uses invalid regular expression '" ++ pattern ++ "'"

namespace Source

/-- Reads a configured source. -/
def parse (raw : String) : Except SourceFault Source :=
  if raw.isEmpty then .error .missing
  else match patternText? raw with
    | none => .ok (.literal (absolutePath raw))
    | some text =>
      match Regex.compileAnchored text with
      | .ok e => .ok (.pattern e)
      | .error cause => .error (.invalidPattern text cause)

/-- Whether a source is given by a pattern. -/
def isPattern : Source → Bool
  | .literal _ => false
  | .pattern _ => true

/-- The path of the one repository that a source names. -/
def path? : Source → Option String
  | .literal path => some path
  | .pattern _ => none

/-- The repositories of a list that a rule has to look at: for a pattern those it matches, by
their absolute paths; the whole list for a literal source, which is looked up by its own
path. -/
def filter (s : Source) (repositories : List String) : List String :=
  match s with
  | .literal _ => repositories
  | .pattern e => (repositories.filter e.isMatch).map absolutePath

/-- The absolute paths of the repositories that a source selects from a list. -/
def select (s : Source) (repositories : List String) : List String :=
  match s with
  | .literal path => [path]
  | .pattern _ => s.filter repositories

end Source

end ImageSync.Rule
