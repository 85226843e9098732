import ImageSync.Text.Blank
import ImageSync.Regex.Basic
import ImageSync.Rule.Path

/-!
# `ImageSync.Tag.Filter`: which tags of a repository are wanted

A tag is selected by a list of specs. A spec is the name of a tag, or `regex:` and a
pattern that has to match the whole tag; after an exclamation mark it excludes what it
would select. Blanks around a spec and after its mark do not count. With no spec that
selects, every tag is selected that no spec excludes.

A rule only asks a `TagSelector` whether it selects a tag; `TagFilter.parse` is the usual way
to make one.
-/

set_option autoImplicit false

namespace ImageSync

/-- What is wrong with a list of tag specs. -/
inductive TagSpecFault where
  /-- The spec at a place of the list is blank. -/
  | blank (index : Nat)
  /-- A spec is no valid pattern. -/
  | invalidPattern (spec : String) (cause : Regex.CompileError)
  deriving DecidableEq, Repr

/-- The fault of a list of tag specs, for a reader. -/
def TagSpecFault.message : TagSpecFault → String
  | .blank index => "tag spec #" ++ toString index ++ " is blank"
  | .invalidPattern spec _ => "tag spec '" ++ spec ++ "' is not a valid regular expression"

/-- Decides which tags are wanted. -/
structure TagSelector where
  /-- Whether a tag is wanted. -/
  selects : String → Bool
  /-- Whether every tag is wanted for lack of any spec. -/
  isEmpty : Bool

/-- What a single spec says about a tag, apart from whether it selects or excludes. -/
inductive TagMatcher where
  | exact (name : String)
  | pattern (expression : Regex)

/-- Whether a spec applies to a tag. -/
def TagMatcher.accepts (m : TagMatcher) (tag : String) : Bool :=
  match m with
  | .exact name => name == tag
  | .pattern e => e.isMatch tag

/-- A spec that was read. -/
structure TagSpec where
  negated : Bool
  matcher : TagMatcher

/-- A spec cut into its mark and its body, both without the blanks that do not count. -/
def TagSpec.cut (raw : String) : Bool × List Char :=
  match Text.trim raw.toList with
  | '!' :: r => (true, Text.trimStart r)
  | body => (false, body)

/-- Reads the spec at a place of a list. -/
def TagSpec.parse (index : Nat) (raw : String) : Except TagSpecFault TagSpec :=
  let (negated, body) := TagSpec.cut raw
  if body.isEmpty then .error (.blank index)
  else
    let spec := String.ofList body
    match Rule.patternText? spec with
    | none => .ok ⟨negated, .exact spec⟩
    | some pattern =>
      match Regex.compileAnchored pattern with
      | .ok e => .ok ⟨negated, .pattern e⟩
      | .error cause => .error (.invalidPattern spec cause)

/-- A list of specs: those that select and those that exclude. -/
structure TagFilter where
  included : List TagMatcher
  excluded : List TagMatcher

namespace TagFilter

/-- Reads specs from a place of a list on; the first fault counts. -/
def parseFrom (index : Nat) : List String → Except TagSpecFault TagFilter
  | [] => .ok ⟨[], []⟩
  | raw :: rest => do
    let spec ← TagSpec.parse index raw
    let filter ← parseFrom (index + 1) rest
    return if spec.negated then { filter with excluded := spec.matcher :: filter.excluded }
      else { filter with included := spec.matcher :: filter.included }

/-- Reads a list of specs. -/
def parse (specs : List String) : Except TagSpecFault TagFilter := parseFrom 0 specs

/-- Whether a tag is wanted. -/
def selects (f : TagFilter) (tag : String) : Bool :=
  (f.included.isEmpty || f.included.any (·.accepts tag)) && !f.excluded.any (·.accepts tag)

/-- Whether the filter has no spec at all. -/
def isEmpty (f : TagFilter) : Bool := f.included.isEmpty && f.excluded.isEmpty

/-- The selector of a filter. -/
def selector (f : TagFilter) : TagSelector := ⟨f.selects, f.isEmpty⟩

end TagFilter

/-- The usual way to make a selector of specs. -/
def TagSelector.ofSpecs (specs : List String) : Except TagSpecFault TagSelector :=
  (TagFilter.parse specs).map TagFilter.selector

end ImageSync
