import ImageSync.Regex.Pattern
import ImageSync.Regex.Reach
import ImageSync.Regex.Size
import ImageSync.Regex.Template

/-!
# `ImageSync.Regex.Basic`: regular expressions

`Regex.compile` makes a `Regex` from the text of a pattern, `isMatch` says whether it
matches somewhere in a text, and `replaceAll` replaces all that it matches. An anchored
expression, made by `compileAnchored`, matches whole texts only: its pattern is put between
anchors, in a group of its own so that the anchors apply to every alternative.
-/

set_option autoImplicit false

namespace ImageSync

/-- A regular expression and the text it was made from. -/
structure Regex where
  source : String
  pattern : Regex.Pattern

namespace Regex

/-- Why a text makes no regular expression. -/
inductive CompileError where
  /-- The text is no pattern. -/
  | malformed
  /-- The expression is larger than `maxSize`. -/
  | tooLarge
  deriving DecidableEq, Repr

/-- Makes a regular expression from a list of characters. -/
def compileChars (cs : List Char) : Except CompileError Regex :=
  match readPattern cs with
  | none => .error .malformed
  | some p => if maxSize < p.root.size then .error .tooLarge else .ok ⟨String.ofList cs, p⟩

/-- Makes a regular expression that matches parts of texts. -/
def compile (pattern : String) : Except CompileError Regex := compileChars pattern.toList

/-- A pattern between anchors. -/
def anchored (pattern : List Char) : List Char :=
  ['^', '(', '?', ':'] ++ pattern ++ [')', '$']

/-- Makes a regular expression that matches whole texts only. -/
def compileAnchored (pattern : String) : Except CompileError Regex :=
  compileChars (anchored pattern.toList)

/-- Whether an expression matches somewhere in a text. -/
def isMatch (e : Regex) (text : String) : Bool := e.pattern.root.matchesIn text.toList

/-- The text from a place on, with each match replaced by its filled-in template. -/
def splice (names : List (List Char × Nat)) (template : List TemplatePart) (p : Place) :
    List Match → List Char
  | [] => p.rest
  | m :: ms =>
    p.upTo m.start ++ Template.expand names m template ++ splice names template m.stop ms

/-- A text with every match replaced by a filled-in template. -/
def replaceAll (e : Regex) (template text : String) : String :=
  let matchList := (Searcher.ofNode e.pattern.root).matchesIn text.toList
  String.ofList
    (splice e.pattern.names (Template.parse template.toList) (.start text.toList) matchList)

end Regex

end ImageSync
