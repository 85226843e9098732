import ImageSync.Duration
import ImageSync.Rule.Source
import ImageSync.Rule.Target
import ImageSync.Tag.Filter

/-!
# `ImageSync.Rule.Basic`: rules for bringing repositories to another registry

A `RuleConfig` holds the fields of a rule as they are configured, all of them texts. A
`Rule` is what they mean: which repositories it covers, where it puts them, which tags it
wants, and how recent and active an image has to be.

`Rule.validateWith` turns one into the other. It looks at the source, the target, the tag
specs and the window of time in this order, and the first of them that is not valid gives
the fault. Who makes the tag selector is up to the caller, in any monad, and is asked once
if source and target are valid and not at all otherwise. A text that is no truth value, on
the other hand, counts as false.
-/

set_option autoImplicit false

namespace ImageSync

/-- The fields of a rule as they are configured. -/
structure RuleConfig where
  /-- The source: a path, or `regex:` and a pattern. -/
  source : String := ""
  /-- The target: a path, `regex:` and a pattern, a comma and a template, or nothing. -/
  target : String := ""
  /-- The tag specs. -/
  tags : List String := []
  /-- The platform, such as `linux/amd64`. -/
  platform : String := ""
  /-- Whether active images alone are wanted. -/
  onlyActive : String := ""
  /-- How long ago an image may have been pushed. -/
  since : String := ""
  deriving DecidableEq, Repr

/-- Why a configuration is no rule. -/
inductive RuleFault where
  | source (fault : Rule.SourceFault)
  | target (fault : Rule.TargetFault)
  | tags (fault : TagSpecFault)
  | since (value : String) (fault : Duration.Fault)
  deriving DecidableEq, Repr

/-- The fault of a configuration, for a reader. -/
def RuleFault.message : RuleFault → String
  | .source fault => fault.message
  | .target fault => fault.message
  | .tags fault => "'tags' uses invalid format: " ++ fault.message
  | .since value fault => "'since' uses invalid duration '" ++ value ++ "': " ++ fault.message value

/-- A rule for bringing repositories to another registry. -/
structure Rule where
  source : Rule.Source
  target : Rule.Target
  tags : TagSelector
  /-- The platform wanted; none means all. -/
  platform : Option String
  /-- Whether active images alone are wanted. -/
  onlyActive : Bool
  /-- How long ago an image may have been pushed; zero means any time. -/
  since : Duration

namespace Rule

/-- The truth value that a text writes. -/
def readTruth? (text : String) : Option Bool :=
  if text ∈ ["1", "t", "T", "true", "TRUE", "True"] then some true
  else if text ∈ ["0", "f", "F", "false", "FALSE", "False"] then some false
  else none

/-- The window of time that a text writes; an empty text writes none. -/
def readSince (text : String) : Except RuleFault Duration :=
  if text.isEmpty then .ok .zero
  else match Duration.parse text with
    | .ok d => .ok d
    | .error fault => .error (.since text fault)

/-- Makes a rule of a configuration, with a selector made by `makeTags`. -/
def validateWith {m : Type → Type} [Monad m]
    (makeTags : List String → m (Except TagSpecFault TagSelector)) (config : RuleConfig) :
    m (Except RuleFault Rule) := do
  match Source.parse config.source with
  | .error fault => return .error (.source fault)
  | .ok source =>
  match Target.parse config.target with
  | .error fault => return .error (.target fault)
  | .ok target =>
  match ← makeTags config.tags with
  | .error fault => return .error (.tags fault)
  | .ok tags =>
  match readSince config.since with
  | .error fault => return .error fault
  | .ok since =>
  return .ok {
    source, target, tags, since
    platform := if config.platform.isEmpty then none else some config.platform
    onlyActive := (readTruth? config.onlyActive).getD false }

/-- Makes a rule of a configuration. -/
def validate (config : RuleConfig) : Except RuleFault Rule :=
  Id.run (validateWith (fun specs => pure (TagSelector.ofSpecs specs)) config)

/-- The repositories of a list that the rule has to look at. -/
def filterRepositories (r : Rule) (repositories : List String) : List String :=
  r.source.filter repositories

/-- Where the rule puts the repository with a path. -/
def mapPath (r : Rule) (path : String) : String := r.target.place r.source.isPattern path

/-- Whether an image must not have been pushed too long ago. -/
def hasSince (r : Rule) : Bool := r.since != .zero

/-- For each repository of a list that the rule selects, its path and where the rule puts
it. -/
def plan (r : Rule) (repositories : List String) : List (String × String) :=
  (r.source.select repositories).map fun path => (path, r.mapPath path)

end Rule

end ImageSync
