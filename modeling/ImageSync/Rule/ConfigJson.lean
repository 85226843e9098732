import ImageSync.Json.Record
import ImageSync.Rule.Basic

/-!
# `ImageSync.Rule.ConfigJson`: rule configurations in JSON

A configuration is a record with the fields `from`, `to`, `tags`, `platform`,
`only_active` and `since`, all of which may be absent. The field `tags` is an array of
strings. Each of the others is a scalar, of which the text is kept: a string, a truth value,
a number, or nothing for the empty text. An integer that fits 64 bits with a sign keeps its
digits; any other number is written out in double precision.

`RuleConfig.parse` reads a configuration, and `RuleConfig.render` writes one without
blanks.
-/

set_option autoImplicit false

namespace ImageSync.RuleConfig

open ImageSync.Json

/-- The text of a double: a sign if it is negative, and all its places. -/
def doubleText (negative : Bool) (x : Decimal.Binary64) : String :=
  String.ofList ((if negative then ['-'] else []) ++ x.positional)

/-- The text of a number. A natural number that does not fit 64 bits with a sign is taken in
double precision. -/
def numberText : Number → String
  | .natural n =>
    if n < UInt64.size / 2 then toString n
    else match Decimal.Binary64.ofNat? n with
      | some x => doubleText false x
      | none => toString n
  | .negative n => "-" ++ toString n
  | .double isNegative x => doubleText isNegative x

/-- Reads a scalar field. An array or object is read to its end before it is refused. -/
def readScalar (v : Value) : Except RecordError String :=
  match v with
  | .null => .ok ""
  | .bool b => .ok (toString b)
  | .number n => (orFault n).map numberText
  | .text s => orFault s
  | v =>
    match v.fault? (maxDepth - 1) with
    | some f => .error (.fault f)
    | none => .error (.unsuitable "data did not match any variant of untagged enum Scalar")

/-- A scalar field of a configuration. -/
def scalarField (name : String) (put : String → RuleConfig → RuleConfig) :
    RecordField RuleConfig :=
  ⟨name, fun v config => (readScalar v).map fun s => put s config⟩

/-- The fields of a configuration in their order. -/
def fields : List (RecordField RuleConfig) :=
  [scalarField "from" fun s c => { c with source := s },
    scalarField "to" fun s c => { c with target := s },
    ⟨"tags", fun v config => (readStrings v).map fun tags => { config with tags }⟩,
    scalarField "platform" fun s c => { c with platform := s },
    scalarField "only_active" fun s c => { c with onlyActive := s },
    scalarField "since" fun s c => { c with since := s }]

/-- Reads a configuration. -/
def parse (text : String) : Except RecordError RuleConfig :=
  readRecord "struct MappingConfig" fields {} text.toList

/-- A string as a JSON value. -/
def renderString (s : String) : List Char := quote s.toList

/-- Some strings as a JSON array. -/
def renderStrings (strings : List String) : List Char :=
  '[' :: Text.joinWith ',' (strings.map renderString) ++ [']']

/-- The members of the object that a configuration is written as. -/
def renderedMembers (c : RuleConfig) : List (String × List Char) :=
  [("from", renderString c.source), ("to", renderString c.target),
    ("tags", renderStrings c.tags), ("platform", renderString c.platform),
    ("only_active", renderString c.onlyActive), ("since", renderString c.since)]

/-- A configuration as a JSON object without blanks. -/
def renderChars (c : RuleConfig) : List Char :=
  '\x7b' :: Text.joinWith ','
    ((renderedMembers c).map fun (name, value) => renderString name ++ ':' :: value) ++ ['\x7d']

/-- A configuration as a JSON object without blanks. -/
def render (c : RuleConfig) : String := String.ofList (renderChars c)

end ImageSync.RuleConfig
