import ImageSync.Decimal.Shortest
import ImageSync.Json.Reader
import ImageSync.Text.Quoted

/-!
# `ImageSync.Json.Record`: records in JSON

A record is written as an object with named members, or as an array of the values in the
order of the fields, where the last ones may be absent. Members with other names are passed
over, whatever their values are; a name of a field may not occur twice. `readRecord` reads a
record in the order of the text and stops at the first thing wrong, be it a fault of the
text or a value that does not suit its field.
-/

set_option autoImplicit false

namespace ImageSync.Json

/-- How many arrays and objects may be inside each other where values are read. -/
def maxDepth : Nat := 127

/-- Why a text holds no record of the wanted kind. -/
inductive RecordError where
  | fault (f : Fault)
  /-- A value does not suit, for the given reason. -/
  | unsuitable (reason : String)
  deriving DecidableEq, Repr

/-- The value of a result whose error is a fault of the text. -/
def orFault {α : Type} : Except Fault α → Except RecordError α
  | .ok a => .ok a
  | .error f => .error (.fault f)

/-- The text of a number, with an exponent if it is very large or very small. -/
def Number.describe : Number → String
  | .natural n => "integer `" ++ toString n ++ "`"
  | .negative n => "integer `-" ++ toString n ++ "`"
  | .double isNegative x =>
    "floating point `" ++ (if isNegative then "-" else "") ++ String.ofList x.scientific ++ "`"

/-- What a value is, for a message; a fault if it cannot be read. -/
def Value.describe : Value → Except RecordError String
  | .null => .ok "null"
  | .bool b => .ok ("boolean `" ++ toString b ++ "`")
  | .number n => (orFault n).map Number.describe
  | .text s => (orFault s).map fun s => "string " ++ Text.quoted s
  | .array _ _ => .ok "sequence"
  | .object _ _ => .ok "map"
  | .missing f => .error (.fault f)

/-- The error that a value is not of the expected kind. -/
def unexpected {α : Type} (expected : String) (v : Value) : Except RecordError α := do
  .error (.unsuitable ("invalid type: " ++ (← v.describe) ++ ", expected " ++ expected))

/-- Reads a string. -/
def readString : Value → Except RecordError String
  | .text s => orFault s
  | v => unexpected "a string" v

/-- Goes on to the end of an array or object. -/
def finish {α : Type} (breakOff : Option Fault) (a : α) : Except RecordError α :=
  match breakOff with
  | none => .ok a
  | some f => .error (.fault f)

/-- Reads an array of strings. -/
def readStrings : Value → Except RecordError (List String)
  | .array items breakOff => do finish breakOff (← items.mapM readString)
  | v => unexpected "a sequence" v

/-- Reads an array of strings, or nothing. -/
def readOptionalStrings : Value → Except RecordError (Option (List String))
  | .null => .ok none
  | v => (readStrings v).map some

/-- A field of a record: its name, and how its value changes the record. -/
structure RecordField (α : Type) where
  name : String
  read : Value → α → Except RecordError α

/-- Reads the members of an object into a record; `seen` are the names that occurred. -/
def readFields {α : Type} (fields : List (RecordField α)) (breakOff : Option Fault) :
    (seen : List String) → α → List (Except Fault String × Value) → Except RecordError α
  | _, a, [] => finish breakOff a
  | seen, a, (key, value) :: rest => do
    let name ← orFault key
    match fields.find? (·.name == name) with
    | none => readFields fields breakOff seen a rest
    | some field =>
      -- A name that occurs twice is an error before its second value is read.
      if seen.contains name then .error (.unsuitable ("duplicate field `" ++ name ++ "`"))
      else readFields fields breakOff (name :: seen) (← field.read value a) rest

/-- Reads the items of an array into a record. There may be no more items than fields. -/
def readPlaces {α : Type} (breakOff : Option Fault) :
    List (RecordField α) → α → List Value → Except RecordError α
  | _, a, [] => finish breakOff a
  | [], _, _ :: _ => .error (.fault .malformed)
  | field :: fields, a, value :: rest => do
    readPlaces breakOff fields (← field.read value a) rest

/-- Reads a record; `expected` says what it is, for a message. -/
def readRecordValue {α : Type} (expected : String) (fields : List (RecordField α)) (a : α) :
    Value → Except RecordError α
  | .object members breakOff => readFields fields breakOff [] a members
  | .array items breakOff => readPlaces breakOff fields a items
  | v => unexpected expected v

/-- Reads a text that holds one record. -/
def readRecord {α : Type} (expected : String) (fields : List (RecordField α)) (a : α)
    (cs : List Char) : Except RecordError α := do
  let d := readDocument cs
  let a ← readRecordValue expected fields a d.value
  finish d.trailing a

end ImageSync.Json
