import ImageSync.Decimal.Binary64

/-!
# `ImageSync.Json.Value`: what a JSON text says, as far as it goes

A text that is no JSON text says something up to the place where it goes wrong, and a
reader that looks for certain fields may have cause for complaint before that place. So a
`Value` can break off: an array or object may end with a `Fault` instead of its bracket, a
value may be missing for a `Fault`, and a string or number may have a form that only a
reader who skips it can pass over. `Value.fault?` finds the first place at which a reader
of the whole value would stop.
-/

set_option autoImplicit false

namespace ImageSync.Json

/-- Why a text is no JSON text. -/
inductive Fault where
  /-- It ends too early. -/
  | ended
  /-- Something stands where it may not stand. -/
  | malformed
  deriving DecidableEq, Repr

/-- A number by its form: a natural number below `2 ^ 64`, a negative integer from `-2 ^ 63`
on, by its amount, or any other number in double precision. -/
inductive Number where
  | natural (n : Nat)
  | negative (amount : Nat)
  | double (negative : Bool) (amount : Decimal.Binary64)
  deriving DecidableEq, Repr

/-- What a JSON text says, as far as it goes. -/
inductive Value where
  | null
  | bool (b : Bool)
  | number (n : Except Fault Number)
  | text (s : Except Fault String)
  | array (items : List Value) (breakOff : Option Fault)
  | object (members : List (Except Fault String × Value)) (breakOff : Option Fault)
  | missing (fault : Fault)

/-- The fault of a result, if it is one. -/
def faultOf? {α : Type} : Except Fault α → Option Fault
  | .ok _ => none
  | .error f => some f

/-- The first fault that a reader of the whole value meets, who goes no deeper than `depth`
arrays and objects. -/
def Value.fault? : (depth : Nat) → Value → Option Fault
  | _, .null => none
  | _, .bool _ => none
  | _, .number n => faultOf? n
  | _, .text s => faultOf? s
  | 0, .array _ _ => some .malformed
  | depth + 1, .array items breakOff => (items.findSome? (fault? depth)).or breakOff
  | 0, .object _ _ => some .malformed
  | depth + 1, .object members breakOff =>
    (members.findSome? fun m => (faultOf? m.1).or (fault? depth m.2)).or breakOff
  | _, .missing f => some f

end ImageSync.Json
