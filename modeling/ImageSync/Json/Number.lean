import ImageSync.Json.Value
import ImageSync.Text.Cut
import ImageSync.Text.Digit

/-!
# `ImageSync.Json.Number`: reading JSON numbers

A number is an optional minus sign, an integer without leading zeros, and perhaps a
fraction and an exponent. `readNumber` gives its value and the text after it. Both may be
faults, and they may differ: a reader who skips a number does not mind that it is too
large.

An integer that fits 64 bits is kept exactly. Every other number is rounded to double
precision from at most the digits that fit 64 bits.
-/

set_option autoImplicit false

namespace ImageSync.Json

open ImageSync.Decimal (Binary64)

/-- The digits at the start of a text, and the text after them. -/
def spanDigits (cs : List Char) : List Char × List Char :=
  (cs.takeWhile Char.isDigit, cs.dropWhile Char.isDigit)

/-- A number as written. -/
structure NumberText where
  negative : Bool
  whole : List Char
  fraction : Option (List Char)
  /-- Whether the exponent is negative, and its digits. -/
  exponent : Option (Bool × List Char)
  deriving DecidableEq, Repr

/-- A fault for one who reads the number, and one for who skips it. -/
structure NumberFault where
  reading : Fault
  skipping : Fault

/-- The fault of a number that lacks a digit before the given text. -/
def NumberFault.digitMissing : List Char → NumberFault
  | [] => ⟨.ended, .malformed⟩
  | _ => ⟨.malformed, .malformed⟩

/-- Reads the exponent of a number, if it has one. -/
def scanExponent (cs : List Char) : Except NumberFault (Option (Bool × List Char) × List Char) :=
  match cs with
  | [] => .ok (none, [])
  | c :: r =>
    if c = 'e' ∨ c = 'E' then
      let (negative, r) := match r with
        | '-' :: r => (true, r)
        | '+' :: r => (false, r)
        | r => (false, r)
      let (digits, rest) := spanDigits r
      if digits.isEmpty then .error (.digitMissing rest) else .ok (some (negative, digits), rest)
    else .ok (none, c :: r)

/-- Reads the integer of a number. -/
def scanWhole (cs : List Char) : Except NumberFault (List Char × List Char) :=
  let (digits, rest) := spanDigits cs
  match digits with
  | [] => .error (.digitMissing rest)
  | '0' :: _ :: _ => .error ⟨.malformed, .malformed⟩
  | _ => .ok (digits, rest)

/-- Reads the fraction of a number, if it has one. -/
def scanFraction (cs : List Char) : Except NumberFault (Option (List Char) × List Char) :=
  match cs with
  | '.' :: r =>
    let (digits, rest) := spanDigits r
    if digits.isEmpty then .error (.digitMissing rest) else .ok (some digits, rest)
  | _ => .ok (none, cs)

/-- Cuts a number into its parts. -/
def scanNumber (cs : List Char) : Except NumberFault (NumberText × List Char) := do
  let (negative, cs) := match cs with
    | '-' :: r => (true, r)
    | r => (false, r)
  let (whole, cs) ← scanWhole cs
  let (fraction, cs) ← scanFraction cs
  let (exponent, cs) ← scanExponent cs
  return (⟨negative, whole, fraction, exponent⟩, cs)

/-- Adds digits to a number as long as it stays below `2 ^ 64`, and says how many digits were
left over. -/
def addDigits (n : Nat) : List Char → Nat × Nat
  | [] => (n, 0)
  | c :: r =>
    -- Digits behind one that does not fit are not looked at, even if they are zeros.
    let next := 10 * n + Text.digitValue c
    if next < UInt64.size then addDigits next r else (n, r.length + 1)

namespace NumberText

/-- The significand from the digits that fit 64 bits, and the power of ten it is to be
multiplied with, the exponent apart. -/
def significand (t : NumberText) : Nat × Int :=
  let (whole, dropped) := addDigits 0 t.whole
  match t.fraction with
  | none => (whole, dropped)
  | some digits =>
    let (all, unused) := addDigits whole digits
    (all, (dropped : Int) - ((digits.length - unused : Nat) : Int))

/-- The digits of the exponent as a number; larger ones than `2 ^ 31 - 1` make no difference
and count as that much. -/
def exponentAmount (digits : List Char) : Nat :=
  min (Text.digitsValue digits) (UInt32.size / 2 - 1)

/-- The number in double precision, if it is not too large. -/
def double? (t : NumberText) : Option Number := do
  let (significand, power) := t.significand
  let power := match t.exponent with
    | none => power
    | some (true, digits) => power - (exponentAmount digits : Int)
    | some (false, digits) => power + (exponentAmount digits : Int)
  return .double t.negative (← Binary64.ofDecimal? significand power)

/-- The value of a number, if it is not too large. -/
def value? (t : NumberText) : Option Number :=
  match t.fraction, t.exponent, addDigits 0 t.whole with
  | none, none, (n, 0) =>
    -- Minus zero is no integer, for an integer would lose its sign.
    if !t.negative then some (.natural n)
    else if 0 < n ∧ n ≤ UInt64.size / 2 then some (.negative n)
    else t.double?
  | _, _, _ => t.double?

end NumberText

/-- Reads a number: its value, and the text after it. -/
def readNumber (cs : List Char) : Except Fault Number × Except Fault (List Char) :=
  match scanNumber cs with
  | .error f => (.error f.reading, .error f.skipping)
  | .ok (t, rest) =>
    match t.value? with
    | some n => (.ok n, .ok rest)
    | none => (.error .malformed, .ok rest)

end ImageSync.Json
