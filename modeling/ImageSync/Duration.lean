import ImageSync.Text.Cut
import ImageSync.Text.Digit

/-!
# `ImageSync.Duration`: lengths of time and how they are written

A `Duration` counts nanoseconds. It is written as an optional sign and then terms such as
`1h`, `30m` or `1.5s`: digits, perhaps a point and more digits, and a unit, where the unit
text runs up to the next digit or point. A lone `0` needs no unit. A negative duration has
no meaning as a window of time, so it reads as zero.

`Term` is what stands in one place of the text, valid or not; `Term.read` cuts it off and
`Term.nanos` gives its value. `Duration.parse` adds the terms up, and `Duration.Fault`
says what is wrong with a text that is no duration.

The reading works in steps of 128 bits. Most of them are checked (`fit?`); those on a
fraction are not, as they always fit (`wrap`).

Main statements: cutting off a term loses no character (`Term.text_read`), and a term that
has a number is not empty, so the reading ends (`Term.length_rest_lt`).
-/

set_option autoImplicit false

namespace ImageSync

/-- A length of time in whole nanoseconds. -/
structure Duration where
  nanos : Nat
  deriving DecidableEq, Repr

namespace Duration

open Text (digitValue digitsValue)

/-- No time at all. -/
def zero : Duration := ⟨0⟩

/-- The nanoseconds of one second. -/
def nanosPerSecond : Nat := 1_000_000_000

/-- The longest duration that can be written: the nanoseconds fit a signed 64-bit count. -/
def maxNanos : Nat := UInt64.size / 2 - 1

/-- The whole seconds of a duration. -/
def seconds (d : Duration) : Nat := d.nanos / nanosPerSecond

/-- The nanoseconds beyond the whole seconds. -/
def subsecondNanos (d : Duration) : Nat := d.nanos % nanosPerSecond

/-- The units a term can be written in. -/
inductive TimeUnit where
  | nanosecond
  | microsecond
  | millisecond
  | second
  | minute
  | hour
  deriving DecidableEq, Repr

/-- The nanoseconds of one unit. -/
def TimeUnit.nanos : TimeUnit → Nat
  | .nanosecond => 1
  | .microsecond => 1_000
  | .millisecond => 1_000_000
  | .second => nanosPerSecond
  | .minute => 60 * nanosPerSecond
  | .hour => 3_600 * nanosPerSecond

/-- The unit a text names. A microsecond has three spellings: `us`, the micro sign and the
Greek letter mu before `s`. -/
def TimeUnit.ofText? : List Char → Option TimeUnit
  | ['n', 's'] => some .nanosecond
  | ['u', 's'] => some .microsecond
  | ['\u00b5', 's'] => some .microsecond
  | ['\u03bc', 's'] => some .microsecond
  | ['m', 's'] => some .millisecond
  | ['s'] => some .second
  | ['m'] => some .minute
  | ['h'] => some .hour
  | _ => none

/-- What is wrong with a text that is no duration. -/
inductive Fault where
  /-- The text is empty, or has no number where one is expected. -/
  | invalid
  /-- A number has no unit. -/
  | missingUnit
  /-- A unit is not known. -/
  | unknownUnit (unit : String)
  /-- The terms add up to more than `maxNanos`. -/
  | overflow
  deriving DecidableEq, Repr

/-- The fault of the text `input`, for a reader. -/
def Fault.message (input : String) : Fault → String
  | .invalid => "invalid duration '" ++ input ++ "'"
  | .missingUnit => "missing unit in duration '" ++ input ++ "'"
  | .unknownUnit unit => "unknown unit '" ++ unit ++ "' in duration '" ++ input ++ "'"
  | .overflow => "duration '" ++ input ++ "' is out of range"

/-- How many numbers a step of the reading can tell apart: those of 128 bits. -/
def wordSize : Nat := UInt64.size * UInt64.size

/-- The outcome of a checked step: nothing if it does not fit. -/
def fit? (n : Nat) : Option Nat := if n < wordSize then some n else none

/-- The outcome of a step that is not checked: what does not fit is lost. -/
def wrap (n : Nat) : Nat := n % wordSize

/-- The number that decimal digits write, if each step to it fits. -/
def readDigits? (digits : List Char) : Option Nat :=
  digits.foldlM (fun n c => (fit? (10 * n)).bind fun shifted => fit? (shifted + digitValue c)) 0

/-- An outcome, or a fault in place of none. -/
def orFault {α : Type} (fault : Fault) : Option α → Except Fault α
  | some a => .ok a
  | none => .error fault

/-- Whether a character belongs to the unit text: it is neither a digit nor a point. -/
def inUnit (c : Char) : Bool := !(c == '.' || c.isDigit)

/-- One place of a written duration: the digits before the point, those after it, whether
there is a point, and the unit text. -/
structure Term where
  whole : List Char
  point : Bool
  fraction : List Char
  unit : List Char
  deriving DecidableEq, Repr

namespace Term

/-- The term at the start of a text, and the text after it. -/
def read (cs : List Char) : Term × List Char :=
  let whole := cs.takeWhile Char.isDigit
  match cs.dropWhile Char.isDigit with
  | '.' :: r =>
    let after := r.dropWhile Char.isDigit
    (⟨whole, true, r.takeWhile Char.isDigit, after.takeWhile inUnit⟩, after.dropWhile inUnit)
  | after => (⟨whole, false, [], after.takeWhile inUnit⟩, after.dropWhile inUnit)

/-- The characters of a term in their order. -/
def text (t : Term) : List Char :=
  t.whole ++ (if t.point then ['.'] else []) ++ t.fraction ++ t.unit

/-- Whether a term has a digit at all. -/
def hasNumber (t : Term) : Bool := !(t.whole.isEmpty && t.fraction.isEmpty)

/-- The fraction digits that count: the first eighteen. Finer ones are less than a
nanosecond in every unit. -/
def countedFraction (t : Term) : List Char := t.fraction.take 18

/-- The nanoseconds of a term in a given unit, what the fraction adds being rounded down. -/
def nanos (t : Term) (u : TimeUnit) : Nat :=
  digitsValue t.whole * u.nanos +
    digitsValue t.countedFraction * u.nanos / Nat.pow 10 t.countedFraction.length

/-- The nanoseconds that the fraction of a term adds in a given unit. The number of its digits
has 32 bits. -/
def fractionNanos (t : Term) (u : TimeUnit) : Except Fault Nat := do
  let numerator ← orFault .invalid (readDigits? t.countedFraction)
  if t.countedFraction.length < UInt32.size then
    -- Eighteen digits fit in the largest unit too, so nothing is checked here.
    return wrap (numerator * u.nanos) / wrap (Nat.pow 10 t.countedFraction.length)
  else throw .invalid

/-- The nanoseconds of a term in a given unit, if each step to them fits. -/
def value (t : Term) (u : TimeUnit) : Except Fault Nat := do
  let whole ← orFault .overflow (readDigits? t.whole)
  let units ← orFault .overflow (fit? (whole * u.nanos))
  if t.fraction.isEmpty then return units
  else orFault .overflow (fit? (units + (← t.fractionNanos u)))

/-- The value of a term, if it has a number and a known unit. -/
def check (t : Term) : Except Fault Nat :=
  if !t.hasNumber then .error .invalid
  else if t.unit.isEmpty then .error .missingUnit
  else match TimeUnit.ofText? t.unit with
    | none => .error (.unknownUnit (String.ofList t.unit))
    | some u => t.value u

/-- Cutting off a term loses no character. -/
theorem text_read (cs : List Char) : (read cs).1.text ++ (read cs).2 = cs := by
  have hcs : cs.takeWhile Char.isDigit ++ cs.dropWhile Char.isDigit = cs :=
    List.takeWhile_append_dropWhile
  rw [read]
  split
  · next r hr =>
    rw [hr] at hcs
    simp [text, List.append_assoc, List.takeWhile_append_dropWhile, hcs]
  · simp only [text, List.append_assoc, List.takeWhile_append_dropWhile, Bool.false_eq_true,
      if_false, List.nil_append]

/-- A term with a value has a number. -/
theorem hasNumber_of_check {t : Term} {n : Nat} (h : t.check = .ok n) : t.hasNumber = true := by
  cases hnum : t.hasNumber with
  | true => rfl
  | false => simp [check, hnum] at h

/-- A term that has a number takes at least one character. -/
theorem length_rest_lt {cs : List Char} (h : (read cs).1.hasNumber = true) :
    (read cs).2.length < cs.length := by
  have hlen := congrArg List.length (text_read cs)
  have htext : 0 < (read cs).1.text.length := by
    rw [List.length_pos_iff]
    intro hnil
    simp only [text, List.append_eq_nil_iff] at hnil
    simp [hasNumber, hnil] at h
  rw [List.length_append] at hlen
  omega

end Term

/-- The sum of the terms of `cs` on top of `total`, as long as it stays in range. -/
def sumTerms (total : Nat) (cs : List Char) : Except Fault Nat :=
  if cs.isEmpty then .ok total
  else
    match _hn : (Term.read cs).1.check with
    | .error e => .error e
    | .ok n =>
      match fit? (total + n) with
      | none => .error .overflow
      | some sum =>
        if maxNanos < sum then .error .overflow else sumTerms sum (Term.read cs).2
  termination_by cs.length
  decreasing_by exact Term.length_rest_lt (Term.hasNumber_of_check _hn)

/-- The nanoseconds of a duration without its sign. -/
def bodyNanos (body : List Char) : Except Fault Nat :=
  if body = ['0'] then .ok 0
  else if body.isEmpty then .error .invalid
  else sumTerms 0 body

/-- Whether a written duration is negative, and what stands behind its sign. -/
def cutSign : List Char → Bool × List Char
  | '-' :: body => (true, body)
  | '+' :: body => (false, body)
  | body => (false, body)

/-- The duration of so many nanoseconds, if its seconds have 64 bits and the rest 32. -/
def ofNanos (n : Nat) : Except Fault Duration :=
  if n / nanosPerSecond < UInt64.size ∧ n % nanosPerSecond < UInt32.size then .ok ⟨n⟩
  else .error .overflow

/-- Reads a written duration. -/
def parse (input : String) : Except Fault Duration := do
  let (isNegative, body) := cutSign input.toList
  let n ← bodyNanos body
  if isNegative then return zero else ofNanos n

end Duration

end ImageSync
