/-!
# `ImageSync.Url.Domain.Punycode`: labels in ASCII

A label with characters outside ASCII is written with its ASCII characters first, then a
hyphen if there are any, then the others: each one as the distance, in code point and place,
from the one before. A distance is written in digits to the base 36 whose thresholds adapt to
the distances so far (`adapt`). `encode` writes, `decode?` reads back.
-/

set_option autoImplicit false

namespace ImageSync.Url.Domain.Punycode

/-- The digit of a value below 36. -/
def digit (n : Nat) : Char :=
  if n < 26 then Char.ofNat ('a'.toNat + n) else Char.ofNat ('0'.toNat + (n - 26))

/-- The value of a digit of either case. -/
def digitValue? (c : Char) : Option Nat :=
  if c.isLower then some (c.toNat - 'a'.toNat)
  else if c.isUpper then some (c.toNat - 'A'.toNat)
  else if c.isDigit then some (c.toNat - '0'.toNat + 26)
  else none

/-- The threshold of a digit: `k` is 36 for the first digit and goes up by 36. -/
def threshold (bias k : Nat) : Nat := max 1 (min (k - bias) 26)

/-- No threshold is above the largest one. -/
theorem threshold_le (bias k : Nat) : threshold bias k ≤ 26 := by
  unfold threshold
  omega

/-- No threshold is below the smallest one. -/
theorem one_le_threshold (bias k : Nat) : 1 ≤ threshold bias k := by
  unfold threshold
  omega

/-- Divides a distance until it is small; `k` counts the divisions. -/
def shrink (k delta : Nat) : Nat :=
  if delta > 455 then shrink (k + 36) (delta / 35) else k + 36 * delta / (delta + 38)
  termination_by delta
  decreasing_by omega

/-- The bias after a distance, when `count` characters are in place. -/
def adapt (delta count : Nat) (first : Bool) : Nat :=
  let d := if first then delta / 700 else delta / 2
  shrink 0 (d + d / count)

/-- The digits of a distance. -/
def digits (bias k n : Nat) : List Char :=
  let t := threshold bias k
  if n < t then [digit n]
  else digit (t + (n - t) % (36 - t)) :: digits bias (k + 36) ((n - t) / (36 - t))
  termination_by n
  decreasing_by
    have := threshold_le bias k
    have := one_le_threshold bias k
    have := Nat.div_le_self (n - threshold bias k) (36 - threshold bias k)
    omega

/-- What is known between two characters that are written. -/
structure State where
  /-- The distance from the last one. -/
  delta : Nat
  bias : Nat
  /-- The number of characters in place. -/
  count : Nat
  /-- What has been written, the last digit first. -/
  written : List Char

/-- Writes the characters of one code point, and counts those below it. -/
def State.pass (basicCount n : Nat) (s : State) (c : Char) : State :=
  if c.toNat < n then { s with delta := s.delta + 1 }
  else if c.toNat = n then
    { delta := 0
      bias := adapt s.delta (s.count + 1) (s.count == basicCount)
      count := s.count + 1
      written := (digits s.bias 36 s.delta).reverse ++ s.written }
  else s

/-- Writes the characters of all code points from `next` on. -/
def State.passes (cs : List Char) (basicCount : Nat) : Nat → List Nat → State → State
  | _, [], s => s
  | next, n :: rest, s =>
    let s := { s with delta := s.delta + (n - next) * (s.count + 1) }
    let s := cs.foldl (pass basicCount n) s
    passes cs basicCount (n + 1) rest { s with delta := s.delta + 1 }

/-- The code points outside ASCII, each once, in ascending order. -/
def extended (cs : List Char) : List Nat :=
  (((cs.map Char.toNat).filter (0x80 ≤ ·)).mergeSort (· ≤ ·)).eraseDups

/-- The ASCII form of a label, without a mark in front. -/
def encode (cs : List Char) : List Char :=
  let basic := cs.filter (·.toNat < 0x80)
  let s := State.passes cs basic.length 0x80 (extended cs) ⟨0, 72, basic.length, []⟩
  basic ++ (if basic.isEmpty then [] else ['-']) ++ s.written.reverse

/-- Reads a distance, and adds it to `i`; `weight` is that of the next digit. -/
def readDistance? (bias : Nat) : Nat → Nat → Nat → List Char → Option (Nat × List Char)
  | _, _, _, [] => none
  | k, weight, i, c :: r => do
    let d ← digitValue? c
    let t := threshold bias k
    if d < t then return (i + d * weight, r)
    else readDistance? bias (k + 36) (weight * (36 - t)) (i + d * weight) r

/-- Reading a distance takes at least one character. -/
theorem length_of_readDistance? {bias k weight i j : Nat} {cs rest : List Char}
    (h : readDistance? bias k weight i cs = some (j, rest)) : rest.length < cs.length := by
  induction cs generalizing k weight i with
  | nil => simp [readDistance?] at h
  | cons c r ih =>
    simp only [readDistance?, bind, Option.bind_eq_some_iff] at h
    obtain ⟨d, -, h⟩ := h
    split at h
    · cases h
      simp
    · have := ih h
      simp only [List.length_cons]
      omega

/-- Puts the characters that distances stand for into their places. -/
def insertAll? (bias n i : Nat) (out : List Char) : List Char → Option (List Char)
  | [] => some out
  | c :: r =>
    match h : readDistance? bias 36 1 i (c :: r) with
    | none => none
    | some (j, rest) =>
      have := length_of_readDistance? h
      -- The distance counts places; a round through all of them goes to the next code point.
      let count := out.length + 1
      let m := n + j / count
      if m.isValidChar then
        insertAll? (adapt (j - i) count (i == 0)) m (j % count + 1)
          (out.insertIdx (j % count) (Char.ofNat m)) rest
      else none
  termination_by cs => cs.length
  decreasing_by
    simp only [List.length_cons] at this ⊢
    omega

/-- The text before the last hyphen, without it, and the text after it. -/
def cutLastHyphen (cs : List Char) : List Char × List Char :=
  let back := cs.reverse.takeWhile (· != '-')
  (cs.take (cs.length - back.length - 1), back.reverse)

/-- The label that an ASCII form without its mark stands for. -/
def decode? (cs : List Char) : Option (List Char) :=
  let (basic, rest) := cutLastHyphen cs
  if cs.all (·.toNat < 0x80) then insertAll? 72 0x80 0 basic rest else none

end ImageSync.Url.Domain.Punycode
