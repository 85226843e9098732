import ImageSync.Regex.Node

/-!
# `ImageSync.Regex.Size`: how large a regular expression is when it runs

A matcher that keeps all ways of matching at once has states for every copy of every part
of an expression, so counted repetitions multiply. `Node.size` estimates the memory of such
a matcher in bytes, and an expression larger than `maxSize` is refused.
-/

set_option autoImplicit false

namespace ImageSync.Regex

open ImageSync.Text (CharSet)

/-- The largest expression that is accepted: ten mebibytes. -/
def maxSize : Nat := 10 * 1024 * 1024

/-- The memory of one state. -/
def stateSize : Nat := 32

/-- The bytes that the UTF-8 encoding of a code point takes. -/
def encodedLength (n : Nat) : Nat :=
  if n < 0x80 then 1 else if n < 0x800 then 2 else if n < 0x10000 then 3 else 4

/-- The memory for matching one character of a set. An ASCII set is one branching state; in
other sets the encodings of neighbouring characters share states. -/
def setSize (s : CharSet) : Nat :=
  match s.runs 0x110000 with
  | [(lo, hi)] =>
    if lo = hi then stateSize * encodedLength lo
    else if hi < 0x80 then stateSize
    else stateSize * (encodedLength hi * encodedLength hi + 2)
  | runs =>
    if runs.all fun r => r.2 < 0x80 then 2 * stateSize + 8 * runs.length
    else 2 * stateSize + (stateSize + 16) * runs.length

/-- The memory that matching a node takes. -/
def Node.size : Node → Nat
  | .empty => stateSize
  | .one s => setSize s
  | .look _ => stateSize
  | .seq a b => a.size + b.size
  | .alt a b => a.size + b.size + stateSize + 8
  | .group _ a => a.size + 2 * stateSize
  | .rep min none _ a => Nat.max min 1 * a.size + stateSize + 8
  | .rep min (some max) _ a => min * a.size + (max - min) * (a.size + stateSize + 8) + stateSize

end ImageSync.Regex
