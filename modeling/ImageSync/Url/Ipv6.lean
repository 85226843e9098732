import ImageSync.Text.Cut
import ImageSync.Text.Digit

/-!
# `ImageSync.Url.Ipv6`: IPv6 addresses in hosts

An address has eight pieces of up to four hexadecimal digits between colons. A double colon
stands once for the zero pieces that are missing, at least one of them, and the last two
pieces may be written as an IPv4 address. An address is written with a double colon for its
first longest run of two or more zeros.

Main statements: an address that is read has eight pieces (`length_of_readIpv6?`).
-/

set_option autoImplicit false

namespace ImageSync.Url

open Text

/-- What stands before and after the first double colon. -/
def cutDoubleColon? : List Char → Option (List Char × List Char)
  | [] => none
  | ':' :: ':' :: r => some ([], r)
  | c :: r => (cutDoubleColon? r).map fun (before, after) => (c :: before, after)

/-- The value of a piece: one to four hexadecimal digits. -/
def readPiece? (cs : List Char) : Option Nat :=
  if 1 ≤ cs.length ∧ cs.length ≤ 4 then
    cs.foldlM (fun n c => (hexValue? c).map fun d => n * 16 + d) 0
  else none

/-- The value of a byte in decimal, without leading zeros. -/
def readByte? (cs : List Char) : Option Nat :=
  match cs with
  | [] => none
  | ['0'] => some 0
  | '0' :: _ => none
  | _ =>
    if cs.all Char.isDigit then
      let n := cs.foldl (fun n c => n * 10 + (c.toNat - '0'.toNat)) 0
      if n ≤ 255 then some n else none
    else none

/-- The two pieces that a dotted address stands for. -/
def readDotted? (cs : List Char) : Option (List Nat) := do
  match ← (splitAtChar '.' cs).mapM readByte? with
  | [a, b, c, d] => some [a * 256 + b, c * 256 + d]
  | _ => none

/-- The pieces between colons; only the last one may be a dotted address. -/
def readPieces? (dotted : Bool) : List (List Char) → Option (List Nat)
  | [] => some []
  | [last] =>
    if dotted && last.contains '.' then readDotted? last
    else (readPiece? last).map fun n => [n]
  | p :: q :: r => do return (← readPiece? p) :: (← readPieces? dotted (q :: r))

/-- The pieces of a part of an address, none if it is empty. -/
def readSide? (dotted : Bool) (cs : List Char) : Option (List Nat) :=
  if cs.isEmpty then some [] else readPieces? dotted (splitAtChar ':' cs)

/-- The eight pieces of an address. -/
def readIpv6? (cs : List Char) : Option (List Nat) :=
  match cutDoubleColon? cs with
  | some (before, after) => do
    -- A dotted address can only end the whole text.
    let front ← readSide? false before
    let back ← readSide? true after
    if front.length + back.length ≤ 7 then
      some (front ++ List.replicate (8 - (front.length + back.length)) 0 ++ back)
    else none
  | none => do
    let pieces ← readSide? true cs
    if pieces.length = 8 then some pieces else none

/-- The number of zeros at the start of some pieces. -/
def zeroRun (pieces : List Nat) : Nat := (pieces.takeWhile (· == 0)).length

/-- Where the first longest run of zeros starts. -/
def longestZeroRun (pieces : List Nat) : Nat :=
  (List.range pieces.length).foldl (fun best i =>
    if zeroRun (pieces.drop best) < zeroRun (pieces.drop i) then i else best) 0

/-- A piece in lower-case hexadecimal, without leading zeros. -/
def renderPiece (n : Nat) : List Char := Nat.toDigits 16 n

/-- Pieces between colons. -/
def renderPieces (pieces : List Nat) : List Char := joinWith ':' (pieces.map renderPiece)

/-- An address as a text. -/
def renderIpv6 (pieces : List Nat) : List Char :=
  let start := longestZeroRun pieces
  let run := zeroRun (pieces.drop start)
  if run < 2 then renderPieces pieces
  else renderPieces (pieces.take start) ++ "::".toList ++ renderPieces (pieces.drop (start + run))

/-- An address that is read has eight pieces. -/
theorem length_of_readIpv6? {cs : List Char} {pieces : List Nat}
    (h : readIpv6? cs = some pieces) : pieces.length = 8 := by
  unfold readIpv6? at h
  split at h
  · simp only [bind, Option.bind_eq_some_iff] at h
    obtain ⟨front, -, back, -, h⟩ := h
    split at h
    · cases h
      simp
      omega
    · cases h
  · simp only [bind, Option.bind_eq_some_iff] at h
    obtain ⟨all, -, h⟩ := h
    split at h
    · cases h
      assumption
    · cases h

end ImageSync.Url
