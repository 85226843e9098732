import ImageSync.Json.Value
import ImageSync.Text.Digit

/-!
# `ImageSync.Json.Text`: JSON strings

`quote` writes a text as a JSON string: a backslash stands before quotes, backslashes and
control characters, and nothing else is changed. `readText` reads a string after its
opening quote. It gives the text and what stands after the closing quote; both may be
faults, and they may differ: a reader who skips a string does not mind half of a surrogate
pair.
-/

set_option autoImplicit false

namespace ImageSync.Json

open Text (hexDigit hexValue?)

/-- What stands for a character inside a JSON string. -/
def escapeChar (c : Char) : List Char :=
  if c = '"' then ['\\', '"']
  else if c = '\\' then ['\\', '\\']
  else if c = '\x08' then ['\\', 'b']
  else if c = '\x0c' then ['\\', 'f']
  else if c = '\n' then ['\\', 'n']
  else if c = '\r' then ['\\', 'r']
  else if c = '\t' then ['\\', 't']
  else if c.toNat < 0x20 then
    ['\\', 'u', '0', '0', hexDigit (c.toNat / 16), hexDigit (c.toNat % 16)]
  else [c]

/-- A text as a JSON string. -/
def quote (cs : List Char) : List Char := '"' :: cs.flatMap escapeChar ++ ['"']

/-- Reads the four hexadecimal digits of an escape. The text ends too early if fewer than
four bytes are left. -/
def readFour (cs : List Char) : Except Fault (Nat × List Char) :=
  match cs with
  | a :: b :: c :: d :: r =>
    match hexValue? a, hexValue? b, hexValue? c, hexValue? d with
    | some a, some b, some c, some d => .ok (((a * 16 + b) * 16 + c) * 16 + d, r)
    | _, _, _, _ => .error .malformed
  | _ => if (String.ofList cs).utf8ByteSize < 4 then .error .ended else .error .malformed

/-- The second half of a surrogate pair, and the text after it. -/
def readLowSurrogate (cs : List Char) : Except Fault (Nat × List Char) :=
  match cs with
  | [] => .error .ended
  | '\\' :: [] => .error .ended
  | '\\' :: 'u' :: r => do
    let (low, rest) ← readFour r
    if 0xDC00 ≤ low ∧ low ≤ 0xDFFF then return (low, rest) else throw .malformed
  | _ => .error .malformed

/-- The character that a single letter after a backslash stands for. -/
def escapeValue? (c : Char) : Option Char :=
  match c with
  | '"' => some '"'
  | '\\' => some '\\'
  | '/' => some '/'
  | 'b' => some '\x08'
  | 'f' => some '\x0c'
  | 'n' => some '\n'
  | 'r' => some '\r'
  | 't' => some '\t'
  | _ => none

/-- One unit of a string: the character it stands for, if it stands for one, and the text
after it. -/
structure Unit where
  value : Except Fault Char
  rest : List Char

/-- Reads the escape after a backslash. -/
def readUnit (cs : List Char) : Except Fault Unit :=
  match cs with
  | [] => .error .ended
  | 'u' :: r => do
    let (n, rest) ← readFour r
    if 0xDC00 ≤ n ∧ n ≤ 0xDFFF then return ⟨.error .malformed, rest⟩
    else if 0xD800 ≤ n ∧ n ≤ 0xDBFF then
      match readLowSurrogate rest with
      | .error f => return ⟨.error f, rest⟩
      | .ok (low, rest) =>
        return ⟨.ok (Char.ofNat (0x10000 + (n - 0xD800) * 0x400 + (low - 0xDC00))), rest⟩
    else return ⟨.ok (Char.ofNat n), rest⟩
  | c :: r =>
    match escapeValue? c with
    | some v => .ok ⟨.ok v, r⟩
    | none => .error .malformed

/-- Reads a string after its opening quote. The number bounds the steps; each takes at least
one character. -/
def readTextSteps : Nat → List Char → Except Fault (List Char) × Except Fault (List Char)
  | 0, _ => (.error .ended, .error .ended)
  | _ + 1, [] => (.error .ended, .error .ended)
  | n + 1, c :: r =>
    if c = '"' then (.ok [], .ok r)
    else if c = '\\' then
      match readUnit r with
      | .error f => (.error f, .error f)
      | .ok u =>
        let (text, rest) := readTextSteps n u.rest
        (u.value.bind fun v => text.map (v :: ·), rest)
    else if c.toNat < 0x20 then (.error .malformed, .error .malformed)
    else
      let (text, rest) := readTextSteps n r
      (text.map (c :: ·), rest)

/-- Reads a string after its opening quote. -/
def readText (cs : List Char) : Except Fault String × Except Fault (List Char) :=
  let (text, rest) := readTextSteps (cs.length + 1) cs
  (text.map String.ofList, rest)

end ImageSync.Json
