import ImageSync.Regex.Flags
import ImageSync.Text.Cut

/-!
# `ImageSync.Regex.Escape`: what follows a backslash

`readEscape` reads one escape after its backslash. It is a literal character, a class or a
test of a place (`Primitive`). There are no back references, so a digit is refused, and so
is every letter without a meaning.
-/

set_option autoImplicit false

namespace ImageSync.Regex

open ImageSync.Text (CharSet)

/-- What a single escape or character of a pattern stands for. -/
inductive Primitive where
  /-- One character; `asByte` if it was written with two hexadecimal digits. -/
  | literal (c : Char) (asByte : Bool)
  | chars (set : CharSet)
  | look (l : Look)

/-- The value of hexadecimal digits, if there is at least one and nothing else. -/
def hexValue? (cs : List Char) : Option Nat :=
  if cs.isEmpty then none
  else cs.foldlM (fun n c =>
    if c.isDigit then some (16 * n + (c.toNat - '0'.toNat))
    else if 'a' ≤ c ∧ c ≤ 'f' then some (16 * n + (c.toNat - 'a'.toNat + 10))
    else if 'A' ≤ c ∧ c ≤ 'F' then some (16 * n + (c.toNat - 'A'.toNat + 10))
    else none) 0

/-- The character with a code point, if it has one. -/
def charOfCode? (n : Nat) : Option Char := if n.isValidChar then some (Char.ofNat n) else none

/-- The next `n` characters, without what does not count after each of them. -/
def takeCounted (f : Flags) : Nat → List Char → Option (List Char × List Char)
  | 0, cs => some ([], cs)
  | _ + 1, [] => none
  | n + 1, c :: r => (takeCounted f n (f.skip r)).map fun (taken, rest) => (c :: taken, rest)

/-- A character by its code point in hexadecimal digits: as many as given, or any number
between braces. -/
def readHex (f : Flags) (count : Nat) (cs : List Char) : Option (Primitive × List Char) := do
  let (digits, asByte, rest) ← match f.skip cs with
    | '\x7b' :: r => (f.untilBrace false r).map fun (digits, rest) => (digits, false, rest)
    | r => (takeCounted f count r).map fun (digits, rest) => (digits, count == 2, rest)
  let c ← charOfCode? (← hexValue? digits)
  return (.literal c asByte, rest)

/-- The first place where the characters `a` and `b` stand side by side. -/
def cutPair? (a b : Char) : List Char → Option (List Char × List Char)
  | c :: d :: r =>
    if c = a ∧ d = b then some ([], r)
    else (cutPair? a b (d :: r)).map fun (before, after) => (c :: before, after)
  | _ => none

/-- The characters with the property named between the braces of an escape, which is either
a lone name or a name and a value. -/
def namedChars? (text : List Char) : Option CharSet :=
  let cut := (cutPair? '!' '=' text).or ((Text.cutFirst? ':' text).or (Text.cutFirst? '=' text))
  match cut with
  | some (name, value) => Unicode.propertyValueChars? name value
  | none => Unicode.propertyChars? text

/-- A class by the name of a property: one letter, or a text between braces. -/
def readProperty (f : Flags) (negated : Bool) (cs : List Char) :
    Option (Primitive × List Char) := do
  guard f.unicode
  let (named, rest) ← match f.skip cs with
    | [] => none
    | '\x7b' :: r => (f.untilBrace false r).map fun (text, rest) => (namedChars? text, rest)
    | c :: r => some (Unicode.propertyChars? [c], r)
  let set ← named
  return (.chars (← f.negateIf? negated (f.foldCase set)), rest)

/-- The special word boundary with a name between braces. -/
def boundaryNamed? (f : Flags) (name : List Char) : Option Look :=
  if name = "start".toList then some (.wordStart f.wordChars)
  else if name = "end".toList then some (.wordEnd f.wordChars)
  else if name = "start-half".toList then some (.wordStartHalf f.wordChars)
  else if name = "end-half".toList then some (.wordEndHalf f.wordChars)
  else none

/-- A word boundary. A brace after it names a special one if a letter or a hyphen follows,
and begins a repetition otherwise. -/
def readBoundary (f : Flags) (cs : List Char) : Option (Primitive × List Char) :=
  match cs with
  | '\x7b' :: r =>
    match f.skip r with
    | [] => none
    | c :: _ =>
      if c.isAlpha || c == '-' then do
        let (name, rest) ← f.untilBrace false r
        return (.look (← boundaryNamed? f name), rest)
      else some (.look (.wordBoundary f.wordChars), cs)
  | _ => some (.look (.wordBoundary f.wordChars), cs)

/-- Whether a character may stand after a backslash for itself. -/
def isEscapable (c : Char) : Bool :=
  c.toNat < 0x80 && !c.isAlphanum && c != '<' && c != '>'

/-- Reads an escape after its backslash. -/
def readEscape (f : Flags) : List Char → Option (Primitive × List Char)
  | [] => none
  | c :: r =>
    let cls (set : CharSet) (negated : Bool) : Option (Primitive × List Char) :=
      (f.negateIf? negated set).map fun s => (.chars s, r)
    match c with
    | 'x' => readHex f 2 r
    | 'u' => readHex f 4 r
    | 'U' => readHex f 8 r
    | 'p' => readProperty f false r
    | 'P' => readProperty f true r
    | 'd' => cls f.digits false
    | 'D' => cls f.digits true
    | 's' => cls f.spaces false
    | 'S' => cls f.spaces true
    | 'w' => cls f.wordChars false
    | 'W' => cls f.wordChars true
    | 'a' => some (.literal '\x07' false, r)
    | 'f' => some (.literal '\x0c' false, r)
    | 't' => some (.literal '\t' false, r)
    | 'n' => some (.literal '\n' false, r)
    | 'r' => some (.literal '\r' false, r)
    | 'v' => some (.literal '\x0b' false, r)
    | 'A' => some (.look .textStart, r)
    | 'z' => some (.look .textEnd, r)
    | 'b' => readBoundary f r
    | 'B' => some (.look (.notWordBoundary f.wordChars), r)
    | '<' => some (.look (.wordStart f.wordChars), r)
    | '>' => some (.look (.wordEnd f.wordChars), r)
    | _ => if isEscapable c then some (.literal c false, r) else none

end ImageSync.Regex
