import ImageSync.Regex.Escape

/-!
# `ImageSync.Regex.Bracket`: classes between brackets

A class between brackets is a union of single characters, ranges, escapes, ASCII classes
such as `[:alpha:]` and further brackets. Two unions may be joined by `&&` (both), `--`
(the first without the second) and `~~` (exactly one), from left to right.

`readBracket` reads a class after its opening bracket. It keeps one `Level` per open
bracket and walks over the text once. Beside the set it gives how deep the class is nested,
for a pattern may not be nested too deeply.
-/

set_option autoImplicit false

namespace ImageSync.Regex

open ImageSync.Text (CharSet isBlank)

/-- A set of characters and how deep its written form is nested. -/
structure NestedSet where
  set : CharSet
  depth : Nat

/-- The ways two unions may be joined. -/
inductive SetOp where
  | inter
  | diff
  | symmDiff
  deriving DecidableEq, Repr

/-- What an operation makes of two sets. -/
def SetOp.apply : SetOp → CharSet → CharSet → CharSet
  | .inter => .inter
  | .diff => .diff
  | .symmDiff => .symmDiff

/-- What has been read of the innermost open bracket: whether it is negated, the part
before the last operation, and the union after it. -/
structure Level where
  negated : Bool
  pending : Option (SetOp × NestedSet) := none
  /-- How many items the union has. -/
  count : Nat := 0
  union : NestedSet := ⟨.empty, 0⟩

namespace Level

/-- The level with another item in its union. -/
def add (l : Level) (item : NestedSet) : Level :=
  { l with
    count := l.count + 1
    union := ⟨.union l.union.set item.set, max l.union.depth item.depth⟩ }

/-- The level with another character in its union. -/
def addChar (l : Level) (c : Char) : Level := l.add ⟨.single c, 0⟩

/-- The union; one of several items is nested once more. -/
def operand (l : Level) : NestedSet :=
  if l.count ≤ 1 then l.union else { l.union with depth := l.union.depth + 1 }

/-- All that the level holds. -/
def value (l : Level) (f : Flags) : NestedSet :=
  match l.pending with
  | none => l.operand
  | some (op, lhs) =>
    ⟨op.apply (f.foldCase lhs.set) (f.foldCase l.operand.set),
      max lhs.depth l.operand.depth + 1⟩

/-- The level after an operation was read. -/
def operate (l : Level) (f : Flags) (op : SetOp) : Level :=
  { negated := l.negated, pending := some (op, l.value f) }

/-- The class that the level holds when its bracket closes. -/
def close? (l : Level) (f : Flags) : Option NestedSet :=
  let v := l.value f
  (f.negateIf? l.negated (f.foldCase v.set)).map fun s => ⟨s, v.depth + 1⟩

end Level

/-- The level with the hyphens at the start of a text, which stand for themselves. -/
def readHyphens (f : Flags) : Nat → Level → List Char → Level × List Char
  | n + 1, l, '-' :: r => readHyphens f n (l.addChar '-') (f.skip r)
  | _, l, cs => (l, cs)

/-- Reads what follows an opening bracket and cannot stand elsewhere in the class: a caret
that negates it, hyphens, and a closing bracket that stands for itself. -/
def openBracket (f : Flags) (cs : List Char) : Level × List Char :=
  let (negated, cs) := match f.skip cs with
    | '^' :: r => (true, f.skip r)
    | r => (false, r)
  -- Only as the first item does a closing bracket stand for itself.
  let (l, cs) := readHyphens f cs.length { negated } cs
  match cs with
  | ']' :: r => if l.count = 0 then (l.addChar ']', f.skip r) else (l, cs)
  | _ => (l, cs)

/-- Reads an ASCII class after `[`, if one stands there. -/
def readAsciiClass (f : Flags) (cs : List Char) : Option (Option CharSet × List Char) := do
  let (negated, cs) ← match cs with
    | ':' :: '^' :: r => some (true, r)
    | ':' :: r => some (false, r)
    | _ => none
  let (name, rest) ← Text.cutFirst? ':' cs
  match rest with
  | ']' :: r => do
    let set ← Flags.asciiClass? (String.ofList name)
    return (f.negateIf? negated (f.foldCase set), r)
  | _ => none

/-- Reads a single item that is no class between brackets. -/
def readPrimitive (f : Flags) : List Char → Option (Primitive × List Char)
  | [] => none
  | '\\' :: r => readEscape f r
  | c :: r => some (.literal c false, r)

/-- The character that counts next after a hyphen. In a verbose pattern the first character
of a comment counts here. -/
def afterHyphen (f : Flags) (cs : List Char) : Option Char :=
  if !f.verbose then cs.head?
  else match cs.dropWhile isBlank with
    | '#' :: r => (r.dropWhile isBlank).head?
    | r => r.head?

/-- The set an item stands for when it is no end of a range. -/
def Primitive.memberSet? (f : Flags) : Primitive → Option CharSet
  | .literal c _ => (f.member? c).map .single
  | .chars s => some s
  | .look _ => none

/-- The character an item stands for when it is an end of a range. -/
def Primitive.member? (f : Flags) : Primitive → Option Char
  | .literal c _ => f.member? c
  | _ => none

/-- The characters between two items. Both ends must be characters, in order. -/
def Primitive.span? (f : Flags) (first last : Primitive) : Option CharSet := do
  let lo ← first.member? f
  let hi ← last.member? f
  guard (lo ≤ hi)
  return .span lo hi

/-- Reads a single character, an escape, or a range. A hyphen makes a range unless a
closing bracket or another hyphen follows. -/
def readItem (f : Flags) (cs : List Char) : Option (CharSet × List Char) := do
  let (first, rest) ← readPrimitive f cs
  match f.skip rest with
  | '-' :: r =>
    if afterHyphen f r = some ']' ∨ afterHyphen f r = some '-' then
      return (← first.memberSet? f, '-' :: r)
    else
      let (last, rest) ← readPrimitive f (f.skip r)
      -- Both ends are read before either is looked at.
      return (← first.span? f last, rest)
  | rest => return (← first.memberSet? f, rest)

/-- Reads a class up to the bracket that closes the outermost of `outer` and `l`. The
number bounds the steps; each takes at least one character. -/
def readLevels (f : Flags) : Nat → (l : Level) → (outer : List Level) → List Char →
    Option (NestedSet × List Char)
  | 0, _, _, _ => none
  | n + 1, l, outer, cs =>
    match f.skip cs with
    | [] => none
    | '[' :: r =>
      match readAsciiClass f r with
      | some (set, rest) => do readLevels f n (l.add ⟨← set, 0⟩) outer rest
      | none =>
        let (inner, rest) := openBracket f r
        readLevels f n inner (l :: outer) rest
    | ']' :: r => do
      let closed ← l.close? f
      match outer with
      | [] => return (closed, r)
      | l' :: outer => readLevels f n (l'.add closed) outer r
    | '&' :: '&' :: r => readLevels f n (l.operate f .inter) outer r
    | '-' :: '-' :: r => readLevels f n (l.operate f .diff) outer r
    | '~' :: '~' :: r => readLevels f n (l.operate f .symmDiff) outer r
    | c :: r => do
      let (set, rest) ← readItem f (c :: r)
      readLevels f n (l.add ⟨set, 0⟩) outer rest

/-- Reads a class after its opening bracket. -/
def readBracket (f : Flags) (cs : List Char) : Option (NestedSet × List Char) :=
  let (l, rest) := openBracket f cs
  readLevels f (rest.length + 1) l [] rest

end ImageSync.Regex
