import ImageSync.Regex.Bracket

/-!
# `ImageSync.Regex.Pattern`: reading the text of a regular expression

A pattern is read piece by piece. A `Piece` is a single character, class or test, an opened
or closed group, a change of flags, a bar, or a repetition sign; `readPiece` cuts the next
one off, and `Draft.add` puts it into the draft of the expression. A `Draft` holds the
items of the innermost open group and one `Frame` per open group around it, so that adding
a piece never looks at more than the innermost group and, when that closes, the next one.

`readPattern` adds up all pieces. It refuses a text that is no pattern, and a pattern that
is nested deeper than `maxDepth`.
-/

set_option autoImplicit false

namespace ImageSync.Regex

open ImageSync.Text (isBlank)

/-- How deep a pattern may be nested. -/
def maxDepth : Nat := 250

/-- What may be remembered of a group. -/
inductive GroupKind where
  | silent
  | numbered
  | named (name : List Char)
  deriving DecidableEq, Repr

/-- One piece of a pattern. -/
inductive Piece where
  /-- A character, class or test, and how deep its written form is nested. -/
  | atom (node : Node) (depth : Nat)
  /-- The start of a group and the flags in force inside it. -/
  | openGroup (kind : GroupKind) (flags : Flags)
  | closeGroup
  /-- A change of the flags for the rest of the group. -/
  | setFlags (flags : Flags)
  | bar
  /-- A repetition of the item before it. -/
  | repetition (min : Nat) (max : Option Nat) (lazily : Bool)

/-! ### Cutting off pieces -/

/-- Reads the flags after `(?`, and the colon or closing parenthesis after them. No flag may
stand twice, and a hyphen, after which flags are switched off, must have a flag after it. -/
def readFlags (f : Flags) (seen : List Char) (on bare : Bool) :
    List Char → Option (Flags × List Char × Char × List Char)
  | [] => none
  | c :: r =>
    if c = ':' ∨ c = ')' then if bare then none else some (f, seen, c, r)
    else if c = '-' then if on then readFlags f seen false true r else none
    else if seen.contains c then none
    else match f.switch? c on with
      | none => none
      | some f => readFlags f (c :: seen) on false r

/-- Whether a character may stand in the name of a group. -/
def isNameChar (first : Bool) (c : Char) : Bool :=
  c == '_' || if first then Unicode.isAlphabetic c
    else c == '.' || c == '[' || c == ']' || Unicode.isAlphanumeric c

/-- Reads the name of a group and the bracket after it. -/
def readName (cs : List Char) : Option (List Char × List Char) := do
  let (name, rest) ← Text.cutFirst? '>' cs
  match name with
  | [] => none
  | c :: r =>
    guard (isNameChar true c && r.all (isNameChar false))
    return (name, rest)

/-- Reads what follows an opening parenthesis. Tests of what stands before or after a place
are no part of the language. -/
def readGroup (f : Flags) (cs : List Char) : Option (Piece × List Char) :=
  match f.skip cs with
  | '?' :: 'P' :: '<' :: r => do
    let (name, rest) ← readName r
    return (.openGroup (.named name) f, rest)
  | '?' :: '<' :: r => do
    let (name, rest) ← readName r
    return (.openGroup (.named name) f, rest)
  | '?' :: r => do
    let (flags, seen, terminator, rest) ← readFlags f [] true false r
    if terminator = ':' then return (.openGroup .silent flags, rest)
    -- An empty change of flags is refused, an empty group is not.
    else if seen.isEmpty then none
    else return (.setFlags flags, rest)
  | r => some (.openGroup .numbered f, r)

/-- The digits at the start of a text, without what does not count after each of them. The
number bounds how many there are. -/
def readDigits (f : Flags) : Nat → List Char → List Char × List Char
  | n + 1, c :: r =>
    if c.isDigit then
      let (digits, rest) := readDigits f n (f.skip r)
      (c :: digits, rest)
    else ([], c :: r)
  | _, cs => ([], cs)

/-- A decimal number with blanks around it, below `2 ^ 32`; `none` inside if there is no
digit. -/
def readDecimal (f : Flags) (cs : List Char) : Option (Option Nat × List Char) :=
  let cs := cs.dropWhile isBlank
  let (digits, rest) := readDigits f cs.length cs
  let rest := rest.dropWhile isBlank
  if digits.isEmpty then some (none, rest)
  else
    let n := digits.foldl (fun n c => 10 * n + (c.toNat - '0'.toNat)) 0
    if n < UInt32.size then some (some n, rest) else none

/-- Reads the upper bound of a repetition and the brace after it. -/
def readUpper (f : Flags) (min : Nat) (cs : List Char) :
    Option (Nat × Option Nat × List Char) := do
  let (max?, rest) ← readDecimal f cs
  let max ← max?
  guard (min ≤ max)
  match rest with
  | '\x7d' :: r => return (min, some max, r)
  | _ => none

/-- Reads what follows the comma between the bounds of a repetition. -/
def boundsRest (f : Flags) (min? : Option Nat) (cs : List Char) :
    Option (Nat × Option Nat × List Char) := do
  match f.skip cs with
  | '\x7d' :: r => return (← min?, none, r)
  -- A lower bound alone may be left open above, an upper bound alone may not.
  | r => readUpper f (← min?) r

/-- Reads the bounds of a repetition after an opening brace. -/
def readBounds (f : Flags) (cs : List Char) : Option (Nat × Option Nat × List Char) := do
  let (min?, rest) ← readDecimal f (f.skip cs)
  match rest with
  | '\x7d' :: r => return (← min?, some (← min?), r)
  | ',' :: r => boundsRest f min? r
  | _ => none

/-- A repetition, which is lazy if a question mark follows. -/
def repetitionPiece (min : Nat) (max : Option Nat) : List Char → Piece × List Char
  | '?' :: r => (.repetition min max true, r)
  | r => (.repetition min max false, r)

/-- What a single character or escape stands for outside brackets. -/
def Primitive.node? (f : Flags) : Primitive → Option Node
  | .literal c asByte => f.literal? c asByte
  | .chars s => some (.one s)
  | .look l => some (.look l)

/-- Cuts off the next piece of a text that starts with `c`. -/
def readPiece (f : Flags) (c : Char) (r : List Char) : Option (Piece × List Char) :=
  match c with
  | '(' => readGroup f r
  | ')' => some (.closeGroup, r)
  | '|' => some (.bar, r)
  | '[' => (readBracket f r).map fun (s, rest) => (.atom (.one s.set) s.depth, rest)
  | '?' => some (repetitionPiece 0 (some 1) r)
  | '*' => some (repetitionPiece 0 none r)
  | '+' => some (repetitionPiece 1 none r)
  | '\x7b' => (readBounds f r).map fun (min, max, rest) => repetitionPiece min max (f.skip rest)
  | '.' => (f.dot?).map fun s => (.atom (.one s) 0, r)
  | '^' => some (.atom (.look f.caret) 0, r)
  | '$' => some (.atom (.look f.dollar) 0, r)
  | '\\' => do
    let (p, rest) ← readEscape f r
    return (.atom (← p.node? f) 0, rest)
  | _ => (f.literal? c false).map fun n => (.atom n 0, r)

/-! ### Putting pieces together -/

/-- An item of a sequence: its node, how deep its written form is nested, and whether a
repetition sign may follow it. -/
structure Item where
  node : Node
  depth : Nat
  repeatable : Bool := true

/-- The sequence of some items, the last one first. -/
def Item.sequence : List Item → Item
  | [] => ⟨.empty, 0, true⟩
  | [item] => item
  | items =>
    ⟨.seqAll (items.reverse.map Item.node), (items.map Item.depth).foldl max 0 + 1, true⟩

/-- The choice between some items, the last one first. -/
def Item.choice : List Item → Item
  | [] => ⟨.empty, 0, true⟩
  | [item] => item
  | items =>
    ⟨.altAll (items.reverse.map Item.node), (items.map Item.depth).foldl max 0 + 1, true⟩

/-- An open group: the number it is remembered under, the flags to return to, and the items
and finished alternatives before it, the last one first. -/
structure Frame where
  index : Option Nat
  flags : Flags
  items : List Item
  alternatives : List Item

/-- What has been read of a pattern: the flags in force, the items and finished alternatives
of the innermost open group, the last one first, the open groups, how many groups are
numbered, and the names of groups. -/
structure Draft where
  flags : Flags := {}
  items : List Item := []
  alternatives : List Item := []
  frames : List Frame := []
  groups : Nat := 0
  names : List (List Char × Nat) := []

namespace Draft

/-- All that stands in the innermost open group. -/
def body (d : Draft) : Item := Item.choice (Item.sequence d.items :: d.alternatives)

/-- The draft with another group opened. -/
def openGroup (d : Draft) (index : Option Nat) (flags : Flags) : Draft :=
  { d with
    flags
    items := []
    alternatives := []
    frames := ⟨index, d.flags, d.items, d.alternatives⟩ :: d.frames }

/-- The draft with another piece, where the piece may stand. -/
def add (d : Draft) : Piece → Option Draft
  | .atom node depth => some { d with items := ⟨node, depth, true⟩ :: d.items }
  | .openGroup .silent flags => some (d.openGroup none flags)
  | .openGroup .numbered flags =>
    let index := d.groups + 1
    some { d.openGroup (some index) flags with groups := index }
  | .openGroup (.named name) flags =>
    let index := d.groups + 1
    if d.names.any (·.1 == name) then none
    else some { d.openGroup (some index) flags with
      groups := index, names := (name, index) :: d.names }
  | .closeGroup =>
    match d.frames with
    | [] => none
    | fr :: frames =>
      -- The flags that were changed inside the group end with it.
      let node := match fr.index with
        | none => d.body.node
        | some i => .group i d.body.node
      some { d with
        flags := fr.flags
        items := ⟨node, d.body.depth + 1, true⟩ :: fr.items
        alternatives := fr.alternatives
        frames }
  | .setFlags flags => some { d with flags, items := ⟨.empty, 0, false⟩ :: d.items }
  | .bar => some { d with items := [], alternatives := Item.sequence d.items :: d.alternatives }
  | .repetition min max lazily =>
    match d.items with
    | [] => none
    | item :: items =>
      if !item.repeatable then none
      else
        -- The flag turns the two kinds of signs around.
        let greedy := lazily == d.flags.swapGreed
        some { d with
          items := ⟨.repeated min max greedy item.node, item.depth + 1, true⟩ :: items }

/-- The draft with all pieces of a text. The number bounds the steps; each takes at least
one character. -/
def addAll : Nat → Draft → List Char → Option Draft
  | 0, _, _ => none
  | n + 1, d, cs =>
    match d.flags.skip cs with
    | [] => some d
    | c :: r => do
      let (piece, rest) ← readPiece d.flags c r
      addAll n (← d.add piece) rest

end Draft

/-- A regular expression as read: what it says, and the numbers of its named groups. -/
structure Pattern where
  root : Node
  names : List (List Char × Nat)

/-- Reads a pattern. -/
def readPattern (cs : List Char) : Option Pattern := do
  let d ← Draft.addAll (cs.length + 1) {} cs
  guard (d.frames.isEmpty && d.body.depth ≤ maxDepth)
  return ⟨d.body.node, d.names⟩

end ImageSync.Regex
