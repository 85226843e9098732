import ImageSync.Text.Cut
import ImageSync.Unicode.Direction
import ImageSync.Unicode.GeneralCategory
import ImageSync.Unicode.Joining
import ImageSync.Unicode.Normalization
import ImageSync.Url.Domain.Mapping
import ImageSync.Url.Domain.Punycode

/-!
# `ImageSync.Url.Domain`: domain names

A domain name is a list of labels between dots. Its ASCII form has small letters only, and
labels with other characters are written with the mark `xn--` and their `Punycode`.
`asciiDomain?` brings a name into this form and refuses names that have none: those with
characters that are not allowed, labels that claim to be in ASCII form and are not, joiners
out of place, and labels that mix directions.

Main statement: a plain ASCII name only loses its capital letters (`asciiDomain?_of_plain`).
-/

set_option autoImplicit false

namespace ImageSync.Url

open Text

/-- Whether a domain may not hold an ASCII character. -/
def isDenied (c : Char) : Bool :=
  c.toNat ≤ 0x20 || c.toNat == 0x7F || "%#/:<>?@[\\]^|".toList.contains c

namespace Domain

open Unicode

/-- The mark of labels in ASCII form. -/
def mark : List Char := "xn--".toList

/-- Whether a text is in ASCII. -/
def isAscii (cs : List Char) : Bool := cs.all (·.toNat < 0x80)

/-- Whether a character is a mark on another one. -/
def isMark (c : Char) : Bool :=
  [GeneralCategory.nonspacingMark, .spacingMark, .enclosingMark].contains
    (GeneralCategory.ofChar c)

/-- Whether a joiner may stand after some characters, the nearest one first, and before
others. -/
def isJoinerInPlace (before : List Char) (c : Char) (after : List Char) : Bool :=
  before.head?.any (combiningClass · == viramaClass) ||
    (c == '\u200C' &&
      (before.dropWhile isTransparent).head?.any joinsNext &&
      (after.dropWhile isTransparent).head?.any joinsPrevious)

/-- Whether every joiner of a label is in place; `before` is what stands in front, the
nearest character first. -/
def areJoinersInPlace (before : List Char) : List Char → Bool
  | [] => true
  | c :: r =>
    ((c != '\u200C' && c != '\u200D') || isJoinerInPlace before c r) &&
      areJoinersInPlace (c :: before) r

/-- Whether a label without its mark may stand in a name. -/
def isLabel (cs : List Char) : Bool := !cs.head?.any isMark && areJoinersInPlace [] cs

/-- Whether a character makes a name run in both directions. -/
def isFromRight (c : Char) : Bool :=
  [Direction.rightToLeft, .arabicLetter, .arabicNumber].contains (direction c)

/-- Whether a label of a name that runs in both directions keeps to one of them. -/
def keepsDirection (cs : List Char) : Bool :=
  let classes := cs.map direction
  let body := (classes.reverse.dropWhile (· == .mark)).head?
  let neutral : List Direction := [.europeanSeparator, .commonSeparator, .europeanTerminator,
    .otherNeutral, .boundaryNeutral, .mark]
  match classes.head? with
  | none => true
  | some .leftToRight =>
    classes.all (fun d => d == .leftToRight || d == .europeanNumber || neutral.contains d) &&
      body.any fun d => d == .leftToRight || d == .europeanNumber
  | some first =>
    (first == .rightToLeft || first == .arabicLetter) &&
      classes.all (fun d => [Direction.rightToLeft, .arabicLetter, .arabicNumber,
        .europeanNumber].contains d || neutral.contains d) &&
      body.any (fun d => [Direction.rightToLeft, .arabicLetter, .arabicNumber,
        .europeanNumber].contains d) &&
      !(classes.contains .europeanNumber && classes.contains .arabicNumber)

/-- The label that a label in ASCII form stands for; other labels stand for themselves. -/
def decodeLabel? (cs : List Char) : Option (List Char) :=
  match stripPrefix? mark cs with
  | none => some cs
  | some form => do
    let label ← Punycode.decode? form
    -- A form that its label would not be written in is refused.
    guard (!isAscii label)
    guard (label.all fun c => validChars.contains c)
    guard (compose label == label)
    guard (stripPrefix? mark label).isNone
    return label

/-- A label in ASCII form. -/
def encodeLabel (cs : List Char) : List Char :=
  if isAscii cs then cs else mark ++ Punycode.encode cs

/-- The ASCII form of a name that needs more than small letters. -/
def encode? (cs : List Char) : Option (List Char) := do
  let name := compose (← cs.mapM mapped?).flatten
  -- Characters may stand for denied ones, so the denial comes after the mapping.
  guard !name.any isDenied
  let labels ← (splitAtChar '.' name).mapM decodeLabel?
  guard (labels.all fun label => isAscii label || isLabel label)
  -- One label from right to left puts all labels of the name to the test.
  guard (!(labels.any (·.any isFromRight)) || labels.all keepsDirection)
  return joinWith '.' (labels.map encodeLabel)

/-- Whether no label has the mark of ASCII forms, and no character is outside ASCII. -/
def isPlain (cs : List Char) : Bool :=
  isAscii cs && (splitAtChar '.' cs).all fun label => (stripPrefix? mark label).isNone

end Domain

/-- The ASCII form of a domain name. -/
def asciiDomain? (cs : List Char) : Option (List Char) :=
  let lower := cs.map Char.toLower
  if Domain.isPlain lower then
    if lower.any isDenied then none else some lower
  else Domain.encode? cs

/-- A plain ASCII name only loses its capital letters. -/
theorem asciiDomain?_of_plain {cs : List Char}
    (hplain : Domain.isPlain (cs.map Char.toLower) = true)
    (hallowed : (cs.map Char.toLower).any isDenied = false) :
    asciiDomain? cs = some (cs.map Char.toLower) := by
  simp [asciiDomain?, hplain, hallowed]

end ImageSync.Url
