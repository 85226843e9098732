import ImageSync.Unicode.CombiningClass
import ImageSync.Unicode.Composition

/-!
# `ImageSync.Unicode.Normalization`: one form for equal texts

The same text can be spelled with composites or with their parts, and with its marks in
several orders. `compose` gives the form with composites (form C): every character is
resolved into its parts, the marks are put in order, and what can be joined is joined.

Main statement: putting marks in order loses and adds no character
(`reorder_perm`).
-/

set_option autoImplicit false

namespace ImageSync.Unicode

namespace Hangul

/-- The first syllable. -/
def syllableBase : Nat := 0xAC00
/-- The first leading consonant. -/
def leadBase : Nat := 0x1100
/-- The first vowel. -/
def vowelBase : Nat := 0x1161
/-- One before the first trailing consonant. -/
def trailBase : Nat := 0x11A7
def leadCount : Nat := 19
def vowelCount : Nat := 21
/-- The number of trailing consonants, and none. -/
def trailCount : Nat := 28
def syllableCount : Nat := leadCount * vowelCount * trailCount

/-- The parts of a syllable. -/
def parts? (n : Nat) : Option (List Nat) :=
  if syllableBase ≤ n ∧ n < syllableBase + syllableCount then
    let i := n - syllableBase
    let lead := leadBase + i / (vowelCount * trailCount)
    let vowel := vowelBase + i / trailCount % vowelCount
    let trail := if i % trailCount = 0 then [] else [trailBase + i % trailCount]
    some (lead :: vowel :: trail)
  else none

/-- The syllable that two parts make up. -/
def join? (a b : Nat) : Option Nat :=
  if leadBase ≤ a ∧ a < leadBase + leadCount ∧ vowelBase ≤ b ∧ b < vowelBase + vowelCount then
    some (syllableBase + ((a - leadBase) * vowelCount + (b - vowelBase)) * trailCount)
  else if syllableBase ≤ a ∧ a < syllableBase + syllableCount ∧
      (a - syllableBase) % trailCount = 0 ∧ trailBase < b ∧ b < trailBase + trailCount then
    some (a + (b - trailBase))
  else none

end Hangul

/-- The characters that a character is resolved into at once. -/
def partsOf? (n : Nat) : Option (List Nat) :=
  (Hangul.parts? n).or <|
    ((composites.find? fun c => c.whole == n).map fun c => [c.first, c.second]).or
      (resolutions.lookup n)

/-- The characters that a character is resolved into, in so many steps at most. -/
def resolveUpTo : Nat → Nat → List Nat
  | 0, n => [n]
  | steps + 1, n =>
    match partsOf? n with
    | some parts => parts.flatMap (resolveUpTo steps)
    | none => [n]

/-- No character takes more steps to be resolved. -/
def maxSteps : Nat := 4

/-- The characters that a character is resolved into. -/
def resolve (c : Char) : List Char := (resolveUpTo maxSteps c.toNat).map Char.ofNat

/-- Puts a character in front of a text, behind the marks that come before it. -/
def placeMark (c : Char) : List Char → List Char
  | [] => [c]
  | d :: r =>
    if combiningClass d ≠ 0 ∧ combiningClass d < combiningClass c then d :: placeMark c r
    else c :: d :: r

/-- The text with the marks of every character in order. -/
def reorder (cs : List Char) : List Char := cs.foldr placeMark []

/-- The character that two characters make up. -/
def joinPair? (a b : Char) : Option Char :=
  ((Hangul.join? a.toNat b.toNat).or
    ((composites.find? fun c => c.first == a.toNat && c.second == b.toNat).map
      Composite.whole)).map Char.ofNat

/-- Joins a text to the character in front of it. `marks` stand between them, the last one
first, and none of them could be joined. -/
def joinAll (front : Char) (marks : List Char) : List Char → List Char
  | [] => front :: marks.reverse
  | c :: r =>
    -- A mark in between of the same class or above hides the front.
    let free := match marks with
      | [] => true
      | m :: _ => combiningClass m < combiningClass c
    match if free then joinPair? front c else none with
    | some joined => joinAll joined marks r
    | none =>
      if combiningClass c = 0 then front :: marks.reverse ++ joinAll c [] r
      else joinAll front (c :: marks) r

/-- The form of a text with composites. -/
def compose (cs : List Char) : List Char :=
  match reorder (cs.flatMap resolve) with
  | [] => []
  | c :: r => joinAll c [] r

/-- Placing a mark loses and adds no character. -/
theorem placeMark_perm (c : Char) (cs : List Char) : (placeMark c cs).Perm (c :: cs) := by
  induction cs with
  | nil => exact .refl _
  | cons d r ih =>
    unfold placeMark
    split
    · exact (ih.cons d).trans (.swap c d r)
    · exact .refl _

/-- Putting marks in order loses and adds no character. -/
theorem reorder_perm (cs : List Char) : (reorder cs).Perm cs := by
  induction cs with
  | nil => exact .refl _
  | cons c r ih => exact (placeMark_perm c _).trans (ih.cons c)

end ImageSync.Unicode
