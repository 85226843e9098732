import ImageSync.Unicode.GeneralCategory
import ImageSync.Unicode.Script
import ImageSync.Unicode.Age
import ImageSync.Unicode.BinaryProperty
import ImageSync.Unicode.Segmentation

/-!
# `ImageSync.Unicode.Property`: sets of characters by the names of properties

Names of properties and of their values are compared loosely: case, blanks, low lines and
hyphens do not count, and neither does `is` in front. `propertyChars?` finds what a lone
name stands for, which is a binary property, a general category or a script;
`propertyValueChars?` finds what the name of a property and the name of a value stand for.
-/

set_option autoImplicit false

namespace ImageSync.Unicode

open ImageSync.Text (CharSet)

/-- Whether a text starts with the letters `is` in any case. -/
def startsWithIs : List Char → Bool
  | a :: b :: _ => a.toLower == 'i' && b.toLower == 's'
  | _ => false

/-- What counts in a name: its ASCII characters in lower case, without blanks, low lines
and hyphens, and without `is` in front. The name `isc` alone keeps its front, for `c` is
another name. -/
def looseName (name : List Char) : List Char :=
  let counts (c : Char) : Bool := c.toNat < 0x80 && !(c == ' ' || c == '_' || c == '-')
  let loose := ((if startsWithIs name then name.drop 2 else name).filter counts).map Char.toLower
  if startsWithIs name && loose == ['c'] then ['i', 's', 'c'] else loose

/-- The entry of a table that has a name which counts as `loose`. -/
def entryNamed? {α : Type} (loose : List Char) (table : List (List String × α)) : Option α :=
  (table.find? fun e => e.1.any fun name => looseName name.toList == loose).map Prod.snd

/-- A list of lists of names as a table of places. -/
def placeTable (names : List (List String)) : List (List String × Nat) :=
  names.zip (List.range names.length)

/-- The characters of the general category that a loose name stands for. -/
def generalCategoryChars? (loose : List Char) : Option CharSet :=
  if loose = "any".toList then some .full
  else if loose = "assigned".toList then some (GeneralCategory.members [.unassigned]).compl
  else if loose = "ascii".toList then some (.range 0 0x7F)
  else (entryNamed? loose GeneralCategory.names).map GeneralCategory.members

/-- The script that a loose name stands for. -/
def scriptNamed? (loose : List Char) : Option Script :=
  (entryNamed? loose (placeTable (Script.names.map fun n => n.splitOn " "))).map Script.mk

/-- The characters with the value of a break property that a loose name stands for. -/
def breakChars? (b : Segmentation.BreakProperty) (loose : List Char) : Option CharSet :=
  (entryNamed? loose (placeTable b.values)).map b.members

/-- The characters that a lone name stands for. Three short names that also abbreviate
properties of another kind are left to the general categories and scripts. -/
def propertyChars? (name : List Char) : Option CharSet :=
  let loose := looseName name
  let binary :=
    if loose = "cf".toList ∨ loose = "sc".toList ∨ loose = "lc".toList then none
    else (entryNamed? loose BinaryProperty.table).map BinaryProperty.members
  binary.or ((generalCategoryChars? loose).or ((scriptNamed? loose).map Script.members))

/-- The characters for which a property has a value, both given by name. -/
def propertyValueChars? (name value : List Char) : Option CharSet :=
  let property := looseName name
  let loose := looseName value
  if property = "gc".toList ∨ property = "generalcategory".toList then
    generalCategoryChars? loose
  else if property = "sc".toList ∨ property = "script".toList then
    (scriptNamed? loose).map Script.members
  else if property = "scx".toList ∨ property = "scriptextensions".toList then
    (scriptNamed? loose).map Script.extensionMembers
  else if property = "age".toList then
    (entryNamed? loose (placeTable (Age.versions.map Age.versionNames))).map Age.members
  else if property = "gcb".toList ∨ property = "graphemeclusterbreak".toList then
    breakChars? Segmentation.graphemeClusterBreak loose
  else if property = "wb".toList ∨ property = "wordbreak".toList then
    breakChars? Segmentation.wordBreak loose
  else if property = "sb".toList ∨ property = "sentencebreak".toList then
    breakChars? Segmentation.sentenceBreak loose
  else none

/-- The decimal digits of all scripts. -/
def decimalDigits : CharSet := GeneralCategory.members [.decimalNumber]

/-- The characters that make up words: letters, marks, decimal digits, connecting
punctuation and the characters that control joining. -/
def wordChars : CharSet :=
  .unionAll [BinaryProperty.alphabeticChars, BinaryProperty.joinControlChars,
    GeneralCategory.members
      [.nonspacingMark, .spacingMark, .enclosingMark, .decimalNumber, .connectorPunctuation]]

/-- Letters in the wide sense of the property Alphabetic. -/
def isAlphabetic (c : Char) : Bool := BinaryProperty.alphabeticChars.contains c

/-- Letters in the wide sense, and numbers of every kind. -/
def isAlphanumeric (c : Char) : Bool :=
  isAlphabetic c ||
    [.decimalNumber, .letterNumber, .otherNumber].contains (GeneralCategory.ofChar c)

end ImageSync.Unicode
