import ImageSync.Text.CharSet

/-!
# `ImageSync.Regex.Node`: what a regular expression says

A `Node` is a regular expression whose flags are resolved: it speaks of sets of characters,
of what stands on the two sides of a place (`Look`), and of sequence, choice, groups and
repetition. `Node.repeated` is repetition for nodes that may take no character at all, of
which one copy is as good as many.
-/

set_option autoImplicit false

namespace ImageSync.Regex

open ImageSync.Text (CharSet)

/-- A test of the place between two characters. The tests for words carry the set of the
characters that make up words. -/
inductive Look where
  | textStart
  | textEnd
  | lineStart
  | lineEnd
  /-- Lines that end with a line feed, a carriage return, or both in that order. -/
  | crlfLineStart
  | crlfLineEnd
  | wordBoundary (word : CharSet)
  | notWordBoundary (word : CharSet)
  | wordStart (word : CharSet)
  | wordEnd (word : CharSet)
  | wordStartHalf (word : CharSet)
  | wordEndHalf (word : CharSet)

/-- Whether a test holds between the character before and the character after, where a
missing one is an end of the text. -/
def Look.holds (before after : Option Char) : Look → Bool
  | .textStart => before.isNone
  | .textEnd => after.isNone
  | .lineStart => before.isNone || before == some '\n'
  | .lineEnd => after.isNone || after == some '\n'
  | .crlfLineStart =>
    before.isNone || before == some '\n' || (before == some '\r' && after != some '\n')
  | .crlfLineEnd =>
    after.isNone || after == some '\r' || (after == some '\n' && before != some '\r')
  | .wordBoundary w => before.any w.contains != after.any w.contains
  | .notWordBoundary w => before.any w.contains == after.any w.contains
  | .wordStart w => !before.any w.contains && after.any w.contains
  | .wordEnd w => before.any w.contains && !after.any w.contains
  | .wordStartHalf w => !before.any w.contains
  | .wordEndHalf w => !after.any w.contains

/-- A regular expression with resolved flags. -/
inductive Node where
  /-- Takes nothing. -/
  | empty
  /-- Takes one character of a set. -/
  | one (set : CharSet)
  /-- Takes nothing, where a test holds. -/
  | look (l : Look)
  | seq (a b : Node)
  /-- Takes what `a` or `b` takes, preferring `a`. -/
  | alt (a b : Node)
  /-- Takes what `a` takes and remembers it under a number. -/
  | group (index : Nat) (a : Node)
  /-- Takes at least `min` and at most `max` times what `a` takes, preferring many times if
  `greedy` and few otherwise. -/
  | rep (min : Nat) (max : Option Nat) (greedy : Bool) (a : Node)

namespace Node

/-- The sequence of some nodes. -/
def seqAll : List Node → Node
  | [] => .empty
  | [a] => a
  | a :: r => .seq a (seqAll r)

/-- The choice between some nodes, the earlier ones preferred. -/
def altAll : List Node → Node
  | [] => .empty
  | [a] => a
  | a :: r => .alt a (altAll r)

/-- Whether a node never takes a character. -/
def takesNothing : Node → Bool
  | .empty => true
  | .one _ => false
  | .look _ => true
  | .seq a b => a.takesNothing && b.takesNothing
  | .alt a b => a.takesNothing && b.takesNothing
  | .group _ a => a.takesNothing
  | .rep _ max _ a => max == some 0 || a.takesNothing

/-- Whether a node always takes a character. -/
def takesSomething : Node → Bool
  | .empty => false
  | .one _ => true
  | .look _ => false
  | .seq a b => a.takesSomething || b.takesSomething
  | .alt a b => a.takesSomething && b.takesSomething
  | .group _ a => a.takesSomething
  | .rep min _ _ a => min != 0 && a.takesSomething

/-- Repetition, where a node that never takes a character is repeated once at most. -/
def repeated (min : Nat) (max : Option Nat) (greedy : Bool) (a : Node) : Node :=
  if a.takesNothing then .rep (Nat.min min 1) (some ((max.map (Nat.min 1)).getD 1)) greedy a
  else .rep min max greedy a

end Node

end ImageSync.Regex
