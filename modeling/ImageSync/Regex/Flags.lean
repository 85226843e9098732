import ImageSync.Text.Blank
import ImageSync.Unicode.CaseFold
import ImageSync.Unicode.Property
import ImageSync.Regex.Node

/-!
# `ImageSync.Regex.Flags`: how the flags change what a pattern says

Seven flags change the meaning of the pattern text that follows them, up to the end of the
group they stand in. This module holds them and all that depends on them alone: what a
literal, a point, a line anchor, a class and a word boundary mean, and which characters of
a verbose pattern do not count.

Outside Unicode mode a pattern may only speak of ASCII classes, for a text is never cut
inside a character; what could is refused.
-/

set_option autoImplicit false

namespace ImageSync.Regex

open ImageSync.Text (CharSet isBlank)

/-- The flags in force at some place of a pattern. -/
structure Flags where
  /-- Letters stand for both cases (`i`). -/
  ignoreCase : Bool := false
  /-- `^` and `$` also stand at the ends of lines (`m`). -/
  multiLine : Bool := false
  /-- A point also stands for a line feed (`s`). -/
  dotAll : Bool := false
  /-- Repetitions are lazy, and greedy with `?` (`U`). -/
  swapGreed : Bool := false
  /-- Classes hold characters of all scripts (`u`). -/
  unicode : Bool := true
  /-- A carriage return ends a line too (`R`). -/
  crlf : Bool := false
  /-- Blanks and comments do not count (`x`). -/
  verbose : Bool := false
  deriving DecidableEq, Repr

namespace Flags

/-- The flags with the flag of a letter switched, if the letter names one. -/
def switch? (f : Flags) (letter : Char) (on : Bool) : Option Flags :=
  match letter with
  | 'i' => some { f with ignoreCase := on }
  | 'm' => some { f with multiLine := on }
  | 's' => some { f with dotAll := on }
  | 'U' => some { f with swapGreed := on }
  | 'u' => some { f with unicode := on }
  | 'R' => some { f with crlf := on }
  | 'x' => some { f with verbose := on }
  | _ => none

/-! ### Text that does not count -/

/-- The text after the blanks and comments at its start. -/
def skipComments (inComment : Bool) : List Char → List Char
  | [] => []
  | c :: r =>
    if inComment then skipComments (c != '\n') r
    else if isBlank c then skipComments false r
    else if c = '#' then skipComments true r
    else c :: r

/-- The text after what does not count at its start. -/
def skip (f : Flags) (cs : List Char) : List Char :=
  if f.verbose then skipComments false cs else cs

/-- The text up to the next closing brace, without what does not count, and the text after
that brace. -/
def untilBrace (f : Flags) (inComment : Bool) : List Char → Option (List Char × List Char)
  | [] => none
  | c :: r =>
    if inComment then untilBrace f (c != '\n') r
    else if c = '\x7d' then some ([], r)
    else if f.verbose && isBlank c then untilBrace f false r
    else if f.verbose && c == '#' then untilBrace f true r
    else (untilBrace f false r).map fun (name, rest) => (c :: name, rest)

/-! ### Classes -/

/-- A set with the letters of the other case, if case does not count. -/
def foldCase (f : Flags) (s : CharSet) : CharSet :=
  if !f.ignoreCase then s
  else if f.unicode then Unicode.withCaseMates s
  else Unicode.withAsciiCaseMates s

/-- A set or what it lacks. Outside Unicode mode nothing can be negated. -/
def negateIf? (f : Flags) (negated : Bool) (s : CharSet) : Option CharSet :=
  if !negated then some s else if f.unicode then some s.compl else none

/-- The characters that make up words. -/
def wordChars (f : Flags) : CharSet :=
  if f.unicode then Unicode.wordChars
  else .unionAll [.span '0' '9', .span 'A' 'Z', .single '_', .span 'a' 'z']

/-- The decimal digits. -/
def digits (f : Flags) : CharSet := if f.unicode then Unicode.decimalDigits else .span '0' '9'

/-- The blank characters. -/
def spaces (f : Flags) : CharSet :=
  if f.unicode then Unicode.BinaryProperty.whiteSpaceChars
  else .union (.range 0x09 0x0D) (.single ' ')

/-- The ASCII class with a name between `[:` and `:]`. -/
def asciiClass? (name : String) : Option CharSet :=
  match name with
  | "alnum" => some (.unionAll [.span '0' '9', .span 'A' 'Z', .span 'a' 'z'])
  | "alpha" => some (.union (.span 'A' 'Z') (.span 'a' 'z'))
  | "ascii" => some (.range 0x00 0x7F)
  | "blank" => some (.union (.single '\t') (.single ' '))
  | "cntrl" => some (.union (.range 0x00 0x1F) (.range 0x7F 0x7F))
  | "digit" => some (.span '0' '9')
  | "graph" => some (.span '!' '~')
  | "lower" => some (.span 'a' 'z')
  | "print" => some (.span ' ' '~')
  | "punct" => some (.unionAll [.span '!' '/', .span ':' '@', .range 0x5B 0x60, .range 0x7B 0x7E])
  | "space" => some (.union (.range 0x09 0x0D) (.single ' '))
  | "upper" => some (.span 'A' 'Z')
  | "word" => some (.unionAll [.span '0' '9', .span 'A' 'Z', .single '_', .span 'a' 'z'])
  | "xdigit" => some (.unionAll [.span '0' '9', .span 'A' 'F', .span 'a' 'f'])
  | _ => none

/-! ### What stands for a single character or place -/

/-- A literal character. Outside Unicode mode an escape of two hexadecimal digits stands for
a byte, and a byte that is no ASCII character is refused. -/
def literal? (f : Flags) (c : Char) (asByte : Bool) : Option Node :=
  if !f.unicode && asByte && 0x7F < c.toNat then none
  else if !f.ignoreCase then some (.one (.single c))
  else if f.unicode then
    match Unicode.caseMates c with
    | [] => some (.one (.single c))
    | mates => some (.one (.unionAll (mates.map fun n => .range n n)))
  else some (.one (Unicode.withAsciiCaseMates (.single c)))

/-- A literal character inside brackets. Outside Unicode mode it has to be ASCII. -/
def member? (f : Flags) (c : Char) : Option Char :=
  if !f.unicode && 0x7F < c.toNat then none else some c

/-- The characters a point stands for. Outside Unicode mode that could be a part of a
character. -/
def dot? (f : Flags) : Option CharSet :=
  if !f.unicode then none
  else if f.dotAll then some .full
  else if f.crlf then some (CharSet.union (.single '\n') (.single '\r')).compl
  else some (CharSet.single '\n').compl

/-- The place `^` stands for. -/
def caret (f : Flags) : Look :=
  if !f.multiLine then .textStart else if f.crlf then .crlfLineStart else .lineStart

/-- The place `$` stands for. -/
def dollar (f : Flags) : Look :=
  if !f.multiLine then .textEnd else if f.crlf then .crlfLineEnd else .lineEnd

end Flags

end ImageSync.Regex
