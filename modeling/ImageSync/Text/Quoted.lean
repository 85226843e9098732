import ImageSync.Unicode.GeneralCategory
import ImageSync.Unicode.BinaryProperty

/-!
# `ImageSync.Text.Quoted`: texts inside messages

A message that quotes a text shows what cannot be seen: quotes, backslashes and line ends
are written with a backslash, and so are characters that print nothing or attach to the
character before them, by their code point.
-/

set_option autoImplicit false

namespace ImageSync.Text

/-- Whether a character prints something by itself. -/
def isVisible (c : Char) : Bool :=
  c == ' ' ||
    !([.control, .format, .surrogate, .privateUse, .unassigned, .lineSeparator,
        .paragraphSeparator, .spaceSeparator].contains (Unicode.GeneralCategory.ofChar c) ||
      Unicode.BinaryProperty.graphemeExtendChars.contains c)

/-- What stands for a character in a quoted text. -/
def quotedChar (c : Char) : List Char :=
  if c = '"' then ['\\', '"']
  else if c = '\\' then ['\\', '\\']
  else if c = '\n' then ['\\', 'n']
  else if c = '\r' then ['\\', 'r']
  else if c = '\t' then ['\\', 't']
  else if c = '\x00' then ['\\', '0']
  else if c.toNat < 0x7F ∧ 0x20 ≤ c.toNat then [c]
  else if isVisible c then [c]
  else '\\' :: 'u' :: '\x7b' :: Nat.toDigits 16 c.toNat ++ ['\x7d']

/-- A text between quotes. -/
def quoted (s : String) : String :=
  String.ofList ('"' :: s.toList.flatMap quotedChar ++ ['"'])

end ImageSync.Text
