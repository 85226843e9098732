import ImageSync.Text.Base64
import ImageSync.Text.Blank
import ImageSync.Text.Cut

/-!
# `ImageSync.Tls.Pem`: labelled blocks of bytes in texts

A block of bytes stands in a text between a line `-----BEGIN X-----` and a line
`-----END X-----` with the same label, written in base64 over any number of lines.
`findBlock?` looks for the first block with one of the wanted labels. Text between blocks
does not matter, but a block that is broken ends the search.
-/

set_option autoImplicit false

namespace ImageSync.Tls

open Text

/-- A block of which some lines have been read. -/
structure OpenBlock where
  label : List Char
  /-- The base64 digits so far. -/
  digits : List Char

/-- The lines of a text without the blanks at their ends. -/
def trimmedLines (cs : List Char) : List (List Char) := (splitAtChar '\n' cs).map trimEnd

/-- The label of a line that begins a block. -/
def beginLabel? (line : List Char) : Option (List Char) := do
  stripSuffix? "-----".toList (← stripPrefix? "-----BEGIN ".toList line)

/-- The bytes of the first wanted block in some lines. -/
def findBlock? (wanted : List Char → Bool) :
    Option OpenBlock → List (List Char) → Option (List UInt8)
  | _, [] => none
  | none, line :: rest =>
    findBlock? wanted ((beginLabel? line).map fun label => ⟨label, []⟩) rest
  | some b, line :: rest =>
    match stripPrefix? "-----END ".toList line with
    | none => findBlock? wanted (some ⟨b.label, b.digits ++ line.filter (!isBlank ·)⟩) rest
    | some closing =>
      -- A block that is closed under another name is broken, whatever it holds.
      if closing = b.label ++ "-----".toList then
        match decodeBase64? b.digits with
        | some bytes => if wanted b.label then some bytes else findBlock? wanted none rest
        | none => none
      else none

end ImageSync.Tls
