import ImageSync.Http.Message
import ImageSync.Text.Blank
import ImageSync.Text.Cut

/-!
# `ImageSync.Http.Charset`: the text of an answer

The header `Content-Type` may name the character encoding of a body: UTF-8 (also where
nothing is named), UTF-16 in either byte order, or the Western encoding of single bytes. A
byte order mark at the start of the body overrules the header and is dropped. What cannot be
read is replaced by U+FFFD.
-/

set_option autoImplicit false

namespace ImageSync.Http

open Text

/-- A character encoding. -/
inductive Charset where
  | utf8
  | utf16 (bigEndian : Bool)
  /-- Single bytes for Western European texts. -/
  | western
  deriving DecidableEq, Repr

namespace Charset

/-- The characters of the Western encoding from byte 0x80 to byte 0x9F. -/
def westernHigh : List Nat :=
  [0x20AC, 0x81, 0x201A, 0x0192, 0x201E, 0x2026, 0x2020, 0x2021, 0x02C6, 0x2030, 0x0160,
    0x2039, 0x0152, 0x8D, 0x017D, 0x8F, 0x90, 0x2018, 0x2019, 0x201C, 0x201D, 0x2022, 0x2013,
    0x2014, 0x02DC, 0x2122, 0x0161, 0x203A, 0x0153, 0x9D, 0x017E, 0x0178]

/-- The character of a byte in the Western encoding. -/
def westernChar (b : UInt8) : Char :=
  Char.ofNat (if 0x80 ≤ b.toNat ∧ b.toNat ≤ 0x9F then westernHigh.getD (b.toNat - 0x80) 0xFFFD
    else b.toNat)

/-- The units of sixteen bits that bytes make up, and whether a byte is left over. -/
def units (bigEndian : Bool) : List UInt8 → List Nat × Bool
  | [] => ([], false)
  | [_] => ([], true)
  | a :: b :: r =>
    let (rest, odd) := units bigEndian r
    ((if bigEndian then a.toNat * 256 + b.toNat else b.toNat * 256 + a.toNat) :: rest, odd)

/-- The characters of units; a half of a pair alone is replaced. -/
def charsOfUnits : List Nat → List Char
  | [] => []
  | [u] => [if 0xD800 ≤ u ∧ u ≤ 0xDFFF then '\uFFFD' else Char.ofNat u]
  | u :: v :: r =>
    if 0xD800 ≤ u ∧ u ≤ 0xDBFF ∧ 0xDC00 ≤ v ∧ v ≤ 0xDFFF then
      Char.ofNat (0x10000 + (u - 0xD800) * 0x400 + (v - 0xDC00)) :: charsOfUnits r
    else
      (if 0xD800 ≤ u ∧ u ≤ 0xDFFF then '\uFFFD' else Char.ofNat u) :: charsOfUnits (v :: r)

/-- The text of bytes in an encoding. -/
def decode (bytes : List UInt8) : Charset → List Char
  | utf8 => decodeUtf8Lossy bytes
  | utf16 bigEndian =>
    let (us, odd) := units bigEndian bytes
    charsOfUnits us ++ if odd then ['\uFFFD'] else []
  | western => bytes.map westernChar

/-- The names of the Western encoding. -/
def westernNames : List String :=
  ["ansi_x3.4-1968", "ascii", "cp1252", "cp819", "csisolatin1", "ibm819", "iso-8859-1",
    "iso-ir-100", "iso8859-1", "iso88591", "iso_8859-1", "iso_8859-1:1987", "l1", "latin1",
    "us-ascii", "windows-1252", "x-cp1252"]

/-- The names of UTF-16 with the lower byte first. -/
def utf16Names : List String :=
  ["csunicode", "iso-10646-ucs-2", "ucs-2", "unicode", "unicodefeff", "utf-16", "utf-16le"]

/-- The encoding with a name. -/
def named (name : String) : Charset :=
  if westernNames.contains name then western
  else if utf16Names.contains name then utf16 false
  else if name = "utf-16be" ∨ name = "unicodefffe" then utf16 true
  else utf8

/-- The value of a parameter, without quotes. -/
def unquoted (cs : List Char) : List Char :=
  match stripPrefix? ['"'] cs with
  | some r => (stripSuffix? ['"'] r).getD cs
  | none => cs

/-- The encoding that the value of the header `Content-Type` names. -/
def ofContentType (value : List Char) : Charset :=
  let parameters := (splitAtChar ';' value).drop 1
  let names := parameters.filterMap fun p =>
    match cutFirst? '=' (trim p) with
    | some (name, v) =>
      if name.map Char.toLower = "charset".toList then
        some (String.ofList ((unquoted (trim v)).map Char.toLower))
      else none
    | none => none
  (names.head?.map named).getD utf8

end Charset

/-- The encoding that a byte order mark announces, and the bytes after it. -/
def cutByteOrderMark? : List UInt8 → Option (Charset × List UInt8)
  | 0xEF :: 0xBB :: 0xBF :: r => some (.utf8, r)
  | 0xFE :: 0xFF :: r => some (.utf16 true, r)
  | 0xFF :: 0xFE :: r => some (.utf16 false, r)
  | _ => none

/-- The text of an answer's content; an incomplete one counts as empty. -/
def Response.text (r : Response) : String :=
  let content := r.content?.getD []
  String.ofList <| match cutByteOrderMark? content with
    | some (charset, rest) => charset.decode rest
    | none => ((r.header? "content-type").elim .utf8 Charset.ofContentType).decode content

end ImageSync.Http
