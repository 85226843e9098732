import ImageSync.Text.Digit
import ImageSync.Text.Utf8

/-!
# `ImageSync.Url.Percent`: percent-encoding

A character that may not stand in a part of a URL is written as its UTF-8 bytes, each of them
as `%` and two upper-case hexadecimal digits. Every part has its own set of such characters;
non-ASCII characters are in all of them. `percentEncode` writes, `percentDecode` gives the
bytes that a text stands for; a `%` without two digits behind it stands for itself.

Main statements: text without characters of the set is written as it is
(`percentEncode_of_forall`), and an encoded byte is read back (`percentDecode_escapeByte`).
-/

set_option autoImplicit false

namespace ImageSync.Url

open Text

/-- A set of ASCII characters that a part of a URL may not hold. -/
abbrev EscapeSet := Char → Bool

/-- Control characters, the set of hosts and of paths without structure. -/
def controlSet : EscapeSet := fun c => c.toNat < 0x20 || c.toNat == 0x7F

/-- The set of fragments. -/
def fragmentSet : EscapeSet := fun c => controlSet c || " \"<>`".toList.contains c

/-- The set of queries. -/
def querySet : EscapeSet := fun c => controlSet c || " \"#<>".toList.contains c

/-- The set of queries in the schemes of the web. -/
def webQuerySet : EscapeSet := fun c => querySet c || c == '\''

/-- The set of path segments. -/
def pathSet : EscapeSet := fun c => fragmentSet c || "#?\x7b\x7d".toList.contains c

/-- The set of user names and passwords. -/
def userInfoSet : EscapeSet := fun c => pathSet c || "/:;=@[\\]^|".toList.contains c

/-- An escaped byte. -/
def escapeByte (b : UInt8) : List Char :=
  ['%', upperHexDigit (b.toNat / 16), upperHexDigit (b.toNat % 16)]

/-- Whether a character is written in its escaped form. -/
def isEscaped (set : EscapeSet) (c : Char) : Bool := 0x80 ≤ c.toNat || set c

/-- The form of a character in a part of a URL. -/
def escapeChar (set : EscapeSet) (c : Char) : List Char :=
  if isEscaped set c then (String.utf8EncodeChar c).flatMap escapeByte else [c]

/-- The form of a text in a part of a URL. -/
def percentEncode (set : EscapeSet) (cs : List Char) : List Char :=
  cs.flatMap (escapeChar set)

/-- The value of an escape's two digits. -/
def escapedByte? (a b : Char) : Option UInt8 := do
  return UInt8.ofNat (16 * (← hexValue? a) + (← hexValue? b))

/-- The bytes that a text stands for. -/
def percentDecode : List Char → List UInt8
  | [] => []
  | '%' :: a :: b :: r =>
    match escapedByte? a b with
    | some byte => byte :: percentDecode r
    | none => String.utf8EncodeChar '%' ++ percentDecode (a :: b :: r)
  | c :: r => String.utf8EncodeChar c ++ percentDecode r

/-- The text of an encoded text, if its bytes are well formed. -/
def decodedText? (cs : List Char) : Option (List Char) := decodeUtf8? (percentDecode cs)

/-- Text without characters of the set is written as it is. -/
theorem percentEncode_of_forall {set : EscapeSet} {cs : List Char}
    (h : ∀ c ∈ cs, isEscaped set c = false) : percentEncode set cs = cs := by
  induction cs with
  | nil => rfl
  | cons c r ih =>
    have hc := h c (by simp)
    have hr := ih fun d hd => h d (by simp [hd])
    simp only [percentEncode, List.flatMap_cons] at hr ⊢
    rw [hr, escapeChar, hc]
    rfl

/-- An escaped byte is read back. -/
theorem percentDecode_escapeByte (b : UInt8) (r : List Char) :
    percentDecode (escapeByte b ++ r) = b :: percentDecode r := by
  have hb := b.toNat_lt
  have hhigh := hexValue?_upperHexDigit (n := b.toNat / 16) (by omega)
  have hlow := hexValue?_upperHexDigit (n := b.toNat % 16) (by omega)
  -- The two digits are the byte's quotient and remainder by sixteen.
  have hval : escapedByte? (upperHexDigit (b.toNat / 16)) (upperHexDigit (b.toNat % 16)) =
      some b := by
    unfold escapedByte?
    rw [hhigh, hlow]
    change some (UInt8.ofNat (16 * (b.toNat / 16) + b.toNat % 16)) = some b
    rw [Nat.div_add_mod, UInt8.ofNat_toNat]
  simp only [escapeByte, List.cons_append, List.nil_append]
  rw [percentDecode, hval]

end ImageSync.Url
