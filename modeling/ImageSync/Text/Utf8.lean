/-!
# `ImageSync.Text.Utf8`: texts as bytes

`utf8` writes a text as bytes. Reading takes one byte after the other: a first byte announces
how many more belong to its character and which second byte may follow it, so no character
has two forms. A byte that fits nowhere gives a fault, and so does a character that breaks
off; reading goes on with the byte that broke it.

`decodeUtf8?` refuses a text with a fault, `decodeUtf8Lossy` puts the replacement character
U+FFFD in the place of each.

Main statement: bytes of ASCII characters are read as they are (`decodeUtf8?_ascii`).
-/

set_option autoImplicit false

namespace ImageSync.Text

/-- The bytes of a text. -/
def utf8 (cs : List Char) : List UInt8 := cs.flatMap String.utf8EncodeChar

/-- A character of which some bytes have been read. -/
structure Broken where
  /-- The number of bytes still to come. -/
  missing : Nat
  /-- What the bytes so far say about the character. -/
  value : Nat
  /-- The least and the greatest byte that may come next. -/
  low : Nat
  high : Nat

/-- The character that a first byte outside ASCII announces, if it is a first byte. -/
def announced? (b : Nat) : Option Broken :=
  if 0xC2 ≤ b ∧ b ≤ 0xDF then some ⟨1, b - 0xC0, 0x80, 0xBF⟩
  else if b = 0xE0 then some ⟨2, 0, 0xA0, 0xBF⟩
  else if b = 0xED then some ⟨2, 0xD, 0x80, 0x9F⟩
  else if 0xE1 ≤ b ∧ b ≤ 0xEF then some ⟨2, b - 0xE0, 0x80, 0xBF⟩
  else if b = 0xF0 then some ⟨3, 0, 0x90, 0xBF⟩
  else if 0xF1 ≤ b ∧ b ≤ 0xF3 then some ⟨3, b - 0xF0, 0x80, 0xBF⟩
  else if b = 0xF4 then some ⟨3, 4, 0x80, 0x8F⟩
  else none

/-- Reads a byte between two characters: what it completes, where `none` is a fault, and
what it begins. -/
def readFirst (b : Nat) : List (Option Char) × Option Broken :=
  if b < 0x80 then ([some (Char.ofNat b)], none)
  else match announced? b with
    | none => ([none], none)
    | some p => ([], some p)

/-- Reads a byte after those of an unfinished character. -/
def readNext (p : Broken) (b : Nat) : List (Option Char) × Option Broken :=
  if p.low ≤ b ∧ b ≤ p.high then
    let value := p.value * 64 + (b - 0x80)
    if p.missing ≤ 1 then ([some (Char.ofNat value)], none)
    else ([], some ⟨p.missing - 1, value, 0x80, 0xBF⟩)
  else
    -- The byte that breaks a character off may begin the next one.
    let (out, next) := readFirst b
    (none :: out, next)

/-- The characters of some bytes that follow an unfinished character, with `none` for each
fault. -/
def charsFrom : Option Broken → List UInt8 → List (Option Char)
  | none, [] => []
  | some _, [] => [none]
  | none, b :: r =>
    let (out, next) := readFirst b.toNat
    out ++ charsFrom next r
  | some p, b :: r =>
    let (out, next) := readNext p b.toNat
    out ++ charsFrom next r

/-- The text that bytes are the form of, if they are well formed. -/
def decodeUtf8? (bytes : List UInt8) : Option (List Char) := (charsFrom none bytes).mapM id

/-- The text of bytes, with the replacement character for each fault. -/
def decodeUtf8Lossy (bytes : List UInt8) : List Char :=
  (charsFrom none bytes).map fun c => c.getD '\uFFFD'

/-- ASCII bytes are read as they are. -/
theorem charsFrom_ascii {bytes : List UInt8} (h : ∀ b ∈ bytes, b.toNat < 0x80) :
    charsFrom none bytes = bytes.map fun b => some (Char.ofNat b.toNat) := by
  induction bytes with
  | nil => rfl
  | cons b r ih =>
    have hb : b.toNat < 0x80 := h b (by simp)
    rw [charsFrom, readFirst, if_pos hb]
    simp [ih fun c hc => h c (by simp [hc])]

/-- ASCII bytes are well formed. -/
theorem decodeUtf8?_ascii {bytes : List UInt8} (h : ∀ b ∈ bytes, b.toNat < 0x80) :
    decodeUtf8? bytes = some (bytes.map fun b => Char.ofNat b.toNat) := by
  rw [decodeUtf8?, charsFrom_ascii h]
  clear h
  induction bytes with
  | nil => rfl
  | cons b r ih => simp_all [List.mapM_cons]

end ImageSync.Text
