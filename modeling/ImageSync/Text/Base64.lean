import ImageSync.Text.Utf8

/-!
# `ImageSync.Text.Base64`: bytes as base64 text

Three bytes are written as four digits of six bits. One or two bytes at the end are written
as two or three digits, and `=` fills the group. `base64` writes, `decodeBase64?` reads texts
of whole groups; the bits that a filled group leaves over do not matter.

Main statement: what is written is read back (`decodeBase64?_base64`).
-/

set_option autoImplicit false

namespace ImageSync.Text

/-- The digit of a value below sixty-four. -/
def base64Digit (n : Nat) : Char :=
  if n < 26 then Char.ofNat ('A'.toNat + n)
  else if n < 52 then Char.ofNat ('a'.toNat + (n - 26))
  else if n < 62 then Char.ofNat ('0'.toNat + (n - 52))
  else if n = 62 then '+' else '/'

/-- The value of a digit. -/
def base64Value? (c : Char) : Option Nat :=
  if c.isUpper then some (c.toNat - 'A'.toNat)
  else if c.isLower then some (c.toNat - 'a'.toNat + 26)
  else if c.isDigit then some (c.toNat - '0'.toNat + 52)
  else if c = '+' then some 62
  else if c = '/' then some 63
  else none

/-- The base64 text of some bytes. -/
def base64 : List UInt8 → List Char
  | [] => []
  | [a] => [base64Digit (a.toNat / 4), base64Digit (a.toNat % 4 * 16), '=', '=']
  | [a, b] =>
    [base64Digit (a.toNat / 4), base64Digit (a.toNat % 4 * 16 + b.toNat / 16),
      base64Digit (b.toNat % 16 * 4), '=']
  | a :: b :: c :: r =>
    base64Digit (a.toNat / 4) :: base64Digit (a.toNat % 4 * 16 + b.toNat / 16) ::
      base64Digit (b.toNat % 16 * 4 + c.toNat / 64) :: base64Digit (c.toNat % 64) :: base64 r

/-- The bytes that a base64 text stands for. -/
def decodeBase64? : List Char → Option (List UInt8)
  | [] => some []
  | [a, b, '=', '='] => do
    let a ← base64Value? a
    let b ← base64Value? b
    return [UInt8.ofNat (a * 4 + b / 16)]
  | [a, b, c, '='] => do
    let a ← base64Value? a
    let b ← base64Value? b
    let c ← base64Value? c
    return [UInt8.ofNat (a * 4 + b / 16), UInt8.ofNat (b % 16 * 16 + c / 4)]
  | a :: b :: c :: d :: r => do
    let a ← base64Value? a
    let b ← base64Value? b
    let c ← base64Value? c
    let d ← base64Value? d
    return UInt8.ofNat (a * 4 + b / 16) :: UInt8.ofNat (b % 16 * 16 + c / 4) ::
      UInt8.ofNat (c % 4 * 64 + d) :: (← decodeBase64? r)
  | _ => none

/-- Digits are read back. -/
theorem base64Value?_base64Digit :
    ∀ {n : Nat}, n < 64 → base64Value? (base64Digit n) = some n := by
  decide

/-- No digit is the sign that fills a group. -/
theorem base64Digit_ne_fill : ∀ {n : Nat}, n < 64 → base64Digit n ≠ '=' := by
  decide

/-- A whole group of digits is read before the rest. -/
theorem decodeBase64?_group {a b c d : Nat} (ha : a < 64) (hb : b < 64) (hc : c < 64)
    (hd : d < 64) (r : List Char) :
    decodeBase64? (base64Digit a :: base64Digit b :: base64Digit c :: base64Digit d :: r) =
      (decodeBase64? r).map fun rest => UInt8.ofNat (a * 4 + b / 16) ::
        UInt8.ofNat (b % 16 * 16 + c / 4) :: UInt8.ofNat (c % 4 * 64 + d) :: rest := by
  rw [decodeBase64?]
  · simp only [base64Value?_base64Digit ha, base64Value?_base64Digit hb,
      base64Value?_base64Digit hc, base64Value?_base64Digit hd]
    cases decodeBase64? r <;> rfl
  · intro _ h
    exact absurd h (base64Digit_ne_fill hd)
  · intro h
    exact absurd h (base64Digit_ne_fill hd)

/-- What is written is read back. -/
theorem decodeBase64?_base64 (bytes : List UInt8) :
    decodeBase64? (base64 bytes) = some bytes := by
  fun_induction base64 bytes with
  | case1 => rfl
  | case2 a =>
    have ha := a.toNat_lt
    rw [decodeBase64?, base64Value?_base64Digit (by omega), base64Value?_base64Digit (by omega)]
    -- The four bits that the second digit holds beyond the byte are zeros.
    change some [UInt8.ofNat (a.toNat / 4 * 4 + a.toNat % 4 * 16 / 16)] = some [a]
    rw [show a.toNat / 4 * 4 + a.toNat % 4 * 16 / 16 = a.toNat by omega, UInt8.ofNat_toNat]
  | case3 a b =>
    have ha := a.toNat_lt
    have hb := b.toNat_lt
    rw [decodeBase64?, base64Value?_base64Digit (by omega), base64Value?_base64Digit (by omega),
      base64Value?_base64Digit (by omega)]
    · change some [UInt8.ofNat _, UInt8.ofNat _] = some [a, b]
      rw [show a.toNat / 4 * 4 + (a.toNat % 4 * 16 + b.toNat / 16) / 16 = a.toNat by omega,
        show (a.toNat % 4 * 16 + b.toNat / 16) % 16 * 16 + b.toNat % 16 * 4 / 4 = b.toNat by
          omega, UInt8.ofNat_toNat, UInt8.ofNat_toNat]
    · intro h
      exact base64Digit_ne_fill (by omega) h
  | case4 a b c r ih =>
    have ha := a.toNat_lt
    have hb := b.toNat_lt
    have hc := c.toNat_lt
    -- Every byte is put together again from the two digits that it was cut into.
    rw [decodeBase64?_group (by omega) (by omega) (by omega) (by omega), ih]
    rw [show a.toNat / 4 * 4 + (a.toNat % 4 * 16 + b.toNat / 16) / 16 = a.toNat by omega,
      show (a.toNat % 4 * 16 + b.toNat / 16) % 16 * 16 +
        (b.toNat % 16 * 4 + c.toNat / 64) / 4 = b.toNat by omega,
      show (b.toNat % 16 * 4 + c.toNat / 64) % 4 * 64 + c.toNat % 64 = c.toNat by omega]
    simp

end ImageSync.Text
