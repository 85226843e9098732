/-!
# `ImageSync.Text.Digit`: decimal and hexadecimal digits

`digitValue` is the value of a decimal digit and `digitsValue` the number that such digits write;
`hexValue?` is the value of a hexadecimal digit in either case. `hexDigit` and `upperHexDigit` are
the digits of a value below sixteen.

Main statements: a decimal digit is worth less than ten (`digitValue_lt`), and hexadecimal
digits are read back (`hexValue?_hexDigit`, `hexValue?_upperHexDigit`).
-/

set_option autoImplicit false

namespace ImageSync.Text

/-- The value of a decimal digit. -/
def digitValue (c : Char) : Nat := c.toNat - '0'.toNat

/-- The number that decimal digits write. -/
def digitsValue (digits : List Char) : Nat :=
  digits.foldl (fun n c => 10 * n + digitValue c) 0

/-- The lower-case digit of a number below sixteen. -/
def hexDigit (n : Nat) : Char :=
  if n < 10 then Char.ofNat ('0'.toNat + n) else Char.ofNat ('a'.toNat + (n - 10))

/-- The upper-case digit of a number below sixteen. -/
def upperHexDigit (n : Nat) : Char :=
  if n < 10 then Char.ofNat ('0'.toNat + n) else Char.ofNat ('A'.toNat + (n - 10))

/-- The value of a hexadecimal digit. -/
def hexValue? (c : Char) : Option Nat :=
  if c.isDigit then some (digitValue c)
  else if 'a' ≤ c ∧ c ≤ 'f' then some (c.toNat - 'a'.toNat + 10)
  else if 'A' ≤ c ∧ c ≤ 'F' then some (c.toNat - 'A'.toNat + 10)
  else none

/-- A decimal digit is worth less than ten. -/
theorem digitValue_lt {c : Char} (h : c.isDigit = true) : digitValue c < 10 := by
  have hle : c.toNat ≤ 57 := by
    simp only [Char.isDigit, Bool.and_eq_true, decide_eq_true_eq] at h
    exact h.2
  rw [digitValue, show '0'.toNat = 48 from rfl]
  omega

/-- Lower-case digits are read back. -/
theorem hexValue?_hexDigit : ∀ {n : Nat}, n < 16 → hexValue? (hexDigit n) = some n := by
  decide

/-- Upper-case digits are read back. -/
theorem hexValue?_upperHexDigit :
    ∀ {n : Nat}, n < 16 → hexValue? (upperHexDigit n) = some n := by
  decide

end ImageSync.Text
