import ImageSync.Proofs.Decimal.Digits
import ImageSync.Proofs.Json.Spelling

/-!
# `ImageSync.Proofs.Json.Integer`: what is read of an integer

An `Integer` is written as an optional minus sign and digits without a needless zero, and its text
spells one value only (`Spells.eq_value`). The value is exact if the integer fits 64 bits, with a
sign if it has one, and `rounded?` to double precision otherwise (`value?_written`). Minus zero is
always rounded, though nothing is lost of it.
-/

set_option autoImplicit false

namespace ImageSync.Json

open ImageSync.Decimal (Binary64 digitsOf digitsOf_ofDigitChars)

/-! ### Digits that fit 64 bits -/

/-- Further digits make no number smaller. -/
theorem le_ofDigitChars (ds : List Char) (n : Nat) : n ≤ Nat.ofDigitChars 10 ds n := by
  induction ds generalizing n with
  | nil => exact Nat.le_refl _
  | cons c ds ih =>
    rw [Nat.ofDigitChars_cons]
    exact Nat.le_trans (by omega) (ih _)

/-- If a number fits 64 bits, then no digit of it is left over. -/
theorem addDigits_of_lt {ds : List Char} {n : Nat} (h : Nat.ofDigitChars 10 ds n < UInt64.size) :
    addDigits n ds = (Nat.ofDigitChars 10 ds n, 0) := by
  induction ds generalizing n with
  | nil => rfl
  | cons c ds ih =>
    rw [Nat.ofDigitChars_cons] at h ⊢
    have hnext : 10 * n + Text.digitValue c < UInt64.size :=
      Nat.lt_of_le_of_lt (le_ofDigitChars ds _) h
    rw [addDigits, if_pos hnext]
    exact ih h

/-- Otherwise some digit is. -/
theorem snd_addDigits_ne_zero {ds : List Char} {n : Nat} (hn : n < UInt64.size)
    (h : ¬Nat.ofDigitChars 10 ds n < UInt64.size) : (addDigits n ds).2 ≠ 0 := by
  induction ds generalizing n with
  | nil => exact absurd hn h
  | cons c ds ih =>
    rw [addDigits]
    split
    · next hnext => exact ih hnext (by rwa [Nat.ofDigitChars_cons] at h)
    · exact Nat.succ_ne_zero _

/-! ### Integers -/

/-- An integer as written: perhaps with a minus sign, and without a needless zero. -/
structure Integer where
  negative : Bool
  digits : List Char
  digits_spec : Digits digits
  no_zero : digits.head? = some '0' → digits = ['0']

namespace Integer

variable (i : Integer)

/-- The sign of an integer and its digits. -/
def chars : List Char := (if i.negative then ['-'] else []) ++ i.digits

/-- The text of an integer. -/
def text : String := String.ofList i.chars

/-- The amount of an integer. -/
def amount : Nat := Nat.ofDigitChars 10 i.digits 0

/-- An integer fits 64 bits with a sign. -/
def Fits : Prop :=
  i.amount < UInt64.size / 2 ∨ i.negative = true ∧ i.amount = UInt64.size / 2

instance : Decidable i.Fits := inferInstanceAs (Decidable (_ ∨ _))

/-- The parts of an integer. -/
def written : NumberText := ⟨i.negative, i.digits, none, none⟩

/-- The value of an integer. -/
def value : Value := .number i.written.read

/-- The amount in double precision: of a natural number that fits 64 bits exactly, of any other
integer by the digits that fit 64 bits. -/
def rounded? : Option Binary64 :=
  if i.negative = false ∧ i.amount < UInt64.size then Binary64.ofNat? i.amount
  else Binary64.ofDecimal? (addDigits 0 i.digits).1 (addDigits 0 i.digits).2

/-- The digits of an integer spell it, with its sign. -/
theorem spells : Spells i.chars i.value := by
  have h := SpellsNumber.parts i.negative i.digits_spec i.no_zero .none .none
  rw [List.append_nil, List.append_nil] at h
  exact .number h

/-- An integer has no other digits than its amount. -/
theorem digitsOf_amount : digitsOf i.amount = i.digits :=
  digitsOf_ofDigitChars i.digits_spec.1 i.digits_spec.2 i.no_zero

/-- The amount of an integer is written with its own digits, for there is no zero in front. -/
theorem toString_amount : toString i.amount = String.ofList i.digits := by
  rw [← digitsOf_amount]
  rfl

/-- An integer is turned into a double by its significant digits and their place. -/
theorem double?_written : i.written.double? =
    (Binary64.ofDecimal? (addDigits 0 i.digits).1 (addDigits 0 i.digits).2).map
      (.double i.negative) := by
  unfold NumberText.double? NumberText.significand written
  dsimp only
  cases Binary64.ofDecimal? (addDigits 0 i.digits).1 (addDigits 0 i.digits).2 <;> rfl

/-- An integer is exact if it fits 64 bits, with a sign if it has one. -/
theorem value?_written : i.written.value? =
    if i.negative = false ∧ i.amount < UInt64.size then some (.natural i.amount)
    else if i.negative = true ∧ 0 < i.amount ∧ i.amount ≤ UInt64.size / 2 then
      some (.negative i.amount)
    else (Binary64.ofDecimal? (addDigits 0 i.digits).1 (addDigits 0 i.digits).2).map
      (.double i.negative) := by
  rw [← double?_written]
  by_cases hlt : i.amount < UInt64.size
  · have hdigits : addDigits 0 i.written.whole = (i.amount, 0) := addDigits_of_lt hlt
    unfold NumberText.value?
    rw [hdigits]
    cases hneg : i.negative with
    | false => simp [written, hneg, hlt]
    | true => simp [written, hneg]
  · have hdigits : (addDigits 0 i.written.whole).2 ≠ 0 := snd_addDigits_ne_zero (by decide) hlt
    have hle : ¬i.amount ≤ UInt64.size / 2 := fun hle => hlt (Nat.lt_of_le_of_lt hle (by decide))
    unfold NumberText.value?
    split
    · next heq => exact absurd (congrArg Prod.snd heq) hdigits
    · rw [if_neg (fun h => hlt h.2), if_neg (fun h => hle h.2.2)]

end Integer

/-- The text of an integer spells no other value. -/
theorem Spells.eq_value {i : Integer} {v : Value} (h : Spells i.chars v) : v = i.value := by
  have hread := h.reads _ [] (Nat.le_refl _) stops_nil
  rw [i.spells.reads _ [] (Nat.le_refl _) stops_nil] at hread
  exact (congrArg Prod.fst hread).symm

end ImageSync.Json
