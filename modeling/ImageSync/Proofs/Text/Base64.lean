import ImageSync.Proofs.Text.Run
import ImageSync.Text.Base64

/-!
# `ImageSync.Proofs.Text.Base64`: the standard form of base64 texts

A group that is filled up has bits to spare, and in the standard form these are zeros.
`decodeStandard?` reads texts of this form only. These are the texts that are written
(`decodeStandard?_eq_some_iff`), so that no two of them stand for the same bytes.
-/

set_option autoImplicit false

namespace ImageSync.Text

/-- Whether the bits that the last group has to spare are zeros. -/
def sparesZeros : List Char → Bool
  | [_, b, '=', '='] => (base64Value? b).all fun n => n % 16 == 0
  | [_, _, c, '='] => (base64Value? c).all fun n => n % 4 == 0
  | _ :: _ :: _ :: _ :: r => sparesZeros r
  | _ => true

/-- The bytes that a base64 text in the standard form stands for. -/
def decodeStandard? (cs : List Char) : Option (List UInt8) :=
  if sparesZeros cs then decodeBase64? cs else none

/-- A digit is the one with its value. -/
theorem eq_base64Digit {c : Char} {n : Nat} (h : base64Value? c = some n) :
    n < 64 ∧ c = base64Digit n := by
  have hsmall : c.toNat < 128 := by
    have hclass : c.isAlphanum = true ∨ c = '+' ∨ c = '/' := by
      change (c.isUpper || c.isLower || c.isDigit) = true ∨ c = '+' ∨ c = '/'
      unfold base64Value? at h
      grind
    rcases hclass with hclass | rfl | rfl
    · exact toNat_lt_of_isAlphanum hclass
    · decide
    · decide
  -- The characters of ASCII can be looked up.
  have hall : ∀ k < 128, ∀ n ∈ base64Value? (Char.ofNat k),
      n < 64 ∧ Char.ofNat k = base64Digit n := by decide
  have hc := hall c.toNat hsmall n
  rw [Char.ofNat_toNat] at hc
  exact hc h

/-- What is written are digits, and the sign that fills a group. -/
theorem mem_base64 {bytes : List UInt8} {c : Char} (h : c ∈ base64 bytes) :
    c = '=' ∨ ∃ n < 64, c = base64Digit n := by
  -- A group of one byte is filled with two signs, a group of two with one, and others with none.
  fun_induction base64 bytes with
  | case1 => cases h
  | case2 a =>
    have ha := a.toNat_lt
    simp only [List.mem_cons, List.not_mem_nil, or_false] at h
    rcases h with rfl | rfl | rfl | rfl
    · exact .inr ⟨_, by omega, rfl⟩
    · exact .inr ⟨_, by omega, rfl⟩
    · exact .inl rfl
    · exact .inl rfl
  | case3 a b =>
    have ha := a.toNat_lt
    have hb := b.toNat_lt
    simp only [List.mem_cons, List.not_mem_nil, or_false] at h
    rcases h with rfl | rfl | rfl | rfl
    · exact .inr ⟨_, by omega, rfl⟩
    · exact .inr ⟨_, by omega, rfl⟩
    · exact .inr ⟨_, by omega, rfl⟩
    · exact .inl rfl
  | case4 a b c r ih =>
    have ha := a.toNat_lt
    have hb := b.toNat_lt
    have hc := c.toNat_lt
    simp only [List.mem_cons] at h
    rcases h with rfl | rfl | rfl | rfl | h
    · exact .inr ⟨_, by omega, rfl⟩
    · exact .inr ⟨_, by omega, rfl⟩
    · exact .inr ⟨_, by omega, rfl⟩
    · exact .inr ⟨_, by omega, rfl⟩
    · exact ih h

/-- In encoded bytes, the bits that go into no byte are zeros. -/
theorem sparesZeros_base64 (bytes : List UInt8) : sparesZeros (base64 bytes) = true := by
  -- Only the last group has bits to spare, so the others hand the question on.
  fun_induction base64 bytes with
  | case1 => rfl
  | case2 a =>
    rw [sparesZeros, base64Value?_base64Digit (by omega)]
    simp
  | case3 a b =>
    have hb := b.toNat_lt
    rw [sparesZeros, base64Value?_base64Digit (by omega)]
    · simp
    · intro h
      exact base64Digit_ne_fill (by omega) h
  | case4 a b c r ih =>
    have ha := a.toNat_lt
    have hb := b.toNat_lt
    have hc := c.toNat_lt
    rw [sparesZeros]
    · exact ih
    · intro _ h
      exact absurd h (base64Digit_ne_fill (by omega))
    · intro h
      exact absurd h (base64Digit_ne_fill (by omega))

/-- What is written is in the standard form. -/
theorem decodeStandard?_base64 (bytes : List UInt8) :
    decodeStandard? (base64 bytes) = some bytes := by
  rw [decodeStandard?, if_pos (sparesZeros_base64 bytes), decodeBase64?_base64]

/-- A text in the standard form is written again for the bytes that are read from it. -/
theorem eq_base64_of_decodeBase64? {cs : List Char} {bytes : List UInt8}
    (hzeros : sparesZeros cs = true) (h : decodeBase64? cs = some bytes) : cs = base64 bytes := by
  -- Each digit is found again in the bytes that it was put into. Of the last digit of a filled
  -- group this is so because the bits that did not go into any byte are zeros.
  have hbyte : ∀ m < 256, (UInt8.ofNat m).toNat = m := fun _ => UInt8.toNat_ofNat_of_lt'
  fun_induction decodeBase64? cs generalizing bytes with
  | case1 =>
    cases h
    rfl
  | case2 a b =>
    obtain ⟨a', ha, h⟩ := Option.bind_eq_some_iff.1 h
    obtain ⟨b', hb, h⟩ := Option.bind_eq_some_iff.1 h
    cases h
    rw [sparesZeros, hb, Option.all_some, beq_iff_eq] at hzeros
    obtain ⟨ha', rfl⟩ := eq_base64Digit ha
    obtain ⟨hb', rfl⟩ := eq_base64Digit hb
    rw [base64, hbyte _ (by omega), show (a' * 4 + b' / 16) / 4 = a' by omega,
      show (a' * 4 + b' / 16) % 4 * 16 = b' by omega]
  | case3 a b c hfill =>
    obtain ⟨a', ha, h⟩ := Option.bind_eq_some_iff.1 h
    obtain ⟨b', hb, h⟩ := Option.bind_eq_some_iff.1 h
    obtain ⟨c', hc, h⟩ := Option.bind_eq_some_iff.1 h
    cases h
    rw [sparesZeros.eq_2 _ _ _ hfill, hc, Option.all_some, beq_iff_eq] at hzeros
    obtain ⟨ha', rfl⟩ := eq_base64Digit ha
    obtain ⟨hb', rfl⟩ := eq_base64Digit hb
    obtain ⟨hc', rfl⟩ := eq_base64Digit hc
    rw [base64, hbyte _ (by omega), hbyte _ (by omega),
      show (a' * 4 + b' / 16) / 4 = a' by omega,
      show (a' * 4 + b' / 16) % 4 * 16 + (b' % 16 * 16 + c' / 4) / 16 = b' by omega,
      show (b' % 16 * 16 + c' / 4) % 16 * 4 = c' by omega]
  | case4 a b c d r hfill hfill' ih =>
    obtain ⟨a', ha, h⟩ := Option.bind_eq_some_iff.1 h
    obtain ⟨b', hb, h⟩ := Option.bind_eq_some_iff.1 h
    obtain ⟨c', hc, h⟩ := Option.bind_eq_some_iff.1 h
    obtain ⟨d', hd, h⟩ := Option.bind_eq_some_iff.1 h
    obtain ⟨rest, hrest, h⟩ := Option.bind_eq_some_iff.1 h
    cases h
    rw [sparesZeros.eq_3 _ _ _ _ _ hfill hfill'] at hzeros
    obtain ⟨ha', rfl⟩ := eq_base64Digit ha
    obtain ⟨hb', rfl⟩ := eq_base64Digit hb
    obtain ⟨hc', rfl⟩ := eq_base64Digit hc
    obtain ⟨hd', rfl⟩ := eq_base64Digit hd
    rw [base64, hbyte _ (by omega), hbyte _ (by omega), hbyte _ (by omega), ← ih hzeros hrest,
      show (a' * 4 + b' / 16) / 4 = a' by omega,
      show (a' * 4 + b' / 16) % 4 * 16 + (b' % 16 * 16 + c' / 4) / 16 = b' by omega,
      show (b' % 16 * 16 + c' / 4) % 16 * 4 + (c' % 4 * 64 + d') / 64 = c' by omega,
      show (c' % 4 * 64 + d') % 64 = d' by omega]
  | case5 => cases h

/-- The texts of the standard form are those that are written. -/
theorem decodeStandard?_eq_some_iff {cs : List Char} {bytes : List UInt8} :
    decodeStandard? cs = some bytes ↔ cs = base64 bytes := by
  constructor
  · intro h
    obtain ⟨hzeros, h⟩ := Option.ite_none_right_eq_some.1 h
    exact eq_base64_of_decodeBase64? hzeros h
  · rintro rfl
    exact decodeStandard?_base64 bytes

end ImageSync.Text
