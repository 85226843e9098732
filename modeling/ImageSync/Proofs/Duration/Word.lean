import ImageSync.Duration

/-!
# `ImageSync.Proofs.Duration.Word`: the value of a term in steps of 128 bits

A term is worth `Term.nanos`, a number without a bound. `Term.value` comes to it in steps of
128 bits, most of them checked. The main statement is `Term.value_eq`: the steps come to the
value of the term where that fits 128 bits, and to an overflow everywhere else. It is so
because a step never makes a number smaller (`le_addDigits`), and because eighteen digits of
a fraction fit in each unit, so that what is not checked loses nothing
(`Term.fractionNanos_eq`).
-/

set_option autoImplicit false

namespace ImageSync.Duration

open Text (digitValue digitsValue digitValue_lt)

/-! ### Checked steps -/

/-- A number below the size of a word fits into it. -/
theorem fit?_of_lt {n : Nat} (h : n < wordSize) : fit? n = some n := if_pos h

/-- A number of the size of a word or more does not fit into it. -/
theorem fit?_of_le {n : Nat} (h : wordSize ≤ n) : fit? n = none := if_neg (Nat.not_lt.2 h)

/-- A number that fits is not wrapped. -/
theorem wrap_of_lt {n : Nat} (h : n < wordSize) : wrap n = n := Nat.mod_eq_of_lt h

/-- The number that digits write behind those of `n`. -/
def addDigits (n : Nat) (digits : List Char) : Nat :=
  digits.foldl (fun n c => 10 * n + digitValue c) n

/-- More digits never make a smaller number. -/
theorem le_addDigits (n : Nat) (digits : List Char) : n ≤ addDigits n digits := by
  induction digits generalizing n with
  | nil => exact Nat.le_refl n
  | cons c digits ih =>
    have hstep := ih (10 * n + digitValue c)
    change n ≤ addDigits (10 * n + digitValue c) digits
    omega

/-- Reading digits step by step comes to their number, if that fits. -/
theorem foldlM_digits_eq {n : Nat} (hn : n < wordSize) (digits : List Char) :
    digits.foldlM (fun n c => (fit? (10 * n)).bind fun shifted =>
      fit? (shifted + digitValue c)) n = fit? (addDigits n digits) := by
  induction digits generalizing n with
  | nil => exact (fit?_of_lt hn).symm
  | cons c digits ih =>
    rw [List.foldlM_cons]
    change _ = fit? (addDigits (10 * n + digitValue c) digits)
    -- A number that does not fit stays too large with the digits behind it.
    have hgrows := le_addDigits (10 * n + digitValue c) digits
    by_cases hshift : 10 * n < wordSize
    · rw [fit?_of_lt hshift, Option.bind_some]
      by_cases hadd : 10 * n + digitValue c < wordSize
      · rw [fit?_of_lt hadd]
        exact ih hadd
      · rw [fit?_of_le (Nat.not_lt.1 hadd), fit?_of_le (by omega)]
        rfl
    · rw [fit?_of_le (Nat.not_lt.1 hshift), fit?_of_le (by omega)]
      rfl

/-- At most eighteen digits are read as their value, for they are far below the size of a word. -/
theorem readDigits?_eq (digits : List Char) : readDigits? digits = fit? (digitsValue digits) :=
  foldlM_digits_eq (by decide) digits

/-! ### Fractions -/

/-- So many digits write a number below that power of ten. -/
theorem addDigits_lt {digits : List Char} (h : ∀ c ∈ digits, c.isDigit = true) (n : Nat) :
    addDigits n digits < (n + 1) * Nat.pow 10 digits.length := by
  induction digits generalizing n with
  | nil =>
    show n < (n + 1) * 1
    omega
  | cons c digits ih =>
    have hc := digitValue_lt (h c List.mem_cons_self)
    have hstep := ih (fun d hd => h d (List.mem_cons_of_mem c hd)) (10 * n + digitValue c)
    calc addDigits (10 * n + digitValue c) digits
        < (10 * n + digitValue c + 1) * Nat.pow 10 digits.length := hstep
      _ ≤ (10 * (n + 1)) * Nat.pow 10 digits.length := Nat.mul_le_mul_right _ (by omega)
      _ = (n + 1) * Nat.pow 10 (digits.length + 1) := by
          rw [show Nat.pow 10 (digits.length + 1) = Nat.pow 10 digits.length * 10 from rfl,
            Nat.mul_comm 10 (n + 1), Nat.mul_assoc, Nat.mul_comm 10]

/-- A unit is a nanosecond or longer. -/
theorem TimeUnit.one_le_nanos (u : TimeUnit) : 1 ≤ u.nanos := by
  cases u <;> decide

/-- No unit is longer than an hour. -/
theorem TimeUnit.nanos_le_hour (u : TimeUnit) : u.nanos ≤ TimeUnit.hour.nanos := by
  cases u <;> decide

namespace Term

variable {t : Term}

/-- The digits of a fraction that count are eighteen at most. -/
theorem length_countedFraction_le (t : Term) : t.countedFraction.length ≤ 18 := by
  rw [countedFraction, List.length_take]
  exact Nat.min_le_left 18 _

/-- The digits of a fraction that count write a number of eighteen digits. -/
theorem digitsValue_countedFraction_lt (h : ∀ c ∈ t.fraction, c.isDigit = true) :
    digitsValue t.countedFraction < Nat.pow 10 18 := by
  have hdigits : ∀ c ∈ t.countedFraction, c.isDigit = true := fun c hc =>
    h c (List.mem_of_mem_take hc)
  have hlt : digitsValue t.countedFraction < (0 + 1) * Nat.pow 10 t.countedFraction.length :=
    addDigits_lt hdigits 0
  have hpow : Nat.pow 10 t.countedFraction.length ≤ Nat.pow 10 18 :=
    Nat.pow_le_pow_right (by decide) t.length_countedFraction_le
  omega

/-- Eighteen digits times an hour in nanoseconds are below 2^102. -/
theorem digitsValue_mul_nanos_lt (h : ∀ c ∈ t.fraction, c.isDigit = true) (u : TimeUnit) :
    digitsValue t.countedFraction * u.nanos < wordSize :=
  calc digitsValue t.countedFraction * u.nanos
      ≤ Nat.pow 10 18 * TimeUnit.hour.nanos :=
        Nat.mul_le_mul (Nat.le_of_lt (digitsValue_countedFraction_lt h)) u.nanos_le_hour
    _ < wordSize := by decide

/-- The power of ten that the counted digits are divided by fits into a word. -/
theorem pow_countedFraction_lt (t : Term) : Nat.pow 10 t.countedFraction.length < wordSize :=
  calc Nat.pow 10 t.countedFraction.length
      ≤ Nat.pow 10 18 := Nat.pow_le_pow_right (by decide) t.length_countedFraction_le
    _ < wordSize := by decide

/-- The digits of a fraction that count are read as their number. -/
theorem readDigits?_countedFraction (h : ∀ c ∈ t.fraction, c.isDigit = true) :
    readDigits? t.countedFraction = some (digitsValue t.countedFraction) := by
  rw [readDigits?_eq]
  exact fit?_of_lt (Nat.lt_trans (digitsValue_countedFraction_lt h) (by decide))

/-- The count of the digits of a fraction that count has 32 bits. -/
theorem length_countedFraction_lt (t : Term) : t.countedFraction.length < UInt32.size :=
  Nat.lt_of_le_of_lt t.length_countedFraction_le (by decide)

/-- Nothing is lost in the steps that are not checked. -/
theorem fractionNanos_eq (h : ∀ c ∈ t.fraction, c.isDigit = true) (u : TimeUnit) :
    t.fractionNanos u =
      .ok (digitsValue t.countedFraction * u.nanos / Nat.pow 10 t.countedFraction.length) := by
  rw [fractionNanos, readDigits?_countedFraction h]
  change (if t.countedFraction.length < UInt32.size then _ else _) = _
  rw [if_pos t.length_countedFraction_lt, wrap_of_lt (digitsValue_mul_nanos_lt h u),
    wrap_of_lt t.pow_countedFraction_lt]
  rfl

/-- The value of a term is that of its digits where it fits, and out of range elsewhere. -/
theorem value_eq (h : ∀ c ∈ t.fraction, c.isDigit = true) (u : TimeUnit) :
    t.value u = orFault .overflow (fit? (t.nanos u)) := by
  have hunit := u.one_le_nanos
  have hwhole : digitsValue t.whole ≤ digitsValue t.whole * u.nanos :=
    Nat.le_mul_of_pos_right _ hunit
  rw [value, readDigits?_eq, nanos]
  generalize hunits : digitsValue t.whole * u.nanos = units at hwhole
  generalize hpart : digitsValue t.countedFraction * u.nanos /
    Nat.pow 10 t.countedFraction.length = part
  -- The fraction only adds to the whole units, so only where these fit it matters.
  by_cases hfits : units < wordSize
  · rw [fit?_of_lt (Nat.lt_of_le_of_lt hwhole hfits)]
    change (orFault .overflow (fit? (digitsValue t.whole * u.nanos)) >>= fun units => _) = _
    rw [hunits, fit?_of_lt hfits]
    change (if t.fraction.isEmpty then Except.ok units else
      t.fractionNanos u >>= fun part => orFault .overflow (fit? (units + part))) = _
    split
    · next hempty =>
      -- Without a fraction nothing is added.
      have hnone : part = 0 := by
        rw [← hpart, countedFraction, List.isEmpty_iff.1 hempty]
        exact Nat.div_eq_of_lt (by rw [List.take_nil]; simp [digitsValue])
      rw [hnone, Nat.add_zero, fit?_of_lt hfits]
      rfl
    · rw [fractionNanos_eq h, hpart]
      rfl
  · have hle : wordSize ≤ units + part := Nat.le_trans (Nat.not_lt.1 hfits) (Nat.le_add_right _ _)
    rw [fit?_of_le hle]
    by_cases hread : digitsValue t.whole < wordSize
    · rw [fit?_of_lt hread]
      change (orFault .overflow (fit? (digitsValue t.whole * u.nanos)) >>= fun units => _) = _
      rw [hunits, fit?_of_le (Nat.not_lt.1 hfits)]
      rfl
    · rw [fit?_of_le (Nat.not_lt.1 hread)]
      rfl

end Term

end ImageSync.Duration
