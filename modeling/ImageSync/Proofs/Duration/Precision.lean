import ImageSync.Proofs.Duration.Grammar

/-!
# `ImageSync.Proofs.Duration.Precision`: what the digits of a fraction add up to

Of a fraction only the first eighteen digits are read. A digit behind them is worth less than a
nanosecond, but it may complete one: what the digits in front of it leave over can be so close to a
whole nanosecond that the finer ones make up the rest (`Term.completes`).

This depends on the unit. In a second or less, a number of eighteen digits always leaves a multiple
of the unit over, and the finer digits stay below the unit. Minutes and hours do not divide a power
of ten, and there a nanosecond can be lost (`Term.unit_of_completes`).

The main statement is `nanos_of_parse`: the exact sum of the terms of a text is the duration that is
read, and one nanosecond more for each term that completes one. It comes from `Term.exactNanos_eq`,
which splits an exact value at the eighteenth digit of its fraction (`floor_split`).
-/

set_option autoImplicit false

namespace ImageSync.Duration

open Text (digitValue digitsValue forall_mem_of_all)

/-! ### Exact values -/

namespace Term

/-- What a term is worth in a unit, with all digits of its fraction, in whole nanoseconds. -/
def exactNanos (t : Term) (u : TimeUnit) : Nat :=
  digitsValue (t.whole ++ t.fraction) * u.nanos / Nat.pow 10 t.fraction.length

/-- The digits of a fraction behind those that count. -/
def finerFraction (t : Term) : List Char := t.fraction.drop 18

/-- The finer digits make up a whole nanosecond with what those that count leave over of one. Both
are measured by the last of the finer digits. -/
def completes (t : Term) (u : TimeUnit) : Bool :=
  Nat.pow 10 t.countedFraction.length * Nat.pow 10 t.finerFraction.length ≤
    digitsValue t.countedFraction * u.nanos % Nat.pow 10 t.countedFraction.length *
        Nat.pow 10 t.finerFraction.length +
      digitsValue t.finerFraction * u.nanos

end Term

namespace UnitTerm

/-- What a term is worth with all its digits. -/
def exactNanos (v : UnitTerm) : Nat := v.term.exactNanos v.unit

/-- The digits of a term that are not read complete a nanosecond. -/
def completes (v : UnitTerm) : Bool := v.term.completes v.unit

end UnitTerm

/-- What some terms are worth with all their digits. -/
def exactAmount : List UnitTerm → Nat
  | [] => 0
  | v :: terms => v.exactNanos + exactAmount terms

/-- A body is a row of terms. A lone zero is one of no terms. -/
inductive IsRow : List Char → List UnitTerm → Prop where
  | zero : IsRow ['0'] []
  | terms {terms : List UnitTerm} (hterms : terms ≠ []) : IsRow (written terms) terms

/-! ### A split at the last digit that counts -/

/-- A power of ten is not zero. -/
theorem pow_ten_pos (k : Nat) : 0 < Nat.pow 10 k := Nat.pow_pos (by decide)

/-- More digits shift a number, and are added to it. -/
theorem addDigits_eq (n : Nat) (digits : List Char) :
    addDigits n digits = n * Nat.pow 10 digits.length + digitsValue digits := by
  induction digits generalizing n with
  | nil =>
    show n = n * 1 + 0
    omega
  | cons c digits ih =>
    have hn : addDigits n (c :: digits) = addDigits (10 * n + digitValue c) digits := rfl
    have hzero : digitsValue (c :: digits) = addDigits (10 * 0 + digitValue c) digits := rfl
    have hpow : Nat.pow 10 (c :: digits).length = Nat.pow 10 digits.length * 10 := rfl
    rw [hn, hzero, ih, ih, hpow]
    grind

/-- Digits behind others count as the places below them. -/
theorem digitsValue_append (digits more : List Char) :
    digitsValue (digits ++ more) =
      digitsValue digits * Nat.pow 10 more.length + digitsValue more := by
  rw [← addDigits_eq]
  exact List.foldl_append

/-- A value of a whole part, `p` places and `q` finer ones is rounded down as it is without the
finer ones, unless these make up one more with what the others leave over. -/
theorem floor_split {whole counted finer unit p q : Nat} (hp : 0 < p) (hq : 0 < q)
    (hfiner : finer * unit < p * q) :
    ((whole * p + counted) * q + finer) * unit / (p * q) =
      whole * unit + counted * unit / p +
        if p * q ≤ counted * unit % p * q + finer * unit then 1 else 0 := by
  have hcounted := Nat.div_add_mod (counted * unit) p
  have hleft := Nat.mod_lt (counted * unit) hp
  generalize counted * unit / p = units at hcounted ⊢
  generalize counted * unit % p = left at hcounted hleft ⊢
  have hsplit : ((whole * p + counted) * q + finer) * unit =
      left * q + finer * unit + p * q * (whole * unit + units) := by
    grind
  have hrest : left * q + finer * unit < 2 * (p * q) := by
    have hle : (left + 1) * q ≤ p * q := Nat.mul_le_mul_right q hleft
    rw [Nat.add_mul] at hle
    omega
  rw [hsplit, Nat.add_mul_div_left _ _ (Nat.mul_pos hp hq), Nat.add_comm]
  congr 1
  split
  · exact Nat.div_eq_of_lt_le (by omega) (by omega)
  · exact Nat.div_eq_of_lt (by omega)

/-- Seconds and what is less divide a number of eighteen places. -/
theorem TimeUnit.divides {u : TimeUnit} (hminute : u ≠ .minute) (hhour : u ≠ .hour) :
    ∃ parts, Nat.pow 10 18 = u.nanos * parts := by
  cases u with
  | nanosecond => exact ⟨1_000_000_000_000_000_000, rfl⟩
  | microsecond => exact ⟨1_000_000_000_000_000, rfl⟩
  | millisecond => exact ⟨1_000_000_000_000, rfl⟩
  | second => exact ⟨1_000_000_000, rfl⟩
  | minute => exact absurd rfl hminute
  | hour => exact absurd rfl hhour

namespace Term

variable {t : Term} {u : TimeUnit}

/-- The digits of a fraction are those that count and the finer ones. -/
theorem countedFraction_append (t : Term) : t.countedFraction ++ t.finerFraction = t.fraction :=
  List.take_append_drop 18 t.fraction

/-- There are finer digits only behind eighteen that count. -/
theorem length_countedFraction_of_finer (h : t.finerFraction ≠ []) :
    18 < t.fraction.length ∧ t.countedFraction.length = 18 := by
  have hlong : 18 < t.fraction.length := by
    refine Nat.lt_of_not_le fun hshort => h ?_
    exact List.drop_eq_nil_of_le hshort
  refine ⟨hlong, ?_⟩
  rw [countedFraction, List.length_take]
  omega

/-- The finer digits come to less than one at the last counted place. -/
theorem digitsValue_finerFraction_lt (h : ∀ c ∈ t.fraction, c.isDigit = true) :
    digitsValue t.finerFraction < Nat.pow 10 t.finerFraction.length := by
  have hlt := addDigits_lt (fun c hc => h c (List.mem_of_mem_drop hc) :
    ∀ c ∈ t.finerFraction, c.isDigit = true) 0
  rw [Nat.zero_add, Nat.one_mul] at hlt
  exact hlt

/-- Finer digits are worth less than what a digit is that counts. -/
theorem finer_lt (h : ∀ c ∈ t.fraction, c.isDigit = true) (u : TimeUnit) :
    digitsValue t.finerFraction * u.nanos <
      Nat.pow 10 t.countedFraction.length * Nat.pow 10 t.finerFraction.length := by
  by_cases hfiner : t.finerFraction = []
  · rw [hfiner]
    show 0 * u.nanos < Nat.pow 10 t.countedFraction.length * 1
    rw [Nat.zero_mul, Nat.mul_one]
    exact pow_ten_pos _
  · have hunit : u.nanos < Nat.pow 10 t.countedFraction.length := by
      rw [(length_countedFraction_of_finer hfiner).2]
      exact Nat.lt_of_le_of_lt u.nanos_le_hour (by decide)
    rw [Nat.mul_comm (Nat.pow 10 t.countedFraction.length)]
    exact Nat.mul_lt_mul'' (digitsValue_finerFraction_lt h) hunit

/-- The exact value of a term is the one that is read, and one nanosecond more if the digits that
are not read complete one. -/
theorem exactNanos_eq (h : ∀ c ∈ t.fraction, c.isDigit = true) (u : TimeUnit) :
    t.exactNanos u = t.nanos u + if t.completes u then 1 else 0 := by
  have hdigits : digitsValue (t.whole ++ t.fraction) =
      (digitsValue t.whole * Nat.pow 10 t.countedFraction.length +
          digitsValue t.countedFraction) * Nat.pow 10 t.finerFraction.length +
        digitsValue t.finerFraction := by
    rw [← digitsValue_append, ← digitsValue_append, List.append_assoc, countedFraction_append]
  have hplaces : Nat.pow 10 t.fraction.length =
      Nat.pow 10 t.countedFraction.length * Nat.pow 10 t.finerFraction.length := by
    rw [← countedFraction_append t, List.length_append]
    exact Nat.pow_add 10 _ _
  rw [exactNanos, hdigits, hplaces,
    floor_split (pow_ten_pos _) (pow_ten_pos _) (finer_lt h u), nanos, completes]
  simp only [decide_eq_true_eq]

/-- A term whose digits complete a nanosecond is one of minutes or hours, with more digits in its
fraction than are read. -/
theorem unit_of_completes (h : ∀ c ∈ t.fraction, c.isDigit = true)
    (hcompletes : t.completes u = true) :
    (u = .minute ∨ u = .hour) ∧ 18 < t.fraction.length := by
  rw [completes, decide_eq_true_eq] at hcompletes
  have hfiner : t.finerFraction ≠ [] := by
    intro hnone
    -- Without finer digits, what is left over is all there is.
    have hleft := Nat.mod_lt (digitsValue t.countedFraction * u.nanos)
      (pow_ten_pos t.countedFraction.length)
    rw [hnone] at hcompletes
    simp [digitsValue] at hcompletes
    exact Nat.lt_irrefl _ (Nat.lt_of_le_of_lt hcompletes hleft)
  obtain ⟨hlong, hplaces⟩ := length_countedFraction_of_finer hfiner
  refine ⟨Classical.byContradiction fun hunit => ?_, hlong⟩
  rw [not_or] at hunit
  obtain ⟨parts, hparts⟩ := TimeUnit.divides hunit.1 hunit.2
  have hq := digitsValue_finerFraction_lt h
  rw [hplaces, hparts, Nat.mul_comm _ u.nanos, Nat.mul_mod_mul_left] at hcompletes
  generalize digitsValue t.finerFraction = finer at hcompletes hq
  generalize Nat.pow 10 t.finerFraction.length = q at hcompletes hq
  have hpos : 0 < parts := by
    refine Nat.pos_of_ne_zero ?_
    rintro rfl
    cases hparts
  have hleft := Nat.mod_lt (digitsValue t.countedFraction) hpos
  generalize digitsValue t.countedFraction % parts = left at hcompletes hleft
  -- A unit is missing from what is left over, and the finer digits come to less than a unit.
  have hroom : u.nanos * left * q + finer * u.nanos < u.nanos * parts * q :=
    calc u.nanos * left * q + finer * u.nanos
        < u.nanos * left * q + q * u.nanos :=
          Nat.add_lt_add_left (Nat.mul_lt_mul_of_pos_right hq u.one_le_nanos) _
      _ = u.nanos * (left + 1) * q := by grind
      _ ≤ u.nanos * parts * q := Nat.mul_le_mul_right q (Nat.mul_le_mul_left u.nanos hleft)
  omega

end Term

/-! ### Rows of terms -/

/-- Two rows of terms that are written the same are the same. -/
theorem written_injective {terms terms' : List UnitTerm} (h : written terms = written terms') :
    terms = terms' := by
  -- By induction on the first row: each term can be cut off in one way only.
  induction terms generalizing terms' with
  | nil =>
    cases terms' with
    | nil => rfl
    | cons v' terms' => exact absurd h.symm (v'.ne_nil _)
  | cons v terms ih =>
    cases terms' with
    | nil => exact absurd h (v.ne_nil _)
    | cons v' terms' =>
      have hends : ∀ row, EndsUnit (written row) := fun row => by
        have hwritten := endsUnit_written row endsUnit_nil
        rwa [List.append_nil] at hwritten
      have hcons : ∀ (v : UnitTerm) (row : List UnitTerm),
          written (v :: row) = v.text ++ written row := fun v row => List.flatMap_cons
      -- At the start of the text there stands one term.
      have hread := (v.standsAt (hends terms)).read_eq
      rw [← hcons, h, hcons, (v'.standsAt (hends terms')).read_eq, Prod.mk.injEq] at hread
      rw [ih hread.2.symm]
      congr 1
      obtain ⟨t, u, hwhole, hfraction, hpoint, hdigit, hnames⟩ := v
      obtain ⟨t', u', hwhole', hfraction', hpoint', hdigit', hnames'⟩ := v'
      obtain rfl : t' = t := hread.1
      obtain rfl : u = u' := Option.some.inj (hnames.symm.trans hnames')
      rfl

/-- A body is one row of terms at most. -/
theorem IsRow.unique {body : List Char} {terms terms' : List UnitTerm} (h : IsRow body terms)
    (h' : IsRow body terms') : terms = terms' := by
  generalize hbody : body = body' at h'
  cases h with
  | zero =>
    cases h' with
    | zero => rfl
    | terms hterms => exact absurd hbody.symm (written_ne_zero hterms)
  | terms hterms =>
    cases h' with
    | zero => exact absurd hbody (written_ne_zero hterms)
    | terms hterms' => exact written_injective hbody

/-- A body that comes to a number is a row of terms that are worth it. -/
theorem Reading.exists_row {body : List Char} {n : Nat} (h : Reading body (.ok n)) :
    ∃ terms, IsRow body terms ∧ amount terms = n := by
  generalize hr : Except.ok n = r at h
  cases h with
  | zero =>
    cases hr
    exact ⟨[], .zero, rfl⟩
  | @terms terms hterms hamount =>
    cases hr
    exact ⟨terms, .terms hterms, rfl⟩
  | empty => cases hr
  | fails => cases hr

/-- A row of terms that stays in range is read as what the terms are worth. -/
theorem parse_of_row {input : String} {body : List Char} {terms : List UnitTerm} {n : Nat}
    (hcut : cutSign input.toList = (false, body)) (hrow : IsRow body terms)
    (hamount : amount terms = n) (hn : n ≤ maxNanos) : parse input = .ok ⟨n⟩ := by
  have hbody : bodyNanos body = .ok n := by
    subst hamount
    cases hrow with
    | zero => rfl
    | terms hterms => exact bodyNanos_eq_iff.2 (.terms hterms hn)
  rw [parse_eq, hcut, hbody]
  rfl

/-- The exact sum of some terms is what they are worth, and one nanosecond for each of them whose
digits complete one. -/
theorem exactAmount_eq (terms : List UnitTerm) :
    exactAmount terms = amount terms + terms.countP UnitTerm.completes := by
  induction terms with
  | nil => rfl
  | cons v terms ih =>
    have hexact : v.exactNanos = v.nanos + if v.completes then 1 else 0 :=
      Term.exactNanos_eq v.fraction v.unit
    rw [exactAmount, amount_cons, ih, hexact, List.countP_cons]
    omega

/-- The duration that a text without a minus is read as is the exact sum of its terms, less one
nanosecond for each term whose digits behind the eighteenth complete one. Such terms are of minutes
or hours, so where there are none of these, or no more than eighteen digits in any fraction, the
duration is exact. -/
theorem nanos_of_parse {input : String} {d : Duration} (h : parse input = .ok d)
    (hsign : input.toList.head? ≠ some '-') :
    ∃ body, Signed input.toList false body ∧ (∃ terms, IsRow body terms) ∧
      ∀ terms, IsRow body terms →
        exactAmount terms = d.nanos + terms.countP UnitTerm.completes ∧
        (d.nanos = exactAmount terms ↔ ∀ v ∈ terms, v.completes = false) ∧
        ∀ v ∈ terms, v.completes = true →
          (v.unit = .minute ∨ v.unit = .hour) ∧ 18 < v.term.fraction.length := by
  have hsigned := signed_cutSign input.toList
  rw [parse_eq] at h
  generalize cutSign input.toList = cut at h hsigned
  obtain ⟨isNegative, body⟩ := cut
  dsimp only at h hsigned
  -- Without a minus sign the sum is what is read.
  have hpositive : isNegative = false := by
    generalize input.toList = cs at hsign hsigned
    cases hsigned with
    | minus body => exact absurd rfl hsign
    | plus body => rfl
    | unsigned => rfl
  subst hpositive
  cases hbody : bodyNanos body with
  | error e =>
    rw [hbody] at h
    cases h
  | ok n =>
    rw [hbody] at h
    cases h
    obtain ⟨row, hrow, hamount⟩ := (bodyNanos_eq_iff.1 hbody).exists_row
    refine ⟨body, hsigned, ⟨row, hrow⟩, fun terms hterms => ?_⟩
    obtain rfl := hrow.unique hterms
    have hexact : exactAmount row = n + row.countP UnitTerm.completes := by
      rw [exactAmount_eq, hamount]
    refine ⟨hexact, ?_, fun v hv => Term.unit_of_completes v.fraction⟩
    have hnone : row.countP UnitTerm.completes = 0 ↔ ∀ v ∈ row, v.completes = false := by
      simp
    rw [← hnone, hexact]
    show n = n + row.countP UnitTerm.completes ↔ _
    omega

/-- An hour and a half with digits that complete a nanosecond behind it, and seconds that could
not: one nanosecond is missing from what is read. -/
theorem nanos_of_parse_hours :
    let input := "1.5h0.0000000000002777778h0.9999999999999999999s"
    let d : Duration := ⟨5400_999_999_999⟩
    let terms : List UnitTerm :=
      [⟨⟨"1".toList, true, "5".toList, "h".toList⟩, .hour, forall_mem_of_all (by decide),
          forall_mem_of_all (by decide), nofun, .inl nofun, by decide⟩,
        ⟨⟨"0".toList, true, "0000000000002777778".toList, "h".toList⟩, .hour,
          forall_mem_of_all (by decide), forall_mem_of_all (by decide), nofun, .inl nofun,
          by decide⟩,
        ⟨⟨"0".toList, true, "9999999999999999999".toList, "s".toList⟩, .second,
          forall_mem_of_all (by decide), forall_mem_of_all (by decide), nofun, .inl nofun,
          by decide⟩]
    parse input = .ok d ∧ input.toList.head? ≠ some '-' ∧
      (exactAmount terms = d.nanos + 1 ∧ terms.map UnitTerm.completes = [false, true, false]) ∧
      ∃ body, Signed input.toList false body ∧ (∃ terms, IsRow body terms) ∧
        ∀ terms, IsRow body terms →
          exactAmount terms = d.nanos + terms.countP UnitTerm.completes ∧
          (d.nanos = exactAmount terms ↔ ∀ v ∈ terms, v.completes = false) ∧
          ∀ v ∈ terms, v.completes = true →
            (v.unit = .minute ∨ v.unit = .hour) ∧ 18 < v.term.fraction.length := by
  intro input d terms
  have hrow : IsRow (written terms) terms := .terms (List.cons_ne_nil _ _)
  have hparse : parse input = .ok d :=
    parse_of_row (by decide +kernel) hrow (by decide +kernel) (by decide)
  have hsign : input.toList.head? ≠ some '-' := by decide +kernel
  exact ⟨hparse, hsign, ⟨by decide +kernel, by decide +kernel⟩, nanos_of_parse hparse hsign⟩

/-- Of one hour in 3.6 million million, written with nineteen digits and rounded up, the last
digit completes a nanosecond, which is not read. -/
theorem parse_nineteenth_digit :
    let v : UnitTerm := ⟨⟨"0".toList, true, "0000000000002777778".toList, "h".toList⟩, .hour,
      forall_mem_of_all (by decide), forall_mem_of_all (by decide), nofun, .inl nofun, by decide⟩
    String.ofList (written [v]) = "0.0000000000002777778h" ∧
      parse "0.0000000000002777778h" = .ok ⟨0⟩ ∧ exactAmount [v] = 1 := by
  intro v
  have hcut : cutSign "0.0000000000002777778h".toList = (false, written [v]) := by
    decide +kernel
  have hrow : IsRow (written [v]) [v] := .terms (List.cons_ne_nil _ _)
  refine ⟨?_, ?_, ?_⟩
  · decide +kernel
  · exact parse_of_row hcut hrow (by decide +kernel) (by decide)
  · decide +kernel

end ImageSync.Duration
