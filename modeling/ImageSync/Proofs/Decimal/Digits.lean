import ImageSync.Decimal.Shortest
import ImageSync.Proofs.Text.Run

/-!
# `ImageSync.Proofs.Decimal.Digits`: how many digits a number is written with

A natural number has one row of digits that does not start with a needless zero
(`digitsOf_ofDigitChars`). A number of double precision is written with seventeen digits at most and
then with zeros (`length_trimEndOf_le_of_positional`), because it is cut to so many digits below its
decimal order (`fst_scaleTen_decimalOrder_lt`). So whole numbers with more digits than that, zeros
at their end apart, are not written by any number of double precision.
-/

set_option autoImplicit false

namespace ImageSync.Decimal

open Text (trimEndOf prefix_trimEndOf)

/-! ### Digits of natural numbers -/

/-- A digit is written for its value. -/
theorem toDigits_of_isDigit {c : Char} (hc : c.isDigit = true) :
    Nat.toDigits 10 (c.toNat - '0'.toNat) = [c] ∧ c.toNat - '0'.toNat < 10 := by
  have hrange : 48 ≤ c.toNat ∧ c.toNat ≤ 57 := by
    simpa [Char.isDigit, UInt32.le_iff_toNat_le] using hc
  have hlt : c.toNat - '0'.toNat < 10 := by
    change c.toNat - 48 < 10
    omega
  refine ⟨?_, hlt⟩
  rw [Nat.toDigits_of_lt_base hlt, List.cons.injEq, ← Char.toNat_inj]
  refine ⟨?_, rfl⟩
  change (c.toNat - 48).digitChar.toNat = c.toNat
  have hchar : ∀ k < 10, k.digitChar.toNat = k + 48 := by decide
  rw [hchar (c.toNat - 48) (by omega)]
  omega

/-- Digits behind a positive number are those of the number that they make with it. -/
theorem toDigits_ofDigitChars {ds : List Char} (hds : ∀ c ∈ ds, c.isDigit = true) {n : Nat}
    (hn : 0 < n) : Nat.toDigits 10 (Nat.ofDigitChars 10 ds n) = Nat.toDigits 10 n ++ ds := by
  induction ds generalizing n with
  | nil => simp
  | cons c ds ih =>
    obtain ⟨hc, hds⟩ := List.forall_mem_cons.1 hds
    obtain ⟨hdigit, hlt⟩ := toDigits_of_isDigit hc
    rw [Nat.ofDigitChars_cons, ih hds (by omega),
      ← Nat.toDigits_append_toDigits (by decide) hn hlt, hdigit, List.append_assoc]
    rfl

/-- A number is written by its digits, if the first of them is no needless zero. -/
theorem digitsOf_ofDigitChars {ds : List Char} (hne : ds ≠ []) (hds : ∀ c ∈ ds, c.isDigit = true)
    (hzero : ds.head? = some '0' → ds = ['0']) : digitsOf (Nat.ofDigitChars 10 ds 0) = ds := by
  obtain ⟨c, r, rfl⟩ := List.exists_cons_of_ne_nil hne
  obtain ⟨hc, hr⟩ := List.forall_mem_cons.1 hds
  obtain ⟨hdigit, hlt⟩ := toDigits_of_isDigit hc
  by_cases hfirst : c = '0'
  · subst hfirst
    rw [hzero rfl]
    rfl
  · have hpos : 0 < c.toNat - '0'.toNat := by
      refine Nat.pos_of_ne_zero fun heq => hfirst ?_
      rw [heq] at hdigit
      exact (List.cons.inj hdigit).1.symm
    rw [digitsOf, Nat.ofDigitChars_cons, Nat.mul_zero, Nat.zero_add,
      toDigits_ofDigitChars hr hpos, hdigit]
    rfl

/-- A number has at most so many digits if it is below that power of ten. -/
theorem length_digitsOf_le_iff {n k : Nat} (hk : 0 < k) :
    (digitsOf n).length ≤ k ↔ n < Nat.pow 10 k :=
  Nat.length_toDigits_le_iff (by decide) hk

/-- A power of ten is written as a one and zeros. -/
theorem digitsOf_pow_ten (n : Nat) : digitsOf (Nat.pow 10 n) = '1' :: List.replicate n '0' := by
  induction n with
  | zero => rfl
  | succ n ih =>
    have happend := Nat.toDigits_append_toDigits (b := 10) (n := Nat.pow 10 n) (d := 0) (by decide)
      (Nat.pow_pos (by decide)) (by decide)
    rw [show Nat.pow 10 (n + 1) = 10 * Nat.pow 10 n + 0 by rw [Nat.add_zero]; exact Nat.mul_comm ..,
      digitsOf, ← happend, ← digitsOf, ih, List.replicate_succ']
    rfl

/-- Zeros at the end apart, a number that is no greater than a power of ten has no more digits than
the power has zeros. -/
theorem length_trimEndOf_digitsOf_le {v n : Nat} (hn : 0 < n) (hv : v ≤ Nat.pow 10 n) :
    (trimEndOf '0' (digitsOf v)).length ≤ n := by
  rcases Nat.lt_or_eq_of_le hv with hlt | rfl
  · exact Nat.le_trans (prefix_trimEndOf '0' _).length_le ((length_digitsOf_le_iff hn).2 hlt)
  · rw [digitsOf_pow_ten, trimEndOf, List.reverse_cons, List.reverse_replicate,
      List.dropWhile_append_of_pos (by simp)]
    exact hn

/-! ### The decimal order -/

section Order

variable {num den : Nat}

/-- Scaling by a further power of ten. -/
theorem scaleTen_add (n : Nat) (k : Int) :
    (scaleTen num den (n + k)).1 * (scaleTen num den k).2 =
      Nat.pow 10 n * (scaleTen num den k).1 * (scaleTen num den (n + k)).2 := by
  have hsum : ∀ a b : Nat, Nat.pow 10 (a + b) = Nat.pow 10 a * Nat.pow 10 b := Nat.pow_add 10
  unfold scaleTen
  by_cases hk : 0 ≤ k
  · -- Both powers are in the numerators.
    obtain ⟨j, rfl⟩ := Int.eq_ofNat_of_zero_le hk
    rw [if_pos (by omega), if_pos (by omega), show ((n : Int) + j).toNat = n + j by omega,
      Int.toNat_natCast, hsum]
    dsimp only
    ac_rfl
  · by_cases hnk : 0 ≤ (n : Int) + k
    · -- Only the greater power is.
      obtain ⟨j, hj⟩ := Int.eq_ofNat_of_zero_le hnk
      rw [if_pos hnk, if_neg hk, hj, Int.toNat_natCast,
        show n = j + (-k).toNat by omega, hsum]
      dsimp only
      ac_rfl
    · -- Both are in the denominators.
      rw [if_neg hnk, if_neg hk, show (-k).toNat = n + (-((n : Int) + k)).toNat by omega, hsum]
      dsimp only
      ac_rfl

/-- A scaled fraction has no zero below the line. -/
theorem snd_scaleTen_pos (hden : 0 < den) (k : Int) : 0 < (scaleTen num den k).2 := by
  unfold scaleTen
  split
  · exact hden
  · exact Nat.mul_pos hden (Nat.pow_pos (by decide))

/-- A quotient is less than ten to the power of its decimal order. -/
theorem fst_scaleTen_decimalOrder_lt (hden : 0 < den) :
    (scaleTen num den (-decimalOrder num den)).1 <
      (scaleTen num den (-decimalOrder num den)).2 := by
  have hsum : ∀ a b : Nat, Nat.pow 10 (a + b) = Nat.pow 10 a * Nat.pow 10 b := Nat.pow_add 10
  have hnonempty : ∀ n, 0 < (digitsOf n).length := fun n => Nat.length_toDigits_pos
  -- The numbers of digits bound the two numbers by powers of ten.
  have hnum : num < Nat.pow 10 (digitsOf num).length :=
    (length_digitsOf_le_iff (hnonempty num)).1 (Nat.le_refl _)
  obtain ⟨l, hl⟩ : ∃ l, (digitsOf den).length = l + 1 :=
    ⟨_, (Nat.succ_pred_eq_of_pos (hnonempty den)).symm⟩
  have hden' : Nat.pow 10 l ≤ den := by
    cases l with
    | zero => exact hden
    | succ l =>
      refine Nat.le_of_not_lt fun hlt => ?_
      have hle := (length_digitsOf_le_iff (Nat.succ_pos l)).2 hlt
      omega
  -- Multiplied crosswise, so that the powers of ten can be compared whatever their signs are.
  have hcross : num * Nat.pow 10 l < den * Nat.pow 10 (digitsOf num).length :=
    Nat.lt_of_lt_of_le (Nat.mul_lt_mul_of_pos_right hnum (Nat.pow_pos (by decide)))
      (Nat.mul_comm .. ▸ Nat.mul_le_mul_right _ hden')
  have hnext : (scaleTen num den ((l : Int) - (digitsOf num).length)).1 <
      (scaleTen num den ((l : Int) - (digitsOf num).length)).2 := by
    generalize (digitsOf num).length = m at hcross
    unfold scaleTen
    by_cases hle : m ≤ l
    · rw [if_pos (by omega)]
      obtain ⟨j, rfl⟩ := Nat.exists_eq_add_of_le hle
      rw [show (((m + j : Nat) : Int) - m).toNat = j by omega]
      rw [hsum, Nat.mul_left_comm, Nat.mul_comm (Nat.pow 10 m)] at hcross
      exact Nat.lt_of_mul_lt_mul_right hcross
    · rw [if_neg (by omega)]
      obtain ⟨j, rfl⟩ := Nat.exists_eq_add_of_le (Nat.le_of_not_le hle)
      rw [show (-((l : Int) - ((l + j : Nat) : Int))).toNat = j by omega]
      rw [hsum, Nat.mul_comm (Nat.pow 10 l), ← Nat.mul_assoc] at hcross
      exact Nat.lt_of_mul_lt_mul_right hcross
  unfold decimalOrder
  dsimp only
  split
  · next hlt => exact hlt
  · rw [hl, show -(((digitsOf num).length : Int) - ((l + 1 : Nat) : Int) + 1) =
      (l : Int) - (digitsOf num).length by omega]
    exact hnext

end Order

/-! ### The digits of a number of double precision -/

section Shortest

variable {tie : Tie} {x : Binary64} {n : Nat} {d : DigitString}

/-- A number of a certain decimal order has less than that many places, cut to so many. -/
theorem fst_scaleTen_lt {num den : Nat} (hden : 0 < den) (n : Nat) :
    (scaleTen num den ((n : Int) - decimalOrder num den)).1 <
      Nat.pow 10 n * (scaleTen num den ((n : Int) - decimalOrder num den)).2 := by
  have hcross := @scaleTen_add num den n (-decimalOrder num den)
  have horder := @fst_scaleTen_decimalOrder_lt num den hden
  have hpos := @snd_scaleTen_pos num den hden ((n : Int) + -decimalOrder num den)
  have hten : 0 < Nat.pow 10 n := Nat.pow_pos (by decide)
  rw [Int.sub_eq_add_neg]
  refine Nat.lt_of_mul_lt_mul_right (a := (scaleTen num den (-decimalOrder num den)).2) ?_
  rw [hcross, Nat.mul_right_comm (Nat.pow 10 n) _ (scaleTen num den (-decimalOrder num den)).2]
  exact Nat.mul_lt_mul_of_pos_right (Nat.mul_lt_mul_of_pos_left horder hten) hpos

/-- A factor on both sides of a fraction stays there when it is scaled. -/
theorem scaleTen_mul (a num den : Nat) (k : Int) :
    scaleTen (a * num) (a * den) k = (a * (scaleTen num den k).1, a * (scaleTen num den k).2) := by
  unfold scaleTen
  split
  · rw [Nat.mul_assoc]
  · rw [Nat.mul_assoc]

/-- What is below the line does not depend on what is above it. -/
theorem snd_scaleTen (num num' den : Nat) (k : Int) :
    (scaleTen num den k).2 = (scaleTen num' den k).2 := by
  unfold scaleTen
  split <;> rfl

/-- The ratio of a double has no zero below the line. -/
theorem snd_ratio_pos (x : Binary64) : 0 < x.ratio.2 := by
  unfold Binary64.ratio
  split
  · exact Nat.one_pos
  · exact Nat.pow_pos (by decide)

/-- Cut to `n` places, a number has no more. The number and its unit are both given in quarters of
the last binary place, and the unit by any amount. -/
theorem place_lt (n q : Nat) :
    let unit (q : Nat) : Nat × Nat :=
      let r : Nat × Nat := if 0 ≤ x.exponent then (q * Nat.pow 2 x.exponent.toNat, 4)
        else (q, 4 * Nat.pow 2 (-x.exponent).toNat)
      scaleTen r.1 r.2 ((n : Int) - decimalOrder x.ratio.1 x.ratio.2)
    (unit (4 * x.mantissa)).1 / (unit q).2 < Nat.pow 10 n := by
  have hlt := @fst_scaleTen_lt x.ratio.1 x.ratio.2 (snd_ratio_pos x) n
  generalize hk : (n : Int) - decimalOrder x.ratio.1 x.ratio.2 = k at hlt
  clear hk
  have hfour := scaleTen_mul 4 x.ratio.1 x.ratio.2 k
  have hmul : (scaleTen (4 * x.ratio.1) (4 * x.ratio.2) k).1 <
      (scaleTen (4 * x.ratio.1) (4 * x.ratio.2) k).2 * Nat.pow 10 n := by
    rw [hfour, Nat.mul_assoc, Nat.mul_comm _ (Nat.pow 10 n)]
    exact Nat.mul_lt_mul_of_pos_left hlt (by decide)
  intro unit
  refine Nat.div_lt_of_lt_mul ?_
  -- The exponent is a factor above the line or below it.
  by_cases he : 0 ≤ x.exponent
  · simp only [unit, if_pos he]
    rw [Binary64.ratio, if_pos he] at hmul
    rw [snd_scaleTen _ (4 * (x.mantissa * Nat.pow 2 x.exponent.toNat)), Nat.mul_assoc 4]
    exact hmul
  · simp only [unit, if_neg he]
    rw [Binary64.ratio, if_neg he] at hmul
    rw [snd_scaleTen _ (4 * x.mantissa)]
    exact hmul

/-- A candidate with `n` digits has no more than these, zeros at its end apart. -/
theorem length_trim_of_candidate? (hn : 0 < n)
    (h : candidate? tie x (decimalOrder x.ratio.1 x.ratio.2) n = some d) :
    d.trim.digits.length ≤ n := by
  unfold candidate? at h
  obtain ⟨v, hv, rfl⟩ := Option.map_eq_some_iff.1 h
  -- The candidate is the number below or the one above it.
  have hchosen : ∀ {c c' : Prop} [Decidable c] [Decidable c'] {below : Nat},
      (if c then some below else if c' then some (below + 1) else none) = some v →
        v ≤ below + 1 := by
    intro c c' _ _ below hv
    split at hv
    · cases hv
      exact Nat.le_succ _
    · split at hv
      · cases hv
        exact Nat.le_refl _
      · cases hv
  exact length_trimEndOf_digitsOf_le hn (Nat.le_trans (hchosen hv) (place_lt (x := x) n _))

/-- A number is written with seventeen digits at most. -/
theorem length_digits_shortest_le (tie : Tie) (x : Binary64) :
    (shortest tie x).digits.length ≤ 17 := by
  unfold shortest
  dsimp only
  cases hfind : (List.range 17).findSome? fun n =>
      candidate? tie x (decimalOrder x.ratio.1 x.ratio.2) (n + 1) with
  | none => exact Nat.zero_le _
  | some d =>
    obtain ⟨n, hn, hcandidate⟩ := List.exists_of_findSome?_eq_some hfind
    exact Nat.le_trans (length_trim_of_candidate? (Nat.succ_pos n) hcandidate)
      (List.mem_range.1 hn)

/-- A whole number that is written for a number of double precision has seventeen digits at most,
zeros at its end apart. -/
theorem length_trimEndOf_le_of_positional {ds : List Char} (hds : ∀ c ∈ ds, c.isDigit = true)
    (h : x.positional = ds) : (trimEndOf '0' ds).length ≤ 17 := by
  unfold Binary64.positional at h
  split at h
  · subst h
    decide
  · have hlength := length_digits_shortest_le .up x
    generalize shortest .up x = d at h hlength
    have hpoint : '.' ∉ ds := fun hmem => absurd (hds '.' hmem) (by decide)
    unfold DigitString.positional at h
    split at h
    · exact absurd (h ▸ by simp) hpoint
    · dsimp only at h
      split at h
      · -- Only zeros are put behind the digits.
        subst h
        rw [zeros, trimEndOf, List.reverse_append, List.reverse_replicate,
          List.dropWhile_append_of_pos (by simp)]
        exact Nat.le_trans (prefix_trimEndOf '0' d.digits).length_le hlength
      · exact absurd (h ▸ by simp) hpoint

end Shortest

/-! ### Numbers that are not too large -/

/-- Zero is read as zero, at any place of the point. -/
theorem ofDecimal?_zero (k : Int) : Binary64.ofDecimal? 0 k = some .zero := by
  show Binary64.ofDecimal?.scale .zero k = _
  rw [Binary64.ofDecimal?.scale]
  rfl

/-- The binary order of a fraction is at most that of the number above the line. -/
theorem binaryOrder_le (num den : Nat) : binaryOrder num den ≤ Nat.log2 num := by
  unfold binaryOrder
  dsimp only
  split <;> omega

/-- A natural number of 64 bits is not too large for double precision. -/
theorem exists_ofNat? {n : Nat} (hn : n < UInt64.size) : ∃ x, Binary64.ofNat? n = some x := by
  unfold Binary64.ofNat? Binary64.ofRatio?
  by_cases hzero : n = 0
  · exact ⟨_, if_pos hzero⟩
  · have hlog : Nat.log2 n < 64 := (Nat.log2_lt hzero).2 hn
    have horder := binaryOrder_le n 1
    rw [if_neg hzero]
    refine ⟨_, if_neg ?_⟩
    split
    · dsimp only
      omega
    · dsimp only
      omega

end ImageSync.Decimal
