import ImageSync.Json.Record
import ImageSync.Proofs.Text.Run
import ImageSync.Text.Cut

/-!
# `ImageSync.Proofs.Json.Spelling`: the texts that spell a value

`Spells` is the grammar of JSON: which texts spell which value. Blanks may stand around each value,
each name and each sign between them, a character of a string may stand for itself or be escaped,
and a number may have a fraction and an exponent. Half of a surrogate pair may be escaped, too,
although it stands for no character; the string is then spelled, but cannot be read.

The main statement is `Says.readDocument_eq`: a text that spells a value between blanks is read as
this value, with nothing wrong behind it. The parts are read whatever stands behind them, with one
exception. A number goes on as long as there are digits, a point or an exponent, so behind a value
there has to be something else (`Stops`), as there is in arrays and objects.
-/

set_option autoImplicit false

namespace ImageSync.Json

open Text (hexValue? joinWith)

/-! ### Strings -/

/-- Four hexadecimal digits spell a code. -/
inductive SpellsCode : List Char → Nat → Prop where
  | digits {a b c d : Char} {i j k l : Nat} (ha : hexValue? a = some i)
      (hb : hexValue? b = some j) (hc : hexValue? c = some k) (hd : hexValue? d = some l) :
      SpellsCode [a, b, c, d] (((i * 16 + j) * 16 + k) * 16 + l)

/-- A code is the first half of a surrogate pair. -/
def IsHigh (n : Nat) : Prop := 0xD800 ≤ n ∧ n ≤ 0xDBFF

/-- A code is the second half of a surrogate pair. -/
def IsLow (n : Nat) : Prop := 0xDC00 ≤ n ∧ n ≤ 0xDFFF

instance (n : Nat) : Decidable (IsHigh n) := inferInstanceAs (Decidable (_ ∧ _))

instance (n : Nat) : Decidable (IsLow n) := inferInstanceAs (Decidable (_ ∧ _))

/-- The text between two quotes spells some characters, or cannot be read as such. -/
inductive SpellsText : List Char → Except Fault (List Char) → Prop where
  | nil : SpellsText [] (.ok [])
  | plain {c : Char} {cs : List Char} {t : Except Fault (List Char)} (hquote : c ≠ '"')
      (hbackslash : c ≠ '\\') (hcontrol : 0x20 ≤ c.toNat) (h : SpellsText cs t) :
      SpellsText (c :: cs) (t.map (c :: ·))
  | escape {c v : Char} {cs : List Char} {t : Except Fault (List Char)}
      (hv : escapeValue? c = some v) (h : SpellsText cs t) :
      SpellsText ('\\' :: c :: cs) (t.map (v :: ·))
  | code {ds cs : List Char} {n : Nat} {t : Except Fault (List Char)} (hcode : SpellsCode ds n)
      (hhigh : ¬IsHigh n) (hlow : ¬IsLow n) (h : SpellsText cs t) :
      SpellsText ('\\' :: 'u' :: (ds ++ cs)) (t.map (Char.ofNat n :: ·))
  | pair {ds ds' cs : List Char} {n m : Nat} {t : Except Fault (List Char)}
      (hcode : SpellsCode ds n) (hhigh : IsHigh n) (hcode' : SpellsCode ds' m) (hlow : IsLow m)
      (h : SpellsText cs t) :
      SpellsText ('\\' :: 'u' :: (ds ++ '\\' :: 'u' :: (ds' ++ cs)))
        (t.map (Char.ofNat (0x10000 + (n - 0xD800) * 0x400 + (m - 0xDC00)) :: ·))
  /-- The second half of a pair without the first one. -/
  | low {ds cs : List Char} {n : Nat} {t : Except Fault (List Char)} (hcode : SpellsCode ds n)
      (hlow : IsLow n) (h : SpellsText cs t) :
      SpellsText ('\\' :: 'u' :: (ds ++ cs)) (.error .malformed)
  /-- The first half of a pair without the second one. -/
  | high {ds cs : List Char} {n : Nat} {t : Except Fault (List Char)} (hcode : SpellsCode ds n)
      (hhigh : IsHigh n) (h : SpellsText cs t)
      (halone : ∀ ds' m r, cs = '\\' :: 'u' :: (ds' ++ r) → SpellsCode ds' m → ¬IsLow m) :
      SpellsText ('\\' :: 'u' :: (ds ++ cs)) (.error .malformed)

/-- What stands for a character when a text is quoted spells this character. -/
theorem SpellsText.escaped {cs : List Char} {t : Except Fault (List Char)} (h : SpellsText cs t)
    (c : Char) : SpellsText (escapeChar c ++ cs) (t.map (c :: ·)) := by
  unfold escapeChar
  -- The first seven characters have an escape of their own.
  iterate 7
    split
    · next heq =>
      subst heq
      exact h.escape rfl
  split
  · next hcontrol =>
    have hzero : hexValue? '0' = some 0 := rfl
    have hcode := SpellsCode.digits hzero hzero
      (Text.hexValue?_hexDigit (show c.toNat / 16 < 16 by omega))
      (Text.hexValue?_hexDigit (show c.toNat % 16 < 16 by omega))
    rw [show ((0 * 16 + 0) * 16 + c.toNat / 16) * 16 + c.toNat % 16 = c.toNat by omega] at hcode
    have hspelled := h.code hcode (fun hhigh => absurd hhigh.1 (by omega))
      fun hlow => absurd hlow.1 (by omega)
    rwa [Char.ofNat_toNat] at hspelled
  · next hquote hbackslash _ _ _ _ _ hcontrol =>
    exact h.plain hquote hbackslash (Nat.le_of_not_lt hcontrol)

/-- A text is spelled by what stands for its characters. -/
theorem spellsText_escaped (cs : List Char) : SpellsText (cs.flatMap escapeChar) (.ok cs) := by
  induction cs with
  | nil => exact .nil
  | cons c cs ih => exact ih.escaped c

/-- Four digits are read as their code, whatever stands behind them. -/
theorem SpellsCode.readFour_eq {ds : List Char} {n : Nat} (h : SpellsCode ds n)
    (rest : List Char) : readFour (ds ++ rest) = .ok (n, rest) := by
  cases h with
  | digits ha hb hc hd => simp only [List.cons_append, List.nil_append, readFour, ha, hb, hc, hd]

/-- A code that is no first half of a pair stands for a character, or is a second half alone. -/
theorem readUnit_code {cs : List Char} {n : Nat} {rest : List Char}
    (h : readFour cs = .ok (n, rest)) (hhigh : ¬IsHigh n) :
    readUnit ('u' :: cs) =
      .ok ⟨if IsLow n then .error .malformed else .ok (Char.ofNat n), rest⟩ := by
  rw [readUnit, h]
  show (if IsLow n then pure _ else if IsHigh n then _ else pure _ : Except Fault Unit) = _
  rw [if_neg hhigh]
  split <;> rfl

/-- The first half of a pair needs the second one. Without it, what stands behind is not consumed.
-/
theorem readUnit_high {cs : List Char} {n : Nat} {rest : List Char}
    (h : readFour cs = .ok (n, rest)) (hhigh : IsHigh n) :
    readUnit ('u' :: cs) =
      match readLowSurrogate rest with
      | .error f => .ok ⟨.error f, rest⟩
      | .ok (m, rest') =>
        .ok ⟨.ok (Char.ofNat (0x10000 + (n - 0xD800) * 0x400 + (m - 0xDC00))), rest'⟩ := by
  have hlow : ¬IsLow n := fun hlow => absurd (Nat.le_trans hlow.1 hhigh.2) (by decide)
  rw [readUnit, h]
  show (if IsLow n then pure _ else if IsHigh n then _ else pure _ : Except Fault Unit) = _
  rw [if_neg hlow, if_pos hhigh]
  rfl

/-- An escaped code behind the first half of a pair has to be a second half. -/
theorem readLowSurrogate_code {cs : List Char} {m : Nat} {rest : List Char}
    (h : readFour cs = .ok (m, rest)) :
    readLowSurrogate ('\\' :: 'u' :: cs) =
      if IsLow m then .ok (m, rest) else .error .malformed := by
  rw [readLowSurrogate, h]
  rfl

/-- What is spelled behind the first half of a pair is its second half, or something malformed. -/
theorem readLowSurrogate_spelled {cs : List Char} {t : Except Fault (List Char)}
    (h : SpellsText cs t)
    (halone : ∀ ds m r, cs = '\\' :: 'u' :: (ds ++ r) → SpellsCode ds m → ¬IsLow m)
    (rest : List Char) : readLowSurrogate (cs ++ '"' :: rest) = .error .malformed := by
  -- Only another escape by number could be the second half, and `halone` says that it is none.
  have hcoded : ∀ {ds r : List Char} {m : Nat}, SpellsCode ds m →
      cs = '\\' :: 'u' :: (ds ++ r) → readLowSurrogate (cs ++ '"' :: rest) = .error .malformed := by
    rintro ds r m hcode rfl
    rw [List.cons_append, List.cons_append, List.append_assoc,
      readLowSurrogate_code (hcode.readFour_eq _), if_neg (halone _ _ _ rfl hcode)]
  cases h with
  | nil => rfl
  | plain hquote hbackslash hcontrol h =>
    unfold readLowSurrogate
    split
    · next heq => cases heq
    · next heq => exact absurd (List.cons.inj heq).1 hbackslash
    · next heq => exact absurd (List.cons.inj heq).1 hbackslash
    · rfl
  | escape hv h =>
    unfold readLowSurrogate
    split
    · next heq => cases heq
    · next heq => simp at heq
    · next heq =>
      cases heq
      cases hv
    · rfl
  | code hcode hhigh hlow h => exact hcoded hcode rfl
  | pair hcode hhigh hcode' hlow h => exact hcoded hcode rfl
  | low hcode hlow h => exact hcoded hcode rfl
  | high hcode hhigh h halone => exact hcoded hcode rfl

/-- One escape is read in one step. -/
theorem readTextSteps_unit {n : Nat} {cs : List Char} {u : Unit} (h : readUnit cs = .ok u) :
    readTextSteps (n + 1) ('\\' :: cs) =
      (u.value.bind fun v => (readTextSteps n u.rest).1.map (v :: ·),
        (readTextSteps n u.rest).2) := by
  rw [readTextSteps, if_neg (by decide), if_pos rfl, h]

/-- What is spelled is read up to the closing quote. -/
theorem readTextSteps_spelled {cs : List Char} {t : Except Fault (List Char)}
    (h : SpellsText cs t) {n : Nat} (hn : cs.length < n) (rest : List Char) :
    readTextSteps n (cs ++ '"' :: rest) = (t, .ok rest) := by
  -- The induction is on the spelling: each of its steps is one of the reader.
  induction h generalizing n with
  | nil =>
    obtain ⟨n, rfl⟩ := Nat.exists_eq_add_one_of_ne_zero (Nat.ne_of_gt hn)
    rfl
  | @plain c cs t hquote hbackslash hcontrol h ih =>
    obtain ⟨n, rfl⟩ := Nat.exists_eq_add_one_of_ne_zero (Nat.ne_of_gt (Nat.zero_lt_of_lt hn))
    rw [List.cons_append, readTextSteps, if_neg hquote, if_neg hbackslash,
      if_neg (Nat.not_lt.2 hcontrol), ih (Nat.lt_of_succ_lt_succ hn)]
  | @escape c v cs t hv h ih =>
    obtain ⟨n, rfl⟩ := Nat.exists_eq_add_one_of_ne_zero (Nat.ne_of_gt (Nat.zero_lt_of_lt hn))
    have hunit : readUnit (c :: (cs ++ '"' :: rest)) = .ok ⟨.ok v, cs ++ '"' :: rest⟩ := by
      unfold readUnit
      split
      · next heq => cases heq
      · next heq =>
        cases heq
        cases hv
      · next heq =>
        cases heq
        rw [hv]
    rw [List.cons_append, List.cons_append, readTextSteps_unit hunit,
      ih (by simp only [List.length_cons] at hn; omega)]
    rfl
  | @code ds cs m t hcode hhigh hlow h ih =>
    obtain ⟨n, rfl⟩ := Nat.exists_eq_add_one_of_ne_zero (Nat.ne_of_gt (Nat.zero_lt_of_lt hn))
    have hunit := readUnit_code (hcode.readFour_eq (cs ++ '"' :: rest)) hhigh
    rw [if_neg hlow] at hunit
    rw [List.cons_append, List.cons_append, List.append_assoc, readTextSteps_unit hunit,
      ih (by simp only [List.length_cons, List.length_append] at hn; omega)]
    rfl
  | @pair ds ds' cs m k t hcode hhigh hcode' hlow h ih =>
    obtain ⟨n, rfl⟩ := Nat.exists_eq_add_one_of_ne_zero (Nat.ne_of_gt (Nat.zero_lt_of_lt hn))
    have hunit := readUnit_high
      (hcode.readFour_eq ('\\' :: 'u' :: (ds' ++ (cs ++ '"' :: rest)))) hhigh
    rw [readLowSurrogate_code (hcode'.readFour_eq _), if_pos hlow] at hunit
    simp only [List.cons_append, List.append_assoc]
    rw [readTextSteps_unit hunit,
      ih (by simp only [List.length_cons, List.length_append] at hn; omega)]
    rfl
  | @low ds cs m t hcode hlow h ih =>
    obtain ⟨n, rfl⟩ := Nat.exists_eq_add_one_of_ne_zero (Nat.ne_of_gt (Nat.zero_lt_of_lt hn))
    have hhigh : ¬IsHigh m := fun hhigh => absurd (Nat.le_trans hlow.1 hhigh.2) (by decide)
    have hunit := readUnit_code (hcode.readFour_eq (cs ++ '"' :: rest)) hhigh
    rw [if_pos hlow] at hunit
    rw [List.cons_append, List.cons_append, List.append_assoc, readTextSteps_unit hunit,
      ih (by simp only [List.length_cons, List.length_append] at hn; omega)]
    rfl
  | @high ds cs m t hcode hhigh h halone ih =>
    obtain ⟨n, rfl⟩ := Nat.exists_eq_add_one_of_ne_zero (Nat.ne_of_gt (Nat.zero_lt_of_lt hn))
    have hunit := readUnit_high (hcode.readFour_eq (cs ++ '"' :: rest)) hhigh
    rw [readLowSurrogate_spelled h halone] at hunit
    rw [List.cons_append, List.cons_append, List.append_assoc, readTextSteps_unit hunit,
      ih (by simp only [List.length_cons, List.length_append] at hn; omega)]
    rfl

/-- A string is read as the characters it spells, up to the closing quote. -/
theorem readText_spelled {cs : List Char} {t : Except Fault (List Char)} (h : SpellsText cs t)
    (rest : List Char) :
    readText (cs ++ '"' :: rest) = (t.map String.ofList, .ok rest) := by
  have hsteps : cs.length < (cs ++ '"' :: rest).length + 1 := by
    rw [List.length_append]
    omega
  rw [readText, readTextSteps_spelled h hsteps]

/-! ### Numbers -/

/-- One digit or more. -/
def Digits (cs : List Char) : Prop := cs ≠ [] ∧ ∀ c ∈ cs, c.isDigit = true

instance (cs : List Char) : Decidable (Digits cs) :=
  decidable_of_iff (cs ≠ [] ∧ cs.all Char.isDigit = true) (and_congr_right' List.all_eq_true)

/-- What may stand behind the integer of a number. -/
inductive SpellsFraction : List Char → Option (List Char) → Prop where
  | none : SpellsFraction [] none
  | some {ds : List Char} (h : Digits ds) : SpellsFraction ('.' :: ds) (some ds)

/-- What may stand at the end of a number. -/
inductive SpellsExponent : List Char → Option (Bool × List Char) → Prop where
  | none : SpellsExponent [] none
  | bare {e : Char} {ds : List Char} (he : e = 'e' ∨ e = 'E') (h : Digits ds) :
      SpellsExponent (e :: ds) (some (false, ds))
  | plus {e : Char} {ds : List Char} (he : e = 'e' ∨ e = 'E') (h : Digits ds) :
      SpellsExponent (e :: '+' :: ds) (some (false, ds))
  | minus {e : Char} {ds : List Char} (he : e = 'e' ∨ e = 'E') (h : Digits ds) :
      SpellsExponent (e :: '-' :: ds) (some (true, ds))

/-- A text spells a number. -/
inductive SpellsNumber : List Char → NumberText → Prop where
  | parts {whole fs es : List Char} {fraction : Option (List Char)}
      {exponent : Option (Bool × List Char)} (negative : Bool) (hwhole : Digits whole)
      (hzero : whole.head? = some '0' → whole = ['0']) (hfraction : SpellsFraction fs fraction)
      (hexponent : SpellsExponent es exponent) :
      SpellsNumber ((if negative then ['-'] else []) ++ (whole ++ (fs ++ es)))
        ⟨negative, whole, fraction, exponent⟩

/-- What is read of a number. -/
def NumberText.read (t : NumberText) : Except Fault Number :=
  match t.value? with
  | some n => .ok n
  | none => .error .malformed

/-- What stands here does not go on with a number. -/
def Stops (rest : List Char) : Prop :=
  ∀ c, rest.head? = some c → c.isDigit = false ∧ c ≠ '.' ∧ c ≠ 'e' ∧ c ≠ 'E'

/-- At the end of a text no number goes on. -/
theorem stops_nil : Stops [] := nofun

/-- A number does not go on with a character that is no digit, no point and no exponent. -/
theorem stops_cons {c : Char} (h : c.isDigit = false ∧ c ≠ '.' ∧ c ≠ 'e' ∧ c ≠ 'E')
    (rest : List Char) : Stops (c :: rest) := by
  rintro _ ⟨⟩
  exact h

section Numbers

variable {cs rest : List Char}

/-- Digits are read up to the first character that is none. -/
theorem spanDigits_append (hcs : ∀ c ∈ cs, c.isDigit = true)
    (hrest : ∀ c, rest.head? = some c → c.isDigit = false) :
    spanDigits (cs ++ rest) = (cs, rest) := by
  rw [spanDigits, (Text.span_eq hcs hrest).1, (Text.span_eq hcs hrest).2]

/-- The integer of a number is read. It has no leading zero, so no digit behind a zero is missed. -/
theorem scanWhole_append (hcs : Digits cs) (hzero : cs.head? = some '0' → cs = ['0'])
    (hrest : ∀ c, rest.head? = some c → c.isDigit = false) :
    scanWhole (cs ++ rest) = .ok (cs, rest) := by
  obtain ⟨c, r, rfl⟩ := List.exists_cons_of_ne_nil hcs.1
  rw [scanWhole, spanDigits_append hcs.2 hrest]
  dsimp only
  split
  · next heq => cases heq
  · next heq =>
    cases heq
    cases hzero rfl
  · rfl

/-- The fraction of a number is read, if there is one. -/
theorem scanFraction_append {fraction : Option (List Char)} (h : SpellsFraction cs fraction)
    (hrest : ∀ c, rest.head? = some c → c.isDigit = false ∧ c ≠ '.') :
    scanFraction (cs ++ rest) = .ok (fraction, rest) := by
  cases h with
  | none =>
    unfold scanFraction
    split
    · next heq =>
      rw [List.nil_append] at heq
      exact absurd rfl (hrest '.' (by rw [heq]; rfl)).2
    · rfl
  | some hds =>
    rw [List.cons_append, scanFraction, spanDigits_append hds.2 fun c hc => (hrest c hc).1]
    dsimp only
    rw [if_neg (fun hempty => hds.1 (List.isEmpty_iff.1 hempty))]

/-- The sign of an exponent may be left out. -/
theorem scanExponent_append {exponent : Option (Bool × List Char)}
    (h : SpellsExponent cs exponent) (hrest : Stops rest) :
    scanExponent (cs ++ rest) = .ok (exponent, rest) := by
  have hdigits : ∀ {ds : List Char}, Digits ds → spanDigits (ds ++ rest) = (ds, rest) :=
    fun hds => spanDigits_append hds.2 fun c hc => (hrest c hc).1
  have hsome : ∀ {ds : List Char}, Digits ds → ¬ds.isEmpty = true :=
    fun hds hempty => hds.1 (List.isEmpty_iff.1 hempty)
  cases h with
  | none =>
    cases rest with
    | nil => rfl
    | cons c r =>
      obtain ⟨-, -, he, hE⟩ := hrest c rfl
      unfold scanExponent
      rw [List.nil_append]
      dsimp only
      rw [if_neg (by simp [he, hE])]
  | @bare e ds he hds =>
    -- Without a sign the first digit stands where a sign could, and it is none.
    obtain ⟨d, r, rfl⟩ := List.exists_cons_of_ne_nil hds.1
    have hdigit : d.isDigit = true := hds.2 d List.mem_cons_self
    have hminus : d ≠ '-' := by
      rintro rfl
      cases hdigit
    have hplus : d ≠ '+' := by
      rintro rfl
      cases hdigit
    have hspan := hdigits hds
    rw [List.cons_append] at hspan
    unfold scanExponent
    rw [List.cons_append, List.cons_append]
    dsimp only
    rw [if_pos he]
    split
    · next heq => exact absurd (List.cons.inj heq).1 hminus
    · next heq => exact absurd (List.cons.inj heq).1 hplus
    · rw [hspan]
      dsimp only
      rw [if_neg (hsome hds)]
  | plus he hds =>
    rw [List.cons_append, List.cons_append, scanExponent, if_pos he]
    simp only [hdigits hds]
    rw [if_neg (hsome hds)]
  | minus he hds =>
    rw [List.cons_append, List.cons_append, scanExponent, if_pos he]
    simp only [hdigits hds]
    rw [if_neg (hsome hds)]

/-- An exponent starts with its letter. -/
theorem head?_exponent {exponent : Option (Bool × List Char)} (h : SpellsExponent cs exponent)
    (hrest : Stops rest) :
    ∀ c, (cs ++ rest).head? = some c → c.isDigit = false ∧ c ≠ '.' := by
  have hletter : ∀ {e : Char}, e = 'e' ∨ e = 'E' → e.isDigit = false ∧ e ≠ '.' := by
    rintro e (rfl | rfl) <;> decide
  intro c hc
  cases h with
  | none => exact ⟨(hrest c hc).1, (hrest c hc).2.1⟩
  | bare he hds =>
    cases hc
    exact hletter he
  | plus he hds =>
    cases hc
    exact hletter he
  | minus he hds =>
    cases hc
    exact hletter he

/-- A fraction starts with its point. -/
theorem head?_fraction {fraction : Option (List Char)} (h : SpellsFraction cs fraction)
    (hrest : ∀ c, rest.head? = some c → c.isDigit = false) :
    ∀ c, (cs ++ rest).head? = some c → c.isDigit = false := by
  intro c hc
  cases h with
  | none => exact hrest c hc
  | some hds =>
    cases hc
    decide

/-- The text of a number is cut into its parts, up to something that does not go on with it. -/
theorem scanNumber_spelled {t : NumberText} (h : SpellsNumber cs t) (hrest : Stops rest) :
    scanNumber (cs ++ rest) = .ok (t, rest) := by
  cases h with
  | @parts whole fs es fraction exponent negative hwhole hzero hfraction hexponent =>
    have hbehind := head?_exponent hexponent hrest
    have hparts : (scanWhole (whole ++ (fs ++ (es ++ rest))) >>= fun p =>
        scanFraction p.2 >>= fun q => scanExponent q.2 >>= fun r =>
          pure ((⟨negative, p.1, q.1, r.1⟩, r.2) : NumberText × List Char)) =
        .ok (⟨negative, whole, fraction, exponent⟩, rest) := by
      rw [scanWhole_append hwhole hzero
        (head?_fraction hfraction fun c hc => (hbehind c hc).1)]
      dsimp only [bind, Except.bind]
      rw [scanFraction_append hfraction hbehind]
      dsimp only
      rw [scanExponent_append hexponent hrest]
      rfl
    -- The minus sign is cut off first. Without one, the text starts with a digit.
    cases negative with
    | true =>
      simp only [if_true, List.append_assoc, List.cons_append, List.nil_append]
      exact hparts
    | false =>
      simp only [Bool.false_eq_true, if_false, List.append_assoc, List.nil_append]
      obtain ⟨d, r, hd⟩ := List.exists_cons_of_ne_nil hwhole.1
      have hdigit : d.isDigit = true := hwhole.2 d (by rw [hd]; exact List.mem_cons_self)
      unfold scanNumber
      split
      next heq =>
        split at heq
        · next heq' =>
          rw [hd] at heq'
          cases heq'
          cases hdigit
        · cases heq
          exact hparts

/-- A number is read as what its text stands for. -/
theorem readNumber_spelled {t : NumberText} (h : SpellsNumber cs t) (hrest : Stops rest) :
    readNumber (cs ++ rest) = (t.read, .ok rest) := by
  rw [readNumber, scanNumber_spelled h hrest, NumberText.read]
  dsimp only
  cases t.value? <;> rfl

/-- A number starts with a digit or a minus sign. -/
theorem SpellsNumber.exists_cons {t : NumberText} (h : SpellsNumber cs t) :
    ∃ c r, cs = c :: r ∧ (c = '-' ∨ c.isDigit = true) := by
  cases h with
  | @parts whole fs es fraction exponent negative hwhole hzero hfraction hexponent =>
    cases negative with
    | true => exact ⟨'-', _, rfl, .inl rfl⟩
    | false =>
      obtain ⟨d, r, rfl⟩ := List.exists_cons_of_ne_nil hwhole.1
      exact ⟨d, _, rfl, .inr (hwhole.2 d List.mem_cons_self)⟩

end Numbers

/-! ### Values -/

/-- Blanks between the parts of a text. -/
def Blanks (cs : List Char) : Prop := ∀ c ∈ cs, isSpace c = true

instance (cs : List Char) : Decidable (Blanks cs) :=
  decidable_of_iff (cs.all isSpace = true) List.all_eq_true

/-- A place for a value: the text of the value between blanks. -/
structure Slot where
  before : List Char
  core : List Char
  after : List Char
  value : Value
  blanks_before : Blanks before
  blanks_after : Blanks after

/-- The text at a place. -/
def Slot.chars (s : Slot) : List Char := s.before ++ (s.core ++ s.after)

/-- A place for a member of an object: the text of its name between quotes, with blanks around
them, and a place for its value. -/
structure MemberSlot where
  before : List Char
  spelling : List Char
  between : List Char
  slot : Slot
  key : Except Fault (List Char)
  blanks_before : Blanks before
  blanks_between : Blanks between
  spelled : SpellsText spelling key

/-- A place without blanks. -/
def Slot.bare (core : List Char) (value : Value) : Slot :=
  ⟨[], core, [], value, nofun, nofun⟩

/-- A place for a member whose name is quoted, without blanks. -/
def MemberSlot.quoted (name : String) (slot : Slot) : MemberSlot :=
  ⟨[], name.toList.flatMap escapeChar, [], slot, .ok name.toList, nofun, nofun,
    spellsText_escaped _⟩

/-- The text at a place for a member. -/
def MemberSlot.chars (m : MemberSlot) : List Char :=
  m.before ++ '"' :: (m.spelling ++ '"' :: (m.between ++ ':' :: m.slot.chars))

/-- The member at its place. -/
def MemberSlot.member (m : MemberSlot) : Except Fault String × Value :=
  (m.key.map String.ofList, m.slot.value)

/-- A text spells a value. -/
inductive Spells : List Char → Value → Prop where
  | null : Spells "null".toList .null
  | bool (b : Bool) : Spells (toString b).toList (.bool b)
  | number {cs : List Char} {t : NumberText} (h : SpellsNumber cs t) : Spells cs (.number t.read)
  | text {cs : List Char} {t : Except Fault (List Char)} (h : SpellsText cs t) :
      Spells ('"' :: (cs ++ ['"'])) (.text (t.map String.ofList))
  | noItems {blanks : List Char} (hblanks : Blanks blanks) :
      Spells ('[' :: (blanks ++ [']'])) (.array [] none)
  | array {items : List Slot} (hne : items ≠ []) (h : ∀ s ∈ items, Spells s.core s.value) :
      Spells ('[' :: (joinWith ',' (items.map Slot.chars) ++ [']']))
        (.array (items.map Slot.value) none)
  | noMembers {blanks : List Char} (hblanks : Blanks blanks) :
      Spells ('\x7b' :: (blanks ++ ['\x7d'])) (.object [] none)
  | object {members : List MemberSlot} (hne : members ≠ [])
      (h : ∀ m ∈ members, Spells m.slot.core m.slot.value) :
      Spells ('\x7b' :: (joinWith ',' (members.map MemberSlot.chars) ++ ['\x7d']))
        (.object (members.map MemberSlot.member) none)

/-- A text says a value: it spells the value between blanks, and nothing else. -/
def Says (cs : List Char) (v : Value) : Prop :=
  ∃ s : Slot, cs = s.chars ∧ s.value = v ∧ Spells s.core v

/-- A text that spells a value says it, without blanks around it. -/
theorem says_of_spells {cs : List Char} {v : Value} (h : Spells cs v) : Says cs v :=
  ⟨.bare cs v, (List.append_nil cs).symm, rfl, h⟩

/-- A text is read as a value, whatever stands behind it that does not go on with a number. -/
def Reads (cs : List Char) (v : Value) : Prop :=
  ∀ n rest, cs.length ≤ n → Stops rest → readValue n (cs ++ rest) = (v, .ok rest)

/-- A text is spelled by the string it is written as. -/
theorem spells_quote (cs : List Char) : Spells (quote cs) (.text (.ok (String.ofList cs))) :=
  .text (spellsText_escaped cs)

/-! ### Texts without blanks -/

/-- The text at a place without blanks is that of its value. -/
theorem Slot.chars_bare (core : List Char) (v : Value) : (Slot.bare core v).chars = core :=
  List.append_nil core

/-- A member without blanks is its quoted name, a colon and the text of its value. -/
theorem MemberSlot.chars_quoted (name : String) (core : List Char) (v : Value) :
    (MemberSlot.quoted name (.bare core v)).chars = quote name.toList ++ ':' :: core := by
  simp [MemberSlot.chars, MemberSlot.quoted, Slot.chars_bare, quote]

/-- A member whose name is quoted has this name. -/
theorem MemberSlot.member_quoted (name : String) (slot : Slot) :
    (MemberSlot.quoted name slot).member = (.ok name, slot.value) := by
  simp [MemberSlot.member, MemberSlot.quoted, Except.map]

/-- Texts that spell values spell the array of these, in brackets and with commas between them. -/
theorem spells_items {items : List (List Char × Value)} (h : ∀ i ∈ items, Spells i.1 i.2) :
    Spells ('[' :: joinWith ',' (items.map Prod.fst) ++ [']'])
      (.array (items.map Prod.snd) none) := by
  cases items with
  | nil => exact @Spells.noItems [] nofun
  | cons item items =>
    let slots := (item :: items).map fun i => Slot.bare i.1 i.2
    have hne : slots ≠ [] := List.cons_ne_nil _ _
    have hslots : ∀ s ∈ slots, Spells s.core s.value := List.forall_mem_map.2 h
    have hchars : slots.map Slot.chars = (item :: items).map Prod.fst := by
      rw [List.map_map]
      exact List.map_congr_left fun i _ => Slot.chars_bare i.1 i.2
    have hvalues : slots.map Slot.value = (item :: items).map Prod.snd := List.map_map
    have harray := Spells.array hne hslots
    rwa [hchars, hvalues] at harray

/-! ### Blanks -/

section Blanks

/-- A character that is no blank is not skipped. -/
theorem skipSpaces_cons {c : Char} (hc : isSpace c = false) (r : List Char) :
    skipSpaces (c :: r) = c :: r := by
  simp [skipSpaces, hc]

variable {blanks cs : List Char}

/-- Blanks are skipped. -/
theorem skipSpaces_append (h : Blanks blanks) (cs : List Char) :
    skipSpaces (blanks ++ cs) = skipSpaces cs :=
  List.dropWhile_append_of_pos h

/-- Behind a value, blanks count as little as a sign does. -/
theorem stops_append (h : Blanks blanks) (hcs : Stops cs) : Stops (blanks ++ cs) := by
  cases blanks with
  | nil => exact hcs
  | cons b blanks =>
    refine stops_cons ?_ _
    have hspace := h b List.mem_cons_self
    simp only [isSpace, Bool.or_eq_true, beq_iff_eq] at hspace
    rcases hspace with ((rfl | rfl) | rfl) | rfl <;> decide

/-- Blanks in front of a value do not count. -/
theorem readValue_skipSpaces {cs' : List Char} (h : skipSpaces cs = skipSpaces cs') (n : Nat) :
    readValue n cs = readValue n cs' := by
  cases n with
  | zero => rfl
  | succ n => rw [readValue, readValue, h]

/-- Blanks in front of the items of an array do not count. -/
theorem readItems_skipSpaces {cs' : List Char} (h : skipSpaces cs = skipSpaces cs') (n : Nat) :
    readItems n cs = readItems n cs' := by
  cases n with
  | zero => rfl
  | succ n => rw [readItems, readItems, readValue_skipSpaces h]

/-- Blanks in front of the members of an object do not count. -/
theorem readMembers_skipSpaces {cs' : List Char} (h : skipSpaces cs = skipSpaces cs') (n : Nat) :
    readMembers n cs = readMembers n cs' := by
  cases n with
  | zero => rfl
  | succ n => rw [readMembers, readMembers, h]

end Blanks

/-- What is spelled starts with no blank, and closes no array. -/
theorem Spells.exists_cons {cs : List Char} {v : Value} (h : Spells cs v) :
    ∃ c r, cs = c :: r ∧ isSpace c = false ∧ c ≠ ']' := by
  cases h with
  | number h =>
    obtain ⟨c, r, rfl, hc⟩ := h.exists_cons
    refine ⟨c, r, rfl, ?_, ?_⟩
    · rw [← Bool.not_eq_true]
      intro hspace
      simp only [isSpace, Bool.or_eq_true, beq_iff_eq] at hspace
      rcases hspace with ((rfl | rfl) | rfl) | rfl <;> revert hc <;> decide
    · rintro rfl
      revert hc
      decide
  | bool b => cases b <;> exact ⟨_, _, rfl, rfl, by decide⟩
  | _ => exact ⟨_, _, rfl, rfl, by decide⟩

/-! ### Reading what is spelled -/

section Read

variable {n : Nat} {cs rest : List Char}

/-- A value is read at its place, up to the sign behind it. -/
theorem readValue_slot {s : Slot} (hread : Reads s.core s.value) (hn : s.core.length ≤ n)
    (hrest : Stops rest) :
    readValue n (s.chars ++ rest) = (s.value, .ok (s.after ++ rest)) := by
  rw [Slot.chars, List.append_assoc, List.append_assoc,
    readValue_skipSpaces (skipSpaces_append s.blanks_before _)]
  exact hread n _ hn (stops_append s.blanks_after hrest)

/-- A value is no longer than the text at its place. -/
theorem length_core_le (s : Slot) : s.core.length ≤ s.chars.length := by
  simp only [Slot.chars, List.length_append]
  omega

/-- The items of an array are read up to its closing bracket. -/
theorem readItems_slots {items : List Slot} (h : ∀ s ∈ items, Reads s.core s.value)
    (hitems : items ≠ []) (hn : (joinWith ',' (items.map Slot.chars)).length < n)
    (rest : List Char) :
    readItems n (joinWith ',' (items.map Slot.chars) ++ ']' :: rest) =
      (items.map Slot.value, .ok rest) := by
  -- By induction on the items: behind the last one stands the bracket, behind the others a comma.
  induction items generalizing n with
  | nil => exact absurd rfl hitems
  | cons item items ih =>
    obtain ⟨n, rfl⟩ := Nat.exists_eq_add_one_of_ne_zero (Nat.ne_of_gt (Nat.zero_lt_of_lt hn))
    have hitem := h item List.mem_cons_self
    have hcore := length_core_le item
    cases items with
    | nil =>
      have hlength : item.chars.length < n + 1 := hn
      have hread := readValue_slot hitem (n := n) (by omega)
        (stops_cons (c := ']') (by decide) rest)
      change readItems (n + 1) (item.chars ++ ']' :: rest) = _
      rw [readItems, hread]
      dsimp only
      rw [skipSpaces_append item.blanks_after, skipSpaces_cons rfl]
      rfl
    | cons next items =>
      have hjoin : joinWith ',' ((item :: next :: items).map Slot.chars) =
          item.chars ++ ',' :: joinWith ',' ((next :: items).map Slot.chars) := rfl
      rw [hjoin, List.length_append, List.length_cons] at hn
      have hread := readValue_slot hitem (n := n) (by omega) (stops_cons (c := ',') (by decide)
        (joinWith ',' ((next :: items).map Slot.chars) ++ ']' :: rest))
      have hrest := ih (fun s hs => h s (List.mem_cons_of_mem item hs))
        (List.cons_ne_nil _ _) (n := n) (by omega)
      have hcomma := skipSpaces_cons (c := ',') rfl
      rw [hjoin, List.append_assoc, List.cons_append, readItems, hread]
      simp only [skipSpaces_append item.blanks_after, hcomma, hrest]
      rfl

/-- A name is read at the place of its member, and then the value. -/
theorem readMembers_slot {m : MemberSlot} (hread : Reads m.slot.core m.slot.value)
    (hn : m.slot.core.length ≤ n) {sign : Char} (hsign : sign = ',' ∨ sign = '}')
    (rest : List Char) :
    readMembers (n + 1) (m.chars ++ sign :: rest) =
      if sign = ',' then (m.member :: (readMembers n rest).1, (readMembers n rest).2)
      else ([m.member], .ok rest) := by
  have hstops : Stops (sign :: rest) := by
    refine stops_cons ?_ rest
    rcases hsign with rfl | rfl <;> decide
  have hspace : isSpace sign = false := by rcases hsign with rfl | rfl <;> rfl
  have hvalue := readValue_slot hread hn hstops
  have hstart : skipSpaces (m.chars ++ sign :: rest) =
      '"' :: (m.spelling ++ '"' :: (m.between ++ ':' :: (m.slot.chars ++ sign :: rest))) := by
    simp only [MemberSlot.chars, List.append_assoc, List.cons_append]
    rw [skipSpaces_append m.blanks_before, skipSpaces_cons rfl]
  have hcolon := skipSpaces_cons (c := ':') rfl
  rw [readMembers, hstart]
  simp only [readText_spelled m.spelled, skipSpaces_append m.blanks_between, hcolon, hvalue,
    skipSpaces_append m.slot.blanks_after, skipSpaces_cons hspace]
  rcases hsign with rfl | rfl <;> rfl

/-- A value is shorter than the text at the place of its member, which has quotes and a colon
besides. -/
theorem length_core_lt (m : MemberSlot) : m.slot.core.length < m.chars.length := by
  have hcore := length_core_le m.slot
  simp only [MemberSlot.chars, List.length_append, List.length_cons]
  omega

/-- The members of an object are read up to its closing brace. -/
theorem readMembers_slots {members : List MemberSlot}
    (h : ∀ m ∈ members, Reads m.slot.core m.slot.value) (hmembers : members ≠ [])
    (hn : (joinWith ',' (members.map MemberSlot.chars)).length < n) (rest : List Char) :
    readMembers n (joinWith ',' (members.map MemberSlot.chars) ++ '\x7d' :: rest) =
      (members.map MemberSlot.member, .ok rest) := by
  -- By induction on the members, in the same way.
  induction members generalizing n with
  | nil => exact absurd rfl hmembers
  | cons m members ih =>
    obtain ⟨n, rfl⟩ := Nat.exists_eq_add_one_of_ne_zero (Nat.ne_of_gt (Nat.zero_lt_of_lt hn))
    have hmember := h m List.mem_cons_self
    have hcore := length_core_lt m
    cases members with
    | nil =>
      have hlength : m.chars.length < n + 1 := hn
      exact readMembers_slot hmember (by omega) (.inr rfl) rest
    | cons next members =>
      have hjoin : joinWith ',' ((m :: next :: members).map MemberSlot.chars) =
          m.chars ++ ',' :: joinWith ',' ((next :: members).map MemberSlot.chars) := rfl
      rw [hjoin, List.length_append, List.length_cons] at hn
      rw [hjoin, List.append_assoc, List.cons_append,
        readMembers_slot hmember (by omega) (.inl rfl), if_pos rfl,
        ih (fun s hs => h s (List.mem_cons_of_mem m hs)) (List.cons_ne_nil _ _) (by omega)]
      rfl

/-- Text that is put together from pieces starts as the first of these does. -/
theorem joinWith_cons_append (sep : Char) (piece : List Char) (pieces : List (List Char))
    (rest : List Char) : ∃ r, joinWith sep (piece :: pieces) ++ rest = piece ++ r := by
  cases pieces with
  | nil => exact ⟨rest, rfl⟩
  | cons next pieces => exact ⟨_, List.append_assoc ..⟩

/-- A text that is not empty is read with a step at least. -/
theorem reads_of_succ {v : Value} (hne : cs ≠ [])
    (h : ∀ n rest, cs.length ≤ n + 1 → Stops rest →
      readValue (n + 1) (cs ++ rest) = (v, .ok rest)) : Reads cs v := by
  intro n rest hn hrest
  cases n with
  | zero => exact absurd (List.length_eq_zero_iff.1 (Nat.le_zero.1 hn)) hne
  | succ n => exact h n rest hn hrest

/-- A number is read to its end, as the rest does not go on with it. -/
theorem reads_number {t : NumberText} (h : SpellsNumber cs t) : Reads cs (.number t.read) := by
  obtain ⟨c, r, rfl, hc⟩ := h.exists_cons
  refine reads_of_succ (List.cons_ne_nil c r) fun n rest _ hrest => ?_
  have hread := readNumber_spelled h hrest
  obtain ⟨c', r', heq, hspace, -⟩ := (Spells.number h).exists_cons
  cases heq
  rw [List.cons_append] at hread ⊢
  rw [readValue, skipSpaces_cons hspace]
  dsimp only
  split
  case h_7 => rw [if_pos hc, hread]
  -- No other value starts with a digit or a minus sign.
  all_goals exact absurd hc (by decide)

/-- A text in quotes is read up to the closing one. -/
theorem reads_text {t : Except Fault (List Char)} (h : SpellsText cs t) :
    Reads ('"' :: (cs ++ ['"'])) (.text (t.map String.ofList)) := by
  refine reads_of_succ (List.cons_ne_nil _ _) fun n rest _ _ => ?_
  rw [List.cons_append, List.append_assoc, List.singleton_append, readValue, skipSpaces_cons rfl]
  simp only [readText_spelled h]

/-- Brackets with nothing but blanks between them are read as an array without items. -/
theorem reads_noItems {blanks : List Char} (hblanks : Blanks blanks) :
    Reads ('[' :: (blanks ++ [']'])) (.array [] none) := by
  refine reads_of_succ (List.cons_ne_nil _ _) fun n rest _ _ => ?_
  have hclose := skipSpaces_cons (c := ']') rfl
  rw [List.cons_append, List.append_assoc, List.singleton_append, readValue, skipSpaces_cons rfl]
  simp only [skipSpaces_append hblanks, hclose]

/-- Braces with nothing but blanks between them are read as an object without members. -/
theorem reads_noMembers {blanks : List Char} (hblanks : Blanks blanks) :
    Reads ('\x7b' :: (blanks ++ ['\x7d'])) (.object [] none) := by
  refine reads_of_succ (List.cons_ne_nil _ _) fun n rest _ _ => ?_
  have hclose := skipSpaces_cons (c := '\x7d') rfl
  rw [List.cons_append, List.append_assoc, List.singleton_append, readValue, skipSpaces_cons rfl]
  simp only [skipSpaces_append hblanks, hclose]

/-- An array with items is read as that of its items. -/
theorem reads_array {items : List Slot} (hne : items ≠ [])
    (h : ∀ s ∈ items, Reads s.core s.value) (hstart : ∀ s ∈ items, ∃ c r,
      s.core = c :: r ∧ isSpace c = false ∧ c ≠ ']') :
    Reads ('[' :: (joinWith ',' (items.map Slot.chars) ++ [']']))
      (.array (items.map Slot.value) none) := by
  refine reads_of_succ (List.cons_ne_nil _ _) fun n rest hn _ => ?_
  simp only [List.length_cons, List.length_append, List.length_nil] at hn
  have hread := readItems_slots h hne (n := n) (by omega) rest
  obtain ⟨first, items, rfl⟩ := List.exists_cons_of_ne_nil hne
  -- The first item starts with no blank, and does not close the array.
  obtain ⟨c, r, hcore, hspace, hclose⟩ := hstart first List.mem_cons_self
  obtain ⟨r', hjoin⟩ := joinWith_cons_append ',' first.chars (items.map Slot.chars) (']' :: rest)
  have hskip : skipSpaces (joinWith ',' ((first :: items).map Slot.chars) ++ ']' :: rest) =
      c :: (r ++ (first.after ++ r')) := by
    rw [List.map_cons, hjoin, Slot.chars, List.append_assoc, List.append_assoc,
      skipSpaces_append first.blanks_before, hcore, List.cons_append, skipSpaces_cons hspace]
  have hnone : skipSpaces (c :: (r ++ (first.after ++ r'))) =
      skipSpaces (joinWith ',' ((first :: items).map Slot.chars) ++ ']' :: rest) := by
    rw [hskip, skipSpaces_cons hspace]
  rw [← readItems_skipSpaces hnone] at hread
  rw [List.cons_append, List.append_assoc, List.singleton_append, readValue, skipSpaces_cons rfl]
  simp only [hskip]
  split
  · next heq => exact absurd (List.cons.inj heq).1 hclose
  · next heq => cases heq
  · rw [hread]
    rfl

/-- An object with members is read as that of its members. -/
theorem reads_object {members : List MemberSlot} (hne : members ≠ [])
    (h : ∀ m ∈ members, Reads m.slot.core m.slot.value) :
    Reads ('\x7b' :: (joinWith ',' (members.map MemberSlot.chars) ++ ['\x7d']))
      (.object (members.map MemberSlot.member) none) := by
  refine reads_of_succ (List.cons_ne_nil _ _) fun n rest hn _ => ?_
  simp only [List.length_cons, List.length_append, List.length_nil] at hn
  have hread := readMembers_slots h hne (n := n) (by omega) rest
  obtain ⟨first, members, rfl⟩ := List.exists_cons_of_ne_nil hne
  obtain ⟨r, hjoin⟩ := joinWith_cons_append ',' first.chars
    (members.map MemberSlot.chars) ('\x7d' :: rest)
  -- Behind the bracket and blanks there is the quote of the first name, so this is not an object
  -- without members.
  have hskip : ∃ r', skipSpaces (joinWith ',' ((first :: members).map MemberSlot.chars) ++
      '\x7d' :: rest) = '"' :: r' := by
    rw [List.map_cons, hjoin, MemberSlot.chars, List.append_assoc,
      skipSpaces_append first.blanks_before]
    exact ⟨_, skipSpaces_cons rfl _⟩
  obtain ⟨r', hskip⟩ := hskip
  have hnone : skipSpaces ('"' :: r') =
      skipSpaces (joinWith ',' ((first :: members).map MemberSlot.chars) ++ '\x7d' :: rest) := by
    rw [hskip, skipSpaces_cons rfl]
  rw [← readMembers_skipSpaces hnone] at hread
  rw [List.cons_append, List.append_assoc, List.singleton_append, readValue, skipSpaces_cons rfl]
  simp only [hskip]
  change (Value.object (readMembers n ('"' :: r')).1 (faultOf? (readMembers n ('"' :: r')).2),
    (readMembers n ('"' :: r')).2) = _
  rw [hread]
  rfl

/-- What is spelled is read as what it spells. -/
theorem Spells.reads {v : Value} (h : Spells cs v) : Reads cs v := by
  -- The induction is on the spelling, so that each item and member can be read by itself.
  induction h with
  | null => exact reads_of_succ (by decide) fun n rest _ _ => rfl
  | bool b =>
    cases b with
    | false => exact reads_of_succ (by decide) fun n rest _ _ => rfl
    | true => exact reads_of_succ (by decide) fun n rest _ _ => rfl
  | number h => exact reads_number h
  | text h => exact reads_text h
  | noItems hblanks => exact reads_noItems hblanks
  | array hne h ih => exact reads_array hne ih fun s hs => (h s hs).exists_cons
  | noMembers hblanks => exact reads_noMembers hblanks
  | object hne h ih => exact reads_object hne ih

/-- A text that says a value is read as this value. -/
theorem Says.readDocument_eq {v : Value} (h : Says cs v) : readDocument cs = ⟨v, none⟩ := by
  obtain ⟨s, rfl, rfl, hspells⟩ := h
  have hcore := length_core_le s
  -- The reader starts with more steps than any text of this length needs.
  have hread := readValue_slot hspells.reads (n := 2 * s.chars.length + 2) (by omega) stops_nil
  rw [List.append_nil, List.append_nil] at hread
  have hafter : skipSpaces s.after = [] := by
    have hskip := skipSpaces_append s.blanks_after []
    rwa [List.append_nil] at hskip
  rw [readDocument, hread]
  dsimp only
  rw [hafter]
  rfl

end Read

end ImageSync.Json
