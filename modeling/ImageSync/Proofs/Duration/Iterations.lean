import ImageSync.Proofs.Duration.Grammar
import ImageSync.Proofs.Outcome
import ImageSync.Proofs.Text.Bytes

/-!
# `ImageSync.Proofs.Duration.Iterations`: the way through a written duration

A body is read in iterations: each takes the term at the start of the text off, and adds its value
to a total (`sumStep`, `sumTerms_eq`). `Reaches` says where so many iterations lead that all went
well.

Three things might go wrong on this way without being a fault of the text. Places in the text are
counted in bytes, so a cut might fall within a character; `Term.cut?` and `cutSign?` cut in bytes
and fail there, and they never do (`Term.cut?_eq`, `cutSign?_eq`). Some steps of the arithmetic are
not checked, and some are checked without need; `Fits` says that these all come out right. And there
might be no end; but an iteration that goes well takes a digit and a character of a unit
(`Reaches.length_le`).

The main statement is `parse_iterations`, for every text and every iteration.
-/

set_option autoImplicit false

namespace ImageSync.Duration

open Text

/-! ### Cuts -/

/-- Whether a byte is that of a digit. -/
def isDigitByte (b : UInt8) : Bool := 48 ≤ b.toNat && b.toNat ≤ 57

/-- The length in bytes of the digits at the start of a text. -/
def digitBytes (cs : List Char) : Nat := ((utf8 cs).takeWhile isDigitByte).length

/-- The place in bytes of the first character that ends a unit, or the end of the text. -/
def unitBytes (cs : List Char) : Nat := (utf8 (cs.takeWhile inUnit)).length

/-- Cuts off a sign, which is one byte. -/
def cutSign? (cs : List Char) : Option (Bool × List Char) :=
  if (utf8 cs).head? = some '-'.toUInt8 then (cutAt? 1 cs).map fun cut => (true, cut.2)
  else if (utf8 cs).head? = some '+'.toUInt8 then (cutAt? 1 cs).map fun cut => (false, cut.2)
  else some (false, cs)

/-- Cuts off the term at the start of a text. Each cut is at a place that is counted in bytes. -/
def Term.cut? (cs : List Char) : Option (Term × List Char) := do
  let (whole, after) ← cutAt? (digitBytes cs) cs
  match after with
  | '.' :: r =>
    let (fraction, after) ← cutAt? (digitBytes r) r
    let (unit, rest) ← cutAt? (unitBytes after) after
    return (⟨whole, true, fraction, unit⟩, rest)
  | after =>
    let (unit, rest) ← cutAt? (unitBytes after) after
    return (⟨whole, false, [], unit⟩, rest)

/-- The byte behind the digits of a fraction that count: at most eighteen of its bytes. -/
def Term.countedBytes (t : Term) : Nat := min (utf8 t.fraction).length 18

/-- A byte is a digit exactly if it is that of a digit. -/
theorem asciiClass_isDigit : AsciiClass Char.isDigit isDigitByte where
  ascii c hc := by
    rw [isDigitByte, toNat_toUInt8 hc]
    rfl
  char c hc := by
    have hlarge : ¬c.toNat ≤ 57 := by omega
    change (decide (48 ≤ c.toNat) && decide (c.toNat ≤ 57)) = false
    rw [decide_eq_false hlarge, Bool.and_false]
  byte b hb := by
    have hlarge : ¬b.toNat ≤ 57 := by omega
    rw [isDigitByte, decide_eq_false hlarge, Bool.and_false]

/-- The digits at the start of a text are cut off by the number of their bytes. -/
theorem cutAt?_digitBytes (cs : List Char) :
    cutAt? (digitBytes cs) cs = some (cs.takeWhile Char.isDigit, cs.dropWhile Char.isDigit) := by
  rw [cutAt?_eq_some_iff, digitBytes, takeWhile_utf8 asciiClass_isDigit,
    List.takeWhile_append_dropWhile]
  exact ⟨rfl, rfl⟩

/-- The text of a unit is cut off by the number of its bytes, of which a character may have several.
-/
theorem cutAt?_unitBytes (cs : List Char) :
    cutAt? (unitBytes cs) cs = some (cs.takeWhile inUnit, cs.dropWhile inUnit) := by
  rw [cutAt?_eq_some_iff, List.takeWhile_append_dropWhile]
  exact ⟨rfl, rfl⟩

/-- No cut of a term falls within a character, and what is cut off is the term. -/
theorem Term.cut?_eq (cs : List Char) : cut? cs = some (read cs) := by
  rw [cut?, cutAt?_digitBytes, read]
  dsimp only [Option.bind_eq_bind, Option.bind_some]
  generalize cs.dropWhile Char.isDigit = after
  split
  · rw [cutAt?_digitBytes]
    dsimp only [Option.bind_eq_bind, Option.bind_some]
    rw [cutAt?_unitBytes]
    rfl
  · simp [cutAt?_unitBytes]

/-- The sign is one byte, so it can be cut off there. -/
theorem cutSign?_eq (cs : List Char) : cutSign? cs = some (cutSign cs) := by
  -- A sign is an ASCII character, so the text can be cut behind its byte.
  have hsign : ∀ c r, c.toNat < 0x80 → cutAt? 1 (c :: r) = some ([c], r) := by
    intro c r hc
    refine cutAt?_eq_some_iff.2 ⟨rfl, ?_⟩
    rw [utf8_cons, utf8EncodeChar_of_ascii hc]
    rfl
  simp only [cutSign?, head?_utf8_eq_iff (show '-'.toNat < 0x80 by decide),
    head?_utf8_eq_iff (show '+'.toNat < 0x80 by decide)]
  split
  · next hminus =>
    obtain ⟨r, rfl⟩ := List.head?_eq_some_iff.1 hminus
    rw [hsign _ _ (by decide)]
    rfl
  · next hminus =>
    split
    · next hplus =>
      obtain ⟨r, rfl⟩ := List.head?_eq_some_iff.1 hplus
      rw [hsign _ _ (by decide)]
      rfl
    · next hplus =>
      unfold cutSign
      split
      · exact absurd rfl hminus
      · exact absurd rfl hplus
      · rfl

/-- A digit is one byte, so the first eighteen bytes of a fraction are the digits that count. -/
theorem Term.cutAt?_countedBytes {t : Term} (h : ∀ c ∈ t.fraction, c.isDigit = true) :
    cutAt? t.countedBytes t.fraction = some (t.countedFraction, t.fraction.drop 18) := by
  have hascii : ∀ c ∈ t.fraction, c.toNat < 0x80 := fun c hc =>
    asciiClass_isDigit.toNat_lt (h c hc)
  rw [cutAt?_eq_some_iff, countedBytes, countedFraction, List.take_append_drop,
    length_utf8_of_ascii fun c hc => hascii c (List.mem_of_mem_take hc),
    length_utf8_of_ascii hascii, List.length_take, Nat.min_comm]
  exact ⟨rfl, rfl⟩

/-! ### Iterations -/

/-- An iteration at a place of a body: the total behind the term that stands there and the text
behind it, or what is wrong. -/
def sumStep (total : Nat) (cs : List Char) : Except Fault (Nat × List Char) :=
  match (Term.read cs).1.check with
  | .error e => .error e
  | .ok n =>
    match fit? (total + n) with
    | none => .error .overflow
    | some sum => if maxNanos < sum then .error .overflow else .ok (sum, (Term.read cs).2)

/-- Where so many iterations over a body lead that all go well: what the total is, and which text
is left. -/
inductive Reaches (body : List Char) : Nat → Nat → List Char → Prop where
  | start : Reaches body 0 0 body
  | next {k total sum : Nat} {cs rest : List Char} (h : Reaches body k total cs) (hcs : cs ≠ [])
      (hstep : sumStep total cs = .ok (sum, rest)) : Reaches body (k + 1) sum rest

/-- The sum over a body is made in iterations. -/
theorem sumTerms_eq {total : Nat} {cs : List Char} (hcs : cs ≠ []) :
    sumTerms total cs =
      match sumStep total cs with
      | .error e => .error e
      | .ok (sum, rest) => sumTerms sum rest := by
  rw [sumTerms_of_standsAt hcs (Term.standsAt_read cs), sumStep]
  cases (Term.read cs).1.check with
  | error e => rfl
  | ok n =>
    dsimp only
    cases fit? (total + n) with
    | none => rfl
    | some sum =>
      dsimp only
      split <;> rfl

/-- What an iteration takes off the text if it goes well. -/
structure Term.Taken (t : Term) (cs rest : List Char) : Prop where
  text : cs = t.text ++ rest
  digit : ∃ c ∈ t.whole ++ t.fraction, c.isDigit = true
  unit : ∃ c ∈ t.unit, inUnit c = true

/-- What is sure of the numbers that an iteration comes to on the way to the value of a term. -/
structure Term.Fits (t : Term) : Prop where
  /-- The digits of the fraction that count are a number, so there is no fault in them. -/
  digits : readDigits? t.countedFraction = some (digitsValue t.countedFraction)
  /-- Their count has 32 bits. -/
  count : t.countedFraction.length < UInt32.size
  /-- The power of ten that they are divided by has 128 bits, and is not zero. -/
  power : Nat.pow 10 t.countedFraction.length < wordSize ∧ Nat.pow 10 t.countedFraction.length ≠ 0
  /-- Their product with a unit has 128 bits. -/
  product : ∀ u : TimeUnit, digitsValue t.countedFraction * u.nanos < wordSize
  /-- So what the fraction adds is the exact quotient, rounded down. -/
  fraction : ∀ u : TimeUnit, t.fractionNanos u =
    .ok (digitsValue t.countedFraction * u.nanos / Nat.pow 10 t.countedFraction.length)

/-- Nothing goes wrong in an iteration at a place of a body, with a total in front of it. -/
structure SoundAt (total : Nat) (cs : List Char) : Prop where
  /-- The parts of the term are cut off between characters. -/
  cut : Term.cut? cs = some (Term.read cs)
  /-- So are the digits of its fraction that count. -/
  counted : cutAt? (Term.read cs).1.countedBytes (Term.read cs).1.fraction =
    some ((Term.read cs).1.countedFraction, (Term.read cs).1.fraction.drop 18)
  fits : (Term.read cs).1.Fits
  /-- If the iteration goes well, it goes on in the text. -/
  taken : ∀ sum rest, sumStep total cs = .ok (sum, rest) → (Term.read cs).1.Taken cs rest
  inRange : total ≤ maxNanos
  /-- If it is the end of the text, the seconds of the total have 64 bits and the rest 32. -/
  parts : ofNanos total = .ok ⟨total⟩

/-- No number that a term is worked out with is too large for 128 bits. -/
theorem Term.fits {t : Term} (h : ∀ c ∈ t.fraction, c.isDigit = true) : t.Fits where
  digits := readDigits?_countedFraction h
  count := t.length_countedFraction_lt
  power := ⟨t.pow_countedFraction_lt, Nat.ne_of_gt (Nat.pow_pos (by decide))⟩
  product := digitsValue_mul_nanos_lt h
  fraction := fractionNanos_eq h

/-- A term with a value has a number and a unit. -/
theorem Term.names_of_check {t : Term} {n : Nat} (h : t.check = .ok n) :
    (t.whole ≠ [] ∨ t.fraction ≠ []) ∧ ∃ u, TimeUnit.ofText? t.unit = some u := by
  refine ⟨hasNumber_iff.1 (hasNumber_of_check h), ?_⟩
  rw [check, hasNumber_of_check h, if_neg (by decide)] at h
  split at h
  · cases h
  · cases hname : TimeUnit.ofText? t.unit with
    | none =>
      rw [hname] at h
      cases h
    | some u => exact ⟨u, rfl⟩

section Step

variable {body cs rest : List Char} {k total sum : Nat}

/-- An iteration that goes well has added the value of a term, and stays in range. -/
theorem check_of_sumStep (h : sumStep total cs = .ok (sum, rest)) :
    (∃ n, (Term.read cs).1.check = .ok n) ∧ rest = (Term.read cs).2 ∧ sum ≤ maxNanos := by
  rw [sumStep] at h
  split at h
  · cases h
  · next n hcheck =>
    split at h
    · cases h
    · split at h
      · cases h
      · next hrange =>
        cases h
        exact ⟨⟨n, hcheck⟩, rfl, Nat.not_lt.1 hrange⟩

/-- An iteration that goes well takes a term off the text, with at least a digit and a character of
its unit. -/
theorem taken_of_sumStep (h : sumStep total cs = .ok (sum, rest)) :
    (Term.read cs).1.Taken cs rest := by
  obtain ⟨⟨n, hcheck⟩, rfl, -⟩ := check_of_sumStep h
  obtain ⟨hnumber, u, hname⟩ := Term.names_of_check hcheck
  have hstands := Term.standsAt_read cs
  refine ⟨hstands.text, ?_, ?_⟩
  · have hdigits := List.forall_mem_append.2 ⟨hstands.whole, hstands.fraction⟩
    have hne : (Term.read cs).1.whole ++ (Term.read cs).1.fraction ≠ [] := by
      intro hnil
      obtain ⟨hwhole, hfraction⟩ := List.append_eq_nil_iff.1 hnil
      exact hnumber.elim (absurd hwhole) (absurd hfraction)
    obtain ⟨c, hc⟩ := List.exists_mem_of_ne_nil _ hne
    exact ⟨c, hc, hdigits c hc⟩
  · obtain ⟨c, hc⟩ := List.exists_mem_of_ne_nil _ (TimeUnit.text_of_names hname).1
    exact ⟨c, hc, hstands.unit c hc⟩

/-- A term that is taken has at least a digit and a character of its unit. -/
theorem Term.Taken.length_le {t : Term} (h : t.Taken cs rest) : 2 + rest.length ≤ cs.length := by
  obtain ⟨c, hc, -⟩ := h.digit
  obtain ⟨d, hd, -⟩ := h.unit
  have hdigits := List.length_pos_of_mem hc
  have hunit := List.length_pos_of_mem hd
  rw [h.text, Term.text]
  simp only [List.length_append] at hdigits ⊢
  omega

/-- After so many iterations there are at least twice as many characters less. -/
theorem Reaches.length_le (h : Reaches body k total cs) : 2 * k + cs.length ≤ body.length := by
  induction h with
  | start => omega
  | next h hcs hstep ih =>
    have htaken := (taken_of_sumStep hstep).length_le
    omega

/-- The total stays in range. -/
theorem Reaches.total_le (h : Reaches body k total cs) : total ≤ maxNanos := by
  cases h with
  | start => exact Nat.zero_le _
  | next h hcs hstep => exact (check_of_sumStep hstep).2.2

/-- The sum over a body is that from any place that is reached. -/
theorem Reaches.sumTerms_eq (h : Reaches body k total cs) :
    sumTerms 0 body = sumTerms total cs := by
  induction h with
  | start => rfl
  | next h hcs hstep ih => rw [ih, Duration.sumTerms_eq hcs, hstep]

/-- From any place on, iterations lead to the end of the text or to one that does not go well. -/
theorem Reaches.exists_last (h : Reaches body k total cs) :
    ∃ k' total' cs', Reaches body k' total' cs' ∧
      (cs' = [] ∨ cs' ≠ [] ∧ ∃ e, sumStep total' cs' = .error e) := by
  -- Each iteration leaves less of the text.
  generalize hlength : cs.length = length
  induction length using Nat.strongRecOn generalizing k total cs with
  | ind length ih =>
    by_cases hcs : cs = []
    · exact ⟨k, total, cs, h, .inl hcs⟩
    · cases hstep : sumStep total cs with
      | error e => exact ⟨k, total, cs, h, .inr ⟨hcs, e, hstep⟩⟩
      | ok next =>
        obtain ⟨sum, rest⟩ := next
        have hshorter := (taken_of_sumStep hstep).length_le
        exact ih _ (by omega) (h.next hcs hstep) rfl

/-- At each place that is reached, all that an iteration relies on holds. -/
theorem Reaches.soundAt (h : Reaches body k total cs) : SoundAt total cs where
  cut := Term.cut?_eq cs
  counted := Term.cutAt?_countedBytes (Term.standsAt_read cs).fraction
  fits := Term.fits (Term.standsAt_read cs).fraction
  taken := fun _ _ => taken_of_sumStep
  inRange := h.total_le
  parts := ofNanos_of_le h.total_le

end Step

/-- A body is no longer than the text it is cut from. -/
theorem length_cutSign_le (cs : List Char) : (cutSign cs).2.length ≤ cs.length := by
  unfold cutSign
  split
  · exact Nat.le_succ _
  · exact Nat.le_succ _
  · exact Nat.le_refl _

/-- A text is read through cuts between characters and steps that fit. This is so for its sign and
for each iteration over its body, whether it goes well or ends the reading. Each iteration that goes
well takes two characters at least, so after half as many iterations as there are characters, or
before, the text is read as the total, or there is something wrong with it. -/
theorem parse_iterations (input : String) :
    cutSign? input.toList = some (cutSign input.toList) ∧
    (∀ k total cs, Reaches (cutSign input.toList).2 k total cs →
      SoundAt total cs ∧ 2 * k + cs.length ≤ input.toList.length) ∧
    ((cutSign input.toList).2 ≠ ['0'] → (cutSign input.toList).2 ≠ [] →
      ∃ k total cs, Reaches (cutSign input.toList).2 k total cs ∧ 2 * k ≤ input.toList.length ∧
        (cs = [] ∧ parse input = .ok (if (cutSign input.toList).1 then zero else ⟨total⟩) ∨
          cs ≠ [] ∧ ∃ e, sumStep total cs = .error e ∧ parse input = .error e)) := by
  -- The iterations are over the text behind the sign.
  have hbody := length_cutSign_le input.toList
  refine ⟨cutSign?_eq _, fun k total cs h => ⟨h.soundAt, ?_⟩, fun hzero hempty => ?_⟩
  · exact Nat.le_trans h.length_le hbody
  · have hstart : Reaches (cutSign input.toList).2 0 0 (cutSign input.toList).2 := .start
    -- The iterations go on until one of them ends them.
    obtain ⟨k, total, cs, h, hlast⟩ := hstart.exists_last
    have hlength := h.length_le
    have hread : bodyNanos (cutSign input.toList).2 = sumTerms total cs := by
      rw [bodyNanos, if_neg hzero, if_neg fun hnil => hempty (List.isEmpty_iff.1 hnil),
        h.sumTerms_eq]
    refine ⟨k, total, cs, h, by omega, ?_⟩
    rw [parse_eq, hread]
    rcases hlast with rfl | ⟨hcs, e, hstep⟩
    · -- At the end of the text the total is what is read.
      rw [sumTerms_nil]
      exact .inl ⟨rfl, rfl⟩
    · rw [sumTerms_eq hcs, hstep]
      exact .inr ⟨hcs, e, rfl, rfl⟩

/-- Two terms and a third one without a unit, behind a sign. The micro sign takes two bytes. -/
theorem parse_iterations_three :
    let input := "+1.5h2µs7"
    (Reaches (cutSign input.toList).2 2 5400_000_002_000 "7".toList ∧
      SoundAt 5400_000_002_000 "7".toList ∧ 2 * 2 + "7".toList.length ≤ input.toList.length) ∧
    (cutSign input.toList).2 ≠ ['0'] ∧ (cutSign input.toList).2 ≠ [] ∧
      ∃ k total cs, Reaches (cutSign input.toList).2 k total cs ∧ 2 * k ≤ input.toList.length ∧
        (cs = [] ∧ parse input = .ok (if (cutSign input.toList).1 then zero else ⟨total⟩) ∨
          cs ≠ [] ∧ ∃ e, sumStep total cs = .error e ∧ parse input = .error e) := by
  intro input
  have hbody : (cutSign input.toList).2 = "1.5h2µs7".toList := by decide +kernel
  have hreaches : Reaches (cutSign input.toList).2 2 5400_000_002_000 "7".toList := by
    have hfirst : sumStep 0 "1.5h2µs7".toList = .ok (5400_000_000_000, "2µs7".toList) :=
      eq_ok_of_toOption (by decide +kernel)
    have hsecond : sumStep 5400_000_000_000 "2µs7".toList =
        .ok (5400_000_002_000, "7".toList) := eq_ok_of_toOption (by decide +kernel)
    rw [hbody]
    exact .next (.next .start (by decide) hfirst) (by decide) hsecond
  obtain ⟨-, hsound, hlast⟩ := parse_iterations input
  have hzero : (cutSign input.toList).2 ≠ ['0'] := by decide +kernel
  have hempty : (cutSign input.toList).2 ≠ [] := by decide +kernel
  exact ⟨⟨hreaches, hsound _ _ _ hreaches⟩, hzero, hempty, hlast hzero hempty⟩

end ImageSync.Duration
