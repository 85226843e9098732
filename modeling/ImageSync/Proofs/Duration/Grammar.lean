import ImageSync.Proofs.Duration.Word
import ImageSync.Proofs.Text.Run

/-!
# `ImageSync.Proofs.Duration.Grammar`: which texts are durations

A written duration is a sign, if there is one, and a body. `Reading` says what a body comes to:
it is a lone zero, or a row of terms (`UnitTerm`) whose values add up to at most `maxNanos`, or
it fails at the first place where no such term stands (`FailsAt`). Sums are those of numbers
without a bound; that the reading works in 128 bits makes no difference (`Term.value_eq`).

What stands at a place of a text is a matter of the characters alone (`Term.StandsAt`): as
many digits as there are, a point with as many digits behind it, and everything up to the next
digit or point as the text of a unit. `Term.read_eq_iff` shows that cutting off a term finds
just that.

The main statement is `parse_iff_reading`: a text is read as its body is, with zero in place
of a negative duration, and a sign never matters for a fault. It comes from
`bodyNanos_eq_iff`, and that from the sum over the terms up to a place (`sumTerms_written`),
the end of the sum at a place that fails (`sumTerms_of_failsAt`), and the fact that there is
always such a place or the end of the text (`exists_place`).
-/

set_option autoImplicit false

namespace ImageSync.Duration

open Text (forall_mem_takeWhile head?_dropWhile span_eq)

/-! ### What stands at a place -/

/-- A text does not go on with a unit: it starts with a digit or a point, or is at its end. -/
def EndsUnit (cs : List Char) : Prop := ∀ c, cs.head? = some c → inUnit c = false

/-- A term stands at the start of a text, with `rest` behind it. Each of its parts is as long as
it can be. -/
structure Term.StandsAt (t : Term) (cs rest : List Char) : Prop where
  text : cs = t.text ++ rest
  whole : ∀ c ∈ t.whole, c.isDigit = true
  fraction : ∀ c ∈ t.fraction, c.isDigit = true
  noPoint : t.point = false → t.fraction = []
  unit : ∀ c ∈ t.unit, inUnit c = true
  endsUnit : EndsUnit rest
  /-- A number without a unit ends with the text, or at a second point. -/
  endsNumber : t.unit = [] → ∀ c, rest.head? = some c → c = '.' ∧ t.point = true

/-- A term of a duration: a number of at least one digit, and a unit. -/
structure UnitTerm where
  term : Term
  unit : TimeUnit
  whole : ∀ c ∈ term.whole, c.isDigit = true
  fraction : ∀ c ∈ term.fraction, c.isDigit = true
  noPoint : term.point = false → term.fraction = []
  hasDigit : term.whole ≠ [] ∨ term.fraction ≠ []
  names : TimeUnit.ofText? term.unit = some unit

namespace UnitTerm

/-- The characters of a term. -/
def text (v : UnitTerm) : List Char := v.term.text

/-- What a term is worth: its whole units, and the first eighteen digits of its fraction in
whole nanoseconds. -/
def nanos (v : UnitTerm) : Nat := v.term.nanos v.unit

end UnitTerm

/-- Some terms as they are written. -/
def written (terms : List UnitTerm) : List Char := terms.flatMap UnitTerm.text

/-- What some terms are worth. -/
def amount : List UnitTerm → Nat
  | [] => 0
  | v :: terms => v.nanos + amount terms

/-- What is wrong at a place of a body at which a term should stand, with `sum` in front. -/
inductive FailsAt (sum : Nat) (cs : List Char) : Fault → Prop where
  | invalid {t : Term} {rest : List Char} (h : t.StandsAt cs rest) (hcs : cs ≠ [])
      (hdigit : t.whole = [] ∧ t.fraction = []) : FailsAt sum cs .invalid
  | missingUnit {t : Term} {rest : List Char} (h : t.StandsAt cs rest)
      (hdigit : t.whole ≠ [] ∨ t.fraction ≠ []) (hunit : t.unit = []) :
      FailsAt sum cs .missingUnit
  | unknownUnit {t : Term} {rest : List Char} (h : t.StandsAt cs rest)
      (hdigit : t.whole ≠ [] ∨ t.fraction ≠ []) (hunit : t.unit ≠ [])
      (hname : TimeUnit.ofText? t.unit = none) :
      FailsAt sum cs (.unknownUnit (String.ofList t.unit))
  | overflow {t : Term} {rest : List Char} {u : TimeUnit} (h : t.StandsAt cs rest)
      (hdigit : t.whole ≠ [] ∨ t.fraction ≠ []) (hname : TimeUnit.ofText? t.unit = some u)
      (hsum : maxNanos < sum + t.nanos u) : FailsAt sum cs .overflow

/-- What a body comes to. -/
inductive Reading : List Char → Except Fault Nat → Prop where
  /-- A lone zero needs no unit. -/
  | zero : Reading ['0'] (.ok 0)
  | terms {terms : List UnitTerm} (hterms : terms ≠ []) (hamount : amount terms ≤ maxNanos) :
      Reading (written terms) (.ok (amount terms))
  | empty : Reading [] (.error .invalid)
  /-- In front of the first place that fails there are terms in range, and the unit of the last
  one of them ends there. -/
  | fails {terms : List UnitTerm} {rest : List Char} {e : Fault}
      (hzero : written terms ++ rest ≠ ['0']) (hamount : amount terms ≤ maxNanos)
      (hplace : terms = [] ∨ EndsUnit rest) (h : FailsAt (amount terms) rest e) :
      Reading (written terms ++ rest) (.error e)

/-- A text is a body behind a sign, or without one. -/
inductive Signed : List Char → Bool → List Char → Prop where
  | minus (body : List Char) : Signed ('-' :: body) true body
  | plus (body : List Char) : Signed ('+' :: body) false body
  | unsigned {body : List Char} (hminus : body.head? ≠ some '-')
      (hplus : body.head? ≠ some '+') : Signed body false body

/-! ### Cutting off a term -/

/-- The text of a unit has no digits. -/
theorem isDigit_eq_false_of_inUnit {c : Char} (h : inUnit c = true) : c.isDigit = false := by
  simp only [inUnit, Bool.not_eq_true', Bool.or_eq_false_iff] at h
  exact h.2

/-- The text of a unit has no points. -/
theorem ne_point_of_inUnit {c : Char} (h : inUnit c = true) : c ≠ '.' := by
  rintro rfl
  cases h

/-- A digit ends the text of a unit. -/
theorem inUnit_eq_false_of_isDigit {c : Char} (h : c.isDigit = true) : inUnit c = false := by
  simp [inUnit, h]

namespace Term

variable {t : Term} {cs rest : List Char}

/-- A number stands in no empty text. -/
theorem StandsAt.ne_nil (h : t.StandsAt cs rest) (hdigit : t.whole ≠ [] ∨ t.fraction ≠ []) :
    cs ≠ [] := by
  rintro rfl
  have htext := (List.append_eq_nil_iff.1 h.text.symm).1
  simp only [Term.text, List.append_eq_nil_iff] at htext
  rcases hdigit with hwhole | hfraction
  · exact hwhole htext.1.1.1
  · exact hfraction htext.1.2

/-- Behind the digits of a number, no digit follows. -/
theorem StandsAt.not_digit (h : t.StandsAt cs rest) :
    ∀ c, (t.unit ++ rest).head? = some c → c.isDigit = false := by
  intro c hc
  cases hunit : t.unit with
  | nil =>
    rw [hunit] at hc
    obtain ⟨rfl, -⟩ := h.endsNumber hunit c hc
    rfl
  | cons d unit =>
    rw [hunit] at hc
    cases hc
    exact isDigit_eq_false_of_inUnit (h.unit c (by rw [hunit]; exact List.mem_cons_self))

/-- Behind a number without a point, no point follows. -/
theorem StandsAt.not_point (h : t.StandsAt cs rest) (hpoint : t.point = false) :
    ∀ r, t.unit ++ rest ≠ '.' :: r := by
  intro r hr
  cases hunit : t.unit with
  | nil =>
    rw [hunit] at hr
    have hend := h.endsNumber hunit '.' (by rw [show rest = _ from hr]; rfl)
    rw [hpoint] at hend
    cases hend.2
  | cons d unit =>
    rw [hunit] at hr
    cases hr
    exact ne_point_of_inUnit (h.unit '.' (by rw [hunit]; exact List.mem_cons_self)) rfl

/-- What stands at the start of a text is cut off. -/
theorem StandsAt.read_eq (h : t.StandsAt cs rest) : read cs = (t, rest) := by
  obtain ⟨hunit, hrest⟩ := span_eq h.unit h.endsUnit
  have htext := h.text
  have hnot := h.not_point
  obtain ⟨hfraction, hafter⟩ := span_eq h.fraction h.not_digit
  obtain ⟨whole, point, fraction, unit⟩ := t
  dsimp only at hunit hrest hnot hfraction hafter
  -- The whole digits end at the point if there is one, and at the unit otherwise.
  cases point with
  | false =>
    obtain rfl : fraction = [] := h.noPoint rfl
    have hcs : cs = whole ++ (unit ++ rest) := by simpa [Term.text] using htext
    obtain ⟨hwhole, hleft⟩ := span_eq h.whole h.not_digit
    rw [read, hcs, hwhole, hleft]
    -- The reader looks for a point here, and `hnot` says that there is none.
    split
    · next r hr => exact absurd hr (hnot rfl r)
    · rw [hunit, hrest]
  | true =>
    have hcs : cs = whole ++ '.' :: (fraction ++ (unit ++ rest)) := by
      simpa [Term.text] using htext
    have hstop : ∀ c, ('.' :: (fraction ++ (unit ++ rest))).head? = some c →
        c.isDigit = false := by
      rintro c ⟨⟩
      rfl
    obtain ⟨hwhole, hleft⟩ := span_eq h.whole hstop
    rw [read, hcs, hwhole, hleft]
    simp only [hfraction, hafter, hunit, hrest]

/-- A text that starts with neither a digit nor a unit starts with a point. -/
theorem point_of_no_unit {c : Char} (hunit : cs.takeWhile inUnit = [])
    (hdigit : ∀ c, cs.head? = some c → c.isDigit = false)
    (hc : (cs.dropWhile inUnit).head? = some c) : c = '.' ∧ cs.head? = some c := by
  -- An empty run takes nothing away, so what is behind it is the text itself.
  have hsame : cs.dropWhile inUnit = cs := by
    have happend := List.takeWhile_append_dropWhile (p := inUnit) (l := cs)
    rwa [hunit] at happend
  have hstop := head?_dropWhile inUnit cs c hc
  rw [hsame] at hc
  simp only [inUnit, hdigit c hc, Bool.or_false, Bool.not_eq_false'] at hstop
  exact ⟨beq_iff_eq.1 hstop, hc⟩

/-- What is cut off stands at the start of the text. -/
theorem standsAt_read (cs : List Char) : (read cs).1.StandsAt cs (read cs).2 := by
  -- That no character is lost is known of `read` as a whole, so it is stated before `read` is
  -- opened.
  have htext := (text_read cs).symm
  revert htext
  rw [read]
  split
  · next r hr =>
    intro htext
    exact {
      text := htext
      whole := forall_mem_takeWhile _ cs
      fraction := forall_mem_takeWhile _ r
      noPoint := fun hpoint => by cases hpoint
      unit := forall_mem_takeWhile _ _
      endsUnit := head?_dropWhile _ _
      endsNumber := fun hunit c hc =>
        ⟨(point_of_no_unit hunit (head?_dropWhile _ r) hc).1, rfl⟩ }
  · next hpoint =>
    intro htext
    exact {
      text := htext
      whole := forall_mem_takeWhile _ cs
      fraction := List.forall_mem_nil _
      noPoint := fun _ => rfl
      unit := forall_mem_takeWhile _ _
      endsUnit := head?_dropWhile _ _
      endsNumber := fun hunit c hc => by
        -- A point would have been taken for that of the number.
        obtain ⟨rfl, hhead⟩ := point_of_no_unit hunit (head?_dropWhile _ cs) hc
        obtain ⟨r, hr⟩ := List.head?_eq_some_iff.1 hhead
        exact absurd hr (hpoint r) }

/-- There is one term that stands at the start of a text, and it is cut off. -/
theorem read_eq_iff : read cs = (t, rest) ↔ t.StandsAt cs rest := by
  constructor
  · intro hread
    have hstands := standsAt_read cs
    rwa [hread] at hstands
  · exact StandsAt.read_eq

/-- A term has a number if there is a digit in front of its point or behind it. -/
theorem hasNumber_iff : t.hasNumber = true ↔ t.whole ≠ [] ∨ t.fraction ≠ [] := by
  obtain ⟨whole, point, fraction, unit⟩ := t
  cases whole <;> cases fraction <;> simp [hasNumber]

end Term

/-! ### Terms in a row -/

/-- The text of a unit is not empty, and it has neither digits nor points. -/
theorem TimeUnit.text_of_names {cs : List Char} {u : TimeUnit} (h : ofText? cs = some u) :
    cs ≠ [] ∧ ∀ c ∈ cs, inUnit c = true := by
  unfold ofText? at h
  split at h
  case h_9 => cases h
  all_goals exact ⟨List.cons_ne_nil _ _, List.all_eq_true.1 (by decide)⟩

namespace UnitTerm

/-- A term stands where it is written, if its unit ends there. -/
theorem standsAt (v : UnitTerm) {rest : List Char} (h : EndsUnit rest) :
    v.term.StandsAt (v.text ++ rest) rest := by
  obtain ⟨hunit, hchars⟩ := TimeUnit.text_of_names v.names
  exact ⟨rfl, v.whole, v.fraction, v.noPoint, hchars, h, fun hnone => absurd hnone hunit⟩

/-- A term starts with a digit or a point. -/
theorem endsUnit (v : UnitTerm) (rest : List Char) : EndsUnit (v.text ++ rest) := by
  -- The parts are taken apart as values of their own: the fields depend on `v.term`.
  have hwhole := v.whole
  have hdigit := v.hasDigit
  have hpoint := v.noPoint
  intro c hc
  rw [text, Term.text] at hc
  generalize v.term.unit = unit at hc
  generalize v.term.whole = whole at *
  generalize v.term.point = point at *
  generalize v.term.fraction = fraction at *
  cases whole with
  | cons d whole =>
    cases hc
    exact inUnit_eq_false_of_isDigit (hwhole c List.mem_cons_self)
  | nil =>
    -- A number that starts with no digit has one behind a point.
    cases point with
    | true =>
      cases hc
      rfl
    | false => exact absurd (hpoint rfl) (hdigit.resolve_left (fun h => h rfl))

/-- A term takes some of the text, since the name of its unit is not empty. -/
theorem ne_nil (v : UnitTerm) (rest : List Char) : v.text ++ rest ≠ [] := by
  intro hnil
  have hunit := (TimeUnit.text_of_names v.names).1
  have htext := (List.append_eq_nil_iff.1 hnil).1
  rw [text, Term.text] at htext
  exact hunit (List.append_eq_nil_iff.1 htext).2

end UnitTerm

/-- A unit ends at the end of the text. -/
theorem endsUnit_nil : EndsUnit [] := nofun

/-- A unit ends where terms are written, as long as one ends behind them. -/
theorem endsUnit_written (terms : List UnitTerm) {rest : List Char} (h : EndsUnit rest) :
    EndsUnit (written terms ++ rest) := by
  cases terms with
  | nil => exact h
  | cons v terms =>
    rw [written, List.flatMap_cons, List.append_assoc]
    exact v.endsUnit _

/-- The first of some terms is written in front of the others. -/
theorem written_cons (v : UnitTerm) (terms : List UnitTerm) (rest : List Char) :
    written (v :: terms) ++ rest = v.text ++ (written terms ++ rest) := by
  rw [written, List.flatMap_cons, List.append_assoc]
  rfl

/-- The first of some terms adds what it is worth to the others. -/
theorem amount_cons (v : UnitTerm) (terms : List UnitTerm) :
    amount (v :: terms) = v.nanos + amount terms := rfl

/-! ### The sum over a body -/

section Sum

variable {total : Nat} {t : Term} {u : TimeUnit} {cs rest : List Char}

/-- The step of the sum at a place: a fault of the term there ends it. -/
theorem sumTerms_of_standsAt (hcs : cs ≠ []) (h : t.StandsAt cs rest) :
    sumTerms total cs =
      match t.check with
      | .error e => .error e
      | .ok n =>
        match fit? (total + n) with
        | none => .error .overflow
        | some sum => if maxNanos < sum then .error .overflow else sumTerms sum rest := by
  have hempty : ¬cs.isEmpty = true := fun hnil => hcs (List.isEmpty_iff.1 hnil)
  rw [sumTerms, if_neg hempty]
  -- The term is read whatever stands behind it, and its check decides how the sum goes on.
  have hread := h.read_eq
  split
  · next e he =>
    rw [hread] at he
    rw [show t.check = .error e from he]
  · next n hn =>
    rw [hread] at hn
    rw [show t.check = .ok n from hn]
    dsimp only
    cases fit? (total + n) with
    | none => rfl
    | some sum => simp only [hread]

/-- The step of the sum over a number with a unit: it goes on as long as it stays in range. -/
theorem sumTerms_of_names (h : t.StandsAt cs rest) (hdigit : t.whole ≠ [] ∨ t.fraction ≠ [])
    (hname : TimeUnit.ofText? t.unit = some u) :
    sumTerms total cs =
      if maxNanos < total + t.nanos u then .error .overflow
      else sumTerms (total + t.nanos u) rest := by
  have hunit : ¬t.unit.isEmpty = true := fun hnil =>
    (TimeUnit.text_of_names hname).1 (List.isEmpty_iff.1 hnil)
  have hcheck : t.check = orFault .overflow (fit? (t.nanos u)) := by
    rw [Term.check, Term.hasNumber_iff.2 hdigit, if_neg (by decide), if_neg hunit, hname]
    exact Term.value_eq h.fraction u
  have hrange : maxNanos < wordSize := by decide
  rw [sumTerms_of_standsAt (h.ne_nil hdigit) h, hcheck]
  -- The limit is far below 128 bits, so whichever step does not fit, the sum is out of range.
  by_cases hterm : t.nanos u < wordSize
  · rw [fit?_of_lt hterm]
    dsimp only [orFault]
    by_cases hsum : total + t.nanos u < wordSize
    · rw [fit?_of_lt hsum]
    · rw [fit?_of_le (Nat.not_lt.1 hsum), if_pos (by omega)]
  · rw [fit?_of_le (Nat.not_lt.1 hterm), if_pos (by omega)]
    rfl

/-- At a place that fails, the sum ends with what is wrong there. -/
theorem sumTerms_of_failsAt {e : Fault} (h : FailsAt total cs e) :
    sumTerms total cs = .error e := by
  cases h with
  | invalid h hcs hdigit =>
    rw [sumTerms_of_standsAt hcs h, Term.check, Term.hasNumber, hdigit.1, hdigit.2]
    rfl
  | missingUnit h hdigit hunit =>
    rw [sumTerms_of_standsAt (h.ne_nil hdigit) h, Term.check, Term.hasNumber_iff.2 hdigit, hunit]
    rfl
  | @unknownUnit t rest h hdigit hunit hname =>
    have hsome : ¬t.unit.isEmpty = true := fun hnil => hunit (List.isEmpty_iff.1 hnil)
    rw [sumTerms_of_standsAt (h.ne_nil hdigit) h, Term.check, Term.hasNumber_iff.2 hdigit,
      if_neg (by decide), if_neg hsome, hname]
  | overflow h hdigit hname hsum => rw [sumTerms_of_names h hdigit hname, if_pos hsum]

/-- At the end of the text the sum is what was added up to there. -/
theorem sumTerms_nil (total : Nat) : sumTerms total [] = .ok total := by
  rw [sumTerms]
  rfl

/-- Over terms in a row that stay in range, the sum grows by what they are worth. -/
theorem sumTerms_written {terms : List UnitTerm} (hamount : total + amount terms ≤ maxNanos)
    (hplace : terms = [] ∨ EndsUnit rest) :
    sumTerms total (written terms ++ rest) = sumTerms (total + amount terms) rest := by
  -- The induction is on the terms, over any sum in front of them.
  induction terms generalizing total with
  | nil => rfl
  | cons v terms ih =>
    have hends : EndsUnit rest := hplace.resolve_left (List.cons_ne_nil _ _)
    rw [amount_cons, ← Nat.add_assoc] at hamount ⊢
    have hstands := v.standsAt (endsUnit_written terms hends)
    have hrange : ¬maxNanos < total + v.term.nanos v.unit := by
      have hv : v.nanos = v.term.nanos v.unit := rfl
      omega
    rw [written_cons, sumTerms_of_names hstands v.hasDigit v.names, if_neg hrange]
    exact ih hamount (.inr hends)

/-- At each place in a body a term goes on in range, or the place fails. -/
theorem exists_term_or_failsAt (total : Nat) (hcs : cs ≠ []) :
    (∃ (v : UnitTerm) (rest : List Char), cs = v.text ++ rest ∧ EndsUnit rest ∧
      total + v.nanos ≤ maxNanos) ∨ ∃ e, FailsAt total cs e := by
  have h := Term.standsAt_read cs
  generalize (Term.read cs).1 = t at h
  generalize (Term.read cs).2 = rest at h
  -- A term can fail in four ways, and they are asked for in the order of the reader.
  by_cases hdigit : t.whole = [] ∧ t.fraction = []
  · exact .inr ⟨_, .invalid h hcs hdigit⟩
  · have hdigit : t.whole ≠ [] ∨ t.fraction ≠ [] := Decidable.not_and_iff_or_not.1 hdigit
    by_cases hunit : t.unit = []
    · exact .inr ⟨_, .missingUnit h hdigit hunit⟩
    · cases hname : TimeUnit.ofText? t.unit with
      | none => exact .inr ⟨_, .unknownUnit h hdigit hunit hname⟩
      | some u =>
        by_cases hsum : maxNanos < total + t.nanos u
        · exact .inr ⟨_, .overflow h hdigit hname hsum⟩
        · exact .inl ⟨⟨t, u, h.whole, h.fraction, h.noPoint, hdigit, hname⟩, rest, h.text,
            h.endsUnit, Nat.not_lt.1 hsum⟩

/-- Behind some terms in range a body is at its end, or there is a place that fails. -/
theorem exists_place (total : Nat) (htotal : total ≤ maxNanos) (cs : List Char) :
    ∃ (terms : List UnitTerm) (rest : List Char), cs = written terms ++ rest ∧
      total + amount terms ≤ maxNanos ∧ (terms = [] ∨ EndsUnit rest) ∧
      (rest = [] ∨ ∃ e, FailsAt (total + amount terms) rest e) := by
  -- Each term takes some of the text.
  generalize hlength : cs.length = length
  induction length using Nat.strongRecOn generalizing total cs with
  | ind length ih =>
    by_cases hcs : cs = []
    · exact ⟨[], cs, rfl, htotal, .inl rfl, .inl hcs⟩
    · rcases exists_term_or_failsAt total hcs with ⟨v, rest, rfl, hends, hsum⟩ | hfails
      · have hshorter : rest.length < length := by
          have hv := List.length_pos_iff.2 (v.ne_nil [])
          rw [List.append_nil] at hv
          rw [← hlength, List.length_append]
          omega
        obtain ⟨terms, rest', rfl, hamount, hplace, hend⟩ :=
          ih _ hshorter (total + v.nanos) hsum rest rfl
        rw [Nat.add_assoc, ← amount_cons] at hamount hend
        refine ⟨v :: terms, rest', (written_cons v terms rest').symm, hamount, .inr ?_, hend⟩
        rcases hplace with rfl | hplace
        · exact hends
        · exact hplace
      · exact ⟨[], cs, rfl, htotal, .inl rfl, .inr hfails⟩

end Sum

/-! ### Bodies and durations -/

section Body

variable {body : List Char} {r : Except Fault Nat}

/-- Terms are not written as a lone zero, for each has a unit. -/
theorem written_ne_zero {terms : List UnitTerm} (hterms : terms ≠ []) :
    written terms ≠ ['0'] := by
  cases terms with
  | nil => exact absurd rfl hterms
  | cons v terms =>
    intro hzero
    -- The text of a unit has no digits, so there is a character too many.
    have hlast := (TimeUnit.text_of_names v.names)
    rw [written, List.flatMap_cons, UnitTerm.text, Term.text] at hzero
    have hmem : ∀ c ∈ v.term.unit, c = '0' := fun c hc => by
      have hmem : c ∈ ['0'] := by
        rw [← hzero]
        simp [hc]
      simpa using hmem
    obtain ⟨c, hc⟩ := List.exists_mem_of_ne_nil _ hlast.1
    have hunit := hlast.2 c hc
    rw [hmem c hc] at hunit
    cases hunit

/-- A body is read as the grammar says. -/
theorem Reading.bodyNanos_eq (h : Reading body r) : bodyNanos body = r := by
  cases h with
  | zero => rfl
  | @terms terms hterms hamount =>
    -- The sum over all terms goes to the end of the text.
    have hsum := sumTerms_written (by omega : 0 + amount terms ≤ maxNanos) (.inr endsUnit_nil)
    rw [List.append_nil, sumTerms_nil, Nat.zero_add] at hsum
    have hempty : ¬(written terms).isEmpty = true := by
      obtain ⟨v, terms, rfl⟩ := List.exists_cons_of_ne_nil hterms
      intro hnil
      exact v.ne_nil _ (List.isEmpty_iff.1 hnil)
    rw [bodyNanos, if_neg (written_ne_zero hterms), if_neg hempty, hsum]
  | empty => rfl
  | @fails terms rest e hzero hamount hplace h =>
    -- The sum goes up to the place that fails, and ends there.
    have hsum := sumTerms_written (by omega : 0 + amount terms ≤ maxNanos) hplace
    rw [Nat.zero_add, sumTerms_of_failsAt h] at hsum
    rw [bodyNanos, if_neg hzero]
    split
    · next hempty =>
      -- A place that fails is not at the end of a text.
      rw [List.isEmpty_iff.1 hempty, sumTerms_nil] at hsum
      cases hsum
    · exact hsum

/-- The grammar says of each body what it comes to. -/
theorem exists_reading (body : List Char) : ∃ r, Reading body r := by
  -- As a row of terms a lone zero would have no unit, so it comes first.
  by_cases hzero : body = ['0']
  · subst hzero
    exact ⟨_, .zero⟩
  · obtain ⟨terms, rest, rfl, hamount, hplace, hend⟩ :=
      exists_place 0 (Nat.zero_le _) body
    rw [Nat.zero_add] at hamount hend
    rcases hend with rfl | ⟨e, hfails⟩
    · rw [List.append_nil]
      by_cases hterms : terms = []
      · subst hterms
        exact ⟨_, .empty⟩
      · exact ⟨_, .terms hterms hamount⟩
    · exact ⟨_, .fails hzero hamount hplace hfails⟩

/-- A body comes to what the grammar says of it, and to nothing else. -/
theorem bodyNanos_eq_iff : bodyNanos body = r ↔ Reading body r := by
  constructor
  · rintro rfl
    -- The grammar says something of each body, and the reading comes to just that.
    obtain ⟨r, hreading⟩ := exists_reading body
    rwa [hreading.bodyNanos_eq]
  · exact Reading.bodyNanos_eq

/-- What the terms of a body come to is in range. -/
theorem Reading.le_maxNanos {n : Nat} (h : Reading body (.ok n)) : n ≤ maxNanos := by
  generalize hr : Except.ok n = r at h
  cases h with
  | zero =>
    cases hr
    exact Nat.zero_le _
  | terms hterms hamount =>
    cases hr
    exact hamount
  | empty => cases hr
  | fails => cases hr

/-- A text is cut into its sign and its body. -/
theorem signed_cutSign (cs : List Char) : Signed cs (cutSign cs).1 (cutSign cs).2 := by
  unfold cutSign
  split
  · exact .minus _
  · exact .plus _
  · next hminus hplus =>
    refine .unsigned (fun hhead => ?_) fun hhead => ?_
    · obtain ⟨r, rfl⟩ := List.head?_eq_some_iff.1 hhead
      exact hminus r rfl
    · obtain ⟨r, rfl⟩ := List.head?_eq_some_iff.1 hhead
      exact hplus r rfl

/-- A number in range is that of a duration. -/
theorem ofNanos_of_le {n : Nat} (h : n ≤ maxNanos) : ofNanos n = .ok ⟨n⟩ := by
  have hseconds : n / nanosPerSecond < UInt64.size := by
    have hmax : maxNanos < UInt64.size := by decide
    exact Nat.lt_of_le_of_lt (Nat.div_le_self _ _) (Nat.lt_of_le_of_lt h hmax)
  have hrest : n % nanosPerSecond < UInt32.size :=
    Nat.lt_of_lt_of_le (Nat.mod_lt _ (by decide)) (by decide)
  exact if_pos ⟨hseconds, hrest⟩

/-- A text is read as its body: to the same fault, or to its sum, with zero in place of it behind a
minus. In range, no sum is too large for the seconds of a duration. -/
theorem parse_eq (input : String) :
    parse input =
      match bodyNanos (cutSign input.toList).2 with
      | .error e => .error e
      | .ok n => .ok (if (cutSign input.toList).1 then zero else ⟨n⟩) := by
  rw [parse]
  generalize cutSign input.toList = cut
  obtain ⟨isNegative, body⟩ := cut
  change (bodyNanos body >>= fun n => _) = _
  cases hbody : bodyNanos body with
  | error e => rfl
  | ok n =>
    have hrange := (bodyNanos_eq_iff.1 hbody).le_maxNanos
    cases isNegative with
    | true => rfl
    | false => exact ofNanos_of_le hrange

/-- Its seconds and the nanoseconds beyond them make up a duration. -/
theorem ext_iff {d d' : Duration} :
    d = d' ↔ (d.seconds, d.subsecondNanos) = (d'.seconds, d'.subsecondNanos) := by
  constructor
  · rintro rfl
    rfl
  · intro h
    obtain ⟨hseconds, hrest⟩ := Prod.mk.inj h
    obtain ⟨n⟩ := d
    obtain ⟨m⟩ := d'
    change n / nanosPerSecond = m / nanosPerSecond at hseconds
    change n % nanosPerSecond = m % nanosPerSecond at hrest
    rw [← Nat.div_add_mod n nanosPerSecond, hseconds, hrest, Nat.div_add_mod]

/-- A text is read as the body behind its sign is: to the seconds and nanoseconds of the sum of
its terms, or to zero if the sign is a minus, or to what is wrong at the first place that
fails, whatever the sign is. -/
theorem parse_iff_reading (input : String) :
    ∃ isNegative body, Signed input.toList isNegative body ∧
      (∀ d, parse input = .ok d ↔
        ∃ n, Reading body (.ok n) ∧
          (d.seconds, d.subsecondNanos) =
            if isNegative then (0, 0) else (n / nanosPerSecond, n % nanosPerSecond)) ∧
      ∀ e, parse input = .error e ↔ Reading body (.error e) := by
  -- The sign is cut off first, and what it is does not change what is wrong with the body.
  refine ⟨_, _, signed_cutSign input.toList, fun d => ?_, fun e => ?_⟩
  · -- Seconds and the rest of a second tell two durations apart.
    have hparts : ∀ n, (d.seconds, d.subsecondNanos) =
        (if (cutSign input.toList).1 then (0, 0) else (n / nanosPerSecond, n % nanosPerSecond)) ↔
        (if (cutSign input.toList).1 then zero else ⟨n⟩) = d := by
      intro n
      rw [@eq_comm _ _ d, ext_iff]
      split
      · rfl
      · rfl
    simp only [hparts, ← bodyNanos_eq_iff, parse_eq]
    cases bodyNanos (cutSign input.toList).2 with
    | error e => simp
    | ok n => simp
  · rw [parse_eq, ← bodyNanos_eq_iff]
    cases bodyNanos (cutSign input.toList).2 with
    | error e' => simp
    | ok n => simp

end Body

end ImageSync.Duration
