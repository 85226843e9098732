import ImageSync.Proofs.Json.Integer
import ImageSync.Proofs.Rule.ConfigMembers

/-!
# `ImageSync.Proofs.Rule.ConfigInteger`: integers in a configuration

A scalar may be an integer, of which the text is to be kept. It is if the integer fits 64 bits with
a sign, minus zero included (`readScalar_of_fits`). Any other integer is written out in double
precision (`readScalar_of_not_fits`), which has seventeen digits at most before it goes on with
zeros, so that an integer with more of them is read as another one (`doubleText_ne_text`).

`parse_integer` says this of whole configurations, in objects and in arrays.
-/

set_option autoImplicit false

namespace ImageSync.RuleConfig

open ImageSync.Json
open ImageSync.Text (trimEndOf)
open ImageSync.Decimal (Binary64)

variable {i : Integer}

/-! ### One integer -/

/-- An integer in a text field is read as the text of its number, if it has one. -/
theorem readScalar_value : readScalar i.value =
    match i.written.value? with
    | some n => .ok (numberText n)
    | none => .error (.fault .malformed) := by
  rw [Integer.value, readScalar, NumberText.read]
  cases i.written.value? <;> rfl

/-- An integer that fits 64 bits with a sign keeps its text. -/
theorem readScalar_of_fits (h : i.Fits) : readScalar i.value = .ok i.text := by
  rw [readScalar_value, i.value?_written, Integer.text, Integer.chars]
  -- Without a minus an integer is kept in 64 bits without a sign, and otherwise in 64 bits with
  -- one.
  cases hneg : i.negative with
  | false =>
    have hlt : i.amount < UInt64.size / 2 := h.resolve_right fun h => by simp [hneg] at h
    rw [if_pos ⟨rfl, Nat.lt_of_lt_of_le hlt (by decide)⟩]
    dsimp only [numberText]
    rw [if_pos hlt, i.toString_amount]
    rfl
  | true =>
    have hle : i.amount ≤ UInt64.size / 2 := h.elim Nat.le_of_lt fun h => Nat.le_of_eq h.2
    rw [if_neg (fun h => Bool.noConfusion h.1)]
    by_cases hzero : i.amount = 0
    · -- Minus zero has the text of the double that it is.
      have hdigits : i.digits = ['0'] := by
        rw [← i.digitsOf_amount, hzero]
        rfl
      have hdouble : Binary64.ofDecimal? (addDigits 0 ['0']).1 (addDigits 0 ['0']).2 =
          some .zero := Decimal.ofDecimal?_zero 0
      rw [if_neg (fun h => Nat.ne_of_gt h.2.1 hzero), hdigits, hdouble]
      rfl
    · rw [if_pos ⟨rfl, Nat.pos_of_ne_zero hzero, hle⟩]
      dsimp only [numberText]
      rw [i.toString_amount]
      exact congrArg Except.ok (@String.ofList_append ['-'] i.digits).symm

/-- Any other integer is written out in double precision, unless it is too large for that. -/
theorem readScalar_of_not_fits (h : ¬i.Fits) :
    readScalar i.value = match i.rounded? with
      | some x => .ok (doubleText i.negative x)
      | none => .error (.fault .malformed) := by
  rw [readScalar_value, i.value?_written, Integer.rounded?]
  have hlarge : ¬i.amount < UInt64.size / 2 := fun hlt => h (.inl hlt)
  by_cases hnatural : i.negative = false ∧ i.amount < UInt64.size
  · obtain ⟨x, hx⟩ := Decimal.exists_ofNat? hnatural.2
    rw [if_pos hnatural, if_pos hnatural, hnatural.1, hx]
    dsimp only [numberText]
    rw [if_neg hlarge, hx]
  · have hnegative : ¬(i.negative = true ∧ 0 < i.amount ∧ i.amount ≤ UInt64.size / 2) :=
      fun hle => h ((Nat.lt_or_eq_of_le hle.2.2).imp_right fun heq => ⟨hle.1, heq⟩)
    rw [if_neg hnatural, if_neg hnatural, if_neg hnegative]
    cases Binary64.ofDecimal? (addDigits 0 i.digits).1 (addDigits 0 i.digits).2 <;> rfl

/-- A number of double precision is not written as an integer with more than seventeen digits,
zeros at its end apart. -/
theorem doubleText_ne_text (h : 17 < (trimEndOf '0' i.digits).length) (x : Binary64) :
    doubleText i.negative x ≠ i.text := by
  intro heq
  have hdigits : x.positional = i.digits :=
    List.append_cancel_left (String.ofList_injective heq)
  exact Nat.not_lt_of_le (Decimal.length_trimEndOf_le_of_positional i.digits_spec.2 hdigits) h

/-! ### A configuration with an integer -/

section Member

variable {text : String} {v : Value} {front back : List Member} (s : Scalar)

/-- What a scalar is read as is put into what the other members are read as. -/
theorem parse_scalar_eq_ok_iff (h : Gives text (front ++ (.ok s.name, v) :: back))
    (hnew : ∀ w, (.ok s.name, w) ∉ front ++ back) {d : RuleConfig} :
    parse text = .ok d ↔ ∃ c t, readFields fields none [] {} (front ++ back) = .ok c ∧
      readScalar v = .ok t ∧ d = s.put t c := by
  rw [h.parse_eq, ← s.name_field, readFields_eq_ok_iff_last pairwise_independent_fields s.field_mem
    nodup_fieldNames hnew]
  refine exists_congr fun c => ?_
  rw [s.read_field]
  cases readScalar v with
  | error e => simp [Except.map]
  | ok t => simp [Except.map, eq_comm]

/-- On success a scalar is what was read of its value. -/
theorem get_of_parse_eq_ok (h : Gives text (front ++ (.ok s.name, v) :: back)) {d : RuleConfig}
    (hd : parse text = .ok d) : readScalar v = .ok (s.get d) := by
  have hnew := not_mem_of_readFields_eq_ok s.field_mem nodup_fieldNames (h.parse_eq ▸ hd)
  obtain ⟨c, t, -, ht, rfl⟩ := (parse_scalar_eq_ok_iff s h hnew).1 hd
  rw [ht, s.get_put]

/-- An integer that fits 64 bits with a sign is read as if its text stood in quotes: it keeps the
text, in whatever scalar it stands and beside whatever other members. An integer that does not fit
is written out in double precision, so that its text is another one if it has more than seventeen
digits, zeros at its end apart. -/
theorem parse_integer (i : Integer) (hv : Spells i.chars v)
    (h : Gives text (front ++ (.ok s.name, v) :: back)) :
    (i.Fits →
      (∀ text', Gives text' (front ++ (.ok s.name, textValue i.text) :: back) →
        parse text = parse text') ∧
      (∀ rest c, Gives rest (front ++ back) → (∀ w, (.ok s.name, w) ∉ front ++ back) →
        parse rest = .ok c → parse text = .ok (s.put i.text c)) ∧
      ∀ d, parse text = .ok d → s.get d = i.text) ∧
    (¬i.Fits →
      (∀ rest c x, Gives rest (front ++ back) → (∀ w, (.ok s.name, w) ∉ front ++ back) →
        parse rest = .ok c → i.rounded? = some x →
          parse text = .ok (s.put (doubleText i.negative x) c)) ∧
      ∀ d, parse text = .ok d → ∃ x, i.rounded? = some x ∧ s.get d = doubleText i.negative x ∧
        (17 < (trimEndOf '0' i.digits).length → s.get d ≠ i.text)) := by
  obtain rfl := hv.eq_value
  -- In both cases the field gets a text, and all other fields are read as without it.
  refine ⟨fun hfits => ?_, fun hfits => ?_⟩
  · have hread := readScalar_of_fits hfits
    refine ⟨fun text' h' => ?_, fun rest c hrest hnew hc => ?_, fun d hd => ?_⟩
    · rw [h.parse_eq, h'.parse_eq]
      refine readFields_congr s.field_mem nodup_fieldNames fun a => ?_
      rw [s.read_field, s.read_field, hread, readScalar_textValue]
    · exact (parse_scalar_eq_ok_iff s h hnew).2 ⟨c, _, hrest.parse_eq ▸ hc, hread, rfl⟩
    · have hget := get_of_parse_eq_ok s h hd
      rw [hread] at hget
      exact (Except.ok.inj hget).symm
  · have hread := readScalar_of_not_fits hfits
    refine ⟨fun rest c x hrest hnew hc hx => ?_, fun d hd => ?_⟩
    · rw [hx] at hread
      exact (parse_scalar_eq_ok_iff s h hnew).2 ⟨c, _, hrest.parse_eq ▸ hc, hread, rfl⟩
    · have hget := get_of_parse_eq_ok s h hd
      rw [hread] at hget
      cases hx : i.rounded? with
      | none =>
        rw [hx] at hget
        cases hget
      | some x =>
        rw [hx] at hget
        have htext : doubleText i.negative x = s.get d := Except.ok.inj hget
        exact ⟨x, rfl, htext.symm, fun hlong => htext ▸ doubleText_ne_text hlong x⟩

/-- The least integer that fits, in an array behind a text. -/
theorem parse_integer_least :
    parse "[\"a\",-9223372036854775808]" =
      .ok { source := "a", target := "-9223372036854775808" } := by
  let i : Integer := ⟨true, "9223372036854775808".toList, by decide, by decide⟩
  let first : Slot := .bare (quote ['a']) (textValue "a")
  let second : Slot := .bare i.chars i.value
  have hfirst : Spells first.core first.value := spells_quote ['a']
  have hsays : Says "[\"a\",-9223372036854775808]".toList
      (.array [first.value, second.value] none) :=
    says_of_spells (.array (List.cons_ne_nil first [second])
      (List.forall_mem_cons.2 ⟨hfirst, List.forall_mem_singleton.2 i.spells⟩))
  let source : MemberSlot := .quoted "from" first
  have hrest : Says "\x7b\"from\":\"a\"\x7d".toList (.object [source.member] none) :=
    says_of_spells (.object (List.cons_ne_nil source []) (List.forall_mem_singleton.2 hfirst))
  have hgives : Gives "[\"a\",-9223372036854775808]"
      ([(.ok "from", textValue "a")] ++ (.ok Scalar.target.name, i.value) :: []) :=
    .array (by decide) hsays
  have hnew : ∀ w, (.ok Scalar.target.name, w) ∉ ([(.ok "from", textValue "a")] : List Member) := by
    intro w hmem
    simp [Scalar.name] at hmem
  exact ((parse_integer .target i i.spells hgives).1 (by decide)).2.1 _ _ (.object hrest) hnew
    ((Gives.object hrest).parse_eq.trans rfl)

/-- The first integer that does not fit is read as another one than the same digits in quotes. -/
theorem parse_integer_too_large :
    Spells "9223372036854775808".toList (.number (.ok (.natural 9223372036854775808))) ∧
      Says "\x7b\"from\":9223372036854775808\x7d".toList
        (.object [(.ok "from", .number (.ok (.natural 9223372036854775808)))] none) ∧
      parse "\x7b\"from\":9223372036854775808\x7d" = .ok { source := "9223372036854776000" } ∧
      parse "\x7b\"from\":\"9223372036854775808\"\x7d" =
        .ok { source := "9223372036854775808" } := by
  let i : Integer := ⟨false, "9223372036854775808".toList, by decide, by decide⟩
  have hvalue : i.value = .number (.ok (.natural 9223372036854775808)) := by
    rw [Integer.value, NumberText.read, i.value?_written]
    rfl
  have hspells : Spells "9223372036854775808".toList
      (.number (.ok (.natural 9223372036854775808))) := hvalue ▸ i.spells
  let source : MemberSlot :=
    .quoted "from" (.bare i.chars (.number (.ok (.natural 9223372036854775808))))
  have hsays : Says "\x7b\"from\":9223372036854775808\x7d".toList (.object [source.member] none) :=
    says_of_spells (.object (List.cons_ne_nil source []) (List.forall_mem_singleton.2 hspells))
  have hgives : Gives "\x7b\"from\":9223372036854775808\x7d"
      ([] ++ (.ok Scalar.source.name, source.slot.value) :: []) := .object hsays
  have hread : readScalar source.slot.value = .ok "9223372036854776000" :=
    congrArg Except.ok (by decide +kernel)
  have hparse := (parse_scalar_eq_ok_iff .source hgives fun _ => List.not_mem_nil).2
    ⟨{}, _, rfl, hread, rfl⟩
  let quoted : MemberSlot := .quoted "from" (.bare (quote i.chars) (textValue i.text))
  have hquoted : Says "\x7b\"from\":\"9223372036854775808\"\x7d".toList
      (.object [quoted.member] none) :=
    says_of_spells
      (.object (List.cons_ne_nil quoted []) (List.forall_mem_singleton.2 (spells_quote i.chars)))
  exact ⟨hspells, hsays, hparse, (Gives.object hquoted).parse_eq.trans rfl⟩

end Member

end ImageSync.RuleConfig
