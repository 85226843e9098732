import ImageSync.Proofs.Json.Members
import ImageSync.Proofs.Json.Spelling
import ImageSync.Proofs.Rule.ConfigText

/-!
# `ImageSync.Proofs.Rule.ConfigMembers`: a configuration depends on its values only

The fields of a configuration change different parts of it (`pairwise_independent_fields`). So it
does not matter in which order they stand in an object, where there are blanks, and which other
members there are, as long as their names can be read. A scalar that is `null` is the same as one
that is absent, and an array stands for the object whose members have its items as values.

`parse_object` says this of the texts of objects. Names have to be readable: one with half of a
surrogate pair is none, and an object with such a name is refused whatever its value is
(`parse_unreadable_name`).
-/

set_option autoImplicit false

namespace ImageSync.RuleConfig

open ImageSync.Json

/-- The names of the fields. -/
def fieldNames : List String := fields.map RecordField.name

/-- The fields of a configuration that are scalars. -/
inductive Scalar where
  | source
  | target
  | platform
  | onlyActive
  | since

namespace Scalar

/-- The name of a scalar field. -/
def name : Scalar → String
  | source => "from"
  | target => "to"
  | platform => "platform"
  | onlyActive => "only_active"
  | since => "since"

/-- A scalar field of a configuration. -/
def get (c : RuleConfig) : Scalar → String
  | source => c.source
  | target => c.target
  | platform => c.platform
  | onlyActive => c.onlyActive
  | since => c.since

/-- A configuration with a scalar field set to a text. -/
def put (text : String) (c : RuleConfig) : Scalar → RuleConfig
  | source => { c with source := text }
  | target => { c with target := text }
  | platform => { c with platform := text }
  | onlyActive => { c with onlyActive := text }
  | since => { c with since := text }

/-- How a scalar field is read. -/
def field (s : Scalar) : RecordField RuleConfig := scalarField s.name fun text c => s.put text c

/-- The field of a scalar has its name. -/
theorem name_field (s : Scalar) : s.field.name = s.name := rfl

/-- The field of a scalar is read as a text and put in its place. -/
theorem read_field (s : Scalar) (v : Value) (c : RuleConfig) :
    s.field.read v c = (readScalar v).map fun text => s.put text c := rfl

/-- Each scalar is a field of the record. -/
theorem field_mem (s : Scalar) : s.field ∈ fields := by
  cases s with
  | source => exact .head _
  | target => exact .tail _ (.head _)
  | platform => exact .tail _ (.tail _ (.tail _ (.head _)))
  | onlyActive => exact .tail _ (.tail _ (.tail _ (.tail _ (.head _))))
  | since => exact .tail _ (.tail _ (.tail _ (.tail _ (.tail _ (.head _)))))

/-- A scalar is the text it was set to. -/
theorem get_put (s : Scalar) (text : String) (c : RuleConfig) : s.get (s.put text c) = text := by
  cases s <;> rfl

/-- A scalar that is `null` leaves an empty configuration as it is. -/
theorem read_null (s : Scalar) : s.field.read .null {} = .ok {} := by
  cases s <;> rfl

end Scalar

/-- No two fields of the record set the same part of it. -/
theorem pairwise_independent_fields : fields.Pairwise Independent := by
  simp only [fields, List.pairwise_cons, List.forall_mem_cons, List.not_mem_nil, false_imp_iff,
    implies_true, and_true, List.Pairwise.nil]
  refine ⟨⟨?_, ?_, ?_, ?_, ?_⟩, ⟨?_, ?_, ?_, ?_⟩, ⟨?_, ?_, ?_⟩, ⟨?_, ?_⟩, ?_⟩
  -- For each of the pairs it does not matter which field is put first.
  all_goals
    apply independent_of_put
    exact fun _ _ _ => rfl

/-- A text gives values to fields: by the members of an object, or by the places of an array. -/
inductive Gives (text : String) : List Member → Prop where
  | object {members : List Member} (h : Says text.toList (.object members none)) :
      Gives text members
  | array {items : List Value} (hlength : items.length ≤ fieldNames.length)
      (h : Says text.toList (.array items none)) : Gives text (namedItems fieldNames items)

/-- What is read of a text depends on the values that it gives. -/
theorem Gives.parse_eq {text : String} {members : List Member} (h : Gives text members) :
    parse text = readFields fields none [] {} members := by
  cases h with
  | object h =>
    rw [parse, readRecord, h.readDocument_eq]
    dsimp only [readRecordValue]
    cases readFields fields none [] {} members <;> rfl
  | array hlength h =>
    rename_i items
    rw [parse, readRecord, h.readDocument_eq, fieldNames,
      ← readPlaces_eq_readFields nodup_fieldNames items (by simpa [fieldNames] using hlength)]
    dsimp only [readRecordValue]
    cases readPlaces none fields {} items <;> rfl

variable {text : String} {members : List Member}

/-- A configuration in an object depends on the values of its fields only: not on their order, on
blanks, or on members with other names. Other names have to be readable, and no field may occur
twice. A scalar that is `null` may as well be left out. An array of items is read as the object
whose members have these items as their values. -/
theorem parse_object (h : Says text.toList (.object members none)) :
    (Readable members → ∀ (text' : String) (members' : List Member),
      Says text'.toList (.object members' none) → Readable members' →
        SameFields fieldNames members members' → ∀ c, parse text = .ok c ↔ parse text' = .ok c) ∧
    (¬Readable members → ∀ c, parse text ≠ .ok c) ∧
    (∀ name ∈ fieldNames, ∀ front v mid w back,
      members = front ++ (.ok name, v) :: (mid ++ (.ok name, w) :: back) →
        ∀ c, parse text ≠ .ok c) ∧
    (∀ (s : Scalar) (text' : String) (front back : List Member),
      members = front ++ (.ok s.name, .null) :: back → (∀ v, (.ok s.name, v) ∉ front ++ back) →
        Says text'.toList (.object (front ++ back) none) →
          ∀ c, parse text = .ok c ↔ parse text' = .ok c) ∧
    ∀ (text' : String) (items : List Value), items.length ≤ fieldNames.length →
      members = namedItems fieldNames items → Says text'.toList (.array items none) →
        parse text' = parse text := by
  -- A configuration is the fold of its members over the fields, so each part is about this fold.
  rw [(Gives.object h).parse_eq]
  refine ⟨fun hread text' members' h' hread' hsame c => ?_, fun hread c hc => ?_, ?_, ?_, ?_⟩
  · rw [(Gives.object h').parse_eq]
    exact readFields_eq_ok_iff_of_perm pairwise_independent_fields hsame.perm_assigned
      (iff_of_true hread hread')
  · exact hread (readFields_eq_ok_iff_assigned.1 hc).1
  · rintro name hname front v mid w back rfl c hc
    obtain ⟨field, hfield, rfl⟩ := List.mem_map.1 hname
    exact not_mem_of_readFields_eq_ok hfield nodup_fieldNames hc w (by simp)
  · rintro s text' front back rfl hnew h' c
    rw [(Gives.object h').parse_eq]
    exact readFields_eq_ok_iff_of_idle pairwise_independent_fields s.field_mem nodup_fieldNames hnew
      s.read_null
  · rintro text' items hlength rfl h'
    exact (Gives.array hlength h').parse_eq

/-- The same members once more, in another order, between blanks and with one for no field. -/
theorem parse_object_reordered :
    parse " \x7b\"x\":1,\"to\":\"b\",\"from\":\"a\"\x7d" =
      .ok { source := "a", target := "b" } := by
  let one : MemberSlot := .quoted "x" (.bare ['1'] (.number (.ok (.natural 1))))
  let target : MemberSlot := .quoted "to" (.bare (quote ['b']) (textValue "b"))
  let source : MemberSlot := .quoted "from" (.bare (quote ['a']) (textValue "a"))
  have hdigit : Digits ['1'] := by decide
  have hone : Spells one.slot.core one.slot.value :=
    .number (.parts false hdigit (by decide) .none .none)
  have htarget : Spells target.slot.core target.slot.value := spells_quote ['b']
  have hsource : Spells source.slot.core source.slot.value := spells_quote ['a']
  have hmixed : Says " \x7b\"x\":1,\"to\":\"b\",\"from\":\"a\"\x7d".toList
      (.object [one.member, target.member, source.member] none) :=
    ⟨⟨[' '], _, [], _, by decide, by decide⟩, rfl, rfl,
      .object (List.cons_ne_nil one [target, source])
        (List.forall_mem_cons.2 ⟨hone, List.forall_mem_cons.2 ⟨htarget,
          List.forall_mem_singleton.2 hsource⟩⟩)⟩
  have hplain : Says "\x7b\"from\":\"a\",\"to\":\"b\"\x7d".toList
      (.object [source.member, target.member] none) :=
    says_of_spells (.object (List.cons_ne_nil source [target])
      (List.forall_mem_cons.2 ⟨hsource, List.forall_mem_singleton.2 htarget⟩))
  have hread : Readable [one.member, target.member, source.member] :=
    List.forall_mem_cons.2 ⟨⟨_, rfl⟩, List.forall_mem_cons.2 ⟨⟨_, rfl⟩,
      List.forall_mem_singleton.2 ⟨_, rfl⟩⟩⟩
  have hread' : Readable [source.member, target.member] :=
    List.forall_mem_cons.2 ⟨⟨_, rfl⟩, List.forall_mem_singleton.2 ⟨_, rfl⟩⟩
  have hsame : SameFields fieldNames [one.member, target.member, source.member]
      [source.member, target.member] := .swap _ _ _
  have hparse : parse "\x7b\"from\":\"a\",\"to\":\"b\"\x7d" =
      .ok { source := "a", target := "b" } := (Gives.object hplain).parse_eq.trans rfl
  exact ((parse_object hmixed).1 hread _ _ hplain hread' hsame _).2 hparse

/-- Half of a surrogate pair is no name, so that an object with such a member is refused. -/
theorem parse_unreadable_name :
    Says "\x7b\"from\":\"a\"\x7d".toList (.object [(.ok "from", textValue "a")] none) ∧
      parse "\x7b\"from\":\"a\"\x7d" = .ok { source := "a" } ∧
      Says "\x7b\"from\":\"a\",\"\\ud800\":null\x7d".toList
        (.object [(.ok "from", textValue "a"), (.error .malformed, .null)] none) ∧
      parse "\x7b\"from\":\"a\",\"\\ud800\":null\x7d" = .error (.fault .malformed) := by
  let source : MemberSlot := .quoted "from" (.bare (quote ['a']) (textValue "a"))
  have hsource : Spells source.slot.core source.slot.value := spells_quote ['a']
  have hcode : SpellsCode ['d', '8', '0', '0'] (((13 * 16 + 8) * 16 + 0) * 16 + 0) :=
    .digits rfl rfl rfl rfl
  have hhalf : SpellsText "\\ud800".toList (.error .malformed) :=
    .high hcode (by decide) .nil nofun
  let half : MemberSlot :=
    ⟨[], _, [], .bare "null".toList .null, _, by decide, by decide, hhalf⟩
  have hwithout : Says "\x7b\"from\":\"a\"\x7d".toList (.object [source.member] none) :=
    says_of_spells
      (.object (List.cons_ne_nil source []) (List.forall_mem_singleton.2 hsource))
  have hwith : Says "\x7b\"from\":\"a\",\"\\ud800\":null\x7d".toList
      (.object [source.member, half.member] none) :=
    says_of_spells (.object (List.cons_ne_nil source [half])
      (List.forall_mem_cons.2 ⟨hsource, List.forall_mem_singleton.2 .null⟩))
  exact ⟨hwithout, (Gives.object hwithout).parse_eq.trans rfl, hwith,
    (Gives.object hwith).parse_eq.trans rfl⟩

end ImageSync.RuleConfig
