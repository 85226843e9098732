import ImageSync.Proofs.Json.Members
import ImageSync.Proofs.Json.Spelling
import ImageSync.Rule.ConfigJson

/-!
# `ImageSync.Proofs.Rule.ConfigText`: configurations and their JSON texts

A configuration is written as an object with a member for each of its fields. Every value in
it is a string or an array of strings, so a text such as `null`, `true` or `10` stays a text
when it is read, although a field may also be written as `null`, a truth value or a number.

The main statement is `parse_render`: each configuration is read from the text that it is
written as. Its steps are `spells_config` (the text spells the object that `value` gives)
and `read_values` (the values of this object, each read into its field, make the configuration
anew, whatever it is read into).
-/

set_option autoImplicit false

namespace ImageSync.RuleConfig

open ImageSync.Json

/-- A string as a value. -/
def textValue (s : String) : Value := .text (.ok s)

/-- Some strings as a value. -/
def textValues (strings : List String) : Value := .array (strings.map textValue) none

/-- The values of a configuration, in the order of its fields. -/
def values (c : RuleConfig) : List Value :=
  [textValue c.source, textValue c.target, textValues c.tags, textValue c.platform,
    textValue c.onlyActive, textValue c.since]

/-- A configuration as a value. -/
def value (c : RuleConfig) : Value :=
  .object ((fields.zip c.values).map fun p => (.ok p.1.name, p.2)) none

/-! ### What is written -/

/-- A rendered string spells the string. -/
theorem spells_renderString (s : String) : Spells (renderString s) (textValue s) := by
  have h := spells_quote s.toList
  rwa [String.ofList_toList] at h

/-- Rendered strings spell an array of strings. -/
theorem spells_renderStrings (strings : List String) :
    Spells (renderStrings strings) (textValues strings) := by
  have hitems : ∀ i ∈ strings.map fun s => (renderString s, textValue s), Spells i.1 i.2 :=
    List.forall_mem_map.2 fun s _ => spells_renderString s
  have h := spells_items hitems
  rwa [List.map_map, List.map_map] at h

/-- The members that a configuration is written as. -/
def members (c : RuleConfig) : List MemberSlot :=
  [.quoted "from" (.bare (renderString c.source) (textValue c.source)),
    .quoted "to" (.bare (renderString c.target) (textValue c.target)),
    .quoted "tags" (.bare (renderStrings c.tags) (textValues c.tags)),
    .quoted "platform" (.bare (renderString c.platform) (textValue c.platform)),
    .quoted "only_active" (.bare (renderString c.onlyActive) (textValue c.onlyActive)),
    .quoted "since" (.bare (renderString c.since) (textValue c.since))]

/-- The values of all members are spelled. -/
theorem spells_members (c : RuleConfig) : ∀ m ∈ c.members, Spells m.slot.core m.slot.value := by
  simp only [members, List.forall_mem_cons]
  exact ⟨spells_renderString _, spells_renderString _, spells_renderStrings _,
    spells_renderString _, spells_renderString _, spells_renderString _, List.forall_mem_nil _⟩

/-- A configuration is written as the value it stands for. -/
theorem spells_config (c : RuleConfig) : Spells c.renderChars c.value := by
  have hchars : c.members.map MemberSlot.chars =
      (renderedMembers c).map fun p => renderString p.1 ++ ':' :: p.2 := by
    simp only [members, List.map_cons, List.map_nil, MemberSlot.chars_quoted]
    rfl
  have hmembers : c.members.map MemberSlot.member =
      (fields.zip c.values).map fun p => (.ok p.1.name, p.2) := by
    simp only [members, List.map_cons, List.map_nil, MemberSlot.member_quoted]
    rfl
  have hne : c.members ≠ [] := List.cons_ne_nil _ _
  have h := Spells.object hne c.spells_members
  rwa [hchars, hmembers] at h

/-! ### What is read -/

/-- A string is kept as it is, also if it looks like another scalar. -/
theorem readScalar_textValue (s : String) : readScalar (textValue s) = .ok s := rfl

/-- An array of strings is read as these strings. -/
theorem readStrings_textValues (strings : List String) :
    readStrings (textValues strings) = .ok strings :=
  readStrings_eq_ok_iff.2 rfl

/-- No two fields of the record have the same name. -/
theorem nodup_fieldNames : (fields.map RecordField.name).Nodup := by decide

/-- Every field is replaced by that of the configuration whose values are read. -/
theorem read_values (c a : RuleConfig) :
    readAll (fields.zip c.values) a = .ok c := by
  -- Each of the six reads gives the value of its field, and the next one keeps it.
  simp only [readAll, fields, values, scalarField, List.zip_cons_cons, List.zip_nil_right,
    List.foldlM_cons, List.foldlM_nil, readScalar_textValue, readStrings_textValues, Except.map,
    bind, Except.bind]
  rfl

/-- A configuration is read from the value it stands for. -/
theorem readRecordValue_value (expected : String) (c a : RuleConfig) :
    readRecordValue expected fields a c.value = .ok c := by
  have hnames : (fields.zip c.values).map (fun p => p.1.name) = fields.map RecordField.name := by
    rfl
  have hdistinct : ((fields.zip c.values).map fun p => p.1.name).Nodup := by
    rw [hnames]
    exact nodup_fieldNames
  rw [value, readRecordValue,
    readFields_pairs nodup_fieldNames (fun p hp => (List.of_mem_zip hp).1) hdistinct
      fun p hp => List.not_mem_nil]
  exact read_values c a

/-- Each configuration is read from the text that it is written as. -/
theorem parse_render (c : RuleConfig) : parse c.render = .ok c := by
  have hsays := says_of_spells (spells_config c)
  rw [parse, readRecord, render, String.toList_ofList, hsays.readDocument_eq]
  dsimp only
  rw [readRecordValue_value]
  rfl

end ImageSync.RuleConfig
