import ImageSync.Json.Record

/-!
# `ImageSync.Proofs.Json.Field`: records with a single field

What a record with one field holds can be told without reading it member by member.
`FieldOf` says which value the field has, if it has any: in an object that of the only member
with its name, in an array the only item. All other members have readable names, and their
values do not matter.

The main statement is `readRecord_eq_ok_iff`: such a record is read exactly where `FieldOf`
says what its field is, and comes to what is read of the value of the field.
-/

set_option autoImplicit false

namespace ImageSync.Json

/-- The names of some members are readable, and none is that of a field. -/
def Others (field : String) (members : List (Except Fault String × Value)) : Prop :=
  ∀ m ∈ members, ∃ name, m.1 = .ok name ∧ name ≠ field

/-- The value that a record has for its only field, if it has one. -/
inductive FieldOf (field : String) : Value → Option Value → Prop where
  | absent {members : List (Except Fault String × Value)} (hothers : Others field members) :
      FieldOf field (.object members none) none
  | member {front back : List (Except Fault String × Value)} {v : Value}
      (hfront : Others field front) (hback : Others field back) :
      FieldOf field (.object (front ++ (.ok field, v) :: back) none) (some v)
  | noItem : FieldOf field (.array [] none) none
  | item {v : Value} : FieldOf field (.array [v] none) (some v)

section Members

variable {field : String} {members : List (Except Fault String × Value)}

/-- An empty object has no member of any name. -/
theorem others_nil (field : String) : Others field [] := nofun

/-- The first member has another name, and so have the others. -/
theorem others_cons_iff {key : Except Fault String} {v : Value} :
    Others field ((key, v) :: members) ↔
      (∃ name, key = .ok name ∧ name ≠ field) ∧ Others field members := by
  simp only [Others, List.forall_mem_cons]

end Members

/-- Reading ends well if the text was not broken off, and then what was read stays. -/
theorem finish_eq_ok_iff {α : Type} {breakOff : Option Fault} {a b : α} :
    finish breakOff a = .ok b ↔ breakOff = none ∧ b = a := by
  cases breakOff with
  | none =>
    show Except.ok a = .ok b ↔ _
    simp [eq_comm]
  | some f => simp [finish]

section Read

variable {α : Type} {field : String} {read : Value → α → Except RecordError α}
  {breakOff : Option Fault} {a b : α}

/-- The step over a member: its name has to be readable, and a member of another name is
passed over. -/
theorem readFields_cons (seen : List String) (key : Except Fault String) (v : Value)
    (rest : List (Except Fault String × Value)) :
    readFields [⟨field, read⟩] breakOff seen a ((key, v) :: rest) =
      match key with
      | .error f => .error (.fault f)
      | .ok name =>
        if name = field then
          if seen.contains name then .error (.unsuitable ("duplicate field `" ++ name ++ "`"))
          else
            match read v a with
            | .error e => .error e
            | .ok a' => readFields [⟨field, read⟩] breakOff (name :: seen) a' rest
        else readFields [⟨field, read⟩] breakOff seen a rest := by
  rw [readFields]
  cases key with
  | error f => rfl
  | ok name =>
    dsimp only [orFault, bind, Except.bind]
    -- There is one field to look for.
    rw [List.find?_singleton]
    by_cases hname : name = field
    · subst hname
      rw [if_pos (beq_self_eq_true name), if_pos rfl]
      dsimp only
      split
      · rfl
      · cases read v a with
        | error e => rfl
        | ok a' => rfl
    · have hother : ¬(field == name) = true := fun heq => hname (beq_iff_eq.1 heq).symm
      rw [if_neg hother, if_neg hname]

/-- Behind the member of the field there may only be others. -/
theorem readFields_seen_eq_ok_iff {members : List (Except Fault String × Value)} :
    readFields [⟨field, read⟩] breakOff [field] a members = .ok b ↔
      breakOff = none ∧ b = a ∧ Others field members := by
  induction members with
  | nil =>
    rw [readFields, finish_eq_ok_iff]
    simp [others_nil]
  | cons m rest ih =>
    obtain ⟨key, v⟩ := m
    rw [readFields_cons, others_cons_iff]
    cases key with
    | error f => simp
    | ok name =>
      dsimp only
      by_cases hname : name = field
      · simp [hname]
      · rw [if_neg hname, ih]
        simp [hname]

/-- Members are read where at most one is that of the field. -/
theorem readFields_eq_ok_iff {members : List (Except Fault String × Value)} :
    readFields [⟨field, read⟩] breakOff [] a members = .ok b ↔
      breakOff = none ∧
        (Others field members ∧ b = a ∨
          ∃ front v back, members = front ++ (.ok field, v) :: back ∧ Others field front ∧
            Others field back ∧ read v a = .ok b) := by
  -- By induction on the members: this one is of another name, or it is that of the field.
  induction members with
  | nil =>
    rw [readFields, finish_eq_ok_iff]
    simp [others_nil]
  | cons m rest ih =>
    obtain ⟨key, v⟩ := m
    rw [readFields_cons]
    constructor
    · intro hread
      cases key with
      | error f => cases hread
      | ok name =>
        dsimp only at hread
        by_cases hname : name = field
        · -- This is the member of the field.
          subst hname
          rw [if_pos rfl, if_neg (by simp)] at hread
          cases hv : read v a with
          | error e =>
            rw [hv] at hread
            cases hread
          | ok a' =>
            rw [hv] at hread
            obtain ⟨hbreak, rfl, hrest⟩ := readFields_seen_eq_ok_iff.1 hread
            exact ⟨hbreak, .inr ⟨[], v, rest, rfl, others_nil _, hrest, hv⟩⟩
        · rw [if_neg hname] at hread
          obtain ⟨hbreak, ⟨hrest, hb⟩ | ⟨front, v', back, rfl, hfront, hback, hv⟩⟩ :=
            ih.1 hread
          · exact ⟨hbreak, .inl ⟨others_cons_iff.2 ⟨⟨name, rfl, hname⟩, hrest⟩, hb⟩⟩
          · exact ⟨hbreak, .inr ⟨(.ok name, v) :: front, v', back, rfl,
              others_cons_iff.2 ⟨⟨name, rfl, hname⟩, hfront⟩, hback, hv⟩⟩
    · -- Conversely, the members in front of the field are passed over one by one.
      rintro ⟨hbreak, ⟨hothers, hb⟩ | ⟨front, v', back, hmembers, hfront, hback, hv⟩⟩
      · obtain ⟨⟨name, rfl, hname⟩, hrest⟩ := others_cons_iff.1 hothers
        dsimp only
        rw [if_neg hname]
        exact ih.2 ⟨hbreak, .inl ⟨hrest, hb⟩⟩
      · cases front with
        | nil =>
          cases hmembers
          dsimp only
          rw [if_pos rfl, if_neg (by simp), hv]
          exact readFields_seen_eq_ok_iff.2 ⟨hbreak, rfl, hback⟩
        | cons m' front =>
          cases hmembers
          obtain ⟨⟨name, rfl, hname⟩, hrest⟩ := others_cons_iff.1 hfront
          dsimp only
          rw [if_neg hname]
          exact ih.2 ⟨hbreak, .inr ⟨front, v', back, rfl, hrest, hback, hv⟩⟩

/-- Of an array, the only item is read. -/
theorem readPlaces_eq_ok_iff {items : List Value} :
    readPlaces breakOff [⟨field, read⟩] a items = .ok b ↔
      breakOff = none ∧ (items = [] ∧ b = a ∨ ∃ v, items = [v] ∧ read v a = .ok b) := by
  match items with
  | [] =>
    rw [readPlaces, finish_eq_ok_iff]
    simp
  | [v] =>
    rw [readPlaces]
    dsimp only [bind, Except.bind]
    cases hv : read v a with
    | error e => simp [hv]
    | ok a' =>
      dsimp only
      rw [readPlaces, finish_eq_ok_iff]
      simp [hv, eq_comm]
  | v :: v' :: rest =>
    rw [readPlaces]
    dsimp only [bind, Except.bind]
    cases read v a with
    | error e => simp
    | ok a' => simp [readPlaces]

/-- A value that is not of the expected kind is refused. -/
theorem unexpected_ne_ok {α : Type} {expected : String} {v : Value} {b : α} :
    unexpected expected v ≠ .ok b := by
  intro h
  unfold unexpected at h
  cases hv : v.describe with
  | error e =>
    rw [hv] at h
    cases h
  | ok text =>
    rw [hv] at h
    cases h

/-- A value is read as a record with one field where `FieldOf` says what the field is. -/
theorem readRecordValue_eq_ok_iff {expected : String} {v : Value} :
    readRecordValue expected [⟨field, read⟩] a v = .ok b ↔
      FieldOf field v none ∧ b = a ∨
        ∃ value, FieldOf field v (some value) ∧ read value a = .ok b := by
  constructor
  · intro hread
    cases v with
    | object members breakOff =>
      obtain ⟨rfl, ⟨hothers, hb⟩ | ⟨front, value, back, rfl, hfront, hback, hvalue⟩⟩ :=
        readFields_eq_ok_iff.1 hread
      · exact .inl ⟨.absent hothers, hb⟩
      · exact .inr ⟨value, .member hfront hback, hvalue⟩
    | array items breakOff =>
      obtain ⟨rfl, ⟨rfl, hb⟩ | ⟨value, rfl, hvalue⟩⟩ := readPlaces_eq_ok_iff.1 hread
      · exact .inl ⟨.noItem, hb⟩
      · exact .inr ⟨value, .item, hvalue⟩
    | _ => exact absurd hread unexpected_ne_ok
  · rintro (⟨hfield, hb⟩ | ⟨value, hfield, hvalue⟩)
    · cases hfield with
      | absent hothers => exact readFields_eq_ok_iff.2 ⟨rfl, .inl ⟨hothers, hb⟩⟩
      | noItem => exact readPlaces_eq_ok_iff.2 ⟨rfl, .inl ⟨rfl, hb⟩⟩
    · cases hfield with
      | member hfront hback =>
        exact readFields_eq_ok_iff.2 ⟨rfl, .inr ⟨_, _, _, rfl, hfront, hback, hvalue⟩⟩
      | item => exact readPlaces_eq_ok_iff.2 ⟨rfl, .inr ⟨_, rfl, hvalue⟩⟩

/-- A text is read as a record with one field where it holds a single value, and `FieldOf`
says what the field of that is. -/
theorem readRecord_eq_ok_iff {expected : String} {cs : List Char} :
    readRecord expected [⟨field, read⟩] a cs = .ok b ↔
      (readDocument cs).trailing = none ∧
        (FieldOf field (readDocument cs).value none ∧ b = a ∨
          ∃ v, FieldOf field (readDocument cs).value (some v) ∧ read v a = .ok b) := by
  rw [readRecord, ← readRecordValue_eq_ok_iff]
  dsimp only [bind, Except.bind]
  cases readRecordValue expected [⟨field, read⟩] a (readDocument cs).value with
  | error e => simp
  | ok a' =>
    dsimp only
    rw [finish_eq_ok_iff]
    simp [eq_comm]

end Read

/-! ### Strings -/

/-- Only a string is read as one, and as its own text. -/
theorem readString_eq_ok_iff {v : Value} {text : String} :
    readString v = .ok text ↔ v = .text (.ok text) := by
  cases v with
  | text s =>
    cases s with
    | error f => simp [readString, orFault]
    | ok s => simp [readString, orFault]
  | _ => simp [readString, unexpected_ne_ok]

/-- Items are read as texts if each of them is a string. -/
theorem mapM_readString_eq_ok_iff {items : List Value} {texts : List String} :
    items.mapM readString = .ok texts ↔ items = texts.map fun text => .text (.ok text) := by
  -- By induction on the items, over any texts that they may be read as.
  induction items generalizing texts with
  | nil =>
    show Except.ok [] = .ok texts ↔ _
    rw [Except.ok.injEq, eq_comm, eq_comm (a := []), List.map_eq_nil_iff]
  | cons v items ih =>
    rw [List.mapM_cons]
    dsimp only [bind, Except.bind]
    cases texts with
    | nil =>
      cases readString v with
      | error e => simp
      | ok text => cases items.mapM readString <;> simp [pure, Except.pure]
    | cons text texts =>
      rw [List.map_cons, List.cons.injEq, ← ih, ← readString_eq_ok_iff]
      cases readString v with
      | error e => simp
      | ok text' => cases items.mapM readString <;> simp [pure, Except.pure]

/-- Strings are read from an array of them. -/
theorem readStrings_eq_ok_iff {v : Value} {texts : List String} :
    readStrings v = .ok texts ↔
      v = .array (texts.map fun text => .text (.ok text)) none := by
  cases v with
  | array items breakOff =>
    rw [Value.array.injEq, ← mapM_readString_eq_ok_iff, readStrings]
    dsimp only [bind, Except.bind]
    cases items.mapM readString with
    | error e => simp
    | ok texts' =>
      dsimp only
      rw [finish_eq_ok_iff, Except.ok.injEq, and_comm]
      exact and_congr_left fun _ => eq_comm
  | _ => simp [readStrings, unexpected_ne_ok]

end ImageSync.Json
