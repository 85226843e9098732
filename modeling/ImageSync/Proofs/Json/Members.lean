import ImageSync.Proofs.Json.Field
import ImageSync.Proofs.Outcome

/-!
# `ImageSync.Proofs.Json.Members`: the order of the members of a record

A record is read member by member. What comes of it can be told from the fields that the members
are for and their values (`assigned`): it is read exactly if the names are readable, no field occurs
twice, and its fields can be set one after the other (`readFields_eq_ok_iff_assigned`). Members for
no field have no part in it.

Fields are `Independent` if setting one and then the other comes to the same in both orders. If all
fields of a record are, then the order of its members does not matter
(`readFields_eq_ok_iff_of_perm`): any one of them may be read first or last. So a value that changes
nothing in the empty record might as well be left out, wherever it stands
(`readFields_eq_ok_iff_of_idle`), but no field may occur twice (`not_mem_of_readFields_eq_ok`).
Members that are named after different fields are read each into its own (`readFields_pairs`), as
are the items of an array (`readPlaces_eq_readFields`).
-/

set_option autoImplicit false

namespace ImageSync.Json

/-- A member of an object: its name, if that can be read, and its value. -/
abbrev Member := Except Fault String × Value

/-- The names of all members can be read. -/
def Readable (members : List Member) : Prop := ∀ m ∈ members, ∃ name, m.1 = .ok name

/-- A field is found by its name, where no two fields share one. -/
theorem find?_name {α : Type} {fields : List (RecordField α)}
    (hfields : (fields.map RecordField.name).Nodup) {field : RecordField α}
    (hfield : field ∈ fields) : fields.find? (·.name == field.name) = some field := by
  induction fields with
  | nil => cases hfield
  | cons f fields ih =>
    rw [List.map_cons, List.nodup_cons] at hfields
    cases List.mem_cons.1 hfield with
    | inl heq =>
      subst heq
      exact List.find?_cons_of_pos (beq_self_eq_true field.name)
    | inr hmem =>
      have hne : f.name ≠ field.name := fun heq =>
        hfields.1 (heq ▸ List.mem_map_of_mem hmem)
      rw [List.find?_cons_of_neg (by simpa using hne), ih hfields.2 hmem]

/-! ### Members in any order -/

section Record

variable {α : Type}

/-- The field that a member is for, with its value. -/
def assigned? (fields : List (RecordField α)) (m : Member) : Option (RecordField α × Value) :=
  match m.1 with
  | .error _ => none
  | .ok name => (fields.find? (·.name == name)).map fun field => (field, m.2)

/-- The fields that some members are for, each with its value. -/
def assigned (fields : List (RecordField α)) (members : List Member) :
    List (RecordField α × Value) := members.filterMap (assigned? fields)

/-- Sets some fields one after the other. -/
def readAll (pairs : List (RecordField α × Value)) (a : α) : Except RecordError α :=
  pairs.foldlM (fun a p => p.1.read p.2 a) a

/-- It makes no difference which of two fields is set first. -/
def Independent (f g : RecordField α) : Prop :=
  ∀ v w a b, (f.read v a >>= g.read w) = .ok b ↔ (g.read w a >>= f.read v) = .ok b

variable {fields : List (RecordField α)} {members members' : List Member} {a b : α}

/-- Members can be read if the name of the first one can, and the others can. -/
theorem readable_cons_iff {key : Except Fault String} {v : Value} :
    Readable ((key, v) :: members) ↔ (∃ name, key = .ok name) ∧ Readable members :=
  List.forall_mem_cons

/-- The order in which two independent fields are set does not matter either way round. -/
theorem Independent.symm {f g : RecordField α} (h : Independent f g) : Independent g f :=
  fun v w a b => (h w v a b).symm

/-- Fields that change different parts of a record are independent. -/
theorem independent_of_put {β γ : Type} {put : β → α → α} {put' : γ → α → α}
    (h : ∀ s t a, put' t (put s a) = put s (put' t a)) (name name' : String)
    (read : Value → Except RecordError β) (read' : Value → Except RecordError γ) :
    Independent ⟨name, fun v a => (read v).map fun s => put s a⟩
      ⟨name', fun v a => (read' v).map fun t => put' t a⟩ := by
  intro v w a b
  show (((read v).map fun s => put s a).bind fun a => (read' w).map fun t => put' t a) = .ok b ↔
    (((read' w).map fun t => put' t a).bind fun a => (read v).map fun s => put s a) = .ok b
  cases read v with
  | error e => cases read' w <;> simp [Except.map, Except.bind]
  | ok s => cases read' w <;> simp [Except.map, Except.bind, h]

/-! ### What members are for -/

/-- A member that sets a field has the name of this field. -/
theorem mem_of_assigned?_eq_some {m : Member} {p : RecordField α × Value}
    (h : assigned? fields m = some p) : p.1 ∈ fields ∧ m = (.ok p.1.name, p.2) := by
  obtain ⟨key, v⟩ := m
  cases key with
  | error f => cases h
  | ok name =>
    obtain ⟨field, hfind, rfl⟩ := Option.map_eq_some_iff.1 h
    -- The name is found by comparing it.
    have hname := List.find?_some hfind
    exact ⟨List.mem_of_find?_eq_some hfind, by rw [beq_iff_eq.1 hname]⟩

/-- The fields that are set are those of the record, each by a member with its name. -/
theorem mem_of_mem_assigned {p : RecordField α × Value} (h : p ∈ assigned fields members) :
    p.1 ∈ fields ∧ (.ok p.1.name, p.2) ∈ members := by
  obtain ⟨m, hm, hp⟩ := List.mem_filterMap.1 h
  obtain ⟨hfield, rfl⟩ := mem_of_assigned?_eq_some hp
  exact ⟨hfield, hm⟩

/-- A member with the name of a field sets this field, since no other field has the name. -/
theorem assigned?_name {field : RecordField α} (hfield : field ∈ fields)
    (hnames : (fields.map RecordField.name).Nodup) (v : Value) :
    assigned? fields (.ok field.name, v) = some (field, v) := by
  dsimp only [assigned?]
  rw [find?_name hnames hfield]
  rfl

/-- The first member sets its field before the others set theirs. -/
theorem assigned_cons {field : RecordField α} (hfield : field ∈ fields)
    (hnames : (fields.map RecordField.name).Nodup) {v : Value} :
    assigned fields (((.ok field.name, v) : Member) :: members) =
      (field, v) :: assigned fields members := by
  rw [assigned, List.filterMap_cons, assigned?_name hfield hnames]
  rfl

/-- A name that no member has is not among those of the fields that are set. -/
theorem not_mem_names {name : String} (hnew : ∀ v, (.ok name, v) ∉ members) :
    name ∉ (assigned fields members).map fun p => p.1.name := by
  intro hmem
  obtain ⟨p, hp, rfl⟩ := List.mem_map.1 hmem
  exact hnew p.2 (mem_of_mem_assigned hp).2

/-- Some members are read exactly if their names are readable, no field occurs twice or among those
that were seen, and the fields can be set to their values. -/
theorem readFields_eq_ok_iff_assigned {seen : List String} :
    readFields fields none seen a members = .ok b ↔
      Readable members ∧ ((assigned fields members).map fun p => p.1.name).Nodup ∧
        (∀ p ∈ assigned fields members, p.1.name ∉ seen) ∧
          readAll (assigned fields members) a = .ok b := by
  -- By induction on the members, for any fields that were seen in front of them.
  induction members generalizing seen a with
  | nil =>
    rw [readFields, finish_eq_ok_iff]
    simp [Readable, assigned, readAll, pure, Except.pure, eq_comm]
  | cons m rest ih =>
    obtain ⟨key, v⟩ := m
    rw [readFields, readable_cons_iff, assigned, List.filterMap_cons]
    cases key with
    | error f => simp [orFault, bind, Except.bind]
    | ok name =>
      dsimp only [orFault, bind, Except.bind, assigned?]
      -- A name of no field is passed over.
      cases hfind : fields.find? (·.name == name) with
      | none =>
        dsimp only [Option.map_none]
        rw [ih]
        simp [assigned]
      | some field =>
        have hfound := List.find?_some hfind
        obtain rfl : field.name = name := beq_iff_eq.1 hfound
        dsimp only [Option.map_some]
        rw [List.map_cons, List.nodup_cons, List.forall_mem_cons, readAll, List.foldlM_cons]
        by_cases hseen : field.name ∈ seen
        · simp [hseen]
        · rw [if_neg (by simpa using hseen)]
          dsimp only [bind, Except.bind]
          cases field.read v a with
          | error e => simp
          | ok a' =>
            dsimp only
            rw [ih]
            -- That no later member is for a field that was seen now includes this one.
            have hfresh : (∀ p ∈ assigned fields rest, p.1.name ∉ field.name :: seen) ↔
                field.name ∉ (assigned fields rest).map (fun p => p.1.name) ∧
                  ∀ p ∈ assigned fields rest, p.1.name ∉ seen := by
              simp only [List.mem_cons, not_or, List.mem_map, not_exists, not_and]
              exact ⟨fun h => ⟨fun p hp heq => (h p hp).1 heq, fun p hp => (h p hp).2⟩,
                fun h p hp => ⟨fun heq => h.1 p hp heq, h.2 p hp⟩⟩
            rw [hfresh]
            constructor
            · rintro ⟨hread, hnodup, ⟨hnew, hrest⟩, hall⟩
              exact ⟨⟨⟨_, rfl⟩, hread⟩, ⟨hnew, hnodup⟩, ⟨hseen, hrest⟩, hall⟩
            · rintro ⟨⟨-, hread⟩, ⟨hnew, hnodup⟩, ⟨-, hrest⟩, hall⟩
              exact ⟨hread, hnodup, ⟨hnew, hrest⟩, hall⟩

/-! ### Their order -/

/-- Independent fields can be set in any order. -/
theorem readAll_eq_ok_iff_of_perm {pairs pairs' : List (RecordField α × Value)}
    (h : pairs.Perm pairs') (hind : pairs.Pairwise fun p q => Independent p.1 q.1) (a : α) :
    readAll pairs a = .ok b ↔ readAll pairs' a = .ok b := by
  induction h generalizing a with
  | nil => exact Iff.rfl
  | cons p _ ih =>
    rw [readAll, readAll, List.foldlM_cons, List.foldlM_cons, bind_eq_ok_iff, bind_eq_ok_iff]
    exact exists_congr fun a' => and_congr_right fun _ => ih (List.pairwise_cons.1 hind).2 a'
  | swap p q rest =>
    have hpq : Independent q.1 p.1 := (List.pairwise_cons.1 hind).1 p List.mem_cons_self
    have hfirst : ∀ f g : RecordField α × Value, readAll (f :: g :: rest) a =
        (f.1.read f.2 a >>= g.1.read g.2) >>= readAll rest := fun f g => (bind_assoc ..).symm
    rw [hfirst, hfirst, bind_eq_ok_iff, bind_eq_ok_iff]
    exact exists_congr fun a' => and_congr_left fun _ => hpq q.2 p.2 a a'
  | trans hfirst _ ih ih' =>
    have hind' := (hfirst.pairwise_iff Independent.symm).1 hind
    exact (ih hind a).trans (ih' hind' a)

section Independent

variable (hfields : fields.Pairwise Independent)

include hfields

/-- Fields with different names are independent. -/
theorem independent_of_mem {f g : RecordField α} (hf : f ∈ fields) (hg : g ∈ fields)
    (hne : f.name ≠ g.name) : Independent f g := by
  induction hfields with
  | nil => cases hf
  | cons hfirst _ ih =>
    rcases List.mem_cons.1 hf with rfl | hfrest
    · rcases List.mem_cons.1 hg with rfl | hgrest
      · exact absurd rfl hne
      · exact hfirst g hgrest
    · rcases List.mem_cons.1 hg with rfl | hgrest
      · exact (hfirst f hfrest).symm
      · exact ih hfrest hgrest

/-- Fields that are set once each can be set in any order. -/
theorem pairwise_independent {pairs : List (RecordField α × Value)}
    (hmem : ∀ p ∈ pairs, p.1 ∈ fields) (hnodup : (pairs.map fun p => p.1.name).Nodup) :
    pairs.Pairwise fun p q => Independent p.1 q.1 :=
  (List.pairwise_map.1 hnodup).imp_of_mem fun hp hq hne =>
    independent_of_mem hfields (hmem _ hp) (hmem _ hq) hne

/-- The order of the members of a record does not matter, and neither do members for no field, as
long as their names can be read. -/
theorem readFields_eq_ok_iff_of_perm
    (hperm : (assigned fields members).Perm (assigned fields members'))
    (hread : Readable members ↔ Readable members') :
    readFields fields none [] a members = .ok b ↔
      readFields fields none [] a members' = .ok b := by
  have hnodup : ((assigned fields members).map fun p => p.1.name).Nodup ↔
      ((assigned fields members').map fun p => p.1.name).Nodup := (hperm.map _).nodup_iff
  rw [readFields_eq_ok_iff_assigned, readFields_eq_ok_iff_assigned, hread, hnodup]
  refine and_congr_right fun _ => and_congr_right fun h => ?_
  simp only [List.not_mem_nil, not_false_eq_true, implies_true, true_and]
  exact readAll_eq_ok_iff_of_perm hperm
    (pairwise_independent hfields (fun p hp => (mem_of_mem_assigned hp).1) (hnodup.2 h)) a

section Insert

variable {front back : List Member} {field : RecordField α} {v : Value} (hfield : field ∈ fields)
  (hnames : (fields.map RecordField.name).Nodup) (hnew : ∀ w, (.ok field.name, w) ∉ front ++ back)

include hfield hnames hnew

/-- A field is set to the value of its only member, wherever that stands. -/
theorem readFields_eq_ok_iff_cons :
    readFields fields none [] a (front ++ (.ok field.name, v) :: back) = .ok b ↔
      Readable (front ++ back) ∧
        ((assigned fields (front ++ back)).map fun p => p.1.name).Nodup ∧
          readAll ((field, v) :: assigned fields (front ++ back)) a = .ok b := by
  have hperm : (front ++ (.ok field.name, v) :: back).Perm
      (((.ok field.name, v) : Member) :: (front ++ back)) := List.perm_middle
  have hfresh : field.name ∉ (assigned fields (front ++ back)).map fun p => p.1.name :=
    not_mem_names hnew
  rw [readFields_eq_ok_iff_of_perm hfields (hperm.filterMap _)
      (by simp only [Readable, hperm.mem_iff]),
    readFields_eq_ok_iff_assigned, readable_cons_iff, assigned_cons hfield hnames, List.map_cons,
    List.nodup_cons]
  simp only [hfresh, List.not_mem_nil, not_false_eq_true, implies_true, true_and,
    Except.ok.injEq, exists_eq']

/-- Such a member may as well be read before all others. -/
theorem readFields_eq_ok_iff_first :
    readFields fields none [] a (front ++ (.ok field.name, v) :: back) = .ok b ↔
      ∃ a', field.read v a = .ok a' ∧ readFields fields none [] a' (front ++ back) = .ok b := by
  rw [readFields_eq_ok_iff_cons hfields hfield hnames hnew, readAll, List.foldlM_cons,
    bind_eq_ok_iff]
  simp only [readFields_eq_ok_iff_assigned, List.not_mem_nil, not_false_eq_true, implies_true,
    true_and]
  constructor
  · rintro ⟨hread, hnodup, a', hfirst, hall⟩
    exact ⟨a', hfirst, hread, hnodup, hall⟩
  · rintro ⟨a', hfirst, hread, hnodup, hall⟩
    exact ⟨hread, hnodup, a', hfirst, hall⟩

/-- It may as well be read after all others. -/
theorem readFields_eq_ok_iff_last :
    readFields fields none [] a (front ++ (.ok field.name, v) :: back) = .ok b ↔
      ∃ c, readFields fields none [] a (front ++ back) = .ok c ∧ field.read v c = .ok b := by
  -- Setting a field first or last is the same, since it is set once.
  have hlast (hnodup : ((assigned fields (front ++ back)).map fun p => p.1.name).Nodup) :
      readAll ((field, v) :: assigned fields (front ++ back)) a = .ok b ↔
        ∃ c, readAll (assigned fields (front ++ back)) a = .ok c ∧ field.read v c = .ok b := by
    have hind : ((field, v) :: assigned fields (front ++ back)).Pairwise
        fun p q => Independent p.1 q.1 :=
      pairwise_independent hfields
        (List.forall_mem_cons.2 ⟨hfield, fun p hp => (mem_of_mem_assigned hp).1⟩)
        (List.nodup_cons.2 ⟨not_mem_names hnew, hnodup⟩)
    rw [readAll_eq_ok_iff_of_perm (List.perm_append_singleton _ _).symm hind, readAll,
      List.foldlM_append, bind_eq_ok_iff]
    simp only [List.foldlM_cons, List.foldlM_nil, bind_pure]
    exact Iff.rfl
  rw [readFields_eq_ok_iff_cons hfields hfield hnames hnew]
  simp only [readFields_eq_ok_iff_assigned, List.not_mem_nil, not_false_eq_true, implies_true,
    true_and]
  constructor
  · rintro ⟨hread, hnodup, hall⟩
    obtain ⟨c, hrest, hset⟩ := (hlast hnodup).1 hall
    exact ⟨c, ⟨hread, hnodup, hrest⟩, hset⟩
  · rintro ⟨c, ⟨hread, hnodup, hrest⟩, hset⟩
    exact ⟨hread, hnodup, (hlast hnodup).2 ⟨c, hrest, hset⟩⟩

/-- A value that changes nothing in the record that is read into may as well be left out. -/
theorem readFields_eq_ok_iff_of_idle (hidle : field.read v a = .ok a) :
    readFields fields none [] a (front ++ (.ok field.name, v) :: back) = .ok b ↔
      readFields fields none [] a (front ++ back) = .ok b := by
  rw [readFields_eq_ok_iff_first hfields hfield hnames hnew, hidle]
  simp only [Except.ok.injEq, exists_eq_left']

end Insert

end Independent

/-! ### Which members matter -/

/-- A member has one of some names. -/
def isNamed (names : List String) (m : Member) : Bool :=
  match m.1 with
  | .error _ => false
  | .ok name => names.contains name

/-- Members have the same values for some names, in whatever order and beside whatever others. -/
def SameFields (names : List String) (members members' : List Member) : Prop :=
  (members.filter (isNamed names)).Perm (members'.filter (isNamed names))

/-- Members with other names set nothing. -/
theorem assigned_filter : assigned fields (members.filter (isNamed (fields.map RecordField.name))) =
    assigned fields members := by
  rw [assigned, List.filterMap_filter, assigned]
  refine congrArg (List.filterMap · members) (funext fun m => ?_)
  split
  · rfl
  · next hno =>
    cases hm : assigned? fields m with
    | none => rfl
    | some p =>
      obtain ⟨hfield, rfl⟩ := mem_of_assigned?_eq_some hm
      exact absurd (List.contains_iff_mem.2 (List.mem_map_of_mem hfield)) hno

/-- Objects with the same fields set the same fields, in some order. -/
theorem SameFields.perm_assigned
    (h : SameFields (fields.map RecordField.name) members members') :
    (assigned fields members).Perm (assigned fields members') := by
  rw [← assigned_filter, ← @assigned_filter _ _ members']
  exact h.filterMap _

/-- A record is only read if no field occurs twice. -/
theorem not_mem_of_readFields_eq_ok {front back : List Member} {field : RecordField α}
    {v : Value} (hfield : field ∈ fields) (hnames : (fields.map RecordField.name).Nodup)
    (h : readFields fields none [] a (front ++ (.ok field.name, v) :: back) = .ok b) (w : Value) :
    (.ok field.name, w) ∉ front ++ back := by
  intro hmem
  obtain ⟨-, hnodup, -⟩ := readFields_eq_ok_iff_assigned.1 h
  have hperm : (front ++ (.ok field.name, v) :: back).Perm
      (((.ok field.name, v) : Member) :: (front ++ back)) := List.perm_middle
  rw [assigned, ((hperm.filterMap _).map _).nodup_iff, ← assigned,
    assigned_cons hfield hnames] at hnodup
  refine (List.nodup_cons.1 hnodup).1 (List.mem_map.2 ⟨(field, w), ?_, rfl⟩)
  exact List.mem_filterMap.2 ⟨_, hmem, assigned?_name hfield hnames w⟩

/-- Of a value that a record has for a field, it only matters what the field reads of it. -/
theorem readFields_congr {front back : List Member} {field : RecordField α} {v w : Value}
    (hfield : field ∈ fields) (hnames : (fields.map RecordField.name).Nodup)
    (h : ∀ a, field.read v a = field.read w a) {seen : List String} :
    readFields fields none seen a (front ++ (.ok field.name, v) :: back) =
      readFields fields none seen a (front ++ (.ok field.name, w) :: back) := by
  induction front generalizing seen a with
  | nil =>
    rw [List.nil_append, List.nil_append, readFields, readFields]
    dsimp only [orFault, bind, Except.bind]
    rw [find?_name hnames hfield]
    dsimp only
    rw [h]
  | cons m front ih =>
    obtain ⟨key, u⟩ := m
    rw [List.cons_append, List.cons_append, readFields, readFields]
    simp only [ih]

/-! ### One member for each field -/

/-- Members that are named after different fields are read each into its own. -/
theorem readFields_pairs (hnames : (fields.map RecordField.name).Nodup)
    {pairs : List (RecordField α × Value)} (hpairs : ∀ p ∈ pairs, p.1 ∈ fields)
    (hdistinct : (pairs.map fun p => p.1.name).Nodup)
    {seen : List String} (hseen : ∀ p ∈ pairs, p.1.name ∉ seen) (a : α) :
    readFields fields none seen a (pairs.map fun p => (.ok p.1.name, p.2)) = readAll pairs a := by
  induction pairs generalizing seen a with
  | nil => rfl
  | cons p pairs ih =>
    obtain ⟨hp, hpairs⟩ := List.forall_mem_cons.1 hpairs
    obtain ⟨hfresh, hseen⟩ := List.forall_mem_cons.1 hseen
    rw [List.map_cons, List.nodup_cons] at hdistinct
    have hfind := find?_name hnames hp
    rw [List.map_cons, readFields, readAll, List.foldlM_cons]
    -- The field is there, and it has not been read before.
    simp only [orFault, bind, Except.bind, hfind, List.contains_eq_mem, hfresh]
    cases p.1.read p.2 a with
    | error e => rfl
    | ok a' =>
      refine ih hpairs hdistinct.2 (fun q hq => ?_) a'
      rw [List.mem_cons, not_or]
      refine ⟨fun heq => hdistinct.1 ?_, hseen q hq⟩
      rw [← heq]
      exact List.mem_map_of_mem hq

/-! ### Arrays -/

/-- Each item of an array is read as the member for its field is. -/
theorem readPlaces_eq_readAll (items : List Value) (hlength : items.length ≤ fields.length) :
    readPlaces none fields a items = readAll (fields.zip items) a := by
  induction items generalizing fields a with
  | nil =>
    rw [List.zip_nil_right]
    cases fields <;> rfl
  | cons v items ih =>
    cases fields with
    | nil => simp at hlength
    | cons field fields =>
      rw [readPlaces, List.zip_cons_cons, readAll, List.foldlM_cons]
      refine congrArg _ (funext fun a' => ?_)
      exact ih (Nat.le_of_succ_le_succ hlength)

/-- The members that say the same as the items of an array. -/
def namedItems (names : List String) (items : List Value) : List Member :=
  (names.zip items).map fun p => (.ok p.1, p.2)

/-- An array whose items are the fields in order is read as the object with these members. -/
theorem readPlaces_eq_readFields (hnames : (fields.map RecordField.name).Nodup)
    (items : List Value) (hlength : items.length ≤ fields.length) :
    readPlaces none fields a items =
      readFields fields none [] a (namedItems (fields.map RecordField.name) items) := by
  have hzip : namedItems (fields.map RecordField.name) items =
      (fields.zip items).map fun p => (.ok p.1.name, p.2) := by
    rw [namedItems, List.zip_map_left, List.map_map]
    rfl
  -- Each place belongs to one field, so no name comes twice.
  have hdistinct : ((fields.zip items).map fun p => p.1.name).Nodup := by
    have hfst : (fields.zip items).map (fun p => p.1.name) =
        ((fields.zip items).map Prod.fst).map RecordField.name := by
      rw [List.map_map]
      rfl
    rw [hfst, List.zip_eq_zip_take_min, List.map_fst_zip (by simp), List.map_take]
    exact (List.take_sublist _ _).nodup hnames
  rw [readPlaces_eq_readAll items hlength, hzip,
    readFields_pairs hnames (fun p hp => (List.of_mem_zip hp).1) hdistinct fun p _ =>
      List.not_mem_nil]

end Record

end ImageSync.Json
