import ImageSync.Url.Resolve

/-!
# `ImageSync.Proofs.Url.Relative`: what a reference takes over from its base

A reference has words of its own for some parts of the URL that it leads to, and takes over the
others from the base that it is seen from. `Reference.inherited` is the base without the parts
that the reference has words for: for a path from the root the scheme and the authority are left,
for a path of the place the directory as well, and for a reference that is only a query all but the
query. From a base of another scheme, or with a host of its own, a reference takes over nothing.

Nothing else of a base matters (`Reference.resolve?_eq_of_inherited_eq`): from two URLs of the web
that have the inherited parts in common, a reference leads to the same URL. Where it does so, they
have them in common (`Reference.taken_of_resolve?_eq`), as far as that shows: a path of the place
may climb out of two directories and meet. Whether a reference leads anywhere at all depends on
nothing but the scheme and the path (`Reference.isSome_resolve?_congr`).

Both rest on two case splits. A reference is read by itself (`Reference.resolve?_of_isAbsolute`) or
from its base (`Reference.resolve?_of_not_isAbsolute`), and from its base it goes on in one of four
ways (`Reference.way`).
-/

set_option autoImplicit false

namespace ImageSync.Url

/-- A URL of the web, with a path of segments. -/
structure IsWeb (u : Url) : Prop where
  kind : u.kind = .web
  segments : u.HasSegments

namespace Reference

/-- Whether a reference takes over nothing from a base: it has another scheme, or the same one and
a host. -/
def isAbsolute (r : Reference) (base : Url) : Bool :=
  match r.scheme with
  | some scheme => base.scheme != scheme || 2 ≤ (r.body.takeWhile isSlash).length
  | none => false

/-- The parts of a base that a reference has no words for. -/
def taken (r : Reference) (base : Url) : Url :=
  match r.body with
  | [] => { base with query := if r.query.isSome then none else base.query, fragment := none }
  | c :: rest =>
    if isSlash c then
      let authority := if rest.head?.any isSlash then none else base.authority
      ⟨base.scheme, authority, .segments [], none, none⟩
    else ⟨base.scheme, base.authority, .segments (directory base), none, none⟩

/-- What a reference takes over from a base, if it takes over anything. -/
def inherited (r : Reference) (base : Url) : Option Url :=
  if r.isAbsolute base then none else some (r.taken base)

/-- Whether a reference starts with a segment of a path. -/
def startsInPlace (r : Reference) : Bool := r.body.head?.any fun c => !isSlash c

variable {r : Reference} {base other u : Url}

/-! ### Two ways to read a reference -/

/-- A reference that takes over nothing is read by itself. -/
theorem resolve?_of_isAbsolute (hbase : base.IsWeb) (h : r.isAbsolute base = true) :
    r.resolve? (some base) = r.resolve? none := by
  rw [isAbsolute] at h
  cases hscheme : r.scheme with
  | none =>
    rw [hscheme] at h
    cases h
  | some scheme =>
    rw [hscheme] at h
    rw [resolve?, resolve?, hscheme]
    dsimp only
    by_cases hsame : base.scheme = scheme
    · -- Of the same scheme, but with a host of its own.
      have hslashes : ¬(r.body.takeWhile isSlash).length < 2 := by
        simp only [hsame, bne_self_eq_false, Bool.false_or, decide_eq_true_eq] at h
        exact Nat.not_lt.2 h
      have hkind : schemeKind scheme = .web := hsame ▸ hbase.kind
      rw [Option.filter_some_pos (by rw [hsame, beq_self_eq_true]), Option.filter_none, hkind]
      dsimp only
      rw [if_neg hslashes]
    · rw [Option.filter_some_neg (by rwa [beq_eq_false_iff_ne]), Option.filter_none]

/-- Any other reference is read from its base, as if it had no scheme. -/
theorem resolve?_of_not_isAbsolute (hbase : base.IsWeb) (h : r.isAbsolute base = false) :
    r.resolve? (some base) = r.resolveFrom? base := by
  rw [isAbsolute] at h
  cases hscheme : r.scheme with
  | none =>
    obtain ⟨list, hlist⟩ := hbase.segments
    rw [resolve?, hscheme]
    dsimp only
    split
    · next hfragment =>
      -- A fragment alone stays at the place, as every reference without a body does.
      simp only [Bool.and_eq_true, List.isEmpty_iff] at hfragment
      rw [resolveFrom?, hfragment.1.1]
    · rw [hlist]
      dsimp only
      rw [if_neg (by rw [hbase.kind]; decide)]
  | some scheme =>
    rw [hscheme] at h
    simp only [Bool.or_eq_false_iff, bne_eq_false_iff_eq, decide_eq_false_iff_not,
      Nat.not_le] at h
    obtain ⟨hsame, hslashes⟩ := h
    have hkind : schemeKind scheme = .web := hsame ▸ hbase.kind
    rw [resolve?, hscheme]
    dsimp only
    rw [Option.filter_some_pos (by rw [hsame, beq_self_eq_true]), hkind]
    dsimp only
    rw [if_pos hslashes]

/-- A reference without a scheme takes that of its base. -/
theorem resolve?_of_no_scheme (hbase : base.IsWeb) (h : r.scheme = none) :
    r.resolve? (some base) = r.resolveFrom? base :=
  resolve?_of_not_isAbsolute hbase (by rw [isAbsolute, h])

/-! ### Four ways to go on from a base -/

/-- How a reference goes on from a base, and what it takes over on this way. -/
inductive Way (r : Reference) : Prop where
  | stays (hbody : r.body = []) (hread : ∀ base, r.resolveFrom? base = some (r.atPlace base))
      (htaken : ∀ base, r.taken base =
        { base with query := if r.query.isSome then none else base.query, fragment := none })
  | toHost (cs : List Char) (hplace : r.startsInPlace = false)
      (hread : ∀ base, r.resolveFrom? base = r.withAuthority? base.scheme cs)
      (htaken : ∀ base, r.taken base = ⟨base.scheme, none, .segments [], none, none⟩)
  | fromRoot (cs : List Char) (hplace : r.startsInPlace = false)
      (hread : ∀ base, r.resolveFrom? base = some (r.complete base.scheme base.authority
        (.segments (walkText base.kind [] cs))))
      (htaken : ∀ base, r.taken base = ⟨base.scheme, base.authority, .segments [], none, none⟩)
  | fromPlace (hplace : r.startsInPlace = true)
      (hread : ∀ base, r.resolveFrom? base = some (r.complete base.scheme base.authority
        (.segments (walkText base.kind (directory base) r.body))))
      (htaken : ∀ base, r.taken base =
        ⟨base.scheme, base.authority, .segments (directory base), none, none⟩)

/-- How its body starts decides the way of a reference. -/
theorem way (r : Reference) : r.Way := by
  obtain ⟨scheme, body, query, fragment⟩ := r
  cases body with
  | nil => exact .stays rfl (fun _ => rfl) fun _ => rfl
  | cons c rest =>
    cases hslash : isSlash c with
    | false =>
      refine .fromPlace (by simp [startsInPlace, hslash]) (fun base => ?_) fun base => ?_
      · simp [resolveFrom?, hslash]
      · simp [taken, hslash]
    | true =>
      have hplace : startsInPlace ⟨scheme, c :: rest, query, fragment⟩ = false := by
        simp [startsInPlace, hslash]
      -- Two slashes lead to a host, one to the root.
      cases htwo : rest.head?.any isSlash with
      | false =>
        refine .fromRoot rest hplace (fun base => ?_) fun base => ?_
        · simp [resolveFrom?, hslash, htwo]
        · simp [taken, hslash, htwo]
      | true =>
        have htaken : ∀ base, taken ⟨scheme, c :: rest, query, fragment⟩ base =
            ⟨base.scheme, none, .segments [], none, none⟩ := fun base => by
          simp [taken, hslash, htwo]
        -- Which slashes go to the host's text does not depend on the base.
        cases hstrip : Text.stripPrefix? "//".toList (c :: rest) with
        | some cs =>
          refine .toHost cs hplace (fun base => ?_) htaken
          simp only [resolveFrom?, hslash, htwo, hstrip, if_true]
        | none =>
          refine .toHost ((c :: rest).dropWhile isSlash) hplace (fun base => ?_) htaken
          simp only [resolveFrom?, hslash, htwo, hstrip, if_true]

/-! ### The inherited parts -/

/-- Two bases that give a reference the same parts make the same URL of it. -/
theorem resolveFrom?_eq_of_taken_eq (h : r.taken base = r.taken other) :
    r.resolveFrom? base = r.resolveFrom? other := by
  -- One case for each way a reference can go. It reads just the parts of the base that it takes.
  cases r.way with
  | stays hbody hread htaken =>
    rw [htaken, htaken] at h
    injection h with hscheme hauthority hpath hquery
    rw [hread, hread, atPlace, atPlace, kind, kind, hscheme, hauthority, hpath]
    cases hown : r.query with
    | none =>
      rw [hown] at hquery
      have hquery' : base.query = other.query := hquery
      rw [hquery']
    | some cs => rfl
  | toHost cs hplace hread htaken =>
    rw [htaken, htaken] at h
    injection h with hscheme
    rw [hread, hread, hscheme]
  | fromRoot cs hplace hread htaken =>
    rw [htaken, htaken] at h
    injection h with hscheme hauthority
    rw [hread, hread, kind, kind, hscheme, hauthority]
  | fromPlace hplace hread htaken =>
    rw [htaken, htaken] at h
    injection h with hscheme hauthority hpath
    injection hpath with hdirectory
    rw [hread, hread, kind, kind, hscheme, hauthority, hdirectory]

/-- From two URLs of the web that have the inherited parts in common, a reference leads to the
same URL. -/
theorem resolve?_eq_of_inherited_eq (hbase : base.IsWeb) (hother : other.IsWeb)
    (h : r.inherited base = r.inherited other) :
    r.resolve? (some base) = r.resolve? (some other) := by
  rw [inherited, inherited] at h
  cases habs : r.isAbsolute base with
  | true =>
    cases habs' : r.isAbsolute other with
    | true => rw [resolve?_of_isAbsolute hbase habs, resolve?_of_isAbsolute hother habs']
    | false =>
      rw [habs, habs'] at h
      cases h
  | false =>
    cases habs' : r.isAbsolute other with
    | true =>
      rw [habs, habs'] at h
      cases h
    | false =>
      rw [habs, habs'] at h
      rw [resolve?_of_not_isAbsolute hbase habs, resolve?_of_not_isAbsolute hother habs']
      exact resolveFrom?_eq_of_taken_eq (Option.some.inj h)

/-- A reference with an authority has the scheme it is read with. -/
theorem scheme_of_withAuthority? {scheme cs : List Char}
    (h : r.withAuthority? scheme cs = some u) : u.scheme = scheme := by
  obtain ⟨authority, list, rfl⟩ := eq_complete_of_withAuthority? h
  rfl

/-- Where a reference leads shows what it has taken over, except for the directory. -/
theorem taken_of_resolveFrom?_eq (hbase : r.resolveFrom? base = some u)
    (hother : r.resolveFrom? other = some u) :
    (r.taken base).scheme = (r.taken other).scheme ∧
      (r.taken base).authority = (r.taken other).authority ∧
      (r.startsInPlace = false → r.taken base = r.taken other) := by
  -- Conversely, the parts of the base that it takes show in the URL, except for a directory that
  -- the path may leave again.
  cases r.way with
  | stays hbody hread htaken =>
    rw [hread] at hbase hother
    have heq : r.atPlace base = r.atPlace other := Option.some.inj (hbase.trans hother.symm)
    injection heq with hscheme hauthority hpath hquery
    have hall : r.taken base = r.taken other := by
      rw [htaken, htaken, hscheme, hauthority, hpath]
      cases hown : r.query with
      | none =>
        rw [hown] at hquery
        have hquery' : base.query = other.query := hquery
        rw [hquery']
      | some cs => rfl
    rw [hall]
    exact ⟨rfl, rfl, fun _ => rfl⟩
  | toHost cs hplace hread htaken =>
    -- Only the scheme is not the reference's own.
    rw [hread] at hbase hother
    rw [htaken, htaken, ← scheme_of_withAuthority? hbase, scheme_of_withAuthority? hother]
    exact ⟨rfl, rfl, fun _ => rfl⟩
  | fromRoot cs hplace hread htaken =>
    rw [hread] at hbase hother
    have heq := Option.some.inj (hbase.trans hother.symm)
    injection heq with hscheme hauthority
    rw [htaken, htaken, hscheme, hauthority]
    exact ⟨rfl, rfl, fun _ => rfl⟩
  | fromPlace hplace hread htaken =>
    rw [hread] at hbase hother
    have heq := Option.some.inj (hbase.trans hother.symm)
    injection heq with hscheme hauthority
    rw [htaken, htaken, hplace]
    exact ⟨hscheme, hauthority, nofun⟩

/-- From two URLs of the web, a reference without a scheme leads to the same URL only if it takes
over the same scheme and authority, and the same altogether unless it starts in the place. -/
theorem taken_of_resolve?_eq (hbase : base.IsWeb) (hother : other.IsWeb)
    (hscheme : r.scheme = none) (hu : r.resolve? (some base) = some u)
    (hu' : r.resolve? (some other) = some u) :
    (r.taken base).scheme = (r.taken other).scheme ∧
      (r.taken base).authority = (r.taken other).authority ∧
      (r.startsInPlace = false → r.taken base = r.taken other) := by
  rw [resolve?_of_no_scheme hbase hscheme] at hu
  rw [resolve?_of_no_scheme hother hscheme] at hu'
  exact taken_of_resolveFrom?_eq hu hu'

/-! ### Where references lead -/

/-- Seen from a URL with segments, a reference leads to one. -/
theorem hasSegments_of_resolveFrom? (hbase : base.HasSegments)
    (h : r.resolveFrom? base = some u) : u.HasSegments := by
  cases r.way with
  | stays _ hread _ =>
    rw [hread] at h
    cases h
    exact hbase
  | toHost _ _ hread _ =>
    rw [hread] at h
    exact hasSegments_of_withAuthority? h
  | fromRoot _ _ hread _ =>
    rw [hread] at h
    cases h
    exact ⟨_, rfl⟩
  | fromPlace _ hread _ =>
    rw [hread] at h
    cases h
    exact ⟨_, rfl⟩

/-- Without a body a reference keeps the path. -/
theorem path_of_no_body (hbody : r.body = []) (h : r.resolveFrom? base = some u) :
    u.path = base.path := by
  rw [resolveFrom?, hbody] at h
  cases h
  rfl

/-- A reference that starts in place goes on from the directory of its base. -/
theorem resolveFrom?_of_startsInPlace (h : r.startsInPlace = true) (base : Url) :
    r.resolveFrom? base = some (r.complete base.scheme base.authority
      (.segments (walkText base.kind (directory base) r.body))) := by
  cases r.way with
  | stays hbody _ _ =>
    rw [startsInPlace, hbody] at h
    cases h
  | toHost _ hplace _ _ | fromRoot _ hplace _ _ =>
    rw [hplace] at h
    cases h
  | fromPlace _ hread _ => exact hread base

/-- From the web, plain segments are added to the place. -/
theorem path_of_plain (hkind : base.kind = .web) (hplace : r.startsInPlace = true)
    (hplain : ∀ segment ∈ cutSegments .web r.body, IsPlain segment)
    (h : r.resolveFrom? base = some u) :
    u.path = .segments (directory base ++ cutSegments .web r.body) := by
  rw [resolveFrom?_of_startsInPlace hplace] at h
  cases h
  rw [complete, hkind, walkText, walk_of_plain (by decide) hplain, if_neg (by decide)]

/-- What is read as a file is one. -/
theorem scheme_of_resolveFile? (hbase : base.scheme = fileScheme)
    (h : r.resolveFile? (some base) = some u) : u.scheme = fileScheme := by
  -- Each way of resolving keeps the scheme of files: from the place of the base, from its root, or
  -- at a host.
  have hplace : (r.fromFilePlace (some base)).scheme = fileScheme := by
    rw [fromFilePlace]
    split
    · exact hbase
    · split <;> rfl
  have hroot : ∀ cs, (r.fromFileRoot (some base) cs).scheme = fileScheme := fun cs => rfl
  have hhost : ∀ cs, r.fileAtHost? cs = some u → u.scheme = fileScheme := by
    intro cs hu
    simp only [fileAtHost?] at hu
    split at hu
    · cases hu
      rfl
    · split at hu
      all_goals
        obtain ⟨host, -, hu⟩ := Option.bind_eq_some_iff.1 hu
        cases hu
        rfl
  rw [resolveFile?] at h
  split at h
  · cases h
    exact hplace
  · split at h
    · split at h
      · split at h
        · exact hhost _ h
        · cases h
          exact hroot _
      · cases h
        exact hroot _
    · cases h
      exact hplace

/-! ### Whether references lead anywhere -/

/-- Whether a reference can be resolved depends on the scheme of its base only. -/
theorem isSome_resolveFrom?_congr (hscheme : base.scheme = other.scheme) :
    (r.resolveFrom? base).isSome = (r.resolveFrom? other).isSome := by
  cases r.way with
  | toHost _ _ hread _ => rw [hread, hread, hscheme]
  | stays _ hread _ | fromRoot _ _ hread _ | fromPlace _ hread _ => rw [hread, hread]; rfl

/-- Whether a reference to a file can be resolved does not depend on its base at all. -/
theorem isSome_resolveFile?_congr (base other : Url) :
    (r.resolveFile? (some base)).isSome = (r.resolveFile? (some other)).isSome := by
  rw [resolveFile?, resolveFile?]
  split
  · rfl
  · split
    · split
      · split <;> rfl
      · rfl
    · rfl

/-- From two URLs of the same scheme and path, a reference leads somewhere from both or from none.
-/
theorem isSome_resolve?_congr (hscheme : base.scheme = other.scheme)
    (hpath : base.path = other.path) :
    (r.resolve? (some base)).isSome = (r.resolve? (some other)).isSome := by
  rw [resolve?, resolve?]
  cases r.scheme with
  | none =>
    dsimp only
    rw [hpath, kind, kind, hscheme]
    split
    · rfl
    · split
      · rfl
      · split
        · exact isSome_resolveFile?_congr base other
        · exact isSome_resolveFrom?_congr hscheme
  | some scheme =>
    dsimp only
    -- The base counts only if it has the scheme that the reference names.
    by_cases hsame : base.scheme = scheme
    · rw [Option.filter_some_pos (by rw [hsame, beq_self_eq_true]),
        Option.filter_some_pos (by rw [← hscheme, hsame, beq_self_eq_true])]
      split
      · exact isSome_resolveFile?_congr base other
      · rfl
      · dsimp only
        split
        · exact isSome_resolveFrom?_congr hscheme
        · rfl
    · -- The reference names another scheme, so it is read by itself.
      rw [Option.filter_some_neg (by rwa [beq_eq_false_iff_ne]),
        Option.filter_some_neg (by rwa [← hscheme, beq_eq_false_iff_ne])]

end Reference

variable {base u : Url} {text : List Char}

/-- The file scheme is the only one of its kind. -/
theorem scheme_of_kind (h : u.kind = .file) : u.scheme = Reference.fileScheme := by
  rw [kind, schemeKind] at h
  split at h
  · cases h
  · split at h
    · next hfile => exact hfile
    · cases h

/-- Seen from a URL with segments, a path of the place leads to where it walks to, and never from
a file to the web. -/
theorem join?_path (hbase : base.HasSegments) {c : Char} {rest : List Char}
    (hread : Reference.read text = ⟨none, c :: rest, none, none⟩)
    (hslash : Reference.isSlash c = false) (h : base.join? text = some u) (hkind : u.kind = .web) :
    u = ⟨base.scheme, base.authority,
      .segments (walkText base.kind (Reference.directory base) (c :: rest)), none, none⟩ := by
  obtain ⟨list, hlist⟩ := hbase
  rw [join?, hread, Reference.resolve?, hlist] at h
  dsimp only at h
  rw [if_neg (by simp)] at h
  split at h
  · next hfile =>
    rw [kind, Reference.scheme_of_resolveFile? (scheme_of_kind hfile) h] at hkind
    cases hkind
  · rw [Reference.resolveFrom?_of_startsInPlace (by simp [Reference.startsInPlace, hslash])] at h
    cases h
    rfl

/-- Seen from the web, a text leads to a URL with segments if that has a host. -/
theorem hasSegments_of_join? (hbase : base.IsWeb) (h : base.join? text = some u)
    (hhost : u.host?.isSome = true) : u.HasSegments := by
  rw [join?] at h
  cases habs : (Reference.read text).isAbsolute base with
  | true =>
    rw [Reference.resolve?_of_isAbsolute hbase habs] at h
    exact hasSegments_of_parse? h hhost
  | false =>
    rw [Reference.resolve?_of_not_isAbsolute hbase habs] at h
    exact Reference.hasSegments_of_resolveFrom? hbase.segments h

end ImageSync.Url
