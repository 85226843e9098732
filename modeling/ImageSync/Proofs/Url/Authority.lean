import ImageSync.Proofs.Url.WebUrl

/-!
# `ImageSync.Proofs.Url.Authority`: where the authority of a URL stands

In a URL of the web the authority stands behind the slashes of the scheme, up to the next slash or
mark. `authorityText` is this part of a text, and nothing else of the text decides what the
authority is (`authority_parse?`): neither the number of the slashes in front, nor the path, the
query or the fragment. Where the part is no authority, the text is no URL.
-/

set_option autoImplicit false

namespace ImageSync.Url

open Text

/-! ### From the host on -/

namespace Reference

/-- In a web URL the separators are the two slashes. -/
theorem isSeparator_web (c : Char) : isSeparator .web c = isSlash c := by
  rw [isSeparator, isSlash]
  exact congrArg _ (Bool.and_true _)

/-- A slash is either of the two. -/
theorem isSlash_iff {c : Char} : isSlash c = true ↔ c = '/' ∨ c = '\\' := by
  rw [isSlash, Bool.or_eq_true, beq_iff_eq, beq_iff_eq]

/-- The port that a text starts with, if it starts with one. -/
def portAt? (scheme : List Char) : List Char → Option (Option Nat)
  | ':' :: digits => (readPort? scheme digits).map Prod.fst
  | _ => some none

/-- The authority of a user at the host and the port that a text starts with. -/
def atHost? (scheme username password cs : List Char) : Option Authority := do
  let host ← Host.read? (cutHost .web false cs).1
  let rest := (cutHost .web false cs).2
  guard !(host.isEmpty && (rest.head? == some ':' || !(username.isEmpty && password.isEmpty)))
  let port ← portAt? scheme rest
  return ⟨username, password, host, port⟩

/-- No host of the web is empty. -/
theorem isEmpty_of_read? {cs : List Char} {host : Host} (h : Host.read? cs = some host) :
    host.isEmpty = false := by
  unfold Host.read? at h
  split at h
  · obtain ⟨inner, -, h⟩ := Option.bind_eq_some_iff.1 h
    obtain ⟨pieces, -, h⟩ := Option.bind_eq_some_iff.1 h
    cases h
    rfl
  · obtain ⟨text, -, h⟩ := Option.bind_eq_some_iff.1 h
    obtain ⟨domain, -, h⟩ := Option.bind_eq_some_iff.1 h
    split at h
    · cases h
    · split at h
      · obtain ⟨address, -, h⟩ := Option.bind_eq_some_iff.1 h
        cases h
        rfl
      · next hne _ =>
        cases h
        exact Bool.eq_false_iff.2 hne

variable {scheme username password cs tail : List Char} {a : Authority}

/-- An authority has a host that is not empty. -/
theorem isEmpty_of_atHost? (h : atHost? scheme username password cs = some a) :
    a.host.isEmpty = false := by
  obtain ⟨host, hread, h⟩ := Option.bind_eq_some_iff.1 h
  obtain ⟨-, -, h⟩ := Option.bind_eq_some_iff.1 h
  obtain ⟨port, -, h⟩ := Option.bind_eq_some_iff.1 h
  cases h
  exact isEmpty_of_read? hread

/-- Without a text there is no host. -/
theorem atHost?_nil : atHost? scheme username password [] = none := rfl

section Append

variable (htail : ∀ c, tail.head? = some c → isSlash c = true)

include htail

/-- What starts with a slash does not start with another character. -/
theorem head?_append_slash {d : Char} (hd : isSlash d = false) (cs : List Char) :
    ((cs ++ tail).head? == some d) = (cs.head? == some d) := by
  cases cs with
  | cons c r => rfl
  | nil =>
    have htail' : tail.head? ≠ some d := fun heq => by
      rw [htail d heq] at hd
      cases hd
    rw [List.nil_append, beq_eq_false_iff_ne.2 htail']
    rfl

/-- Text behind a slash does not move the end of a host. -/
theorem cutHost_append_slash (bracketed : Bool) :
    cutHost .web bracketed (cs ++ tail) =
      ((cutHost .web bracketed cs).1, (cutHost .web bracketed cs).2 ++ tail) := by
  -- By induction on the text, inside brackets and outside.
  induction cs generalizing bracketed with
  | nil =>
    cases tail with
    | nil => rfl
    | cons c r =>
      have hstop : ((c == ':' && !bracketed) || isSeparator .web c) = true := by
        rw [isSeparator_web, htail c rfl, Bool.or_true]
      show cutHost .web bracketed (c :: r) = ([], c :: r)
      rw [cutHost, if_pos hstop]
  | cons c cs ih =>
    rw [List.cons_append, cutHost, cutHost]
    split
    · rfl
    · rw [ih]

/-- Text behind a slash does not count for a port. -/
theorem readPort?_append_slash :
    (readPort? scheme (cs ++ tail)).map Prod.fst = (readPort? scheme cs).map Prod.fst := by
  have hdigits : (cs ++ tail).takeWhile Char.isDigit = cs.takeWhile Char.isDigit :=
    takeWhile_append_of_head? fun c hc => by
      rcases isSlash_iff.1 (htail c hc) with rfl | rfl <;> rfl
  have hrest : (cs ++ tail).drop (cs.takeWhile Char.isDigit).length =
      cs.drop (cs.takeWhile Char.isDigit).length ++ tail :=
    List.drop_append_of_le_length (List.takeWhile_prefix _).length_le
  have hends : ((cs.drop (cs.takeWhile Char.isDigit).length ++ tail).head?.any
      fun c => c != '/' && c != '\\') =
      (cs.drop (cs.takeWhile Char.isDigit).length).head?.any fun c => c != '/' && c != '\\' := by
    cases cs.drop (cs.takeWhile Char.isDigit).length with
    | cons c r => rfl
    | nil =>
      -- The port may end with the text or at a slash.
      cases hhead : tail.head? with
      | none => rw [List.nil_append, hhead]; rfl
      | some c =>
        rw [List.nil_append, hhead]
        rcases isSlash_iff.1 (htail c hhead) with rfl | rfl <;> rfl
  simp only [readPort?, hdigits, hrest, hends]
  split
  · rfl
  · split
    · rfl
    · split <;> rfl

/-- Text behind a slash does not count for a port, nor does it make one. -/
theorem portAt?_append_slash : portAt? scheme (cs ++ tail) = portAt? scheme cs := by
  cases hcolon : cs.head? == some ':' with
  | true =>
    obtain ⟨digits, rfl⟩ := List.head?_eq_some_iff.1 (beq_iff_eq.1 hcolon)
    exact readPort?_append_slash htail
  | false =>
    have hnone : ∀ text : List Char, (text.head? == some ':') = false →
        portAt? scheme text = some none := fun text htext => by
      rw [portAt?]
      rintro digits rfl
      cases htext
    rw [hnone cs hcolon, hnone (cs ++ tail) (by rw [head?_append_slash htail rfl, hcolon])]

/-- Nothing that comes behind a slash counts. -/
theorem atHost?_append_slash :
    atHost? scheme username password (cs ++ tail) = atHost? scheme username password cs := by
  rw [atHost?, atHost?, cutHost_append_slash htail]
  dsimp only
  rw [head?_append_slash htail rfl, portAt?_append_slash htail]

end Append

/-! ### The authority -/

/-- The authority that a text without slashes is. -/
def authorityAt? (scheme text : List Char) : Option Authority :=
  match cutFirst? '@' text.reverse with
  | none => atHost? scheme [] [] text
  | some (host, user) =>
    atHost? scheme (percentEncode userInfoSet (cutMark ':' user.reverse).1)
      (percentEncode userInfoSet ((cutMark ':' user.reverse).2.getD [])) host.reverse

/-- The authority of a text has a host that is not empty. -/
theorem isEmpty_of_authorityAt? {text : List Char} (h : authorityAt? scheme text = some a) :
    a.host.isEmpty = false := by
  rw [authorityAt?] at h
  split at h
  · exact isEmpty_of_atHost? h
  · exact isEmpty_of_atHost? h

/-- A domain name with a colon behind it is a host without a port. -/
theorem authorityAt?_of_isDomain {name : List Char} (hname : IsDomain name) :
    authorityAt? scheme (name ++ [':']) =
      some ⟨[], [], .name (name.map Char.toLower), none⟩ := by
  have hchars := fun c hc => plainChar_of_isDomainChar (hname.chars c hc)
  have hsign : '@' ∉ (name ++ [':']).reverse := by
    rw [List.mem_reverse, List.mem_append]
    rintro (hmem | hmem)
    · exact (hchars _ hmem).user rfl
    · cases List.mem_singleton.1 hmem
  have hhost : cutHost .web false (name ++ [':']) = (name, [':']) :=
    cutHost_append
      (fun c hc => ⟨(hchars c hc).separator, (hchars c hc).colon, (hchars c hc).bracket⟩)
      fun c hc => .inl (by cases hc; rfl)
  have hread := Host.read?_of_isDomain hname
  rw [authorityAt?, cutFirst?_eq_none hsign]
  dsimp only
  rw [atHost?, hhost]
  dsimp only
  rw [hread, Option.bind_eq_bind, Option.bind_some, isEmpty_of_read? hread]
  rfl

/-- An authority is a user, and what is read from the host on. -/
theorem authority_withAuthority? (r : Reference) (hkind : schemeKind scheme = .web) :
    (r.withAuthority? scheme cs).bind Url.authority =
      (r.cutUser? .web cs).bind fun user => atHost? scheme user.1 user.2.1 user.2.2 := by
  rw [withAuthority?, hkind]
  dsimp only [bind]
  rw [Option.bind_assoc]
  refine Option.bind_congr fun user _ => ?_
  obtain ⟨username, password, rest⟩ := user
  dsimp only
  rw [if_neg SchemeKind.noConfusion, Option.bind_assoc, atHost?]
  refine Option.bind_congr fun host _ => ?_
  dsimp only
  rw [Option.bind_assoc]
  refine Option.bind_congr fun _ _ => ?_
  -- The path behind the port is no part of the authority.
  generalize (cutHost .web false rest).2 = behind
  split
  · next digits =>
    rw [portAt?]
    cases readPort? scheme digits with
    | none => rfl
    | some port => rfl
  · next hcolon =>
    have hnone : portAt? scheme behind = some none := by
      rw [portAt?]
      exact hcolon
    rw [hnone]
    rfl

/-- The authority ends at the first slash. What the reference has for a query and a fragment only
matters for a user without a host, and that is no authority. -/
theorem authority_withAuthority?_eq (r : Reference) (hkind : schemeKind scheme = .web) :
    (r.withAuthority? scheme cs).bind Url.authority =
      authorityAt? scheme (cs.takeWhile fun c => !isSlash c) := by
  have hregion : (cs.takeWhile fun c => !isSeparator .web c) =
      cs.takeWhile fun c => !isSlash c := by
    simp only [isSeparator_web]
  -- The text of the authority goes up to the first slash.
  obtain ⟨text, after, rfl, htext, hafter⟩ : ∃ text after, cs = text ++ after ∧
      (∀ c ∈ text, (!isSlash c) = true) ∧ ∀ c, after.head? = some c → (!isSlash c) = false :=
    ⟨_, _, List.takeWhile_append_dropWhile.symm, forall_mem_takeWhile _ _, head?_dropWhile _ _⟩
  have hspan := (span_eq htext hafter).1
  have hstart : ∀ c, after.head? = some c → isSlash c = true := fun c hc => by
    simpa using hafter c hc
  rw [authority_withAuthority? r hkind]
  simp only [cutUser?, hregion, hspan, List.drop_left, authorityAt?]
  -- A user stands in front of the last at sign.
  cases hsign : cutFirst? '@' text.reverse with
  | none => exact atHost?_append_slash hstart
  | some sides =>
    obtain ⟨host, user⟩ := sides
    dsimp only
    cases hhost : host.reverse with
    | nil =>
      -- Without a host there is no authority, whether the user is refused or not.
      have hnone : ∀ username password, atHost? scheme username password ([] ++ after) = none :=
        fun _ _ => (atHost?_append_slash hstart).trans atHost?_nil
      generalize (user.isEmpty && _) = ends
      cases ends with
      | true => rfl
      | false => exact hnone _ _
    | cons c rest =>
      have hmem : c ∈ text := by
        rw [← List.mem_reverse, eq_of_cutFirst? hsign, List.mem_append, ← List.mem_reverse, hhost]
        exact .inl List.mem_cons_self
      have hends : (user.isEmpty && isSeparator .web c) = false := by
        rw [isSeparator_web, Bool.not_eq_eq_eq_not.1 (htext c hmem)]
        exact Bool.and_false _
      rw [List.cons_append]
      dsimp only
      rw [hends]
      show atHost? scheme _ _ ((c :: rest) ++ after) = _
      exact atHost?_append_slash hstart

end Reference

/-! ### The text of the authority -/

/-- Whether an authority ends at a character. -/
def endsAuthority (c : Char) : Bool := Reference.isSlash c || c == '?' || c == '#'

/-- The part of a text, behind the slashes of its scheme, where the authority stands. -/
def authorityText (cs : List Char) : List Char :=
  (cs.dropWhile Reference.isSlash).takeWhile fun c => !endsAuthority c

/-- No character of a domain ends an authority. -/
theorem endsAuthority_of_isDomainChar {c : Char} (h : isDomainChar c = true) :
    endsAuthority c = false := by
  have hplain := plainChar_of_isDomainChar h
  rw [endsAuthority, ← Reference.isSeparator_web, hplain.separator,
    beq_eq_false_iff_ne.2 hplain.query, beq_eq_false_iff_ne.2 hplain.fragment]
  rfl

/-- A text in which the authority does not end is the authority. -/
theorem authorityText_eq {cs : List Char} (h : ∀ c ∈ cs, endsAuthority c = false) :
    authorityText cs = cs := by
  have hstart : ∀ c, cs.head? = some c → Reference.isSlash c = false := fun c hc => by
    have hends := h c (List.mem_of_head? hc)
    rw [endsAuthority, Bool.or_eq_false_iff, Bool.or_eq_false_iff] at hends
    exact hends.1.1
  rw [authorityText, dropWhile_of_head? hstart,
    List.takeWhile_eq_self_iff.2 fun c hc => by rw [h c hc]; rfl]

/-- Slashes behind a text do not belong to the authority. -/
theorem authorityText_append_slashes {slashes : List Char}
    (h : ∀ c ∈ slashes, Reference.isSlash c = true) (cs : List Char) :
    authorityText (cs ++ slashes) = authorityText cs := by
  have hends : ∀ c, slashes.head? = some c → (!endsAuthority c) = false := fun c hc => by
    rw [endsAuthority, h c (List.mem_of_head? hc)]
    rfl
  rw [authorityText, authorityText, List.dropWhile_append]
  split
  · next hempty =>
    have hnone : slashes.dropWhile Reference.isSlash = [] := by
      rw [List.dropWhile_eq_nil_iff]
      exact h
    rw [List.isEmpty_iff.1 hempty, hnone]
  · exact takeWhile_append_of_head? hends

/-- Whether the authority ends in a text: behind it, or behind the slashes in front of it, stands a
slash or a mark. -/
def endsWithin (cs : List Char) : Bool :=
  ((unbroken cs).dropWhile Reference.isSlash).any endsAuthority

/-- A character that ends an authority is not dropped from the ends of a reference. -/
theorem isEdge_of_endsAuthority {c : Char} (h : endsAuthority c = true) : isEdge c = false := by
  rw [endsAuthority, Bool.or_eq_true, Bool.or_eq_true, beq_iff_eq, beq_iff_eq,
    Reference.isSlash_iff] at h
  obtain ((rfl | rfl) | rfl) | rfl := h <;> rfl

/-- A text in which the authority ends has a first place where it does, whatever stands behind it.
-/
theorem exists_authorityText {cs : List Char} (h : endsWithin cs = true) :
    ∃ front e more text, unbroken cs = front ++ e :: more ∧ endsAuthority e = true ∧
      ∀ more, authorityText (front ++ e :: more) = text := by
  obtain ⟨e, hmem, he⟩ := List.any_eq_true.1 h
  -- The first such character counts.
  obtain ⟨e, more, hbehind⟩ := List.exists_cons_of_ne_nil (l :=
    ((unbroken cs).dropWhile Reference.isSlash).dropWhile fun c => !endsAuthority c) fun hnil => by
      have hnot := List.dropWhile_eq_nil_iff.1 hnil e hmem
      rw [he] at hnot
      cases hnot
  have he : endsAuthority e = true := by
    have hstop := head?_dropWhile _ _ e (List.head?_eq_some_iff.2 ⟨more, hbehind⟩)
    simpa using hstop
  -- What is left is slashes, the name and the rest behind it.
  have hplace := (List.takeWhile_append_dropWhile (p := fun c => !endsAuthority c)
    (l := (unbroken cs).dropWhile Reference.isSlash)).symm
  rw [hbehind] at hplace
  generalize hname : ((unbroken cs).dropWhile Reference.isSlash).takeWhile _ = name at hplace
  have hchars : ∀ c ∈ name, (!endsAuthority c) = true := hname ▸ forall_mem_takeWhile _ _
  refine ⟨(unbroken cs).takeWhile Reference.isSlash ++ name, e, more, name, ?_, he, fun more => ?_⟩
  · rw [List.append_assoc, ← hplace, List.takeWhile_append_dropWhile]
  · have hstart : ∀ c, (name ++ e :: more).head? = some c → Reference.isSlash c = false := by
      intro c hc
      refine head?_dropWhile _ (unbroken cs) c ?_
      rw [hplace]
      cases name <;> exact hc
    rw [List.append_assoc, authorityText, (span_eq (forall_mem_takeWhile _ _) hstart).2]
    refine (span_eq hchars fun c hc => ?_).1
    cases hc
    rw [he]
    rfl

/-- Once the authority has ended, nothing behind it counts. -/
theorem authorityText_of_endsWithin {cs : List Char} (h : endsWithin cs = true)
    (tail : List Char) :
    authorityText (cleanedEnd (cs ++ tail)) = authorityText (cleanedEnd cs) := by
  obtain ⟨front, e, more, text, hcs, he, hfront⟩ := exists_authorityText h
  -- The character where it ends is dropped from neither text.
  have hend : ∀ cs more, unbroken cs = front ++ e :: more →
      authorityText (cleanedEnd cs) = text := by
    intro cs more hcs
    obtain ⟨edges, hedges, hedge⟩ := exists_cleanedEnd cs
    rw [hcs] at hedges
    -- What is dropped is behind this character, or it would be dropped with it.
    rcases List.append_eq_append_iff.1 hedges with ⟨back, hback, hmore⟩ | ⟨back, hback, hmore⟩
    · cases back with
      | nil =>
        have hmem : e ∈ edges := by
          rw [← List.nil_append edges, ← hmore]
          exact List.mem_cons_self
        have hdropped := hedge e hmem
        rw [isEdge_of_endsAuthority he] at hdropped
        cases hdropped
      | cons c back =>
        cases hmore
        rw [hback]
        exact hfront back
    · have hdropped := hedge e (by rw [hmore]; exact List.mem_append_right _ List.mem_cons_self)
      rw [isEdge_of_endsAuthority he] at hdropped
      cases hdropped
  rw [hend cs more hcs, hend (cs ++ tail) (more ++ unbroken tail)
    (by rw [unbroken_append, hcs, List.append_assoc, List.cons_append])]

/-- No slash is a mark, so the slashes in front can be dropped before the marks are cut. -/
theorem authorityText_cutMarks (cs : List Char) :
    (((cutMarks cs).1.dropWhile Reference.isSlash).takeWhile fun c => !Reference.isSlash c) =
      authorityText cs := by
  have hends : ∀ c, (!endsAuthority c) = ((!Reference.isSlash c) && (c != '?' && c != '#')) := by
    intro c
    rw [endsAuthority, Bool.not_or, Bool.not_or, Bool.and_assoc]
    rfl
  have hmarks : ∀ c, Reference.isSlash c = true → decide (c != '?' ∧ c != '#') = true := by
    intro c hc
    rcases Reference.isSlash_iff.1 hc with rfl | rfl <;> decide
  rw [cutMarks]
  dsimp only
  rw [fst_cutMark, fst_cutMark, List.takeWhile_takeWhile, dropWhile_takeWhile hmarks,
    List.takeWhile_takeWhile, authorityText]
  simp only [hends, Bool.decide_and, Bool.decide_eq_true]

variable {scheme : List Char}

/-- A text with a scheme of the web, its colon and two slashes is cut at its marks. -/
theorem read_slashed (hscheme : IsWebScheme scheme) (cs : List Char) :
    Reference.read (scheme ++ "://".toList ++ cs) =
      ⟨some (scheme.map Char.toLower), (cutMarks ("//".toList ++ cleanedEnd cs)).1,
        (cutMarks ("//".toList ++ cleanedEnd cs)).2.1,
        (cutMarks ("//".toList ++ cleanedEnd cs)).2.2⟩ := by
  have hclean : cleaned (scheme ++ "://".toList ++ cs) =
      scheme ++ ':' :: ("//".toList ++ cleanedEnd cs) := by
    have hfront : ∀ c ∈ scheme ++ "://".toList, isEdge c = false :=
      List.forall_mem_append.2
        ⟨fun c hc => (plainChar_of_isDomainChar (hscheme.chars c hc)).edge,
          forall_mem_of_all (by decide)⟩
    rw [cleaned_append (List.append_ne_nil_of_right_ne_nil _ (by decide)) hfront,
      List.append_assoc]
    rfl
  have hcut := cutScheme?_append hscheme.starts (fun c hc => isDomainChar_induction
    (p := fun c => isSchemeChar c = true) (by decide +kernel) (hscheme.chars c hc))
    ("//".toList ++ cleanedEnd cs)
  rw [Reference.read, hclean, hcut]
  rfl

/-- In a scheme of the web, the authority of a text is the one that stands in its place. -/
theorem authority_parse? (hscheme : IsWebScheme scheme) (cs : List Char) :
    (parse? (scheme ++ "://".toList ++ cs)).bind Url.authority =
      Reference.authorityAt? (scheme.map Char.toLower) (authorityText (cleanedEnd cs)) := by
  rw [parse?, read_slashed hscheme, Reference.resolve?]
  simp only [hscheme.schemeKind_eq, Option.filter_none, drop_length_takeWhile]
  rw [Reference.authority_withAuthority?_eq _ hscheme.schemeKind_eq, authorityText_cutMarks]
  -- The two slashes of the scheme are dropped with those behind them.
  rfl

/-- A URL of the web has its scheme and a host. -/
theorem host_of_parse? {cs : List Char} {u : Url} (hscheme : IsWebScheme scheme)
    (h : parse? (scheme ++ "://".toList ++ cs) = some u) :
    u.scheme = scheme.map Char.toLower ∧ u.host?.isSome = true := by
  have hauthority := authority_parse? hscheme cs
  rw [h, Option.bind_some] at hauthority
  rw [parse?, read_slashed hscheme, Reference.resolve?] at h
  simp only [hscheme.schemeKind_eq, Option.filter_none] at h
  obtain ⟨a, list, rfl⟩ := Reference.eq_complete_of_withAuthority? h
  refine ⟨rfl, ?_⟩
  have hhost := Reference.isEmpty_of_authorityAt? hauthority.symm
  rw [host?, Reference.complete, Option.map_some, Option.filter_some_pos (by rw [hhost]; rfl)]
  rfl

end ImageSync.Url
