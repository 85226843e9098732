import ImageSync.Proofs.Registry.FirstRequest

/-!
# `ImageSync.Proofs.Registry.TagsUrl`: which repository the tags are asked for of

The name of a repository comes from a listing, and is pasted between `v2/` and `/tags/list` as it
is. The result is read as a reference, and what a name may hold has a meaning there: a question mark
starts a query and a number sign a fragment, a backslash is a slash, tabs and line ends are dropped,
and a segment that is a dot leads elsewhere. `IsPlainName` rules these out, and nothing else.

The main statement `listTags_asks` says what this leaves of a request for a repository. It always
goes to the registry. It names the repository, with nothing in front of the name but `v2` and
nothing behind it but `tags/list`, exactly if the name is plain (`asksByName_iff`). Two plain names
without a percent sign never share a URL; one with it may be the encoded form of another.

A name that is not plain may ask for another repository or leave the registry's interface
altogether (`names_led_astray`), and each name shares its URL with one that is not plain
(`tagsUrl_shared`).
-/

set_option autoImplicit false

namespace ImageSync.CatalogSource

open Http (Network Request)
open Text Url

/-! ### Names -/

/-- The name of a repository as it is pasted into the path. -/
def pastedName (repository : String) : List Char := trimStartOf '/' repository.toList

/-- A name that means nothing but itself in a reference. -/
structure IsPlainName (name : List Char) : Prop where
  marks : '#' ∉ name ∧ '?' ∉ name
  backslash : '\\' ∉ name
  breaks : ∀ c ∈ name, isBreak c = false
  dots : ∀ segment ∈ cutSegments .web name, IsNoDot segment

/-- The reference behind `v2/`, cut at its marks. -/
def tagsParts (repository : String) : List Char × Option (List Char) × Option (List Char) :=
  cutMarks (unbroken (pastedName repository) ++ "/tags/list".toList)

/-- The URL that the tags of a repository are asked for with, of a registry without a path. -/
def tagsUrl (s : CatalogSource) (repository : String) : Url :=
  ⟨s.base.scheme, s.base.authority,
    .segments (walk .web [] (cutSegments .web ("v2/".toList ++ (tagsParts repository).1))),
    (tagsParts repository).2.1.map (encodeQuery .web),
    (tagsParts repository).2.2.map (percentEncode fragmentSet)⟩

/-- A URL asks for the tags of a repository by its name, and for nothing else. -/
structure AsksByName (url : Url) (name : List Char) : Prop where
  path : url.path.render =
    "/v2/".toList ++ percentEncode pathSet name ++ "/tags/list".toList
  query : url.query = none
  fragment : url.fragment = none

variable {s : CatalogSource} {repository other : String}

/-- At the root of a registry, the URL of a listing of tags is the one that the name is pasted into.
-/
theorem endpoint_tagsPath (hbase : s.base.IsWeb) (hroot : s.base.path = .segments [[]])
    (repository : String) : s.endpoint (tagsPath repository) = .ok (s.tagsUrl repository) := by
  have hclean : cleanedEnd (pastedName repository ++ "/tags/list".toList) =
      unbroken (pastedName repository) ++ "/tags/list".toList :=
    cleanedEnd_append (by decide) (forall_mem_of_all (by decide)) _
  have hdirectory : Reference.directory s.base = [] := by
    rw [Reference.directory, segments, hroot]
    rfl
  rw [tagsPath, List.append_assoc, endpoint_v2 hbase, ← pastedName, hclean, hdirectory]
  rfl

/-! ### Queries -/

/-- The request has a query if the name has a question mark that stands in no fragment. -/
theorem query_tagsUrl_iff : (s.tagsUrl repository).query = none ↔
    '?' ∉ (pastedName repository).takeWhile (· != '#') := by
  have hname : '?' ∈ (unbroken (pastedName repository)).takeWhile (· != '#') ↔
      '?' ∈ (pastedName repository).takeWhile (· != '#') := by
    rw [unbroken, takeWhile_filter, List.mem_filter]
    · exact and_iff_left rfl
    · intro c hc
      rw [bne_iff_ne]
      rintro rfl
      cases hc
  -- Behind the name there is no question mark.
  have hwhole : '?' ∈ (unbroken (pastedName repository) ++ "/tags/list".toList).takeWhile
      (· != '#') ↔ '?' ∈ (unbroken (pastedName repository)).takeWhile (· != '#') := by
    rw [List.takeWhile_append]
    split
    · next hall =>
      rw [(List.takeWhile_prefix _).eq_of_length hall, List.mem_append]
      exact or_iff_left (by decide)
    · rfl
  rw [tagsUrl, Option.map_eq_none_iff, tagsParts, query_cutMarks_eq_none_iff, hwhole, hname]

/-- It has a fragment if the name has a number sign. -/
theorem fragment_tagsUrl_iff : (s.tagsUrl repository).fragment = none ↔
    '#' ∉ pastedName repository := by
  have hwhole : '#' ∈ unbroken (pastedName repository) ++ "/tags/list".toList ↔
      '#' ∈ pastedName repository := by
    rw [List.mem_append, unbroken, List.mem_filter]
    exact (or_iff_left (by decide)).trans (and_iff_left rfl)
  rw [tagsUrl, Option.map_eq_none_iff, ← hwhole]
  exact snd_cutMark_eq_none_iff

/-! ### Plain names -/

/-- The text that a path should be written as. -/
def namedText (name : List Char) : List Char :=
  "v2/".toList ++ (name ++ "/tags/list".toList)

/-- The segments around a name are cut off by themselves. -/
theorem cutSegments_namedText (name : List Char) :
    cutSegments .web (namedText name) =
      "v2".toList :: (cutSegments .web name ++ ["tags".toList, "list".toList]) := by
  show cutSegments .web ("v2".toList ++ '/' :: (name ++ '/' :: "tags/list".toList)) = _
  rw [cutSegments_append_cons (by decide), cutSegments_append_cons (by decide)]
  rfl

/-- What stands around a name needs no encoding. -/
theorem percentEncode_namedText (name : List Char) :
    '/' :: percentEncode pathSet (namedText name) =
      "/v2/".toList ++ percentEncode pathSet name ++ "/tags/list".toList := by
  rw [namedText, percentEncode_append, percentEncode_append, List.append_assoc]
  rfl

/-- A name without marks is walked as a whole. -/
theorem path_tagsUrl
    (hmarks : '#' ∉ unbroken (pastedName repository) ∧ '?' ∉ unbroken (pastedName repository)) :
    s.tagsUrl repository = ⟨s.base.scheme, s.base.authority,
      .segments (walk .web [] (cutSegments .web (namedText (unbroken (pastedName repository))))),
      none, none⟩ := by
  have hparts : tagsParts repository =
      (unbroken (pastedName repository) ++ "/tags/list".toList, none, none) := by
    refine cutMarks_of_not_mem ⟨fun hmem => ?_, fun hmem => ?_⟩
    · exact (List.mem_append.1 hmem).elim hmarks.1 (by decide)
    · exact (List.mem_append.1 hmem).elim hmarks.2 (by decide)
  rw [tagsUrl, hparts]
  rfl

/-- A name is plain if nothing is dropped from the text around it or cut off, and its segments are
no dots. -/
theorem isPlainName_iff {name : List Char} :
    IsPlainName name ↔ ('#' ∉ name ∧ '?' ∉ name) ∧ unbroken name = name ∧
      '\\' ∉ namedText name ∧ ∀ segment ∈ cutSegments .web (namedText name), IsNoDot segment := by
  have hback : '\\' ∈ namedText name ↔ '\\' ∈ name := by
    rw [namedText, List.mem_append, List.mem_append]
    exact (or_iff_right (by decide)).trans (or_iff_left (by decide))
  have hbreaks : unbroken name = name ↔ ∀ c ∈ name, isBreak c = false := by
    rw [unbroken, List.filter_eq_self]
    simp only [Bool.not_eq_true']
  have hdots : (∀ segment ∈ cutSegments .web (namedText name), IsNoDot segment) ↔
      ∀ segment ∈ cutSegments .web name, IsNoDot segment := by
    have hwords : IsNoDot "v2".toList ∧ ∀ word ∈ ["tags".toList, "list".toList], IsNoDot word := by
      unfold IsNoDot
      decide
    rw [cutSegments_namedText, List.forall_mem_cons, List.forall_mem_append]
    exact (and_iff_right hwords.1).trans (and_iff_left hwords.2)
  rw [hback, hbreaks, hdots]
  exact ⟨fun h => ⟨h.marks, h.breaks, h.backslash, h.dots⟩, fun h => ⟨h.1, h.2.2.1, h.2.1, h.2.2.2⟩⟩

/-- The plain names are those that a request asks for by their name. -/
theorem asksByName_iff :
    AsksByName (s.tagsUrl repository) (pastedName repository) ↔
      IsPlainName (pastedName repository) := by
  -- Line breaks and tabs are dropped from the name, so the path may have lost some of its
  -- characters.
  have hsub : (namedText (unbroken (pastedName repository))).Sublist
      (namedText (pastedName repository)) :=
    ((unbroken_sublist _).append (List.Sublist.refl _)).append_left _
  have hwalk : ('#' ∉ pastedName repository ∧ '?' ∉ pastedName repository) →
      (s.tagsUrl repository).path = .segments
        (walk .web [] (cutSegments .web (namedText (unbroken (pastedName repository))))) := by
    intro hmarks
    rw [path_tagsUrl ⟨fun hmem => hmarks.1 ((unbroken_sublist _).subset hmem),
      fun hmem => hmarks.2 ((unbroken_sublist _).subset hmem)⟩]
  rw [isPlainName_iff]
  constructor
  · intro h
    have hfragment := fragment_tagsUrl_iff.1 h.fragment
    have hquery := query_tagsUrl_iff.1 h.query
    rw [List.takeWhile_eq_self_iff.2 fun c hc =>
      bne_iff_ne.2 (ne_of_mem_of_not_mem hc hfragment)] at hquery
    have hpath := h.path
    rw [hwalk ⟨hfragment, hquery⟩, ← percentEncode_namedText, render_walk_eq_iff hsub, namedText,
      namedText, List.append_cancel_left_eq, List.append_cancel_right_eq] at hpath
    exact ⟨⟨hfragment, hquery⟩, hpath⟩
  · rintro ⟨hmarks, hbreaks, hplain⟩
    refine ⟨?_, query_tagsUrl_iff.2 fun hmem => hmarks.2 ((List.takeWhile_prefix _).subset hmem),
      fragment_tagsUrl_iff.2 hmarks.1⟩
    rw [hwalk hmarks, ← percentEncode_namedText, render_walk_eq_iff hsub, hbreaks]
    exact ⟨rfl, hplain⟩

/-! ### Requests -/

/-- Plain names that are not encoded already are told apart by what is requested. -/
theorem pastedName_inj
    (h : IsPlainName (pastedName repository) ∧ '%' ∉ pastedName repository)
    (hother : IsPlainName (pastedName other) ∧ '%' ∉ pastedName other)
    (hurl : requested (s.tagsUrl repository) = requested (s.tagsUrl other)) :
    pastedName repository = pastedName other := by
  have hrender : (s.tagsUrl repository).path.render = (s.tagsUrl other).path.render :=
    congrArg (fun url => Path.render url.path) hurl
  rw [(asksByName_iff.2 h.1).path, (asksByName_iff.2 hother.1).path,
    List.append_cancel_right_eq, List.append_cancel_left_eq] at hrender
  exact percentEncode_inj h.2 hother.2 hrender

/-- No name has its URL for itself: with a tab behind it, it is another name with the same URL. -/
theorem tagsUrl_shared (s : CatalogSource) (repository : String) :
    s.tagsUrl (repository ++ "\t") = s.tagsUrl repository ∧
      pastedName (repository ++ "\t") ≠ pastedName repository := by
  have hname : pastedName (repository ++ "\t") = pastedName repository ++ ['\t'] := by
    rw [pastedName, String.toList_append, trimStartOf, List.dropWhile_append]
    split
    · next hempty =>
      rw [pastedName, trimStartOf, List.isEmpty_iff.1 hempty]
      rfl
    · rfl
  constructor
  · rw [tagsUrl, tagsUrl, tagsParts, tagsParts, hname, unbroken_append]
    rw [show unbroken ['\t'] = [] from rfl, List.append_nil]
  · rw [hname]
    simp

/-- The tags of a repository are asked for from the registry, whatever its name is. A plain name is
what the request names, and no other is. There is a query if the name has a question mark in front
of a number sign. Plain names without a percent sign are never asked for with the same URL. -/
theorem listTags_asks {files : Files} {config : RegistryConfig}
    (hs : create files config = .ok s) (hkind : s.base.kind = .web)
    (hroot : s.base.path = .segments [[]]) :
    (∀ repository : String,
      s.StartsAt (s.listTags repository) (s.tagsUrl repository) ∧
      (s.tagsUrl repository).sameOrigin s.base = true ∧
      ((s.tagsUrl repository).query = none ↔
        '?' ∉ (pastedName repository).takeWhile (· != '#')) ∧
      (AsksByName (s.tagsUrl repository) (pastedName repository) ↔
        IsPlainName (pastedName repository))) ∧
    ∀ (repository other : String) (n n' : Network) (r r' : Request),
      IsPlainName (pastedName repository) ∧ '%' ∉ pastedName repository →
      IsPlainName (pastedName other) ∧ '%' ∉ pastedName other →
      r ∈ s.asksFor (s.tagsUrl repository) n → r' ∈ s.asksFor (s.tagsUrl other) n' →
      r.url = r'.url → pastedName repository = pastedName other := by
  have hbase : s.base.IsWeb := ⟨hkind, [[]], hroot⟩
  refine ⟨fun repository => ⟨?_, ?_, query_tagsUrl_iff, asksByName_iff⟩,
    fun repository other n n' r r' hplain hother hr hr' hurl => ?_⟩
  · exact startsAt_listTags (endpoint_tagsPath hbase hroot repository)
  · exact sameOrigin_of_eq hkind (RegistryConfig.baseUrl_host (of_create hs).2) rfl rfl
  · rw [url_of_mem_asksFor hr, url_of_mem_asksFor hr'] at hurl
    exact pastedName_inj hplain hother hurl

/-- Names with a dot in a segment, a colon and a blank. -/
theorem listTags_asks_plain :
    let config : RegistryConfig := { url := "http://registry.test" }
    let s : CatalogSource := ⟨config, ⟨"http".toList,
      some ⟨[], [], .name "registry.test".toList, none⟩, .segments [[]], none, none⟩⟩
    create (fun _ => .error .absent) config = .ok s ∧ s.base.kind = .web ∧
      s.base.path = .segments [[]] ∧
      s.StartsAt (s.listTags "/lib/x:1.0 b") (s.tagsUrl "/lib/x:1.0 b") ∧
      AsksByName (s.tagsUrl "/lib/x:1.0 b") (pastedName "/lib/x:1.0 b") ∧
      (s.tagsUrl "/lib/x:1.0 b").render = "http://registry.test/v2/lib/x:1.0%20b/tags/list" := by
  intro config s
  have hs : create (fun _ => .error .absent) config = .ok s := eq_ok_of_toOption (by decide +kernel)
  have hkind : s.base.kind = .web := by decide +kernel
  have hplain : IsPlainName (pastedName "/lib/x:1.0 b") :=
    ⟨by decide +kernel, by decide +kernel, forall_mem_of_all (by decide +kernel), by
      unfold IsNoDot
      decide +kernel⟩
  obtain ⟨hstarts, -, -, hasks⟩ := (listTags_asks hs hkind rfl).1 "/lib/x:1.0 b"
  exact ⟨hs, hkind, rfl, hstarts, hasks.2 hplain, by decide +kernel⟩

/-- Names for which something else is asked: the name ends at a mark, dots lead out of the interface
or to another repository, a backslash is a slash, and an encoded blank is a blank. -/
theorem names_led_astray :
    let asked (repository : String) : Option (List String) :=
      (create (fun _ => .error .absent) { url := "http://registry.test" }).toOption.map fun s =>
        (s.listTags repository ⟨["http".toList], [], []⟩).2.requests.map (·.url.render)
    asked "a?b" = some ["http://registry.test/v2/a?b/tags/list"] ∧
    asked "a#b" = some ["http://registry.test/v2/a"] ∧
    asked "../x" = some ["http://registry.test/x/tags/list"] ∧
    asked "a/../b" = some ["http://registry.test/v2/b/tags/list"] ∧
    asked "a\\b" = some ["http://registry.test/v2/a/b/tags/list"] ∧
    asked "a b" = some ["http://registry.test/v2/a%20b/tags/list"] ∧
    asked "a%20b" = some ["http://registry.test/v2/a%20b/tags/list"] := by
  intro asked
  refine ⟨?_, ?_, ?_, ?_, ?_, ?_, ?_⟩
  all_goals decide +kernel

end ImageSync.CatalogSource
