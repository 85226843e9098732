import ImageSync.Proofs.Registry.Continuations
import ImageSync.Proofs.Url.Cleaning
import ImageSync.Proofs.Url.Relative
import ImageSync.Proofs.Url.Walk
import ImageSync.Proofs.Url.WebUrl

/-!
# `ImageSync.Proofs.Registry.FirstRequest`: where the operations of a catalog start

Each operation of a catalog starts with a request for a URL of the registry (`StartsAt`): a probe
for `v2/`, a listing for `v2/_catalog`, and the tags of a repository for its name between `v2/` and
`/tags/list`. These are references, and they are resolved from the base URL as any reference of its
place (`endpoint_v2`): its scheme, its user, its host and its port stay, and its path stays without
the last segment.

So the main statement `operations_start` has paths below the directory of the base URL. Where the
configured path ends with a name, that name is lost (`configured_path_lost`).
-/

set_option autoImplicit false

namespace ImageSync.CatalogSource

open Http (Network Request Response)
open Text Url

variable {s : CatalogSource} {n : Network}

/-! ### The first request -/

/-- The request of its own that the source makes for a URL, if it has a header for its credentials
and the client can make it. -/
def asksFor (s : CatalogSource) (url : Url) (n : Network) : List Request :=
  match s.credentialsFor url with
  | .ok a => Http.called s.config.client url a n
  | .error _ => []

/-- An operation starts with the request for a URL, and makes none without it. -/
def StartsAt {α : Type} (s : CatalogSource) (act : CatalogM α) (url : Url) : Prop :=
  ∀ n : Network, ∃ later, (act n).2.own = n.own ++ (s.asksFor url n ++ later) ∧
    (s.asksFor url n = [] → later = [])

/-- A call adds the request that it asks for to those that no redirect led to, and no other. -/
theorem own_request (s : CatalogSource) (url : Url) (n : Network) :
    (s.request url n).2.own = n.own ++ s.asksFor url n := by
  rw [request_apply, asksFor]
  cases s.credentialsFor url with
  | error e => exact (List.append_nil _).symm
  | ok a => exact Http.own_send s.config.client url a n

/-- What is asked for is the URL, without user and fragment. -/
theorem url_of_mem_asksFor {url : Url} {r : Request} (h : r ∈ s.asksFor url n) :
    r.url = requested url := by
  rw [asksFor] at h
  split at h
  · next a _ =>
    rcases Http.called_cases s.config.client url a n with ⟨hnone, -⟩ | ⟨r', hone, hurl⟩
    · rw [hnone] at h
      cases h
    · rw [hone] at h
      rw [List.mem_singleton.1 h, hurl]
      rfl
  · cases h

/-- An operation that resolves a reference, makes one request for it and reads the answer starts
with this request. -/
theorem startsAt_request {α : Type} {reference : List Char} {url : Url}
    {read : Response → CatalogM α} (h : s.endpoint reference = .ok url)
    (hread : ∀ r n, (read r n).2 = n) :
    s.StartsAt (CatalogM.ofExcept (s.endpoint reference) >>= fun url => s.request url >>= read)
      url := by
  intro n
  refine ⟨[], ?_, fun _ => rfl⟩
  rw [List.append_nil, ← own_request, h]
  show ((s.request url >>= read) n).2.own = _
  rw [bind_apply]
  rcases s.request url n with ⟨e | r, n'⟩
  · rfl
  · exact congrArg Network.own (hread r n')

/-- A probe starts at the URL that it asks for. -/
theorem startsAt_ping {url : Url} (h : s.endpoint "v2/".toList = .ok url) :
    s.StartsAt s.ping url := by
  refine startsAt_request h fun r n => ?_
  split <;> rfl

/-- A listing of tags starts at the URL that it asks for. -/
theorem startsAt_listTags {repository : String} {url : Url}
    (h : s.endpoint (tagsPath repository) = .ok url) : s.StartsAt (s.listTags repository) url :=
  startsAt_request h fun _ _ => rfl

/-- A page adds to the requests that no redirect led to. -/
theorem own_prefix_pager (s : CatalogSource) (url : Url) (n : Network) :
    n.own <+: (s.pager url n).2.own :=
  (s.requests_prefix_pager url n).filter _

/-- A listing makes the request for its first page, and goes on only from there. -/
theorem startsAt_retrieve {first : Url} (h : s.firstPage = .ok first) (bound : Nat) :
    s.StartsAt (s.retrieve bound) first := by
  intro n
  have hown : (s.pager first n).2.own = n.own ++ s.asksFor first n := by
    rw [pager_snd, own_request]
  have hpager := s.own_pager first n
  rw [retrieve_apply, h]
  dsimp only
  rw [Pager.list]
  generalize s.pager first n = fetched at hown hpager ⊢
  obtain ⟨e | ⟨names, _ | next⟩, n'⟩ := fetched
  · exact ⟨[], by rw [List.append_nil, ← hown], fun _ => rfl⟩
  · exact ⟨[], by rw [List.append_nil, ← hown], fun _ => rfl⟩
  · -- A page that leads on was asked for.
    have hmade : s.asksFor first n ≠ [] := by
      rcases hpager with ⟨-, hnone⟩ | ⟨r, hr, -⟩
      · cases hnone
      · rw [hown, List.append_cancel_left_eq] at hr
        rw [hr]
        exact List.cons_ne_nil _ _
    dsimp only
    split
    · obtain ⟨later, hlater⟩ := Pager.entries_prefix_list s.own_prefix_pager
        (.httpError 0 "the pages did not end") bound n.replies.length next ([] ++ names) n'
      refine ⟨later, ?_, fun hnil => absurd hnil hmade⟩
      rw [← hlater, show n'.own = _ from hown, List.append_assoc]
    · exact ⟨[], by rw [List.append_nil, ← hown], fun _ => rfl⟩

/-! ### The URLs -/

/-- In a scheme of the web, the URLs of a host and port share their origin. -/
theorem sameOrigin_of_eq {url base : Url} (hkind : base.kind = .web)
    (hhost : base.host?.isSome = true) (hscheme : url.scheme = base.scheme)
    (hauthority : url.authority = base.authority) : url.sameOrigin base = true := by
  have horigin : url.origin? = base.origin? :=
    origin?_eq_of_parts hscheme (by rw [hauthority]) (by rw [hauthority])
  have hsome : base.origin?.isSome = true := by
    cases hport : defaultPort? base.scheme with
    | none =>
      rw [Url.kind, schemeKind, hport, if_neg (by decide)] at hkind
      split at hkind <;> cases hkind
    | some port =>
      cases hown : base.authority with
      | none =>
        rw [host?, hown] at hhost
        cases hhost
      | some a =>
        rw [origin?, hport, hown]
        rfl
  rw [sameOrigin, horigin, hsome, beq_self_eq_true]
  rfl

/-- A path of the registry is no URL of its own, and is cut at its marks. -/
theorem read_v2 (rest : List Char) :
    Reference.read ("v2/".toList ++ rest) =
      ⟨none, "v2/".toList ++ (cutMarks (cleanedEnd rest)).1, (cutMarks (cleanedEnd rest)).2.1,
        (cutMarks (cleanedEnd rest)).2.2⟩ := by
  have hclean : cleaned ("v2/".toList ++ rest) = "v2/".toList ++ cleanedEnd rest :=
    cleaned_append (by decide) (forall_mem_of_all (by decide)) rest
  have hscheme : cutScheme? ("v2/".toList ++ cleanedEnd rest) = none := rfl
  have hmarks : cutMarks ("v2/".toList ++ cleanedEnd rest) =
      ("v2/".toList ++ (cutMarks (cleanedEnd rest)).1, (cutMarks (cleanedEnd rest)).2) :=
    cutMarks_append (by decide) _
  rw [Reference.read, hclean, hscheme]
  show (⟨none, (cutMarks _).1, (cutMarks _).2.1, (cutMarks _).2.2⟩ : Reference) = _
  rw [hmarks]

/-- A path of the registry is walked from the directory of the base URL, and what stands in front of
the path is that of the base URL. -/
theorem endpoint_v2 (hbase : s.base.IsWeb) (rest : List Char) :
    s.endpoint ("v2/".toList ++ rest) = .ok ⟨s.base.scheme, s.base.authority,
      .segments (walk .web (Reference.directory s.base)
        (cutSegments .web ("v2/".toList ++ (cutMarks (cleanedEnd rest)).1))),
      (cutMarks (cleanedEnd rest)).2.1.map (encodeQuery .web),
      (cutMarks (cleanedEnd rest)).2.2.map (percentEncode fragmentSet)⟩ := by
  rw [endpoint, join?, read_v2, Reference.resolve?_of_no_scheme hbase rfl,
    Reference.resolveFrom?_of_startsInPlace rfl, hbase.kind]
  dsimp only
  rw [Reference.complete, show schemeKind s.base.scheme = .web from hbase.kind]
  rfl

/-! ### Ordinary paths -/

/-- Whether a character stands for itself in a path, and is no dot. -/
def isSimpleChar (c : Char) : Bool := c.isAlphanum || c == '_'

/-- A character that is taken as it is, and neither ends a segment nor makes it a dot. -/
structure SimpleChar (c : Char) : Prop where
  edge : isEdge c = false
  separator : isSeparator .web c = false
  fragment : c ≠ '#'
  query : c ≠ '?'
  plain : isEscaped pathSet c = false ∧ c ≠ '%' ∧ c ≠ '.'

/-- Letters, digits and low lines have no meaning of their own in a path. -/
theorem simpleChar_of_isSimpleChar {c : Char} (h : isSimpleChar c = true) : SimpleChar c := by
  rw [isSimpleChar, Bool.or_eq_true, beq_iff_eq] at h
  rcases h with h | rfl
  · have hdomain := isDomainChar_of_isAlphanum h
    have hplain := plainChar_of_isDomainChar hdomain
    have hescaped := isDomainChar_induction (p := fun c => isEscaped pathSet c = false)
      (by decide +kernel) hdomain
    refine ⟨hplain.edge, hplain.separator, hplain.fragment, hplain.query, hescaped,
      hplain.escape, ?_⟩
    rintro rfl
    cases h
  · exact ⟨rfl, rfl, by decide, by decide, rfl, by decide, by decide⟩

/-- A URL below the directory of a base URL. -/
def below (base : Url) (list : List (List Char)) (query : Option (List Char)) : Url :=
  ⟨base.scheme, base.authority, .segments (Reference.directory base ++ list), query, none⟩

/-- The directory of a URL is its whole path only if that has no names. -/
theorem directory_eq_iff {base : Url} {names : List (List Char)}
    (h : base.path = .segments (if names = [] then [[]] else names)) :
    Reference.directory base = names ↔ names = [] := by
  rw [Reference.directory, segments, h]
  dsimp only
  cases names with
  | nil => exact iff_of_true rfl rfl
  | cons name names =>
    rw [if_neg (List.cons_ne_nil _ _)]
    refine iff_of_false (fun heq => ?_) (List.cons_ne_nil _ _)
    have hlength := congrArg List.length heq
    rw [List.length_dropLast, List.length_cons] at hlength
    omega

/-- Simple segments are put behind the directory of the base URL. -/
theorem endpoint_of_simple (hbase : s.base.IsWeb) (list : List (List Char)) (hne : list ≠ [])
    (h : ∀ segment ∈ list, ∀ c ∈ segment, isSimpleChar c = true) :
    s.endpoint ("v2/".toList ++ joinWith '/' list) =
      .ok (below s.base ("v2".toList :: list) none) := by
  have hchars : ∀ c ∈ joinWith '/' list, isEdge c = false ∧ c ≠ '#' ∧ c ≠ '?' := by
    refine forall_mem_joinWith (by decide) fun segment hsegment c hc => ?_
    have hsimple := simpleChar_of_isSimpleChar (h segment hsegment c hc)
    exact ⟨hsimple.edge, hsimple.fragment, hsimple.query⟩
  have hclean : cleanedEnd (joinWith '/' list) = joinWith '/' list :=
    cleanedEnd_eq fun c hc => (hchars c hc).1
  have hmarks : cutMarks (joinWith '/' list) = (joinWith '/' list, none, none) :=
    cutMarks_of_not_mem ⟨fun hmem => (hchars _ hmem).2.1 rfl, fun hmem => (hchars _ hmem).2.2 rfl⟩
  have hsimple : ∀ segment ∈ "v2".toList :: list, ∀ c ∈ segment, isSimpleChar c = true :=
    List.forall_mem_cons.2 ⟨forall_mem_of_all (by decide), h⟩
  have hall : ∀ segment ∈ "v2".toList :: list, ∀ c ∈ segment, SimpleChar c :=
    fun segment hsegment c hc => simpleChar_of_isSimpleChar (hsimple segment hsegment c hc)
  -- The first segment stands in front of the others like any of them.
  have hjoin : "v2/".toList ++ joinWith '/' list = joinWith '/' ("v2".toList :: list) :=
    (show joinWith '/' (["v2".toList] ++ list) = _ from joinWith_append (by decide) hne).symm
  have hcut := cutSegments_joinWith (List.cons_ne_nil _ _) fun segment hsegment c hc =>
    (hall segment hsegment c hc).separator
  have hwalk : walk .web (Reference.directory s.base) ("v2".toList :: list) =
      Reference.directory s.base ++ "v2".toList :: list :=
    walk_of_plain (by decide) fun segment hsegment =>
      isPlain_of_forall fun c hc => (hall segment hsegment c hc).plain
  rw [endpoint_v2 hbase, hclean, hmarks, hjoin, hcut, hwalk]
  rfl

/-- Names of small letters and digits, as repositories have them. -/
structure IsOrdinaryName (names : List (List Char)) : Prop where
  nonempty : names ≠ []
  filled : ∀ name ∈ names, name ≠ []
  chars : ∀ name ∈ names, ∀ c ∈ name, c.isLower = true ∨ c.isDigit = true

/-- An ordinary name consists of such characters. -/
theorem IsOrdinaryName.isSimpleChar {names : List (List Char)} (h : IsOrdinaryName names) :
    ∀ name ∈ names, ∀ c ∈ name, isSimpleChar c = true := by
  intro name hname c hc
  have halphanum : c.isAlphanum = true := by
    change (c.isUpper || c.isLower || c.isDigit) = true
    rcases h.chars name hname c hc with hc | hc
    · rw [hc, Bool.or_true, Bool.true_or]
    · rw [hc, Bool.or_true]
  rw [CatalogSource.isSimpleChar, halphanum, Bool.true_or]

/-- The path of the tags of a repository, by its segments. -/
theorem tagsPath_of_ordinary {names : List (List Char)} {repository : String}
    (h : IsOrdinaryName names) (hrepository : repository.toList = joinWith '/' names) :
    tagsPath repository =
      "v2/".toList ++ joinWith '/' (names ++ ["tags".toList, "list".toList]) := by
  have hstart : trimStartOf '/' (joinWith '/' names) = joinWith '/' names := by
    refine dropWhile_of_head? fun c hc => ?_
    -- The text starts with the first character of the first name.
    obtain ⟨name, rest, rfl⟩ := List.exists_cons_of_ne_nil h.nonempty
    obtain ⟨d, r, rfl⟩ := List.exists_cons_of_ne_nil (h.filled _ List.mem_cons_self)
    obtain rfl : d = c := by
      cases rest with
      | nil => exact Option.some.inj hc
      | cons next rest => exact Option.some.inj hc
    have hsimple := h.isSimpleChar _ List.mem_cons_self d List.mem_cons_self
    rw [beq_eq_false_iff_ne]
    rintro rfl
    cases hsimple
  have hjoin : joinWith '/' (names ++ ["tags".toList, "list".toList]) =
      joinWith '/' names ++ "/tags/list".toList := joinWith_append h.nonempty (by decide)
  rw [tagsPath, hrepository, hstart, hjoin, List.append_assoc]

/-- The operations of a catalog start below the directory of the base URL, with its origin: its path
without the last segment, whatever that is. Of a path of names this is the whole path only if there
are none. -/
theorem operations_start {files : Files} {config : RegistryConfig} {base : Url}
    (hs : create files config = .ok s) (hbase : config.baseUrl = .ok base)
    (hkind : base.kind = .web) :
    s.StartsAt s.ping (below base ["v2".toList, []] none) ∧
    (∀ bound, s.StartsAt (s.retrieve bound) (below base ["v2".toList, "_catalog".toList]
      (some ("n=" ++ toString config.pageSize).toList))) ∧
    (∀ names (repository : String), IsOrdinaryName names →
      repository.toList = joinWith '/' names →
        s.StartsAt (s.listTags repository)
          (below base ("v2".toList :: names ++ ["tags".toList, "list".toList]) none)) ∧
    (∀ list query, (below base list query).sameOrigin base = true) ∧
    ∀ names : List (List Char), base.path = .segments (if names = [] then [[]] else names) →
      (Reference.directory base = names ↔ names = []) := by
  obtain ⟨hconfig, hown⟩ := of_create hs
  obtain rfl : s.base = base := Except.ok.inj (hown.symm.trans hbase)
  have hweb : s.base.IsWeb := ⟨hkind, RegistryConfig.baseUrl_hasSegments hbase⟩
  -- All three operations ask for a path of simple characters, which is put behind the directory of
  -- the base.
  have hcatalog := endpoint_of_simple hweb ["_catalog".toList] (by decide)
    (List.forall_mem_singleton.2 (forall_mem_of_all (by decide)))
  refine ⟨?_, fun bound => ?_, fun names repository hnames hrepository => ?_, fun list query => ?_,
    fun names hnames => ?_⟩
  · exact startsAt_ping (endpoint_of_simple hweb [[]] (by decide)
      (List.forall_mem_singleton.2 (List.forall_mem_nil _)))
  · refine startsAt_retrieve ?_ bound
    have hfirst : s.endpoint "v2/_catalog".toList = _ := hcatalog
    rw [firstPage, hfirst, hconfig]
    rfl
  · refine startsAt_listTags ?_
    rw [tagsPath_of_ordinary hnames hrepository]
    refine endpoint_of_simple hweb _ (by simp) (List.forall_mem_append.2 ⟨hnames.isSimpleChar, ?_⟩)
    exact List.forall_mem_cons.2 ⟨forall_mem_of_all (by decide),
      List.forall_mem_singleton.2 (forall_mem_of_all (by decide))⟩
  · exact sameOrigin_of_eq hkind (RegistryConfig.baseUrl_host hbase) rfl rfl
  · exact directory_eq_iff hnames

/-- A registry with a path of two names. Its operations start below the first one. -/
theorem operations_start_in_directory :
    let config : RegistryConfig := { url := "https://user@registry.test:5000/a/b/" }
    let base : Url := ⟨"https".toList, some ⟨"user".toList, [], .name "registry.test".toList,
      some 5000⟩, .segments ["a".toList, "b".toList], none, none⟩
    let s : CatalogSource := ⟨config, base⟩
    let names := ["lib".toList, "x1".toList]
    let probe := below base ["v2".toList, []] none
    let catalog := below base ["v2".toList, "_catalog".toList] (some "n=100".toList)
    let tags := below base ("v2".toList :: names ++ ["tags".toList, "list".toList]) none
    create (fun _ => .error .absent) config = .ok s ∧ config.baseUrl = .ok base ∧
      base.kind = .web ∧
      (s.StartsAt s.ping probe ∧ probe.render = "https://user@registry.test:5000/a/v2/") ∧
      (s.StartsAt (s.retrieve 0) catalog ∧
        catalog.render = "https://user@registry.test:5000/a/v2/_catalog?n=100") ∧
      (s.StartsAt (s.listTags "lib/x1") tags ∧
        tags.render = "https://user@registry.test:5000/a/v2/lib/x1/tags/list") ∧
      Reference.directory base ≠ ["a".toList, "b".toList] := by
  intro config base s names probe catalog tags
  have hs : create (fun _ => .error .absent) config = .ok s := eq_ok_of_toOption (by decide +kernel)
  have hbase : config.baseUrl = .ok base := eq_ok_of_toOption (by decide +kernel)
  have hkind : base.kind = .web := by decide +kernel
  have hnames : IsOrdinaryName names := ⟨by decide, by decide,
    List.forall_mem_cons.2 ⟨forall_mem_of_all (by decide),
      List.forall_mem_singleton.2 (forall_mem_of_all (by decide))⟩⟩
  obtain ⟨hping, hretrieve, htags, -, hdirectory⟩ := operations_start hs hbase hkind
  have hcatalog : s.StartsAt (s.retrieve 0) catalog := by
    have hsize : ("n=" ++ toString config.pageSize).toList = "n=100".toList := by decide +kernel
    have hfirst := hretrieve 0
    rw [hsize] at hfirst
    exact hfirst
  refine ⟨hs, hbase, hkind, ⟨hping, by decide +kernel⟩, ⟨hcatalog, by decide +kernel⟩,
    ⟨htags names _ hnames (by decide), by decide +kernel⟩, fun heq => ?_⟩
  cases (hdirectory ["a".toList, "b".toList] rfl).1 heq

/-- A registry with a path of one name and one with a path of three. All requests go out without the
last of them. -/
theorem configured_path_lost :
    let source (url : String) : Option CatalogSource :=
      (create (fun _ => .error .absent) { url }).toOption
    let asked {α : Type} (act : CatalogSource → CatalogM α) (url : String) : Option (List String) :=
      (source url).map fun s => (act s ⟨["http".toList], [], []⟩).2.requests.map (·.url.render)
    asked ping "http://registry.test/team" = some ["http://registry.test/v2/"] ∧
    asked (retrieve · 0) "http://registry.test/team" =
      some ["http://registry.test/v2/_catalog?n=100"] ∧
    asked (listTags · "lib/x1") "http://registry.test/team" =
      some ["http://registry.test/v2/lib/x1/tags/list"] ∧
    asked ping "http://registry.test/a/b/c/" = some ["http://registry.test/a/b/v2/"] := by
  intro source asked
  refine ⟨?_, ?_, ?_, ?_⟩
  · decide +kernel
  · decide +kernel
  · decide +kernel
  · decide +kernel

end ImageSync.CatalogSource
