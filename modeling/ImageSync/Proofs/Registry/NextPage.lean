import ImageSync.Proofs.Registry.Continuations
import ImageSync.Proofs.Text.Run
import ImageSync.Proofs.Url.Relative

/-!
# `ImageSync.Proofs.Registry.NextPage`: where the link of a page leads

The link of a page is a reference, and a reference is seen from some URL. A listing sees all links
from the base of the registry, and not from the page that they stand on. `Resolved` says what
becomes of this: the next page is where the link leads to from the base, and this is also where it
leads to from the page if it takes over the same from both (`Reference.inherited`).

So a whole URL leads to where it says on every page, and a path from the root does on the pages
that share scheme and authority with the base. A link of the place, as one that is only a query,
never does so on the first page: that is two segments below the place of the base
(`join?_firstPage_ne`). And on a page of another host no link without a host does.

The main statement is `retrieve_resolved`: each step of each listing is so (`FollowsLink`). Its step
is `link_of_continuation`, which reads the link off the answer for a page.
-/

set_option autoImplicit false

namespace ImageSync

open Http (Network Request)
open Pages (continuation?)
open Url (Reference)

namespace Http

/-- A URL that is answered is one of the web, and has a host. -/
theorem web_of_send {client : Client} {url : Url} {authorization : Option String} {n : Network}
    {r : Response} (h : (send client url authorization n).1 = .ok r) :
    url.kind = .web ∧ url.host?.isSome = true := by
  rw [send_eq] at h
  have hreaches := reaches_of_follow h
  rw [reaches, isSendable] at hreaches
  simp only [Bool.and_eq_true, decide_eq_true_eq] at hreaches
  obtain ⟨⟨⟨hscheme, -⟩, hhost⟩, -⟩ := hreaches
  -- What is left out of the URL is the user, if there is one.
  have hopening : (opening url authorization).1.scheme = url.scheme ∧
      (opening url authorization).1.host? = url.host? := by
    rw [opening]
    split
    · obtain ⟨scheme, authority, path, query, fragment⟩ := url
      cases authority <;> exact ⟨rfl, rfl⟩
    · exact ⟨rfl, rfl⟩
  rw [hopening.1] at hscheme
  rw [hopening.2] at hhost
  constructor
  · rw [Url.kind]
    rcases hscheme with hscheme | hscheme <;> rw [hscheme] <;> decide
  · exact Option.isSome_of_any hhost

end Http

namespace CatalogSource

variable {s : CatalogSource} {url next : Url} {n : Network}

/-- How the URL of the next page comes from a page and the target of its link. -/
structure Resolved (s : CatalogSource) (page next : Url) (target : List Char) : Prop where
  /-- It is where the target leads to from the base of the registry. -/
  fromBase : s.base.join? target = some next
  /-- This is where it leads to from the page, too, if it takes over the same from both. -/
  fromPage : (Reference.read target).inherited s.base =
      (Reference.read target).inherited page → page.join? target = some next
  /-- For a target without a scheme this is only so if it takes over the same scheme and authority,
  and all the same unless it starts in the place. -/
  onlyThen : (Reference.read target).scheme = none → page.join? target = some next →
    ((Reference.read target).taken s.base).scheme =
        ((Reference.read target).taken page).scheme ∧
      ((Reference.read target).taken s.base).authority =
        ((Reference.read target).taken page).authority ∧
      ((Reference.read target).startsInPlace = false →
        (Reference.read target).taken s.base = (Reference.read target).taken page)

/-- A target that is taken from the place: it has no scheme, and no path or one of plain
segments. -/
structure OfPlace (r : Reference) : Prop where
  scheme : r.scheme = none
  body : r.body = [] ∨
    r.startsInPlace = true ∧ ∀ segment ∈ Url.cutSegments .web r.body, Url.IsPlain segment

/-- A link that is resolved from the base is resolved from the page to the same URL if both hand it
the same parts, and only then as far as scheme and authority go. -/
theorem resolved_of_join? {page : Url} {target : List Char} (hbase : s.base.IsWeb)
    (hpage : page.IsWeb) (h : s.base.join? target = some next) : s.Resolved page next target where
  fromBase := h
  fromPage hinherited := by
    rw [Url.join?, ← Reference.resolve?_eq_of_inherited_eq hbase hpage hinherited]
    exact h
  onlyThen hscheme hjoin := Reference.taken_of_resolve?_eq hbase hpage hscheme h hjoin

/-! ### Answers -/

/-- A target leads to a URL if it can be resolved from the base. -/
theorem endpoint_eq_ok_iff {target : List Char} :
    s.endpoint target = .ok url ↔ s.base.join? target = some url := by
  rw [endpoint]
  cases s.base.join? target with
  | none => simp
  | some u => simp

/-- Where an answer came from is a web URL with a host. -/
theorem web_of_request {r : Http.Response} (h : (s.request url n).1 = .ok r) :
    url.kind = .web ∧ url.host?.isSome = true := by
  rw [request_apply] at h
  cases hcredentials : s.credentialsFor url with
  | error e =>
    rw [hcredentials] at h
    cases h
  | ok a =>
    rw [hcredentials] at h
    dsimp only at h
    cases hsend : (Http.send s.config.client url a n).1 with
    | error fault =>
      rw [hsend] at h
      cases h
    | ok r' => exact Http.web_of_send hsend

/-- The continuation of a page is where the link in its answer leads to from the base. -/
theorem link_of_continuation (h : continuation? (s.pager url n).1 = some next) :
    ∃ r target, (s.request url n).1 = .ok r ∧
      (r.plainHeader? "link").bind nextLink? = some target ∧ s.base.join? target = some next := by
  rw [pager] at h
  rcases hrequest : s.request url n with ⟨e | r, n'⟩
  · rw [hrequest] at h
    cases h
  · rw [hrequest] at h
    dsimp only at h
    have hreads : s.Reads r ((s.readPage r).map fun page => (page.names, page.next)) :=
      reads_iff.2 rfl
    generalize ((s.readPage r).map fun page => (page.names, page.next)) = page at h hreads
    -- Of all that an answer can be read as, only a page has a continuation.
    cases hreads with
    | refused => cases h
    | lost => cases h
    | malformed => cases h
    | page _ hlink _ =>
      obtain rfl : _ = some next := h
      cases hlink with
      | next htarget hurl => exact ⟨r, _, rfl, htarget, endpoint_eq_ok_iff.1 hurl⟩

/-! ### The first page -/

variable {files : Files} {config : RegistryConfig} {first : Url}

/-- The first page is two segments below the place of the base. -/
theorem path_firstPage (hs : create files config = .ok s) (hfirst : s.firstPage = .ok first)
    (hweb : first.kind = .web) :
    s.base.IsWeb ∧ first.path = .segments
      (Reference.directory s.base ++ ["v2".toList, "_catalog".toList]) := by
  obtain ⟨catalog, hcatalog, hopens⟩ := exists_firstPage hs
  have hsegments := RegistryConfig.baseUrl_hasSegments (of_create hs).2
  rw [hopens] at hfirst
  cases hfirst
  have hread : Reference.read "v2/_catalog".toList =
      ⟨none, 'v' :: "2/_catalog".toList, none, none⟩ := by decide
  obtain rfl := Url.join?_path hsegments hread rfl (endpoint_eq_ok_iff.1 hcatalog) hweb
  have hkind : s.base.kind = .web := hweb
  have hcut : Url.cutSegments .web ('v' :: "2/_catalog".toList) =
      ["v2".toList, "_catalog".toList] := by decide
  have hplain : ∀ segment ∈ ["v2".toList, "_catalog".toList], Url.IsPlain segment := by
    simp only [List.forall_mem_cons]
    exact ⟨⟨Text.forall_mem_of_all (by decide), by decide, by decide⟩,
      ⟨Text.forall_mem_of_all (by decide), by decide, by decide⟩, nofun⟩
  refine ⟨⟨hkind, hsegments⟩, ?_⟩
  dsimp only
  rw [hkind, Url.walkText, hcut, Url.walk_of_plain (by decide) hplain, if_neg (by decide)]

/-- A link of the place does not lead from the first page to where it leads to from the base. -/
theorem join?_firstPage_ne (hs : create files config = .ok s) (hfirst : s.firstPage = .ok first)
    (hweb : first.kind = .web) {target : List Char} (hplace : OfPlace (Reference.read target))
    (hnext : s.base.join? target = some next) : first.join? target ≠ some next := by
  obtain ⟨hbase, hpath⟩ := path_firstPage hs hfirst hweb
  have hsegments : first.segments =
      Reference.directory s.base ++ ["v2".toList, "_catalog".toList] := by
    rw [Url.segments, hpath]
  intro hjoin
  rw [Url.join?, Reference.resolve?_of_no_scheme hbase hplace.scheme] at hnext
  rw [Url.join?, Reference.resolve?_of_no_scheme ⟨hweb, _, hpath⟩ hplace.scheme] at hjoin
  -- The link has no path of its own, or one that goes on from a place.
  rcases hplace.body with hbody | ⟨hstarts, hplain⟩
  · -- The path of the first page is one segment longer than that of the base.
    have hpaths := (Reference.path_of_no_body hbody hnext).symm.trans
      (Reference.path_of_no_body hbody hjoin)
    have hlengths : s.base.segments = first.segments := by
      rw [Url.segments, Url.segments, hpaths]
    have hlength := congrArg List.length hlengths
    simp only [hsegments, Reference.directory, List.length_append, List.length_dropLast,
      List.length_cons, List.length_nil] at hlength
    omega
  · -- Its place is one segment deeper.
    have hpaths := (Reference.path_of_plain hbase.kind hstarts hplain hnext).symm.trans
      (Reference.path_of_plain hweb hstarts hplain hjoin)
    have hlength := congrArg List.length (Url.Path.segments.inj hpaths)
    simp only [Reference.directory, hsegments, List.length_append, List.length_dropLast,
      List.length_cons, List.length_nil] at hlength
    omega

/-! ### Listings -/

section Trail

variable {bound : Nat} (t : s.pager.Trail bound first n)

/-- The answer for a page before the last has a link that leads to the next one from the base. -/
theorem link_of_trail {i : Nat} (hi : i < t.last) :
    ∃ r target, (s.request (t.key i) (t.before i)).1 = .ok r ∧
      (r.plainHeader? "link").bind nextLink? = some target ∧
      s.base.join? target = some (t.key (i + 1)) := by
  refine link_of_continuation ?_
  rw [t.fetched i (Nat.le_of_lt hi)]
  exact t.leads i hi

/-- All pages before the last are on the web, and so is the base. -/
theorem isWeb_of_trail (hs : create files config = .ok s) (hfirst : s.firstPage = .ok first)
    {i : Nat} (hi : i < t.last) : s.base.IsWeb ∧ (t.key i).IsWeb := by
  have hweb : ∀ j < t.last, (t.key j).kind = .web ∧ (t.key j).host?.isSome = true := by
    intro j hj
    obtain ⟨r, -, hr, -⟩ := link_of_trail t hj
    exact web_of_request hr
  have hzero := (hweb 0 (Nat.zero_lt_of_lt hi)).1
  rw [t.key_zero] at hzero
  obtain ⟨hbase, hpath⟩ := path_firstPage hs hfirst hzero
  refine ⟨hbase, (hweb i hi).1, ?_⟩
  cases i with
  | zero =>
    rw [t.key_zero]
    exact ⟨_, hpath⟩
  | succ i =>
    obtain ⟨-, target, -, -, hnext⟩ := link_of_trail t (Nat.lt_of_succ_lt hi)
    exact Url.hasSegments_of_join? hbase hnext (hweb (i + 1) hi).2

/-- How a listing gets from a page of its trail to the next one. -/
def FollowsLink (t : s.pager.Trail bound first n) (i : Nat) : Prop :=
  ∃ r target,
    (s.request (t.key i) (t.before i)).1 = .ok r ∧
    (r.plainHeader? "link").bind nextLink? = some target ∧
    s.Resolved (t.key i) (t.key (i + 1)) target ∧
    (i = 0 → OfPlace (Reference.read target) → (t.key i).join? target ≠ some (t.key (i + 1)))

end Trail

/-- From each page of a listing to the next one, the link in the answer is followed as it is seen
from the base of the registry. This is where it leads to from the page exactly if it takes over the
same from both, as far as that shows; for a link of the place it never is on the first page. -/
theorem retrieve_resolved (hs : create files config = .ok s) (bound : Nat) (n : Network) :
    ∃ first, ∃ t : s.pager.Trail bound first n, GoesAlong t ∧ ∀ i < t.last, FollowsLink t i := by
  obtain ⟨first, t, ht⟩ := exists_trail hs bound n
  refine ⟨first, t, ht, fun i hi => ?_⟩
  obtain ⟨r, target, hr, htarget, hnext⟩ := link_of_trail t hi
  obtain ⟨hbase, hpage⟩ := isWeb_of_trail t hs ht.opens hi
  refine ⟨r, target, hr, htarget, resolved_of_join? hbase hpage hnext, ?_⟩
  intro hzero hplace
  subst hzero
  rw [t.key_zero] at hpage ⊢
  exact join?_firstPage_ne hs ht.opens hpage.kind hplace hnext

/-- A listing of two pages, of which the first one has a path from the root as its link. -/
theorem retrieve_resolved_from_root :
    let config : RegistryConfig := { url := "http://registry.test" }
    let s : CatalogSource := ⟨config, ⟨"http".toList,
      some ⟨[], [], .name "registry.test".toList, none⟩, .segments [[]], none, none⟩⟩
    let n : Network := ⟨["http".toList], [
      .answered {
        headers := [("Link", "</v2/_catalog?last=a>; rel=next")]
        body := Text.utf8 "\x7b\"repositories\": [\"a\"]\x7d".toList },
      .answered { body := Text.utf8 "\x7b\x7d".toList }], []⟩
    create (fun _ => .error .absent) config = .ok s ∧
      (s.retrieve 0 n).2.requests.map (·.url.render) =
        ["http://registry.test/v2/_catalog?n=100", "http://registry.test/v2/_catalog?last=a"] ∧
      ∃ first, ∃ t : s.pager.Trail 0 first n, GoesAlong t ∧ ∀ i < t.last, FollowsLink t i := by
  intro config s n
  have hs : create (fun _ => .error .absent) config = .ok s :=
    eq_ok_of_toOption (by decide +kernel)
  exact ⟨hs, by decide +kernel, retrieve_resolved hs 0 n⟩

/-- A link that is only a query, and a path from the root on a page of a mirror, are both followed
to other URLs than they stand for on their pages. -/
theorem links_seen_from_base :
    let config : RegistryConfig := { url := "http://registry.test" }
    let s : CatalogSource := ⟨config, ⟨"http".toList,
      some ⟨[], [], .name "registry.test".toList, none⟩, .segments [[]], none, none⟩⟩
    let first : Url := ⟨"http".toList, some ⟨[], [], .name "registry.test".toList, none⟩,
      .segments ["v2".toList, "_catalog".toList], some "n=100".toList, none⟩
    let mirror : Url := ⟨"http".toList, some ⟨[], [], .name "mirror.test".toList, none⟩,
      .segments ["v2".toList, "_catalog".toList], none, none⟩
    let page : String → Http.Reply := fun link => .answered {
      headers := [("Link", link)], body := Text.utf8 "\x7b\x7d".toList }
    let n : Network := ⟨["http".toList], [page "<?last=a>; rel=next", page ""], []⟩
    let n' : Network := ⟨["http".toList],
      [page "<http://mirror.test/v2/_catalog>; rel=next", page "</v2/_catalog?last=b>; rel=next",
        page ""], []⟩
    (create (fun _ => .error .absent) config).toOption = some s ∧
      (s.retrieve 0 n).2.requests.map (·.url.render) =
        ["http://registry.test/v2/_catalog?n=100", "http://registry.test/?last=a"] ∧
      (s.firstPage.toOption = some first ∧
        nextLink? "<?last=a>; rel=next".toList = some "?last=a".toList ∧
        (first.join? "?last=a".toList).map Url.render =
          some "http://registry.test/v2/_catalog?last=a") ∧
      (s.retrieve 0 n').2.requests.map (·.url.render) =
        ["http://registry.test/v2/_catalog?n=100", "http://mirror.test/v2/_catalog",
          "http://registry.test/v2/_catalog?last=b"] ∧
      (s.base.join? "http://mirror.test/v2/_catalog".toList = some mirror ∧
        (mirror.join? "/v2/_catalog?last=b".toList).map Url.render =
          some "http://mirror.test/v2/_catalog?last=b") := by
  intro config s first mirror page n n'
  refine ⟨?_, ?_, ⟨?_, ?_, ?_⟩, ?_, ?_, ?_⟩
  · decide +kernel
  · decide +kernel
  · decide +kernel
  · decide +kernel
  · decide +kernel
  · decide +kernel
  · decide +kernel
  · decide +kernel

end CatalogSource

end ImageSync
