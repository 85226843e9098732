import ImageSync.Proofs.Registry.CatalogPaging

/-!
# `ImageSync.Proofs.Registry.Continuations`: how a listing gets from page to page

A page names the continuation that leads to the page after it: a token, or the URL of a link.
A listing follows it without a look at those it followed before, so a continuation that is
given twice is followed twice. What a listing does keep to is said of its `Trail`, the pages it
goes through up to the one that it stops at:

* It makes up nothing (`Trail.keys_eq`): behind the first page each page is asked for by the
  continuation that the page before it has given.
* It does not turn in a circle on its own account (`Trail.nodup_keys`, `Trail.nodup_answers`):
  where the same continuation always gets the same answer, a listing that does not stop at a
  page with a continuation asks for no page twice and gets no page twice. So it makes no more
  requests than there are pages (`Trail.length_le`). A listing of everything never stops at a
  page with a continuation (`Trail.stops_of_zero`).

The argument is that of every deterministic walk: from two pages that are equal, the trail
goes on through equal pages (`Trail.page_add_eq`), so the pages behind the first of them would
never come to an end.

For each kind of registry `GoesAlong` says what a listing has to do with its trail: what it comes
to, and which requests are on record behind it. The main statement `retrieve_trail` is about such
trails. `continuation_followed_twice` is a listing for each kind that goes in a circle.
-/

set_option autoImplicit false

namespace ImageSync

open Http (Network Request)

namespace Pages

variable {ε κ : Type}

/-- A listing of everything stops where there is no continuation. -/
theorem Ends.continuation?_eq_none {p : Pages ε κ} {i : Nat} (h : p.Ends 0 i) :
    continuation? (p i) = none := by
  rcases h with ⟨e, herror⟩ | ⟨names, hpage⟩ | ⟨hbound, -⟩
  · rw [herror]
    rfl
  · rw [hpage]
    rfl
  · exact absurd hbound (Nat.lt_irrefl 0)

/-- A row of pages that a listing stops at has a first one that it stops at. -/
theorem exists_last_of_ends {p : Pages ε κ} {bound i : Nat} (h : p.Ends bound i) :
    ∃ last ≤ i, p.Last bound last := by
  induction i using Nat.strongRecOn with
  | ind i ih =>
    by_cases hfirst : ∃ j < i, p.Ends bound j
    · obtain ⟨j, hj, hends⟩ := hfirst
      obtain ⟨last, hle, hlast⟩ := ih j hj hends
      exact ⟨last, Nat.le_trans hle (Nat.le_of_lt hj), hlast⟩
    · exact ⟨i, Nat.le_refl i, h, fun j hj hends => hfirst ⟨j, hj, hends⟩⟩

end Pages

open Pages (continuation?)

namespace Pager

variable {ε σ κ : Type}

namespace Trail

variable {fetch : Pager ε σ κ} {bound : Nat} {first : κ} {s : σ}

variable (t : fetch.Trail bound first s)

/-- What the pages are asked for with, in order. -/
def keys : List κ := (List.range (t.last + 1)).map t.key

/-- The continuations that the pages before the last have given, in order. -/
def given : List κ := (List.range t.last).filterMap fun i => continuation? (t.page i)

/-- The answers of a listing, in order. -/
def answers : List (Except ε (List String × Option κ)) := (List.range (t.last + 1)).map t.page

/-- What comes after the first page was given by the page before, and nothing else is asked
for. -/
theorem keys_eq : t.keys = first :: t.given := by
  -- Each page before the last gives exactly one continuation, so nothing is filtered out.
  have hgiven : ∀ n ≤ t.last, (List.range n).filterMap (fun i => continuation? (t.page i)) =
      (List.range n).map fun i => t.key (i + 1) := by
    intro n hn
    induction n with
    | zero => rfl
    | succ n ih =>
      have hnext : [n].filterMap (fun i => continuation? (t.page i)) = [t.key (n + 1)] :=
        List.filterMap_cons_some (t.leads n hn)
      rw [List.range_succ, List.filterMap_append, List.map_append, ih (Nat.le_of_succ_le hn),
        hnext]
      rfl
  rw [keys, List.range_succ_eq_map, List.map_cons, List.map_map, t.key_zero, given,
    hgiven t.last (Nat.le_refl _)]
  rfl

/-- The same continuation always gets the same answer, as far as can be told from a view of
it. -/
def Steady {ν : Type} (view : κ → ν) : Prop :=
  ∀ i j, i < j → j ≤ t.last → view (t.key i) = view (t.key j) → t.page i = t.page j

/-- A listing stops where nothing is left to follow. -/
def Stops : Prop := continuation? (t.page t.last) = none

/-- Without a bound a listing ends where nothing is left to follow. -/
theorem stops_of_zero (t : fetch.Trail 0 first s) : t.Stops :=
  t.isLast.ends.continuation?_eq_none

section Steady

variable {t} {ν : Type} {view : κ → ν} (hsteady : t.Steady view)

include hsteady

/-- Behind equal pages the pages are equal. -/
theorem page_add_eq {i j : Nat} (hij : i < j) (hpage : t.page i = t.page j) {d : Nat}
    (hd : j + d ≤ t.last) : t.page (i + d) = t.page (j + d) := by
  induction d with
  | zero => exact hpage
  | succ d ih =>
    -- Equal pages give equal continuations, and these get equal answers.
    have hi := t.leads (i + d) (by omega)
    have hj := t.leads (j + d) (by omega)
    rw [ih (by omega), hj] at hi
    have hkey : t.key (i + d + 1) = t.key (j + d + 1) := (Option.some.inj hi).symm
    exact hsteady _ _ (by omega) hd (congrArg view hkey)

variable (hstops : t.Stops)

include hstops

/-- No page is got twice. -/
theorem page_ne {i j : Nat} (hij : i < j) (hj : j ≤ t.last) : t.page i ≠ t.page j := by
  intro hpage
  -- As far behind page `i` as the last is behind page `j` there would be a last one, too.
  have hlast := page_add_eq hsteady hij hpage (d := t.last - j) (by omega)
  have hleads := t.leads (i + (t.last - j)) (by omega)
  rw [hlast, Nat.add_sub_cancel' hj, hstops] at hleads
  cases hleads

/-- Under these conditions no place is asked for twice. -/
theorem view_ne {i j : Nat} (hij : i < j) (hj : j ≤ t.last) :
    view (t.key i) ≠ view (t.key j) :=
  fun hview => page_ne hsteady hstops hij hj (hsteady i j hij hj hview)

/-- Under these conditions the places that are asked for are all different, as far as they are
looked at. -/
theorem nodup_keys : (t.keys.map view).Nodup := by
  rw [keys, List.map_map, List.nodup_iff_pairwise_ne, List.pairwise_map]
  -- It is enough to compare two places, of which one is later.
  refine List.pairwise_lt_range.imp_of_mem fun _ hj hij => ?_
  exact view_ne hsteady hstops hij (Nat.le_of_lt_succ (List.mem_range.1 hj))

/-- Under these conditions the pages are all different. -/
theorem nodup_answers : t.answers.Nodup := by
  rw [answers, List.nodup_iff_pairwise_ne, List.pairwise_map]
  refine List.pairwise_lt_range.imp_of_mem fun _ hj hij => ?_
  exact page_ne hsteady hstops hij (Nat.le_of_lt_succ (List.mem_range.1 hj))

/-- There are no more requests than continuations that a registry knows. -/
theorem length_le {known : List ν} (hknown : ∀ key ∈ t.keys, view key ∈ known) :
    t.keys.length ≤ known.length := by
  have hsubset : t.keys.map view ⊆ known := by
    intro v hv
    obtain ⟨key, hkey, rfl⟩ := List.mem_map.1 hv
    exact hknown key hkey
  have hle := (nodup_keys hsteady hstops).length_le_of_subset hsubset
  rwa [List.length_map] at hle

end Steady

/-- What a listing keeps to, whatever the answers are. -/
structure Lawful : Prop where
  /-- Behind the first page, each page is asked for with what the page before it has given. -/
  keys_eq : t.keys = first :: t.given
  /-- A listing of everything goes on as long as there is something to follow. -/
  stops : bound = 0 → t.Stops
  /-- Where the same continuation always gets the same answer, a listing that stops with nothing
  left to follow asks for no page twice, gets none twice, and makes no more requests than there
  are continuations. -/
  distinct : ∀ {ν : Type} (view : κ → ν), t.Steady view → t.Stops →
    (t.keys.map view).Nodup ∧ t.answers.Nodup ∧
      ∀ known : List ν, (∀ key ∈ t.keys, view key ∈ known) → t.keys.length ≤ known.length

/-- What every run of a loop keeps to. -/
theorem lawful : t.Lawful where
  keys_eq := t.keys_eq
  stops := by
    rintro rfl
    exact t.stops_of_zero
  distinct _ hsteady hstops := ⟨nodup_keys hsteady hstops, nodup_answers hsteady hstops,
    fun _ hknown => length_le hsteady hstops hknown⟩

end Trail

end Pager

/-! ### Managed registries -/

namespace EcrConfig

variable {c : EcrConfig} {bound : Nat} {s : EcrState}

/-- A fetch uses up an answer of a script. -/
theorem holdings_pager {answers : List (Except String Page)}
    (hs : s.service.holdings = .pages answers) (token : Option String) :
    (c.pager token s).2.service.holdings = .pages answers.tail := by
  rw [pager_snd, EcrService.describeRepositories, hs]
  cases answers with
  | nil => rfl
  | cons answer answers => rfl

/-- A script loses an answer with each page. -/
theorem holdings_stage {answers : List (Except String Page)}
    (hs : s.service.holdings = .pages answers) (i : Nat) :
    (c.pager.stage none s i).2.service.holdings = .pages (answers.drop i) := by
  induction i with
  | zero => exact hs
  | succ i ih =>
    rw [Pager.stage_succ_snd, holdings_pager ih, List.tail_drop]

/-- A listing stops within a script or right behind it. -/
theorem exists_last {answers : List (Except String Page)}
    (hs : s.service.holdings = .pages answers) (bound : Nat) :
    ∃ last, last < s.service.holdings.pageLimit ∧ (c.pager.pages none s).Last bound last := by
  have hends : (c.pager.pages none s).Ends bound answers.length := by
    have hstage := holdings_stage (c := c) hs answers.length
    rw [List.drop_length] at hstage
    -- Behind the script there is only this error, at which any listing stops.
    refine .inl ⟨.listFailed c.registry "unscripted page", ?_⟩
    rw [Pager.pages, pager, EcrService.describeRepositories, hstage]
    rfl
  obtain ⟨last, hle, hlast⟩ := Pages.exists_last_of_ends hends
  rw [hs]
  exact ⟨last, Nat.lt_succ_of_le hle, hlast⟩

/-- The calls on record before a page are those for the pages before it. -/
theorem calls_before (t : c.pager.Trail bound none s) {i : Nat} (hi : i ≤ t.last + 1) :
    (t.before i).service.calls = s.service.calls ++
      ((List.range i).map t.key).map fun token => .describeRepositories (c.pageRequest token) := by
  induction i with
  | zero => rw [t.before_zero, List.range_zero, List.map_nil, List.map_nil, List.append_nil]
  | succ i ih =>
    have hfetched := congrArg Prod.snd (t.fetched i (Nat.le_of_succ_le_succ hi))
    rw [← show (c.pager (t.key i) (t.before i)).2 = t.before (i + 1) from hfetched, calls_pager,
      ih (Nat.le_of_succ_le hi), List.range_succ, List.map_append, List.map_append,
      List.append_assoc]
    rfl

/-- A listing goes along a trail, from the state in which there is a handle. -/
structure GoesAlong (c : EcrConfig) (s : EcrState) {s₁ : EcrState}
    (t : c.pager.Trail bound none s₁) : Prop where
  /-- It comes to what the pages of the trail come to. -/
  comes : c.retrieve bound s = (t.page.outcome t.last, t.before (t.last + 1))
  /-- The calls for these pages are on record, and no other. -/
  calls : (t.before (t.last + 1)).service.calls = s₁.service.calls ++
    t.keys.map fun token => .describeRepositories (c.pageRequest token)

/-- With a handle and a script a listing goes along a trail. -/
theorem exists_trail {s₁ : EcrState} {answers : List (Except String Page)}
    (hhandle : c.ensureHandle s = (.ok (), s₁)) (hs : s₁.service.holdings = .pages answers)
    (bound : Nat) : ∃ t : c.pager.Trail bound none s₁, c.GoesAlong s t := by
  -- The loop has steps enough for the whole script, so it gets to its last page.
  obtain ⟨last, hlimit, hlast⟩ := exists_last (c := c) hs bound
  let t := Pager.Trail.ofLast c.pager none s₁ hlast
  refine ⟨t, ?_, calls_before t (Nat.le_refl _)⟩
  rw [retrieve_apply, hhandle]
  exact t.list_eq hlimit _

end EcrConfig

/-! ### Catalogs -/

namespace Http

variable (client : Client) (url : Url) (authorization : Option String) (n : Network)

/-- A call makes the caller's request for the URL, without user and fragment. If it makes
none, it comes to no answer. -/
theorem called_cases :
    (called client url authorization n = [] ∧
        ∀ r, (send client url authorization n).1 ≠ .ok r) ∨
      ∃ request, called client url authorization n = [request] ∧
        request.url = url.withoutUser.withoutFragment := by
  have huser : (opening url authorization).1.withoutUser = url.withoutUser := by
    rw [opening]
    split
    · obtain ⟨scheme, authority, path, query, fragment⟩ := url
      cases authority <;> rfl
    · rfl
  rw [called, exchanged]
  split
  · exact .inr ⟨_, rfl, congrArg Url.withoutFragment huser⟩
  · next hreaches =>
    refine .inl ⟨rfl, fun r hsend => hreaches ?_⟩
    rw [send_eq] at hsend
    exact reaches_of_follow hsend

end Http

namespace CatalogSource

variable {s : CatalogSource} {bound : Nat} {first : Url} {n : Network}

/-- The URL of a page as it is requested. -/
def requested (url : Url) : Url := url.withoutUser.withoutFragment

/-- A fetch requests its URL or makes no request of its own, which is the end of it. -/
theorem own_pager (s : CatalogSource) (url : Url) (n : Network) :
    ((s.pager url n).2.own = n.own ∧ continuation? (s.pager url n).1 = none) ∨
      ∃ r : Request, (s.pager url n).2.own = n.own ++ [r] ∧ r.url = requested url := by
  have hfetched : s.Fetched url n (s.pager url n).1 (s.pager url n).2 := fetched_iff.2 rfl
  generalize (s.pager url n).1 = page, (s.pager url n).2 = after at hfetched ⊢
  -- What came of the fetch says whether a request was made: an answer needs one.
  cases hfetched with
  | unsent hcredentials => exact .inl ⟨rfl, rfl⟩
  | @unanswered a fault hcredentials hsend =>
    rw [Http.own_send]
    rcases Http.called_cases s.config.client url a n with ⟨hnone, -⟩ | ⟨r, hr, hurl⟩
    · exact .inl ⟨by rw [hnone, List.append_nil], rfl⟩
    · exact .inr ⟨r, by rw [hr], hurl⟩
  | @answered a r page hcredentials hsend hpage =>
    rw [Http.own_send]
    rcases Http.called_cases s.config.client url a n with ⟨-, hnone⟩ | ⟨r, hr, hurl⟩
    · exact absurd hsend (hnone _)
    · exact .inr ⟨r, by rw [hr], hurl⟩

/-- The requests on record before a page are those for the pages before it. -/
theorem own_before (t : s.pager.Trail bound first n) {i : Nat} (hi : i ≤ t.last) :
    ∃ made : List Request, (t.before i).own = n.own ++ made ∧
      made.map (·.url) = ((List.range i).map t.key).map requested := by
  induction i with
  | zero => exact ⟨[], by rw [t.before_zero, List.append_nil], rfl⟩
  | succ i ih =>
    obtain ⟨made, hown, hmade⟩ := ih (Nat.le_of_succ_le hi)
    have hfetched := t.fetched i (Nat.le_of_succ_le hi)
    have hpager := s.own_pager (t.key i) (t.before i)
    rw [hfetched] at hpager
    rcases hpager with ⟨-, hnone⟩ | ⟨r, hr, hurl⟩
    · -- The page leads on.
      rw [t.leads i hi] at hnone
      cases hnone
    · refine ⟨made ++ [r], ?_, ?_⟩
      · rw [hr, hown, List.append_assoc]
      · rw [List.map_append, hmade, List.range_succ, List.map_append, List.map_append,
          List.map_singleton, hurl]
        rfl

/-- The requests on record behind a listing are those for its pages, except for that of the
last one if it cannot be made. -/
theorem own_behind (t : s.pager.Trail bound first n) :
    ∃ made count, (t.before (t.last + 1)).own = n.own ++ made ∧ t.last ≤ count ∧
      made.map (·.url) = (t.keys.take count).map requested := by
  obtain ⟨made, hown, hmade⟩ := own_before t (Nat.le_refl t.last)
  have hpager := s.own_pager (t.key t.last) (t.before t.last)
  have hkeys : t.keys = (List.range t.last).map t.key ++ [t.key t.last] := by
    rw [Pager.Trail.keys, List.range_succ, List.map_append]
    rfl
  rw [t.fetched t.last (Nat.le_refl _)] at hpager
  -- All pages before the last were requested; only the last may have stopped before that.
  rcases hpager with ⟨hr, -⟩ | ⟨r, hr, hurl⟩
  · refine ⟨made, t.last, hr.trans hown, Nat.le_refl _, ?_⟩
    rw [hmade, hkeys, List.take_left']
    rw [List.length_map, List.length_range]
  · refine ⟨made ++ [r], t.last + 1, by rw [hr, hown, List.append_assoc], Nat.le_succ _, ?_⟩
    rw [List.map_append, hmade, List.take_of_length_le, hkeys, List.map_append,
      List.map_singleton, hurl]
    · rfl
    · simp [Pager.Trail.keys]

/-- A listing of a catalog goes along a trail. -/
structure GoesAlong (t : s.pager.Trail bound first n) : Prop where
  /-- The trail begins with the first page of the catalog. -/
  opens : s.firstPage = .ok first
  /-- The listing comes to what the pages of the trail come to. -/
  comes : s.retrieve bound n = (t.page.outcome t.last, t.before (t.last + 1))
  /-- Its own requests are those for these pages, except for that of the last one if it cannot be
  made. -/
  own : ∃ made count, (t.before (t.last + 1)).own = n.own ++ made ∧ t.last ≤ count ∧
    made.map (·.url) = (t.keys.take count).map requested

/-- Every listing of a catalog goes along a trail. -/
theorem exists_trail {files : Files} {config : RegistryConfig} (hs : create files config = .ok s)
    (bound : Nat) (n : Network) : ∃ first, ∃ t : s.pager.Trail bound first n, GoesAlong t := by
  obtain ⟨catalog, -, hfirst⟩ := exists_firstPage hs
  -- Every page but the last uses up a reply of the network.
  obtain ⟨last, hle, hlast⟩ := s.pager.exists_last _ n bound (fun n => n.replies.length)
    fun url n names next h => replies_pager_lt h
  let t := Pager.Trail.ofLast s.pager _ n hlast
  refine ⟨_, t, hfirst, ?_, own_behind t⟩
  rw [retrieve_apply, hfirst]
  exact t.list_eq (Nat.lt_succ_of_le hle) _

end CatalogSource

/-! ### Listings -/

/-- A listing goes along a trail, of which all requests are on record, and keeps to what is
lawful. A managed registry is listed so with a handle, against any script of its pages, and a
catalog over any network. -/
theorem retrieve_trail :
    (∀ (c : EcrConfig) (bound : Nat) (s s₁ : EcrState) (script : List (Except String Page)),
      c.ensureHandle s = (.ok (), s₁) → s₁.service.holdings = .pages script →
        ∃ t : c.pager.Trail bound none s₁, c.GoesAlong s t ∧ t.Lawful) ∧
    ∀ (files : Files) (config : RegistryConfig) (s : CatalogSource) (bound : Nat) (n : Network),
      CatalogSource.create files config = .ok s →
        ∃ first, ∃ t : s.pager.Trail bound first n, CatalogSource.GoesAlong t ∧ t.Lawful := by
  constructor
  · intro c bound s s₁ script hhandle hscript
    obtain ⟨t, ht⟩ := EcrConfig.exists_trail hhandle hscript bound
    exact ⟨t, ht, t.lawful⟩
  · intro files config s bound n hs
    obtain ⟨first, t, ht⟩ := CatalogSource.exists_trail hs bound n
    exact ⟨first, t, ht, t.lawful⟩

/-- A managed registry and a catalog of two pages each, of which the first one leads to the
second one. -/
theorem retrieve_trail_two_pages :
    let c : EcrConfig := ⟨"registry", "region", "account", 100⟩
    let script : List (Except String Page) := [.ok ⟨["a"], some "t"⟩, .ok ⟨["b"], none⟩]
    let e : EcrState := ⟨false, ⟨[], [], .pages script, []⟩⟩
    let e₁ : EcrState := ⟨true, ⟨[], [], .pages script, [.connect "region"]⟩⟩
    let config : RegistryConfig := { url := "http://registry.test" }
    let s : CatalogSource := ⟨config, ⟨"http".toList,
      some ⟨[], [], .name "registry.test".toList, none⟩, .segments [[]], none, none⟩⟩
    let n : Network := ⟨["http".toList], [
      .answered {
        headers := [("Link", "</v2/_catalog?last=a>; rel=next")]
        body := Text.utf8 "\x7b\"repositories\": [\"a\"]\x7d".toList },
      .answered { body := Text.utf8 "\x7b\x7d".toList }], []⟩
    (c.ensureHandle e = (.ok (), e₁) ∧ e₁.service.holdings = .pages script ∧
      ∃ t : c.pager.Trail 0 none e₁, c.GoesAlong e t ∧ t.Lawful) ∧
    CatalogSource.create (fun _ => .error .absent) config = .ok s ∧
      ∃ first, ∃ t : s.pager.Trail 0 first n, CatalogSource.GoesAlong t ∧ t.Lawful := by
  intro c script e e₁ config s n
  have hs : CatalogSource.create (fun _ => .error .absent) config = .ok s :=
    eq_ok_of_toOption (by decide +kernel)
  exact ⟨⟨rfl, rfl, retrieve_trail.1 c 0 e e₁ script rfl rfl⟩, hs,
    retrieve_trail.2 _ config s 0 n hs⟩

/-- No listing looks for a continuation that it has followed before. A managed registry that
gives the same token with its second page is asked for it again, and a catalog that links its
first page to itself is asked for that again. Both report a page twice. -/
theorem continuation_followed_twice :
    let c : EcrConfig := ⟨"registry", "region", "account", 100⟩
    let describe : Option String → EcrCall := fun token =>
      .describeRepositories ⟨"account", 100, token⟩
    let config : RegistryConfig := { url := "http://registry.test" }
    let s : CatalogSource := ⟨config, ⟨"http".toList,
      some ⟨[], [], .name "registry.test".toList, none⟩, .segments [[]], none, none⟩⟩
    let page : Http.Response := { body := Text.utf8 "\x7b\"repositories\": [\"a\"]\x7d".toList }
    let n : Network := ⟨["http".toList], [
      .answered { page with headers := [("Link", "</v2/_catalog?n=100>; rel=next")] },
      .answered page], []⟩
    let e : EcrState :=
      ⟨true, ⟨[], [], .pages [.ok ⟨["a"], some "t"⟩, .ok ⟨["b"], some "t"⟩, .ok ⟨["b"], none⟩], []⟩⟩
    (c.retrieve 0 e).1 = .ok ["a", "b", "b"] ∧
      (c.retrieve 0 e).2.service.calls =
        [describe none, describe (some "t"), describe (some "t")] ∧
      ¬(c.retrieve 0 e).2.service.calls.Nodup ∧
    (CatalogSource.create (fun _ => .error .absent) config).toOption = some s ∧
      (s.retrieve 0 n).1.toOption = some ["a", "a"] ∧
      (s.retrieve 0 n).2.requests.map (·.url.render) =
        ["http://registry.test/v2/_catalog?n=100", "http://registry.test/v2/_catalog?n=100"] ∧
      ¬((s.retrieve 0 n).2.own.map (·.url)).Nodup := by
  intro c describe config s page n e
  have hcalls : (c.retrieve 0 e).2.service.calls =
      [describe none, describe (some "t"), describe (some "t")] := rfl
  refine ⟨rfl, hcalls, ?_, ?_, ?_, ?_, ?_⟩
  · rw [hcalls]
    decide
  · decide +kernel
  · decide +kernel
  · decide +kernel
  · decide +kernel

end ImageSync
