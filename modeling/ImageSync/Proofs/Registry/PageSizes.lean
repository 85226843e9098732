import ImageSync.Proofs.Registry.Continuations
import ImageSync.Proofs.Registry.Routing
import ImageSync.Proofs.Registry.ServiceHandle

/-!
# `ImageSync.Proofs.Registry.PageSizes`: the sizes that pages are asked for with

A listing asks for pages of a size: a managed registry with every call for a page, a catalog
with the query of its first request. All later requests of a catalog go to links, so their
queries are the registry's own words. `Step.Asks` says which sizes an operation of a session asks
for, by what it leaves on record, and `Source.AsksIn` says so of every operation of a session.

The size is always that of the source (`Source.pageSize`), whatever the registry answers. How a
source comes by it depends on its kind: for a managed registry the size in the configuration is
brought into the range that registries accept, and for a catalog it is taken as it is. So the main
statement `session_asks` is that a source asks for pages of an accepted size exactly if it is one
of a managed registry or its configuration holds such a size. The fields of a configuration may
hold any other: `session_asks_any_size` is a catalog that is asked for pages of 500.
-/

set_option autoImplicit false

namespace ImageSync

open CatalogSource (Operation)
open Http (Network Request)

/-- A page size that registries accept. -/
def IsPageSize (n : Nat) : Prop := 1 ≤ n ∧ n ≤ maxPageSize

/-- Whatever size is wished for, what it is changed to is accepted. -/
theorem isPageSize_clampPageSize (n : Nat) : IsPageSize (clampPageSize n) :=
  ⟨one_le_clampPageSize n, clampPageSize_le n⟩

/-- The page size in the query of a URL. -/
def sizeInQuery? (url : Url) : Option Nat :=
  match url.query.bind (Text.stripPrefix? "n=".toList) with
  | some digits =>
    if digits.all Char.isDigit then some (Nat.ofDigitChars 10 digits 0) else none
  | none => none

/-- A size that is written into a query is read back. -/
theorem sizeInQuery?_eq {url : Url} {size : Nat}
    (h : url.query = some ("n=" ++ toString size).toList) : sizeInQuery? url = some size := by
  obtain ⟨hdigits, hread⟩ := digits_toString size
  rw [sizeInQuery?, h, String.toList_append, Option.bind_some, Text.stripPrefix?_eq_some_iff.2 rfl]
  dsimp only
  rw [if_pos hdigits, hread]

/-! ### Managed registries -/

namespace EcrConfig

/-- All that is asked for between two states are pages of a size. -/
def Sized (size : Nat) (s s' : EcrState) : Prop :=
  ∃ made, s'.service.calls = s.service.calls ++ made ∧
    ∀ request, .describeRepositories request ∈ made → request.maxResults = size

section Sized

variable {size : Nat} {s t u : EcrState}

/-- Nothing is asked for between a state and itself. -/
theorem Sized.refl (s : EcrState) : Sized size s s := ⟨[], (List.append_nil _).symm, nofun⟩

/-- Calls in a row are asked for with the size if they are in each part. -/
theorem Sized.trans (hst : Sized size s t) (htu : Sized size t u) : Sized size s u := by
  obtain ⟨made, hmade, hsizes⟩ := hst
  obtain ⟨more, hmore, hsizes'⟩ := htu
  refine ⟨made ++ more, by rw [hmore, hmade, List.append_assoc], fun request hrequest => ?_⟩
  -- A call was made in one of the two parts.
  rcases List.mem_append.1 hrequest with hrequest | hrequest
  · exact hsizes request hrequest
  · exact hsizes' request hrequest

/-- A call that is not for a page asks for no size. -/
theorem Sized.of_call {call : EcrCall} (h : t.service.calls = s.service.calls ++ [call])
    (hcall : ∀ request, call ≠ .describeRepositories request) : Sized size s t := by
  refine ⟨[call], h, fun request hrequest => ?_⟩
  exact absurd (List.mem_singleton.1 hrequest).symm (hcall request)

variable (c : EcrConfig)

/-- The call for one page asks for the configured size. -/
theorem sized_pager (token : Option String) (s : EcrState) :
    Sized c.pageSize s (c.pager token s).2 := by
  refine ⟨_, c.calls_pager token s, fun request hrequest => ?_⟩
  cases List.mem_singleton.1 hrequest
  rfl

/-- Connecting asks for no page, so any size may stand here. -/
theorem sized_ensureHandle (size : Nat) (s : EcrState) : Sized size s (c.ensureHandle s).2 := by
  cases hconnected : s.connected with
  | true =>
    rw [ensureHandle_of_connected c hconnected]
    exact .refl s
  | false =>
    have hcall : ∀ request, EcrCall.connect c.region ≠ .describeRepositories request := by
      intro request h
      cases h
    rw [ensureHandle_of_not_connected c hconnected, EcrService.connect]
    -- Connecting is on record, whether it fails or not.
    rcases EcrService.nextOutcome s.service.connects with ⟨reason | ⟨⟩, rest⟩
    · exact .of_call rfl hcall
    · exact .of_call rfl hcall

/-- Each operation, once there is a handle, asks for pages of the configured size only. For a
listing this is what one page preserves. -/
theorem sized_work (op : Operation) (s : EcrState) : Sized c.pageSize s (c.work op s).2 := by
  cases op with
  | retrieve bound =>
    exact Pager.list_related Sized.refl Sized.trans c.sized_pager _ bound _ none [] s
  | ping => exact .of_call (c.worked_work_ping s).calls nofun
  | listTags repository => exact .refl s

/-- An operation asks for pages of the configured size. -/
theorem sized_perform (op : Operation) (s : EcrState) :
    Sized c.pageSize s (c.perform op s).2 := by
  cases hneeds : needsHandle op with
  | false =>
    cases op with
    | listTags repository => exact .refl s
    | retrieve bound => cases hneeds
    | ping => cases hneeds
  | true =>
    have hhandle := c.sized_ensureHandle c.pageSize s
    rw [c.perform_apply hneeds]
    rcases hensure : c.ensureHandle s with ⟨e | ⟨⟩, s'⟩
    · rw [hensure] at hhandle
      exact hhandle
    · rw [hensure] at hhandle
      exact hhandle.trans (c.sized_work op s')

end Sized

end EcrConfig

/-! ### Catalogs -/

namespace CatalogSource

variable {files : Files} {config : RegistryConfig} {s : CatalogSource}

/-- The first request of a listing, if there is one, asks for pages of the configured size. -/
theorem sizeInQuery?_retrieve (hs : create files config = .ok s) (bound : Nat) (n : Network) :
    ∃ made : List Request, (s.retrieve bound n).2.own = n.own ++ made ∧
      ∀ request, made.head? = some request → sizeInQuery? request.url = some config.pageSize := by
  obtain ⟨catalog, -, hopens⟩ := exists_firstPage hs
  obtain ⟨first, t, ht⟩ := exists_trail hs bound n
  obtain ⟨made, count, hown, -, hurls⟩ := ht.own
  refine ⟨made, by rw [ht.comes]; exact hown, fun request hrequest => ?_⟩
  -- What is requested first is the first page of the trail.
  have hhead := congrArg List.head? hurls
  rw [List.head?_map, hrequest, Pager.Trail.keys_eq, List.head?_map, List.head?_take] at hhead
  split at hhead
  · cases hhead
  · rw [List.head?_cons, Option.map_some, Option.map_some, Option.some_inj] at hhead
    have hfirst := ht.opens
    rw [hopens] at hfirst
    cases hfirst
    rw [hhead, ← (of_create hs).1]
    exact sizeInQuery?_eq rfl

end CatalogSource

/-! ### Sessions -/

namespace SourceM

variable {α : Type}

/-- An action on the service leaves the network as it was. -/
theorem onEcr_snd (act : EcrM α) (s : SourceState) :
    (onEcr act s).2 = { s with ecr := (act s.ecr).2 } := rfl

/-- An action on the network leaves the service as it was. -/
theorem onNetwork_snd (act : CatalogM α) (s : SourceState) :
    (onNetwork act s).2 = { s with network := (act s.network).2 } := rfl

end SourceM

namespace Source

/-- Performs an operation. A probe that succeeds lists nothing. -/
def perform (source : Source) : Operation → SourceM (List String)
  | .retrieve bound => source.retrieve bound
  | .ping => do
    source.ping
    return []
  | .listTags repository => source.listTags repository

/-- An operation of a session, with the states around it. -/
structure Step where
  operation : Operation
  before : SourceState
  after : SourceState

/-- Performs operations one after the other, whether those before succeed or not. -/
def session (source : Source) : List Operation → SourceState → List Step
  | [], _ => []
  | op :: ops, s =>
    ⟨op, s, (source.perform op s).2⟩ :: source.session ops (source.perform op s).2

namespace Step

variable (t : Step)

/-- The calls of the service in an operation. -/
def calls : List EcrCall := t.after.ecr.service.calls.drop t.before.ecr.service.calls.length

/-- The requests of an operation that no redirect led to. -/
def requests : List Request := t.after.network.own.drop t.before.network.own.length

/-- A size that an operation asks for a page with; none stands for a request without one. -/
inductive Asks : Option Nat → Prop where
  | call {request : PageRequest} (h : .describeRepositories request ∈ t.calls) :
      Asks (some request.maxResults)
  | request {bound : Nat} {request : Request} (hlists : t.operation = .retrieve bound)
      (hfirst : t.requests.head? = some request) : Asks (sizeInQuery? request.url)

end Step

/-- The size that a source asks for its pages with. -/
def pageSize : Source → Nat
  | managed c => c.pageSize
  | catalog s => s.config.pageSize

/-- Whether a source is one of a managed registry. -/
def isManaged : Source → Bool
  | managed _ => true
  | catalog _ => false

/-- What an operation of a managed registry leaves: another state of the service. -/
theorem perform_managed (c : EcrConfig) (op : Operation) (s : SourceState) :
    (perform (.managed c) op s).2 = { s with ecr := (c.perform op s.ecr).2 } := by
  cases op with
  | retrieve bound => exact SourceM.onEcr_snd (c.retrieve bound) s
  | ping =>
    rw [perform, EcrConfig.perform, bind_apply, bind_apply, ping, SourceM.onEcr]
    rcases c.ping s.ecr with ⟨e | ⟨⟩, ecr⟩
    · rfl
    · rfl
  | listTags repository => exact SourceM.onEcr_snd (c.listTags repository) s

/-- What an operation of a catalog leaves: another state of the network. -/
theorem perform_catalog (c : CatalogSource) (op : Operation) (s : SourceState) :
    (perform (.catalog c) op s).2 = { s with network := (c.perform op s.network).2 } := by
  cases op with
  | retrieve bound => exact SourceM.onNetwork_snd (c.retrieve bound) s
  | ping =>
    rw [perform, CatalogSource.perform, bind_apply, bind_apply, ping, SourceM.onNetwork]
    rcases c.ping s.network with ⟨e | ⟨⟩, network⟩
    · rfl
    · rfl
  | listTags repository => exact SourceM.onNetwork_snd (c.listTags repository) s

variable {files : Files} {hasConnector : Bool} {config : RegistryConfig} {source : Source}

/-- The configuration of a managed registry is changed to an accepted size, that of a catalog is
not. -/
theorem pageSize_of_create (h : create files hasConnector config = .ok source) :
    source.pageSize =
      if source.isManaged then clampPageSize config.pageSize else config.pageSize := by
  obtain ⟨host, -, ⟨r, -, rfl⟩ | ⟨s, -, hs, rfl⟩⟩ := create_cases h
  · rfl
  · exact congrArg RegistryConfig.pageSize (CatalogSource.of_create hs).1

/-- An operation asks for pages of the size of the source. -/
theorem perform_asks (h : create files hasConnector config = .ok source) (op : Operation)
    (s : SourceState) {size : Option Nat}
    (hasks : Step.Asks ⟨op, s, (source.perform op s).2⟩ size) : size = some source.pageSize := by
  obtain ⟨host, -, ⟨r, -, rfl⟩ | ⟨c, -, hc, rfl⟩⟩ := create_cases h
  · rw [perform_managed] at hasks
    cases hasks with
    | call hcall =>
      obtain ⟨made, hmade, hsizes⟩ :=
        EcrConfig.sized_perform (.ofHost r config.pageSize) op s.ecr
      rw [Step.calls, hmade, List.drop_left] at hcall
      exact congrArg some (hsizes _ hcall)
    | request hlists hfirst =>
      -- A managed registry is not reached over the network.
      rw [Step.requests, List.drop_length] at hfirst
      cases hfirst
  · -- And a catalog makes no calls of the service.
    rw [perform_catalog] at hasks
    cases hasks with
    | call hcall =>
      rw [Step.calls, List.drop_length] at hcall
      cases hcall
    | request hlists hfirst =>
      obtain rfl : op = _ := hlists
      obtain ⟨made, hmade, hsize⟩ := CatalogSource.sizeInQuery?_retrieve hc _ s.network
      rw [Step.requests] at hfirst
      change ((c.retrieve _ s.network).2.own.drop s.network.own.length).head? = _ at hfirst
      rw [hmade, List.drop_left] at hfirst
      rw [hsize _ hfirst, pageSize, (CatalogSource.of_create hc).1]

/-- What a source with a configuration asks for in the steps of a session. -/
structure AsksIn (source : Source) (config : RegistryConfig) (steps : List Step) : Prop where
  /-- Every request for a page asks for the size of the source. -/
  same : ∀ t ∈ steps, ∀ size, t.Asks size → size = some source.pageSize
  /-- The wish of a managed registry is brought into the range of accepted sizes, that of a catalog
  is taken as it is. -/
  pageSize_eq : source.pageSize =
    if source.isManaged then clampPageSize config.pageSize else config.pageSize
  /-- So registries accept the size exactly for a managed registry or an acceptable wish. -/
  isPageSize_iff :
    IsPageSize source.pageSize ↔ source.isManaged = true ∨ IsPageSize config.pageSize

/-- Every request for a page that a source makes asks for the size of the source, whatever the
operations are and whatever the registry answers. This is a size that registries accept exactly if
the source is one of a managed registry, whose wish is brought into their range, or the size in
the configuration is such a size. -/
theorem session_asks (h : create files hasConnector config = .ok source) (ops : List Operation)
    (s : SourceState) : source.AsksIn config (source.session ops s) := by
  refine ⟨?_, pageSize_of_create h, ?_⟩
  · -- By induction on the operations, for all states they may start in.
    induction ops generalizing s with
    | nil => nofun
    | cons op ops ih =>
      intro t ht size hasks
      rcases List.mem_cons.1 ht with rfl | ht
      · exact perform_asks h op s hasks
      · exact ih _ t ht size hasks
  · rw [pageSize_of_create h]
    cases source.isManaged with
    | true => simp [isPageSize_clampPageSize]
    | false => simp

/-- A managed registry with a wish for too much, and a catalog with a size that is accepted. -/
theorem session_asks_both :
    let files : Files := fun _ => .error .absent
    let managed : RegistryConfig :=
      { url := "123456789012.dkr.ecr.us-east-1.amazonaws.com", pageSize := 1000 }
    let catalog : RegistryConfig := { url := "http://registry.test", pageSize := 50 }
    let m : Source := .managed ⟨"123456789012.dkr.ecr.us-east-1.amazonaws.com", "us-east-1",
      "123456789012", 100⟩
    let c : Source := .catalog ⟨catalog, ⟨"http".toList,
      some ⟨[], [], .name "registry.test".toList, none⟩, .segments [[]], none, none⟩⟩
    let s : SourceState :=
      ⟨⟨false, ⟨[], [], .counted 2, []⟩⟩, ⟨["http".toList], [.answered {}, .answered {}], []⟩⟩
    (create files true managed = .ok m ∧
      (m.session [.ping, .retrieve 0] s).map Step.calls =
        [[.connect "us-east-1", .describeRegistry],
          [.describeRepositories ⟨"123456789012", 100, none⟩]] ∧
      m.AsksIn managed (m.session [.ping, .retrieve 0] s)) ∧
    create files true catalog = .ok c ∧
      (c.session [.ping, .retrieve 0] s).map (·.requests.map (·.url.render)) =
        [["http://registry.test/v2/"], ["http://registry.test/v2/_catalog?n=50"]] ∧
      c.AsksIn catalog (c.session [.ping, .retrieve 0] s) := by
  intro files managed catalog m c s
  have hm : create files true managed = .ok m := eq_ok_of_toOption (by decide +kernel)
  have hc : create files true catalog = .ok c := eq_ok_of_toOption (by decide +kernel)
  exact ⟨⟨hm, by decide +kernel, session_asks hm _ s⟩, hc, by decide +kernel,
    session_asks hc _ s⟩

/-- A catalog is asked for pages of any size that its configuration holds, also for larger ones
than registries accept. -/
theorem session_asks_any_size :
    let config : RegistryConfig := { url := "http://registry.test", pageSize := 500 }
    let source : Source := .catalog ⟨config, ⟨"http".toList,
      some ⟨[], [], .name "registry.test".toList, none⟩, .segments [[]], none, none⟩⟩
    let s : SourceState := ⟨⟨false, ⟨[], [], .pages [], []⟩⟩, ⟨["http".toList], [], []⟩⟩
    create (fun _ => .error .absent) false config = .ok source ∧
      ∃ t ∈ source.session [.retrieve 0] s,
        t.requests.map (·.url.render) = ["http://registry.test/v2/_catalog?n=500"] ∧
        t.Asks (some 500) ∧ ¬IsPageSize 500 := by
  intro config source s
  have hfirst : (Step.requests ⟨.retrieve 0, s, (source.perform (.retrieve 0) s).2⟩).head?.bind
      (fun request => sizeInQuery? request.url) = some 500 := by decide +kernel
  obtain ⟨request, hrequest, hsize⟩ := Option.bind_eq_some_iff.1 hfirst
  refine ⟨eq_ok_of_toOption (by decide +kernel), _, List.mem_cons_self, by decide +kernel, ?_,
    fun h => absurd h.2 (by decide)⟩
  rw [← hsize]
  exact .request rfl hrequest

end Source

end ImageSync
