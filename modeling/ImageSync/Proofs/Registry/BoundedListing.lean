import ImageSync.Proofs.Registry.Pagers
import ImageSync.Registry.Source

/-!
# `ImageSync.Proofs.Registry.BoundedListing`: a smaller bound on a listing

Two listings from the same state are compared, one with a smaller bound than the other. As
long as the smaller one goes on, both make the same fetches; behind its end the larger one
only adds to what there is. This is `Pager.list_prefix`, and the main statement
`retrieve_prefix` carries it over to the sources: if the larger listing succeeds, so does the
smaller one, with a front of the names, and it asks for a front of what the other asks for.

A bound of zero is the largest of all. The smaller bound is positive, so it is never zero.
-/

set_option autoImplicit false

namespace ImageSync

variable {small large : Nat} {all : List String}

namespace EcrConfig

variable {c : EcrConfig} {s s' : EcrState}

/-- Getting a service handle takes no call back. -/
theorem calls_prefix_ensureHandle (c : EcrConfig) (s : EcrState) :
    s.service.calls <+: (c.ensureHandle s).2.service.calls := by
  cases hconnected : s.connected with
  | true =>
    simp only [ensureHandle_of_connected c hconnected, List.prefix_refl]
  | false =>
    have hcalls : (EcrService.connect c.region s.service).2.calls =
        s.service.calls ++ [.connect c.region] := rfl
    rw [ensureHandle_of_not_connected c hconnected]
    rcases hconnect : EcrService.connect c.region s.service with ⟨reason | ⟨⟩, service⟩
    all_goals
      rw [hconnect] at hcalls
      dsimp only
      rw [hcalls]
      exact List.prefix_append _ _

/-- A listing of a managed registry with a smaller bound comes to a prefix of the names, with a
prefix of the calls. -/
theorem retrieve_prefix (hpos : 0 < small) (hle : large = 0 ∨ small ≤ large)
    (h : c.retrieve large s = (.ok all, s')) :
    ∃ names t, c.retrieve small s = (.ok names, t) ∧ names <+: all ∧
      s.service.calls <+: t.service.calls ∧ t.service.calls <+: s'.service.calls := by
  have hensured := c.calls_prefix_ensureHandle s
  rw [retrieve_apply] at h ⊢
  -- The attempt to connect is the same, whatever the bound is.
  rcases hhandle : c.ensureHandle s with ⟨e | ⟨⟩, s₁⟩
  · rw [hhandle] at h
    cases h
  · rw [hhandle] at h hensured
    dsimp only at h hensured ⊢
    have hgrows := fun token s => c.calls_prefix_pager token s
    obtain ⟨⟨names, hnames, hfront⟩, hcalls⟩ :=
      Pager.list_prefix hgrows hpos hle (congrArg Prod.fst h)
    have hgrown := Pager.entries_prefix_list hgrows
      (.listFailed c.registry "the pages did not end") small s₁.service.holdings.pageLimit none []
      s₁
    rw [h] at hcalls
    exact ⟨names, _, Prod.ext hnames rfl, hfront, hensured.trans hgrown, hcalls⟩

end EcrConfig

namespace CatalogSource

variable {s : CatalogSource} {n n' : Http.Network}

/-- A listing of a catalog with a smaller bound comes to a prefix of the names, with a prefix of the
requests. -/
theorem retrieve_prefix (hpos : 0 < small) (hle : large = 0 ∨ small ≤ large)
    (h : s.retrieve large n = (.ok all, n')) :
    ∃ names m, s.retrieve small n = (.ok names, m) ∧ names <+: all ∧
      n.requests <+: m.requests ∧ m.requests <+: n'.requests := by
  rw [retrieve_apply] at h ⊢
  cases hfirst : s.firstPage with
  | error e =>
    rw [hfirst] at h
    cases h
  | ok first =>
    rw [hfirst] at h
    dsimp only at h ⊢
    have hgrows := fun url n => s.requests_prefix_pager url n
    obtain ⟨⟨names, hnames, hfront⟩, hrequests⟩ :=
      Pager.list_prefix hgrows hpos hle (congrArg Prod.fst h)
    have hgrown := Pager.entries_prefix_list hgrows (.httpError 0 "the pages did not end") small
      (n.replies.length + 1) first [] n
    rw [h] at hrequests
    exact ⟨names, _, Prod.ext hnames rfl, hfront, hgrown, hrequests⟩

end CatalogSource

/-- What a source has asked for between two states: these calls of a service, and these
requests over the network. -/
structure SourceState.Asked (s s' : SourceState) (calls : List EcrCall)
    (requests : List Http.Request) : Prop where
  calls : s'.ecr.service.calls = s.ecr.service.calls ++ calls
  requests : s'.network.requests = s.network.requests ++ requests

namespace Source

variable {src : Source} {s s' : SourceState}

/-- If a listing succeeds, then from the same state one with a smaller bound does so too. It
comes to a front of the names, and asks for a front of what the other one asks for. -/
theorem bounded_retrieve_prefix (hpos : 0 < small) (hle : large = 0 ∨ small ≤ large)
    (h : src.retrieve large s = (.ok all, s')) :
    ∃ names t calls requests calls' requests',
      src.retrieve small s = (.ok names, t) ∧ names <+: all ∧
        s.Asked t calls requests ∧ s.Asked s' calls' requests' ∧
          calls <+: calls' ∧ requests <+: requests' := by
  -- A managed registry makes calls and no requests, a catalog requests and no calls.
  cases src with
  | managed c =>
    rcases hlarge : c.retrieve large s.ecr with ⟨outcome, ecr'⟩
    simp only [retrieve, SourceM.onEcr, hlarge] at h
    cases h
    obtain ⟨names, ecr, hsmall, hfront, ⟨calls, hcalls⟩, ⟨rest, hrest⟩⟩ :=
      EcrConfig.retrieve_prefix hpos hle hlarge
    refine ⟨names, { s with ecr }, calls, [], calls ++ rest, [], ?_, hfront, ?_, ?_, ?_, ?_⟩
    · simp only [retrieve, SourceM.onEcr, hsmall]
    · exact ⟨hcalls.symm, (List.append_nil _).symm⟩
    · refine ⟨?_, (List.append_nil _).symm⟩
      rw [← List.append_assoc, hcalls, hrest]
    · exact List.prefix_append _ _
    · exact List.prefix_refl _
  | catalog c =>
    rcases hlarge : c.retrieve large s.network with ⟨outcome, network'⟩
    simp only [retrieve, SourceM.onNetwork, hlarge] at h
    cases h
    obtain ⟨names, network, hsmall, hfront, ⟨requests, hrequests⟩, ⟨rest, hrest⟩⟩ :=
      CatalogSource.retrieve_prefix hpos hle hlarge
    refine ⟨names, { s with network }, [], requests, [], requests ++ rest, ?_, hfront,
      ?_, ?_, ?_, ?_⟩
    · simp only [retrieve, SourceM.onNetwork, hsmall]
    · exact ⟨(List.append_nil _).symm, hrequests.symm⟩
    · refine ⟨(List.append_nil _).symm, ?_⟩
      rw [← List.append_assoc, hrequests, hrest]
    · exact List.prefix_refl _
    · exact List.prefix_append _ _

/-- A listing of everything from a managed registry of two pages. One of at least a single name
stops behind the first of them. -/
theorem bounded_retrieve_prefix_two_pages :
    let c : EcrConfig := ⟨"registry", "region", "account", 100⟩
    let describe : Option String → EcrCall := fun token =>
      .describeRepositories ⟨"account", 100, token⟩
    let n : Http.Network := ⟨[], [], []⟩
    let s : SourceState :=
      ⟨⟨false, ⟨[], [], .pages [.ok ⟨["a"], some "t"⟩, .ok ⟨["b"], none⟩], []⟩⟩, n⟩
    let s' : SourceState :=
      ⟨⟨true, ⟨[], [], .pages [], [.connect "region", describe none, describe (some "t")]⟩⟩, n⟩
    (managed c).retrieve 0 s = (.ok ["a", "b"], s') ∧
      ∃ names t calls requests calls' requests',
        (managed c).retrieve 1 s = (.ok names, t) ∧ names <+: ["a", "b"] ∧
          s.Asked t calls requests ∧ s.Asked s' calls' requests' ∧
            calls <+: calls' ∧ requests <+: requests' := by
  intro c describe n s s'
  have hlarge : (managed c).retrieve 0 s = (.ok ["a", "b"], s') := rfl
  exact ⟨hlarge, bounded_retrieve_prefix (by decide) (.inl rfl) hlarge⟩

end Source

end ImageSync
