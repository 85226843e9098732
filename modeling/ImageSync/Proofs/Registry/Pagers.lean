import ImageSync.Proofs.Http.Record
import ImageSync.Proofs.Registry.CredentialScope
import ImageSync.Proofs.Registry.PageLoop
import ImageSync.Registry.EcrSource

/-!
# `ImageSync.Proofs.Registry.Pagers`: the pages of each kind of registry

A managed registry fetches a page by a token, a catalog by a URL. Here each of them is a
`Pager`, and its listing is the loop `Pager.list` over it (`EcrConfig.retrieve_apply`,
`CatalogSource.retrieve_apply`). A fetch adds to the record of what was asked for, and never
takes from it (`EcrConfig.calls_prefix_pager`, `CatalogSource.requests_prefix_pager`).
-/

set_option autoImplicit false

namespace ImageSync

open Http (Network)

namespace EcrConfig

/-- What an answer of the service comes to as a page. -/
def readAnswer (c : EcrConfig) :
    Except String Page → Except RegistryError (List String × Option (Option String))
  | .ok page => .ok (page.names, page.nextToken.map some)
  | .error reason => .error (.listFailed c.registry reason)

/-- The pages of a managed registry: the key of a page is its token, if it has one. -/
def pager (c : EcrConfig) : Pager RegistryError EcrState (Option String) := fun token s =>
  let (answer, service) := EcrService.describeRepositories (c.pageRequest token) s.service
  (c.readAnswer answer, { s with service })

/-- The loop over the tokens is that of every pager. -/
theorem listPages_apply (c : EcrConfig) (bound fuel : Nat) (token : Option String)
    (names : List String) (s : EcrState) :
    c.listPages bound fuel token names s =
      c.pager.list (.listFailed c.registry "the pages did not end") bound fuel token names s := by
  -- By induction on the pages that may be asked for. Both loops ask for a page, read it, and go on
  -- in the same cases.
  induction fuel generalizing token names s with
  | zero => rfl
  | succ fuel ih =>
    rw [listPages, bind_apply, Pager.list, pager, EcrM.call]
    rcases EcrService.describeRepositories (c.pageRequest token) s.service with
      ⟨e | ⟨more, _ | next⟩, service⟩
    · rfl
    · rfl
    · dsimp only [Except.mapError, readAnswer, Option.map_some]
      split
      · exact ih (some next) (names ++ more) { s with service }
      · rfl

/-- A listing gets a service handle, and then asks for one page after the other. -/
theorem retrieve_apply (c : EcrConfig) (bound : Nat) (s : EcrState) :
    c.retrieve bound s =
      match c.ensureHandle s with
      | (.ok _, s') =>
        c.pager.list (.listFailed c.registry "the pages did not end") bound
          s'.service.holdings.pageLimit none [] s'
      | (.error e, s') => (.error e, s') := by
  rw [retrieve, bind_apply]
  rcases c.ensureHandle s with ⟨e | ⟨⟩, s'⟩
  · rfl
  · exact listPages_apply c bound _ none [] s'

/-- A fetch changes the service by its call, and nothing else. -/
theorem pager_snd (c : EcrConfig) (token : Option String) (s : EcrState) :
    (c.pager token s).2 =
      { s with service := (EcrService.describeRepositories (c.pageRequest token) s.service).2 } :=
  rfl

/-- The call for a page is the last one so far. -/
theorem calls_pager (c : EcrConfig) (token : Option String) (s : EcrState) :
    (c.pager token s).2.service.calls =
      s.service.calls ++ [.describeRepositories (c.pageRequest token)] := rfl

/-- A page of a managed registry adds to the calls of the service. -/
theorem calls_prefix_pager (c : EcrConfig) (token : Option String) (s : EcrState) :
    s.service.calls <+: (c.pager token s).2.service.calls := by
  rw [calls_pager]
  exact List.prefix_append _ _

end EcrConfig

namespace CatalogSource

/-- The pages of a catalog: the key of a page is its URL. -/
def pager (s : CatalogSource) : Pager RegistryError Network Url := fun url n =>
  match s.request url n with
  | (.ok r, n') => ((s.readPage r).map fun page => (page.names, page.next), n')
  | (.error e, n') => (.error e, n')

/-- The pages of a catalog are listed by the general loop. -/
theorem listPages_apply (s : CatalogSource) (bound fuel : Nat) (url : Url)
    (names : List String) (n : Network) :
    s.listPages bound fuel url names n =
      s.pager.list (.httpError 0 "the pages did not end") bound fuel url names n := by
  induction fuel generalizing url names n with
  | zero => rfl
  | succ fuel ih =>
    rw [listPages, bind_apply, Pager.list, pager]
    rcases s.request url n with ⟨e | r, n'⟩
    · rfl
    · dsimp only
      rw [bind_apply, CatalogM.ofExcept]
      rcases s.readPage r with e | ⟨more, _ | next⟩
      · rfl
      · rfl
      · show (if wantsMore bound (names ++ more).length then _ else _ : CatalogM _) n' = _
        dsimp only [Except.map]
        split
        · exact ih next (names ++ more) n'
        · rfl

/-- A listing asks for one page after the other from the first one on. -/
theorem retrieve_apply (s : CatalogSource) (bound : Nat) (n : Network) :
    s.retrieve bound n =
      match s.firstPage with
      | .ok first =>
        s.pager.list (.httpError 0 "the pages did not end") bound (n.replies.length + 1) first []
          n
      | .error e => (.error e, n) := by
  rw [retrieve, bind_apply, CatalogM.ofExcept]
  cases s.firstPage with
  | error e => rfl
  | ok first => exact listPages_apply s bound _ first [] n

/-- A request is sent with the credentials for its URL, if there can be any. -/
theorem request_apply (s : CatalogSource) (url : Url) (n : Network) :
    s.request url n =
      match s.credentialsFor url with
      | .error e => (.error e, n)
      | .ok a =>
        ((Http.send s.config.client url a n).1.mapError RegistryError.ofSendFault,
          (Http.send s.config.client url a n).2) := by
  cases hcredentials : s.credentialsFor url with
  | error e =>
    rw [request, bind_apply, hcredentials]
    rfl
  | ok a => exact congrFun (run_request hcredentials) n

/-- The network after a fetch is the one after its request. -/
theorem pager_snd (s : CatalogSource) (url : Url) (n : Network) :
    (s.pager url n).2 = (s.request url n).2 := by
  rw [pager]
  rcases s.request url n with ⟨e | r, n'⟩
  · rfl
  · rfl

/-- A page of a catalog adds to the requests of the network. -/
theorem requests_prefix_pager (s : CatalogSource) (url : Url) (n : Network) :
    n.requests <+: (s.pager url n).2.requests := by
  rw [pager_snd, request_apply]
  cases s.credentialsFor url with
  | error e => exact List.prefix_refl _
  | ok a => exact Http.requests_prefix_send _ _ _ _

end CatalogSource

end ImageSync
