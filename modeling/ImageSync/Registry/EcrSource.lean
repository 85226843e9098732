import ImageSync.Registry.Bound
import ImageSync.Registry.EcrHost
import ImageSync.Registry.EcrService
import ImageSync.Registry.PageSize

/-!
# `ImageSync.Registry.EcrSource`: listing a managed registry

A managed registry is listed through a service handle, which the first operation that needs
one asks for and all later ones share. `retrieve` lists repositories page by page, `ping`
probes the registry, and tags cannot be listed yet: `listTags` is empty.

An attempt to connect that failed is not remembered: the next operation tries again. A
listing that fails on any page keeps none of the names before it.

Main statements: with a handle no operation connects (`ensureHandle_of_connected`), and
without one the outcome of the attempt decides (`ensureHandle_of_not_connected`).
-/

set_option autoImplicit false

namespace ImageSync

/-- What a managed registry is listed with. -/
structure EcrConfig where
  /-- The host of the registry. -/
  registry : String
  region : String
  account : String
  /-- The most names a page may hold. -/
  pageSize : Nat
  deriving DecidableEq, Repr

/-- The configuration for a host, with pages as near to a wish as registries accept. -/
def EcrConfig.ofHost (h : EcrHost) (pageSize : Nat) : EcrConfig where
  registry := h.render
  region := h.region
  account := h.account
  pageSize := clampPageSize pageSize

/-- The state a managed registry is listed in. -/
structure EcrState where
  /-- Whether there is a service handle. -/
  connected : Bool
  service : EcrService

/-- An operation on a managed registry. What it did to the state stays done if it fails. -/
abbrev EcrM := ExceptT RegistryError (StateM EcrState)

namespace EcrM

/-- Calls the service, and words a failure as an error of the registry. -/
def call {α : Type} (act : StateM EcrService (Except String α))
    (wording : String → RegistryError) : EcrM α := fun s =>
  let (outcome, service) := act s.service
  (outcome.mapError wording, { s with service })

end EcrM

namespace EcrConfig

/-- Makes sure that there is a service handle. -/
def ensureHandle (c : EcrConfig) : EcrM Unit := do
  unless (← get).connected do
    EcrM.call (EcrService.connect c.region) (.serviceUnavailable c.region)
    modify fun s => { s with connected := true }

/-- The request for the page that a token stands for. -/
def pageRequest (c : EcrConfig) (token : Option String) : PageRequest where
  registryId := c.account
  maxResults := c.pageSize
  nextToken := token

/-- Lists pages from a token on, after `names`, through at most `fuel` pages. -/
def listPages (c : EcrConfig) (bound : Nat) :
    Nat → Option String → List String → EcrM (List String)
  | 0, _, _ => throw (.listFailed c.registry "the pages did not end")
  | fuel + 1, token, names => do
    let page ← EcrM.call (EcrService.describeRepositories (c.pageRequest token))
      (.listFailed c.registry)
    -- The page that reaches the bound is kept whole.
    let names := names ++ page.names
    match page.nextToken with
    | some next =>
      if wantsMore bound names.length then c.listPages bound fuel (some next) names
      else return names
    | none => return names

/-- Lists the repositories of the registry; a bound of zero asks for all of them. -/
def retrieve (c : EcrConfig) (bound : Nat) : EcrM (List String) := do
  c.ensureHandle
  let limit := (← get).service.holdings.pageLimit
  c.listPages bound limit none []

/-- Probes the registry. -/
def ping (c : EcrConfig) : EcrM Unit := do
  c.ensureHandle
  EcrM.call EcrService.describeRegistry fun reason => .pingFailed c.registry (.service reason)

/-- Tags of managed registries cannot be listed yet. -/
def listTags (_c : EcrConfig) (_repository : String) : EcrM (List String) := pure []

/-- With a handle there is nothing to do. -/
theorem ensureHandle_of_connected (c : EcrConfig) {s : EcrState} (h : s.connected = true) :
    c.ensureHandle s = (.ok (), s) := by
  obtain ⟨connected, service⟩ := s
  obtain rfl : connected = true := h
  rfl

/-- Without a handle the outcome of one attempt to connect decides. -/
theorem ensureHandle_of_not_connected (c : EcrConfig) {s : EcrState}
    (h : s.connected = false) :
    c.ensureHandle s =
      match EcrService.connect c.region s.service with
      | (.ok _, service) => (.ok (), ⟨true, service⟩)
      | (.error reason, service) =>
        (.error (.serviceUnavailable c.region reason), ⟨false, service⟩) := by
  obtain ⟨connected, connects, probes, holdings, calls⟩ := s
  obtain rfl : connected = false := h
  -- The next outcome of the script decides; after its end the attempt succeeds.
  rcases connects with _ | ⟨_ | _, _⟩ <;> rfl

end EcrConfig

end ImageSync
