import ImageSync.Registry.CatalogSource
import ImageSync.Registry.EcrSource

/-!
# `ImageSync.Registry.Source`: the source that fits a registry

The host of a registry decides how it is listed: hosts of managed registries through their
service, if there is a connector to it, and all others over their catalog. `Source.create`
makes the decision; the operations of a `Source` are those of the kind it chose.

Main statements: without a connector a managed registry has no source
(`create_of_managed_of_no_connector`), and with one its source does not depend on
credentials, certificates, time and user agent (`create_of_managed`).
-/

set_option autoImplicit false

namespace ImageSync

/-- A registry that can be listed. -/
inductive Source where
  | managed (c : EcrConfig)
  | catalog (s : CatalogSource)
  deriving DecidableEq, Repr

/-- The state that a source works in. -/
structure SourceState where
  ecr : EcrState
  network : Http.Network

/-- An operation on a source. -/
abbrev SourceM := ExceptT RegistryError (StateM SourceState)

namespace SourceM

/-- An operation on a managed registry. -/
def onEcr {α : Type} (act : EcrM α) : SourceM α := fun s =>
  let (r, ecr) := act s.ecr
  (r, { s with ecr })

/-- An operation on a catalog. -/
def onNetwork {α : Type} (act : CatalogM α) : SourceM α := fun s =>
  let (r, network) := act s.network
  (r, { s with network })

end SourceM

namespace Source

/-- The source for a configured registry; managed registries need a connector. -/
def create (files : Files) (hasConnector : Bool) (config : RegistryConfig) :
    Except RegistryError Source := do
  let host ← config.host
  match EcrHost.identify host with
  | some h =>
    if hasConnector then return managed (.ofHost h config.pageSize)
    else throw (.unsupportedRegistry host "no ECR connector configured")
  -- Only here do credentials, certificates and the user agent come into play.
  | none => return catalog (← CatalogSource.create files config)

/-- Lists the repositories of a registry; a bound of zero asks for all of them. -/
def retrieve (bound : Nat) : Source → SourceM (List String)
  | managed c => .onEcr (c.retrieve bound)
  | catalog s => .onNetwork (s.retrieve bound)

/-- Probes a registry. -/
def ping : Source → SourceM Unit
  | managed c => .onEcr c.ping
  | catalog s => .onNetwork s.ping

/-- Lists the tags of a repository. -/
def listTags (repository : String) : Source → SourceM (List String)
  | managed c => .onEcr (c.listTags repository)
  | catalog s => .onNetwork (s.listTags repository)

/-- Without a connector a managed registry has no source. -/
theorem create_of_managed_of_no_connector {files : Files} {config : RegistryConfig}
    {host : String} {h : EcrHost} (hhost : config.host = .ok host)
    (hid : EcrHost.identify host = some h) :
    create files false config =
      .error (.unsupportedRegistry host "no ECR connector configured") := by
  unfold create
  rw [hhost]
  change (match EcrHost.identify host with | some h => _ | none => _) = _
  rw [hid]
  rfl

/-- With a connector only the host and the page size decide the source of a managed
registry. -/
theorem create_of_managed {files : Files} {config : RegistryConfig}
    {host : String} {h : EcrHost} (hhost : config.host = .ok host)
    (hid : EcrHost.identify host = some h) :
    create files true config = .ok (managed (.ofHost h config.pageSize)) := by
  unfold create
  rw [hhost]
  change (match EcrHost.identify host with | some h => _ | none => _) = _
  rw [hid]
  rfl

end Source

end ImageSync
