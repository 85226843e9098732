import ImageSync.Registry.Error
import ImageSync.Registry.PageSize
import ImageSync.Text.Blank
import ImageSync.Text.Cut
import ImageSync.Url.Resolve

/-!
# `ImageSync.Registry.Config`: how a registry is reached

`RegistryConfig` says where a registry is and how to talk to it. The URL may be a bare host;
`RegistryConfig.baseUrl` is the URL that all requests start from. Blanks around the
configured text and slashes at its end do not matter, and a text without `://` is one of the
scheme `https`.

Main statements: a base URL always has a host (`baseUrl_host`), and a path of segments
(`baseUrl_hasSegments`).
-/

set_option autoImplicit false

namespace ImageSync

/-- Credentials that were acquired beforehand. -/
inductive Credentials where
  | anonymous
  | basic (username password : String)
  | bearer (token : String)
  deriving DecidableEq, Repr

/-- How connections are secured. -/
structure TlsConfig where
  /-- The file with the certificate of a further authority. -/
  caCert : Option String
  /-- Whether any certificate will do. -/
  insecureSkipVerify : Bool
  deriving DecidableEq, Repr

/-- Where a registry is and how to talk to it. -/
structure RegistryConfig where
  /-- The URL of the registry, or a bare host. -/
  url : String
  auth : Credentials := .anonymous
  /-- The time a request may take, in milliseconds. -/
  timeoutMs : Nat := 30000
  tls : Option TlsConfig := none
  /-- The name that requests are made under. -/
  userAgent : String := "regsync/0.1.0"
  /-- The most names a page may hold. -/
  pageSize : Nat := maxPageSize
  deriving DecidableEq, Repr

namespace RegistryConfig

/-- The configuration with pages as near to a wish as registries accept. -/
def withPageSize (c : RegistryConfig) (n : Nat) : RegistryConfig :=
  { c with pageSize := clampPageSize n }

/-- The text of the base URL, with a scheme. -/
def schemedText (url : String) : List Char :=
  -- The slashes go first, even those of a scheme with nothing behind it.
  let raw := Text.trimEndOf '/' (Text.trim url.toList)
  if Text.holdsWord "://".toList raw then raw else "https://".toList ++ raw

/-- The URL that all requests start from. -/
def baseUrl (c : RegistryConfig) : Except RegistryError Url :=
  match Url.parse? (schemedText c.url) with
  | some u => if u.host?.isSome then .ok u else .error (.invalidUrl c.url)
  | none => .error (.invalidUrl c.url)

/-- The host of the registry, without scheme, port and path. -/
def host (c : RegistryConfig) : Except RegistryError String :=
  c.baseUrl.map fun u => u.hostText?.getD ""

/-- A base URL has a host. -/
theorem baseUrl_host {c : RegistryConfig} {u : Url} (h : c.baseUrl = .ok u) :
    u.host?.isSome = true := by
  unfold baseUrl at h
  split at h
  · split at h
    · cases h
      assumption
    · cases h
  · cases h

/-- A base URL has a path of segments. -/
theorem baseUrl_hasSegments {c : RegistryConfig} {u : Url} (h : c.baseUrl = .ok u) :
    u.HasSegments := by
  have hhost := baseUrl_host h
  unfold baseUrl at h
  split at h
  · next v hparse =>
    split at h
    · cases h
      exact Url.hasSegments_of_parse? hparse hhost
    · cases h
  · cases h

end RegistryConfig

end ImageSync
