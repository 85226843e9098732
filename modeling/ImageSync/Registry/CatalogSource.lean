import ImageSync.Http.Charset
import ImageSync.Http.Client
import ImageSync.Json.Record
import ImageSync.Registry.Bound
import ImageSync.Registry.Config
import ImageSync.Registry.NextLink
import ImageSync.Tls.Certificate

/-!
# `ImageSync.Registry.CatalogSource`: listing a registry over its catalog

A registry that speaks the distribution protocol lists its repositories under
`v2/_catalog`, page by page, and the tags of a repository under `v2/<name>/tags/list`. A page
names the next one in its `Link` header.

Credentials only go to the origin of the configured registry: a link that leads elsewhere is
followed without them.

Main statement: a request to a foreign origin carries no credentials
(`credentialsFor_of_foreign`).
-/

set_option autoImplicit false

namespace ImageSync

open Http (Network Response SendFault)

/-- Why a file could not be read. -/
inductive FileFault where
  | absent
  | isDirectory
  | nulInPath
  deriving DecidableEq, Repr

/-- The text of a fault. -/
def FileFault.message : FileFault → String
  | absent => "No such file or directory (os error 2)"
  | isDirectory => "Is a directory (os error 21)"
  | nulInPath => "file name contained an unexpected NUL byte"

/-- The files that a certificate may be read from. -/
abbrev Files := String → Except FileFault (List UInt8)

/-- A registry that is listed over its catalog. -/
structure CatalogSource where
  config : RegistryConfig
  /-- The URL that all requests start from. -/
  base : Url
  deriving DecidableEq, Repr

/-- An operation on a catalog. What it did to the network stays done if it fails. -/
abbrev CatalogM := ExceptT RegistryError (StateM Network)

/-- A result as an operation that leaves the network alone. -/
def CatalogM.ofExcept {α : Type} (r : Except RegistryError α) : CatalogM α :=
  ExceptT.mk (pure r)

/-- A fault of a request as an error of the registry. -/
def RegistryError.ofSendFault (f : SendFault) : RegistryError :=
  match f with
  | .unconnected url => .connectionFailed url.render f.message
  | f => .httpError 0 f.message

/-- The error of an answer that cannot be read. -/
def RegistryError.malformedResponse : RegistryError :=
  .httpError 0 "malformed response: error decoding response body"

namespace Credentials

/-- The value of the header that credentials are sent in. -/
def headerValue : Credentials → Option String
  | anonymous => none
  | basic username password => some (Http.basicCredentials username.toList password.toList)
  | bearer token => some ("Bearer " ++ token)

/-- The header that credentials are sent in, if its value can be sent. -/
def header (c : Credentials) : Except RegistryError (Option String) :=
  match c.headerValue with
  | none => .ok none
  | some v =>
    if Http.isHeaderValue v.toList then .ok (some v)
    else .error (.authenticationFailed "credentials contain invalid header characters")

end Credentials

/-- The client that a registry is asked with. -/
def RegistryConfig.client (c : RegistryConfig) : Http.Client where
  userAgent := c.userAgent
  timeoutMs := c.timeoutMs
  anyCertificate := c.tls.any TlsConfig.insecureSkipVerify

namespace CatalogSource

/-- Checks the certificate of a further authority. -/
def checkCaCert (files : Files) (path : String) : Except RegistryError Unit :=
  match files path with
  | .error fault => .error (.ioError path fault.message)
  | .ok content =>
    if Tls.holdsCertificate content then .ok ()
    else .error (.invalidTls "Invalid CA certificate")

/-- The source for a configured registry. -/
def create (files : Files) (config : RegistryConfig) : Except RegistryError CatalogSource := do
  let base ← config.baseUrl
  -- The certificate is looked at before the user agent, so its faults win.
  match config.tls.bind TlsConfig.caCert with
  | some path => checkCaCert files path
  | none => pure ()
  if !Http.isHeaderValue config.userAgent.toList then
    throw (.connectionFailed config.url "builder error")
  return ⟨config, base⟩

/-- The URL that a path or link leads to, seen from the base. -/
def endpoint (s : CatalogSource) (target : List Char) : Except RegistryError Url :=
  match s.base.join? target with
  | some u => .ok u
  | none => .error (.invalidUrl (s.base.render ++ String.ofList target))

/-- The credentials for a request: those of the configuration, but none for another origin. -/
def credentialsFor (s : CatalogSource) (url : Url) : Except RegistryError (Option String) :=
  if url.sameOrigin s.base then s.config.auth.header else .ok none

/-- Requests a URL. -/
def request (s : CatalogSource) (url : Url) : CatalogM Response := do
  let authorization ← CatalogM.ofExcept (s.credentialsFor url)
  match ← (Http.send s.config.client url authorization : StateM Network _) with
  | .ok r => return r
  | .error f => throw (.ofSendFault f)

/-- The error of an answer with an error status. -/
def statusError (r : Response) : RegistryError := .httpError r.status r.text

/-- The list of names in an answer, under the name of a field; a null is an empty list. -/
def readNames (record field : String) (r : Response) : Except RegistryError (List String) :=
  let fields : List (Json.RecordField (List String)) :=
    [⟨field, fun v _ => (Json.readOptionalStrings v).map (·.getD [])⟩]
  match r.content?.bind Text.decodeUtf8? with
  | none => .error .malformedResponse
  | some text => (Json.readRecord record fields [] text).mapError fun _ => .malformedResponse

/-- The URL of the next page, if an answer names one. -/
def nextPage (s : CatalogSource) (r : Response) : Except RegistryError (Option Url) :=
  match (r.plainHeader? "link").bind nextLink? with
  | none => .ok none
  | some target => (s.endpoint target).map some

/-- A page of the catalog: its names, and the URL of the next page. -/
structure CatalogPage where
  names : List String
  next : Option Url

/-- What an answer says as a page of the catalog. -/
def readPage (s : CatalogSource) (r : Response) : Except RegistryError CatalogPage := do
  if !r.isSuccess then throw (statusError r)
  -- A link that leads nowhere is reported before a body that cannot be read.
  let next ← s.nextPage r
  let names ← readNames "a page of the catalog" "repositories" r
  return ⟨names, next⟩

/-- Lists pages from a URL on, after `names`, through at most `fuel` pages. -/
def listPages (s : CatalogSource) (bound : Nat) :
    Nat → Url → List String → CatalogM (List String)
  | 0, _, _ => throw (.httpError 0 "the pages did not end")
  | fuel + 1, url, names => do
    let r ← s.request url
    let page ← CatalogM.ofExcept (s.readPage r)
    -- The page that reaches the bound is kept whole.
    let names := names ++ page.names
    match page.next with
    | some next =>
      if wantsMore bound names.length then s.listPages bound fuel next names else return names
    | none => return names

/-- The URL of the first page. -/
def firstPage (s : CatalogSource) : Except RegistryError Url := do
  let u ← s.endpoint "v2/_catalog".toList
  return { u with query := some ("n=" ++ toString s.config.pageSize).toList }

/-- Lists the repositories of the registry; a bound of zero asks for all of them. -/
def retrieve (s : CatalogSource) (bound : Nat) : CatalogM (List String) := do
  let first ← CatalogM.ofExcept s.firstPage
  let limit := (← get).replies.length + 1
  s.listPages bound limit first []

/-- Probes the registry. -/
def ping (s : CatalogSource) : CatalogM Unit := do
  let url ← CatalogM.ofExcept (s.endpoint "v2/".toList)
  let r ← s.request url
  if !r.isSuccess then throw (.pingFailed s.base.render (.status r.status r.text))

/-- The path of the tags of a repository. -/
def tagsPath (repository : String) : List Char :=
  "v2/".toList ++ Text.trimStartOf '/' repository.toList ++ "/tags/list".toList

/-- The tags that an answer lists; a repository that is not there has none. -/
def readTags (r : Response) : Except RegistryError (List String) :=
  if r.status = 404 then .ok []
  else if !r.isSuccess then .error (statusError r)
  else readNames "a list of tags" "tags" r

/-- Lists the tags of a repository. -/
def listTags (s : CatalogSource) (repository : String) : CatalogM (List String) := do
  let url ← CatalogM.ofExcept (s.endpoint (tagsPath repository))
  let r ← s.request url
  CatalogM.ofExcept (readTags r)

/-- A request to a foreign origin carries no credentials. -/
theorem credentialsFor_of_foreign {s : CatalogSource} {url : Url}
    (h : url.sameOrigin s.base = false) : s.credentialsFor url = .ok none := by
  simp [credentialsFor, h]

end CatalogSource

end ImageSync
