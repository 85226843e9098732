/-!
# `ImageSync.Registry.Error`: what can go wrong with a registry

`RegistryError` names the causes, `RegistryError.message` words them. A failed reachability
probe keeps what the probe ran into (`ProbeFault`).
-/

set_option autoImplicit false

namespace ImageSync

/-- What a reachability probe ran into. -/
inductive ProbeFault where
  /-- The service behind the registry refused, with a text of its own. -/
  | service (reason : String)
  /-- The registry answered with a status other than success. -/
  | status (code : Nat) (body : String)
  deriving DecidableEq, Repr

/-- Why an operation on a registry failed. -/
inductive RegistryError where
  /-- There is no handle on the service of a region. -/
  | serviceUnavailable (region reason : String)
  /-- A page of repositories could not be listed. -/
  | listFailed (registry reason : String)
  /-- The registry did not pass the reachability probe. -/
  | pingFailed (registry : String) (fault : ProbeFault)
  /-- No kind of source serves the registry. -/
  | unsupportedRegistry (registry reason : String)
  /-- No connection to the registry came about. -/
  | connectionFailed (url reason : String)
  /-- The credentials cannot be sent. -/
  | authenticationFailed (reason : String)
  /-- The registry answered with an error status, or (status 0) not properly at all. -/
  | httpError (status : Nat) (text : String)
  /-- A text is not the URL of a registry. -/
  | invalidUrl (url : String)
  /-- The certificate of an authority is unusable. -/
  | invalidTls (reason : String)
  /-- A file could not be read. -/
  | ioError (path reason : String)
  deriving DecidableEq, Repr

/-- The text of an error status. -/
def httpErrorMessage (status : Nat) (body : String) : String :=
  "HTTP error from registry: " ++ toString status ++ " - " ++ body

/-- The text of what a probe ran into. -/
def ProbeFault.message : ProbeFault → String
  | service reason => reason
  | status code body => httpErrorMessage code body

/-- The text that tells a user what went wrong. -/
def RegistryError.message : RegistryError → String
  | serviceUnavailable region reason =>
    "error getting ECR service for region '" ++ region ++ "': " ++ reason
  | listFailed registry reason =>
    "error listing ECR repositories of registry '" ++ registry ++ "': " ++ reason
  | pingFailed registry fault =>
    "registry '" ++ registry ++ "' is not reachable: " ++ fault.message
  | unsupportedRegistry registry reason =>
    "unsupported registry '" ++ registry ++ "': " ++ reason
  | connectionFailed url reason =>
    "Failed to connect to registry at " ++ url ++ ": " ++ reason
  | authenticationFailed reason => "Authentication failed: " ++ reason
  | httpError status text => httpErrorMessage status text
  | invalidUrl url => "Invalid URL: " ++ url
  | invalidTls reason => "Invalid TLS configuration: " ++ reason
  | ioError path reason => "File I/O error at " ++ path ++ ": " ++ reason

end ImageSync
