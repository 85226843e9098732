import ImageSync.Http.Message
import ImageSync.Text.Base64
import ImageSync.Url.Resolve

/-!
# `ImageSync.Http.Client`: sending requests

`Network` is the outside world: the schemes it connects for, the replies still to come, and
the requests that were made so far. `send` makes a request and follows redirects, at most
`maxRedirects` of them.

A URL that names a user is sent without the user; the user's credentials go with the request
unless it has credentials of its own. A redirect to another host or port goes on without
credentials, and they do not come back in the same chain.

What a single reply comes to is `Reply.outcome`. A connection that does not come about is a fault
of its own, whether the scheme is to blame or the reply.

Main statements: only an answer comes to one (`Reply.outcome_eq_ok_iff`), and a redirect to
another place loses the credentials (`keptCredentials_of_elsewhere`).
-/

set_option autoImplicit false

namespace ImageSync.Http

open Text

/-- The world that requests go to. -/
structure Network where
  /-- The schemes for which connections come about. -/
  connects : List (List Char)
  /-- What becomes of the requests to come. -/
  replies : List Reply
  /-- The requests so far, the first one first. A reply was used up for each, if only to say that
  there is no connection. -/
  requests : List Request
  deriving Repr

/-- Why a request got no answer. -/
inductive SendFault where
  /-- The URL cannot be requested. -/
  | unsendable (url : Url)
  /-- No connection came about. -/
  | unconnected (url : Url)
  /-- There was a connection, and no answer. -/
  | unanswered (url : Url)
  /-- There were too many redirects; the last request went to this URL. -/
  | redirectedTooOften (url : Url)
  deriving DecidableEq, Repr

/-- The text of a fault. -/
def SendFault.message : SendFault → String
  | unsendable url => "builder error for url (" ++ url.render ++ ")"
  | unconnected url => "error sending request for url (" ++ url.render ++ ")"
  | unanswered url => "error sending request for url (" ++ url.render ++ ")"
  | redirectedTooOften url => "error following redirect for url (" ++ url.render ++ ")"

/-- What a request for a URL comes to. -/
def Reply.outcome (url : Url) : Reply → Except SendFault Response
  | answered r => .ok r
  | refused => .error (.unconnected url)
  | closed => .error (.unanswered url)
  | silent => .error (.unanswered url)

/-- What is answered after the last scripted reply. -/
def unscripted : Reply :=
  .answered { status := 500, body := utf8 "unscripted request".toList }

/-- Exchanges a request for the next reply. -/
def exchange (request : Request) : StateM Network Reply := fun n =>
  (n.replies.headD unscripted,
    { n with replies := n.replies.drop 1, requests := n.requests ++ [request] })

/-- The number of redirects that a request may go through. -/
def maxRedirects : Nat := 10

/-- The longest URL that can be requested. -/
def maxUrlLength : Nat := 65534

/-- Whether a host name can stand in a request. -/
def isRequestHost : Url.Host → Bool
  | .name text => text.all fun c => c.isAlphanum || "!#$&'()*+,-./:;=?@[]_~".toList.contains c
  | _ => true

/-- Whether requests can be made for a URL. -/
def isSendable (url : Url) : Bool :=
  (url.scheme = "http".toList ∨ url.scheme = "https".toList) &&
    url.chars.length ≤ maxUrlLength && url.host?.any isRequestHost

/-- The credentials of a user with a password. -/
def basicCredentials (username password : List Char) : String :=
  "Basic " ++ String.ofList (base64 (utf8 (username ++ ':' :: password)))

/-- The credentials of the user that a URL names, if they are well formed. -/
def userCredentials? (url : Url) : Option String := do
  let a ← url.authority
  let username ← Url.decodedText? a.username
  -- A password that is not well formed is left out, a user name that is not ends it all.
  let password := if a.password.isEmpty then none else Url.decodedText? a.password
  guard (!username.isEmpty || password.isSome)
  return basicCredentials username (password.getD [])

/-- The request for a URL to which the redirects of other URLs led. -/
def requestFor (client : Client) (via : List Url) (url : Url)
    (authorization : Option String) : Request where
  toClient := client
  url := url.withoutUser.withoutFragment
  authorization := authorization
  via := via

/-- Whether a status sends the client to another URL. -/
def isRedirect (status : Nat) : Bool := [301, 302, 303, 307, 308].contains status

/-- The URL that an answer sends the client to. -/
def redirectTarget? (url : Url) (r : Response) : Option Url :=
  if isRedirect r.status then (r.header? "location").bind url.join? else none

/-- The port that a URL leads to. -/
def effectivePort? (url : Url) : Option Nat :=
  (url.authority.bind Url.Authority.port).or (Url.defaultPort? url.scheme)

/-- Whether two URLs lead to the same host and port. -/
def samePlace (a b : Url) : Bool :=
  a.host? == b.host? && effectivePort? a == effectivePort? b

/-- The credentials that are kept on the way from one URL to the next. -/
def keptCredentials (url next : Url) (authorization : Option String) : Option String :=
  if samePlace url next then authorization else none

/-- Makes one request of a chain. -/
def ask (client : Client) (via : List Url) (url : Url) (authorization : Option String) :
    StateM Network (Except SendFault Response) := do
  if !isSendable url then return .error (.unsendable url)
  if !(← get).connects.contains url.scheme then return .error (.unconnected url)
  return (← exchange (requestFor client via url authorization)).outcome url

/-- Makes a request, and follows at most `left` redirects. -/
def follow (client : Client) (left : Nat) (via : List Url) (url : Url)
    (authorization : Option String) : StateM Network (Except SendFault Response) := do
  match ← ask client via url authorization with
  | .error fault => return .error fault
  | .ok r =>
    -- An answer that names no usable target is the last one, whatever its status.
    match redirectTarget? url r with
    | none => return .ok r
    | some next =>
      match left with
      | 0 => return .error (.redirectedTooOften url)
      | left + 1 =>
        follow client left (url :: via) next (keptCredentials url next authorization)
termination_by structural left

/-- Makes a request for a URL with credentials of the caller's, if there are any. -/
def send (client : Client) (url : Url) (authorization : Option String) :
    StateM Network (Except SendFault Response) :=
  match userCredentials? url with
  | some user => follow client maxRedirects [] url.withoutUser (authorization.or (some user))
  | none => follow client maxRedirects [] url authorization

/-- A reply comes to an answer if it is one. -/
theorem Reply.outcome_eq_ok_iff {reply : Reply} {url : Url} {r : Response} :
    reply.outcome url = .ok r ↔ reply = .answered r := by
  cases reply <;> simp [outcome]

/-- A redirect to another place loses the credentials. -/
theorem keptCredentials_of_elsewhere {url next : Url} (h : samePlace url next = false)
    (authorization : Option String) : keptCredentials url next authorization = none := by
  simp [keptCredentials, h]

end ImageSync.Http
