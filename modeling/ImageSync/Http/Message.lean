import ImageSync.Text.Utf8
import ImageSync.Url.Basic

/-!
# `ImageSync.Http.Message`: requests and answers

A `Client` says how requests are made, a `Request` is what a client asks for, and a `Response`
is the answer to it. An answer may declare a length other than that of its body: of a longer
body only the declared part counts, and a shorter one is incomplete (`Response.content?`).

A `Reply` is what becomes of a request: an answer, a connection that is closed or left silent,
or none at all. Each request gets a reply of its own, so a host that is not there may be there
for the next one.

Blanks around the value of a header are lost on the way (`received`).
-/

set_option autoImplicit false

namespace ImageSync.Http

/-- How requests are made. -/
structure Client where
  /-- The name that they are made under. -/
  userAgent : String
  /-- The time that an answer may take, in milliseconds. -/
  timeoutMs : Nat
  /-- Whether any certificate of a server will do. -/
  anyCertificate : Bool
  deriving DecidableEq, Repr

/-- A request, and how its client makes it. -/
structure Request extends Client where
  /-- Where the request goes: a URL without user and fragment. -/
  url : Url
  /-- The credentials that go with it. -/
  authorization : Option String
  /-- The URLs whose redirects led to it, the last one first. -/
  via : List Url
  deriving DecidableEq, Repr

/-- An answer to a request. -/
structure Response where
  status : Nat := 200
  headers : List (String × String) := []
  body : List UInt8 := []
  /-- The length that the answer declares, if it is not that of the body. -/
  declaredLength : Option Nat := none
  deriving DecidableEq, Repr

/-- What becomes of a request. -/
inductive Reply where
  | answered (r : Response)
  /-- No connection comes about. -/
  | refused
  /-- The connection is closed without an answer. -/
  | closed
  /-- No answer comes before the time is over. -/
  | silent
  deriving DecidableEq, Repr

/-- Whether two header names are the same: their case does not matter. -/
def sameHeader (a b : String) : Bool :=
  a.toList.map Char.toLower == b.toList.map Char.toLower

/-- Whether a character is dropped from the ends of a header's value. -/
def isHeaderBlank (c : Char) : Bool := c == ' ' || c == '\t'

/-- The value of a header as it arrives. -/
def received (value : String) : List Char :=
  let front := value.toList.dropWhile isHeaderBlank
  (front.reverse.dropWhile isHeaderBlank).reverse

/-- Whether a byte may stand in the value of a header. -/
def isHeaderByte (b : UInt8) : Bool := (32 ≤ b.toNat && b.toNat != 127) || b.toNat == 9

/-- Whether a text may be the value of a header. -/
def isHeaderValue (cs : List Char) : Bool := (Text.utf8 cs).all isHeaderByte

/-- Whether a character is a visible ASCII character, a blank or a tab. -/
def isPlainHeaderChar (c : Char) : Bool :=
  (32 ≤ c.toNat && c.toNat < 127) || c == '\t'

namespace Response

/-- The value of the first header with a name. -/
def header? (r : Response) (name : String) : Option (List Char) :=
  (r.headers.find? fun h => sameHeader h.1 name).map fun h => received h.2

/-- The value of the first header with a name, if it is plain text. -/
def plainHeader? (r : Response) (name : String) : Option (List Char) :=
  (r.header? name).filter fun cs => cs.all isPlainHeaderChar

/-- Whether the status says that all went well. -/
def isSuccess (r : Response) : Bool := 200 ≤ r.status && r.status < 300

/-- Whether answers of a status have no body. -/
def isBodiless (status : Nat) : Bool := status == 204 || status == 304

/-- The content that is received, if it is complete. -/
def content? (r : Response) : Option (List UInt8) :=
  -- What is sent as the body of such an answer is not received.
  if isBodiless r.status then some []
  else match r.declaredLength with
    | none => some r.body
    | some n => if r.body.length < n then none else some (r.body.take n)

end Response

end ImageSync.Http
