import ImageSync.Url.Host
import ImageSync.Url.Path

/-!
# `ImageSync.Url.Basic`: URLs

A URL has a scheme, an authority (who, at which host and port) unless it only names
something, a path, and maybe a query and a fragment. All parts are held as they are written.

`Url.render` writes a URL, `Url.origin?` says where it leads to: two URLs with the same
scheme of the web, the same host and the same port share their origin, and a URL of any other
scheme shares it with no other.

Main statement: an origin does not depend on user, path, query and fragment
(`origin?_eq_of_parts`).
-/

set_option autoImplicit false

namespace ImageSync

namespace Url

/-- Who a URL goes to, and where. -/
structure Authority where
  /-- The user, encoded, empty if there is none. -/
  username : List Char
  /-- The password, encoded, empty if there is none. -/
  password : List Char
  host : Host
  /-- The port, if it is not the default one of the scheme. -/
  port : Option Nat
  deriving DecidableEq, Repr

/-- Writes who is meant. -/
def Authority.renderUser (a : Authority) : List Char :=
  if a.username.isEmpty && a.password.isEmpty then []
  else a.username ++ (if a.password.isEmpty then [] else ':' :: a.password) ++ ['@']

/-- Writes a port after its colon. -/
def renderPort (port : Option Nat) : List Char :=
  match port with
  | some p => ':' :: (toString p).toList
  | none => []

/-- Writes an authority after its slashes. -/
def Authority.render (a : Authority) : List Char :=
  "//".toList ++ a.renderUser ++ a.host.render ++ renderPort a.port

end Url

/-- A URL, by its parts. -/
structure Url where
  scheme : List Char
  authority : Option Url.Authority
  path : Url.Path
  query : Option (List Char)
  fragment : Option (List Char)
  deriving DecidableEq, Repr

namespace Url

/-- Writes the path of a URL. Without an authority, a path that starts with two slashes
would read as one, so a dot segment stands in front. -/
def renderPath (authority : Option Authority) (path : Path) : List Char :=
  match authority, path with
  | none, .segments ([] :: _ :: _) => "/.".toList ++ path.render
  | _, _ => path.render

/-- Writes an optional part after its mark. -/
def renderPart (mark : Char) (part : Option (List Char)) : List Char :=
  match part with
  | some cs => mark :: cs
  | none => []

/-- A URL as characters. -/
def chars (u : Url) : List Char :=
  u.scheme ++ [':'] ++ (u.authority.map Authority.render).getD [] ++
    renderPath u.authority u.path ++ renderPart '?' u.query ++ renderPart '#' u.fragment

/-- A URL as a text. -/
def render (u : Url) : String := String.ofList u.chars

/-- The kind of a URL's scheme. -/
def kind (u : Url) : SchemeKind := schemeKind u.scheme

/-- The host of a URL, if it has one that is not empty. -/
def host? (u : Url) : Option Host :=
  (u.authority.map Authority.host).filter fun h => !h.isEmpty

/-- The host of a URL as a text. -/
def hostText? (u : Url) : Option String := u.host?.map fun h => String.ofList h.render

/-- The segments of a path; a path without structure has none. -/
def segments (u : Url) : List (List Char) :=
  match u.path with
  | .segments list => list
  | .text _ => []

/-- Where a URL leads to. -/
structure Origin where
  scheme : List Char
  host : Host
  port : Nat
  deriving DecidableEq, Repr

/-- The origin of a URL, if other URLs can share it. -/
def origin? (u : Url) : Option Origin := do
  let default ← defaultPort? u.scheme
  let a ← u.authority
  return ⟨u.scheme, a.host, a.port.getD default⟩

/-- Whether two URLs share their origin. -/
def sameOrigin (u v : Url) : Bool := u.origin?.isSome && u.origin? == v.origin?

/-- The URL without the user and the password. -/
def withoutUser (u : Url) : Url :=
  { u with authority := u.authority.map fun a => { a with username := [], password := [] } }

/-- The URL without its fragment. -/
def withoutFragment (u : Url) : Url := { u with fragment := none }

/-- Scheme, host and port decide the origin. -/
theorem origin?_eq_of_parts {u v : Url} (hscheme : u.scheme = v.scheme)
    (hhost : u.authority.map Authority.host = v.authority.map Authority.host)
    (hport : u.authority.map Authority.port = v.authority.map Authority.port) :
    u.origin? = v.origin? := by
  obtain ⟨_, ua, _, _, _⟩ := u
  obtain ⟨_, va, _, _, _⟩ := v
  cases ua <;> cases va <;> simp_all [origin?]

end Url

end ImageSync
