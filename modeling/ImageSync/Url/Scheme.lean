/-!
# `ImageSync.Url.Scheme`: schemes of URLs

A scheme starts with a letter and goes on with letters, digits, `+`, `-` and `.`; its case
does not matter. The schemes of the web always have a host and a path and know a default
port; files have rules of their own; all other schemes are taken as they are.
-/

set_option autoImplicit false

namespace ImageSync.Url

/-- How the URLs of a scheme are read. -/
inductive SchemeKind where
  /-- A scheme of the web: there is always a host, and a backslash is a slash. -/
  | web
  /-- Files: the host may be empty, and drive letters count. -/
  | file
  /-- Any other scheme. -/
  | other
  deriving DecidableEq, Repr

/-- The default port of a scheme of the web. -/
def defaultPort? (scheme : List Char) : Option Nat :=
  if scheme = "http".toList ∨ scheme = "ws".toList then some 80
  else if scheme = "https".toList ∨ scheme = "wss".toList then some 443
  else if scheme = "ftp".toList then some 21
  else none

/-- The kind of a scheme. -/
def schemeKind (scheme : List Char) : SchemeKind :=
  if (defaultPort? scheme).isSome then .web
  else if scheme = "file".toList then .file
  else .other

/-- Whether a character may stand in a scheme after its first one. -/
def isSchemeChar (c : Char) : Bool := c.isAlphanum || "+-.".toList.contains c

/-- The scheme of a URL in lower case, and what stands after its colon. -/
def cutScheme? (cs : List Char) : Option (List Char × List Char) :=
  if cs.head?.any Char.isAlpha then
    match cs.dropWhile isSchemeChar with
    | ':' :: r => some ((cs.takeWhile isSchemeChar).map Char.toLower, r)
    | _ => none
  else none

end ImageSync.Url
