import ImageSync.Url.Domain
import ImageSync.Url.Ipv4
import ImageSync.Url.Ipv6
import ImageSync.Url.Percent

/-!
# `ImageSync.Url.Host`: hosts of URLs

A host is a name or an address. In the schemes of the web (and for files) a host text is
decoded, brought into its ASCII form as a domain, and read as an IPv4 address if its last
label is a number; in other schemes the name stays as it is written. In brackets stands an
IPv6 address.
-/

set_option autoImplicit false

namespace ImageSync.Url

open Text

/-- The host of a URL. -/
inductive Host where
  | name (text : List Char)
  | ipv4 (address : Nat)
  | ipv6 (pieces : List Nat)
  deriving DecidableEq, Repr

namespace Host

/-- A host as a text. -/
def render : Host → List Char
  | name text => text
  | ipv4 address => renderIpv4 address
  | ipv6 pieces => '[' :: renderIpv6 pieces ++ [']']

/-- Whether a host is the empty name. -/
def isEmpty : Host → Bool
  | name text => text.isEmpty
  | _ => false

/-- Whether a host without structure may not hold a character. -/
def isForbidden (c : Char) : Bool :=
  "\x00\t\n\r #/:<>?@[\\]^|".toList.contains c

/-- The address in brackets. -/
def readBracketed? (cs : List Char) : Option Host := do
  let inner ← stripSuffix? [']'] cs
  return ipv6 (← readIpv6? inner)

/-- Reads the host of a URL of the web or of a file. -/
def read? (cs : List Char) : Option Host :=
  match cs with
  | '[' :: r => readBracketed? r
  | _ => do
    -- Escapes are resolved before the name is looked at, so they cannot hide a character.
    let domain ← asciiDomain? (← decodedText? cs)
    if domain.isEmpty then none
    else if endsInNumber domain then return ipv4 (← readIpv4? domain)
    else return name domain

/-- Reads the host of a URL of any other scheme. -/
def readVerbatim? (cs : List Char) : Option Host :=
  match cs with
  | '[' :: r => readBracketed? r
  | _ => if cs.any isForbidden then none else some (name (percentEncode controlSet cs))

end Host

end ImageSync.Url
