import ImageSync.Text.Cut
import ImageSync.Text.Digit

/-!
# `ImageSync.Url.Ipv4`: IPv4 addresses in hosts

An address has up to four parts between dots. A part is a decimal number, an octal one after
`0` or a hexadecimal one after `0x`; the last part fills all bytes that the others leave. So
`127.1` is `127.0.0.1`. A host whose last label is a number is an address or nothing
(`endsInNumber`).

Main statement: the four bytes of a written address make up the address
(`ofBytes_ipv4Bytes`).
-/

set_option autoImplicit false

namespace ImageSync.Url

open Text

/-- The value of digits in a base, if all of them belong to it. -/
def readBase? (base : Nat) (cs : List Char) : Option Nat :=
  cs.foldlM (fun n c => do
    let d ← hexValue? c
    if d < base then some (n * base + d) else none) 0

/-- The number that a part of an address is. -/
def readIpv4Part? : List Char → Option Nat
  | [] => none
  | '0' :: 'x' :: r => readBase? 16 r
  | '0' :: 'X' :: r => readBase? 16 r
  | ['0'] => some 0
  | '0' :: r => readBase? 8 r
  | cs => readBase? 10 cs

/-- The labels of a host without the empty one after a final dot. -/
def ipv4Labels (host : List Char) : List (List Char) :=
  let labels := splitAtChar '.' host
  if labels.getLast? = some [] then labels.dropLast else labels

/-- Whether the last label of a host looks like a number. -/
def endsInNumber (host : List Char) : Bool :=
  match (ipv4Labels host).getLast? with
  | some label => (!label.isEmpty && label.all Char.isDigit) || (readIpv4Part? label).isSome
  | none => false

/-- The number made of bytes, the first one weighing most. -/
def ofBytes (bytes : List Nat) : Nat := bytes.foldl (fun n b => n * 256 + b) 0

/-- The address that parts make up. -/
def ipv4OfParts? (parts : List Nat) : Option Nat := do
  let last ← parts.getLast?
  let front := parts.dropLast
  -- The last part fills the bytes that the parts in front leave.
  if front.length < 4 ∧ front.all (· < 256) ∧ last < Nat.pow 256 (4 - front.length) then
    some (ofBytes front * Nat.pow 256 (4 - front.length) + last)
  else none

/-- The address that a host is. -/
def readIpv4? (host : List Char) : Option Nat := do
  ipv4OfParts? (← (ipv4Labels host).mapM readIpv4Part?)

/-- The four bytes of an address. -/
def ipv4Bytes (address : Nat) : List Nat :=
  [address / 0x1000000 % 256, address / 0x10000 % 256, address / 256 % 256, address % 256]

/-- An address as a text: four decimal numbers between dots. -/
def renderIpv4 (address : Nat) : List Char :=
  joinWith '.' ((ipv4Bytes address).map fun b => (toString b).toList)

/-- The bytes of an address make it up. -/
theorem ofBytes_ipv4Bytes {address : Nat} (h : address < UInt32.size) :
    ofBytes (ipv4Bytes address) = address := by
  simp only [ipv4Bytes, ofBytes, List.foldl_cons, List.foldl_nil, UInt32.size] at h ⊢
  omega

end ImageSync.Url
