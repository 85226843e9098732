import ImageSync.Tls.Pem

/-!
# `ImageSync.Tls.Certificate`: certificates of authorities

A certificate is a nest of elements, each of them a tag, a length and a content.
`isCertificate` looks at the tags down to the fields of the signed part: a serial number, an
algorithm, an issuer, a validity, a subject and a key, with a version in front and
extensions behind if they are wanted. Whether the signature holds is not asked here.

`holdsCertificate` says whether a file has such a certificate in a labelled block.
-/

set_option autoImplicit false

namespace ImageSync.Tls

/-- An element: its tag and its content. -/
structure Element where
  tag : Nat
  content : List UInt8

/-- The number made of some bytes. -/
def ofBytes (bytes : List UInt8) : Nat := bytes.foldl (fun n b => n * 256 + b.toNat) 0

/-- Reads the length of an element. -/
def readLength? : List UInt8 → Option (Nat × List UInt8)
  | [] => none
  | b :: r =>
    if b.toNat < 0x80 then some (b.toNat, r)
    else
      -- A long length is written in so many bytes of its own.
      let more := b.toNat - 0x80
      if more = 0 ∨ more > 4 ∨ r.length < more then none
      else some (ofBytes (r.take more), r.drop more)

/-- Reads an element, and gives what follows it. -/
def readElement? : List UInt8 → Option (Element × List UInt8)
  | [] => none
  | tag :: r => do
    let (length, rest) ← readLength? r
    if rest.length < length then none
    else return (⟨tag.toNat, rest.take length⟩, rest.drop length)

/-- Reads elements up to the end; the number bounds them. -/
def readElementsUpTo? : Nat → List UInt8 → Option (List Element)
  | _, [] => some []
  | 0, _ => none
  | n + 1, bytes => do
    let (e, rest) ← readElement? bytes
    return e :: (← readElementsUpTo? n rest)

/-- The elements that some bytes are. -/
def readElements? (bytes : List UInt8) : Option (List Element) :=
  readElementsUpTo? bytes.length bytes

/-- Whether an element is a sequence of others. -/
def Element.isSequence (e : Element) : Bool := e.tag == 0x30

/-- Whether elements are the fields that every signed part has, and then some of the optional
ones. -/
def isSignedPart : List Element → Bool
  | serial :: algorithm :: issuer :: validity :: subject :: key :: optional =>
    serial.tag == 0x02 && [algorithm, issuer, validity, subject, key].all Element.isSequence &&
      optional.all fun e => [0x81, 0x82, 0xA1, 0xA2, 0xA3].contains e.tag
  | _ => false

/-- Whether elements are the fields of a signed part, with or without a version. -/
def isSignedPartOrVersioned : List Element → Bool
  | version :: rest =>
    if version.tag == 0xA0 then isSignedPart rest else isSignedPart (version :: rest)
  | [] => false

/-- Whether bytes start with a certificate. -/
def isCertificate (bytes : List UInt8) : Bool :=
  ((do
    let (whole, _) ← readElement? bytes
    match ← readElements? whole.content with
    | [signed, algorithm, signature] =>
      let fields ← readElements? signed.content
      return whole.isSequence && signed.isSequence && algorithm.isSequence &&
        signature.tag == 0x03 && isSignedPartOrVersioned fields
    | _ => none) : Option Bool).getD false

/-- Whether blocks with a label hold certificates. -/
def isCertificateLabel (label : List Char) : Bool :=
  label == "CERTIFICATE".toList || label == "X509 CERTIFICATE".toList

/-- Whether the content of a file holds a certificate. -/
def holdsCertificate (content : List UInt8) : Bool :=
  (findBlock? isCertificateLabel none (trimmedLines (Text.decodeUtf8Lossy content))).any
    isCertificate

end ImageSync.Tls
