import Mandate.Crypto.Ed25519

/-!
# Private key documents

An Ed25519 key is stored as a DER document of PKCS#8, version 2: a sequence of the version, the
algorithm, the seed wrapped in two octet strings, optional attributes, and the public key as a
bit string. The tag of the public key is `0x81`; an older spelling that wraps the bit string in
`0xa1` is read as well. The public key has to be the one that belongs to the seed.
-/

namespace Mandate.Crypto.Pkcs8

/-- A signing key: the seed, and the public key that belongs to it. -/
structure KeyPair where
  seed : List UInt8
  publicKey : List UInt8
  deriving DecidableEq, Repr, Inhabited

/-- The key pair of a seed. -/
def KeyPair.ofSeed (seed : List UInt8) : KeyPair :=
  ⟨seed, Ed25519.publicKey seed⟩

/-- Read a length in its shortest form, of at most three bytes. -/
def readLength? : List UInt8 → Option (Nat × List UInt8)
  | [] => none
  | n :: rest =>
      if n < 0x80 then some (n.toNat, rest)
      else
        match n, rest with
        | 0x81, high :: rest => if high < 128 then none else some (high.toNat, rest)
        | 0x82, high :: low :: rest =>
            let length := high.toNat * 256 + low.toNat
            if length < 256 then none else some (length, rest)
        | _, _ => none

/-- Read the content of an element with a given tag, and what follows the element. -/
def readElement? (tag : UInt8) : List UInt8 → Option (List UInt8 × List UInt8)
  | [] => none
  | t :: rest => do
      if t ≠ tag then none
      let (length, rest) ← readLength? rest
      if rest.length < length then none
      return (rest.take length, rest.drop length)

/-- Why a document is not accepted as a key. -/
inductive KeyFault where
  /-- The bytes are no such document. -/
  | invalidEncoding
  | wrongAlgorithm
  | versionNotSupported
  | publicKeyIsMissing
  /-- The seed has a wrong length. -/
  | invalidComponent
  /-- The public key is that of another seed. -/
  | inconsistentComponents
  deriving DecidableEq, Repr

/-- The name of a fault. -/
def KeyFault.name : KeyFault → String
  | .invalidEncoding => "InvalidEncoding"
  | .wrongAlgorithm => "WrongAlgorithm"
  | .versionNotSupported => "VersionNotSupported"
  | .publicKeyIsMissing => "PublicKeyIsMissing"
  | .invalidComponent => "InvalidComponent"
  | .inconsistentComponents => "InconsistentComponents"

/-- An element has to be there. -/
def wellFormed {α : Type} : Option α → Except KeyFault α
  | some a => .ok a
  | none => .error .invalidEncoding

/-- The content of an element that is all there is. -/
def wholeElement? (tag : UInt8) (bytes : List UInt8) : Option (List UInt8) :=
  match readElement? tag bytes with
  | some (content, []) => some content
  | _ => none

/-- The content of a bit string of whole bytes. -/
def wholeBytes? : List UInt8 → Option (List UInt8)
  | 0 :: bytes => some bytes
  | _ => none

/-- The object identifier of Ed25519, as the content of an algorithm. -/
def algorithm : List UInt8 := [0x06, 0x03, 0x2b, 0x65, 0x70]

/-- The second version of the format, as the content of an integer. -/
def version : List UInt8 := [1]

/-- Whether the content of an integer is a number of one byte in its shortest form. -/
def isSmall : List UInt8 → Bool
  | [b] => b < 0x80
  | [0, b] => 0x80 ≤ b
  | _ => false

/-- Skip attributes, if there are any. -/
def skipAttributes? (bytes : List UInt8) : Option (List UInt8) :=
  if bytes.head? = some 0xa0 then (readElement? 0xa0 bytes).map (·.2) else some bytes

/-- The public key at the end of a document. -/
def publicKey? (bytes : List UInt8) : Option (List UInt8) :=
  if bytes.head? = some 0xa1 then
    (wholeElement? 0xa1 bytes).bind (wholeElement? 0x03) |>.bind wholeBytes?
  else (wholeElement? 0x81 bytes).bind wholeBytes?

/-- The key pair of a seed, if it has the given public key. -/
def pairOf (seed publicKey : List UInt8) : Except KeyFault KeyPair :=
  if seed.length ≠ 32 then .error .invalidComponent
  else
    let pair := KeyPair.ofSeed seed
    if pair.publicKey = publicKey then .ok pair
    else if publicKey.length ≠ 32 then .error .invalidEncoding
    else .error .inconsistentComponents

/-- Read a key document. -/
def decode (document : List UInt8) : Except KeyFault KeyPair := do
  let body ← wellFormed (wholeElement? 0x30 document)
  let (number, rest) ← wellFormed (readElement? 0x02 body)
  if !isSmall number then throw .invalidEncoding
  let (name, rest) ← wellFormed (readElement? 0x30 rest)
  if name ≠ algorithm then throw .wrongAlgorithm
  if number ≠ version then throw .versionNotSupported
  let (wrapped, rest) ← wellFormed (readElement? 0x04 rest)
  let rest ← wellFormed (skipAttributes? rest)
  if rest.isEmpty then throw .publicKeyIsMissing
  let key ← wellFormed (publicKey? rest)
  let seed ← wellFormed (wholeElement? 0x04 wrapped)
  pairOf seed key

/-- An element with a content of fewer than 128 bytes. -/
def element (tag : UInt8) (content : List UInt8) : List UInt8 :=
  tag :: UInt8.ofNat content.length :: content

/-- Write a key document. -/
def encode (pair : KeyPair) : List UInt8 :=
  element 0x30 <| element 0x02 version ++ element 0x30 algorithm ++
    element 0x04 (element 0x04 pair.seed) ++ element 0x81 (0 :: pair.publicKey)

end Mandate.Crypto.Pkcs8
