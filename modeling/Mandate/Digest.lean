import Mandate.Crypto.Sha2
import Mandate.Json.Printer
import Mandate.Text.Base64Url
import Mandate.Text.Bytes
import Mandate.Text.Hex

/-!
# Digests of texts and documents

All digests are SHA-256. A document is hashed by its canonical text, so that two spellings of
one document have the same digest.
-/

namespace Mandate.Digest

open Mandate.Crypto Mandate.Json Mandate.Text

/-- The digest of bytes, in lower-case hexadecimal. -/
def hexOfBytes (bytes : List UInt8) : String :=
  Hex.encode (sha256 bytes)

/-- The digest of a text, in lower-case hexadecimal. -/
def hex (s : String) : String :=
  hexOfBytes (utf8 s)

/-- The digest of bytes, in unpadded base64url. -/
def base64 (bytes : List UInt8) : String :=
  Base64Url.encode (sha256 bytes)

/-- The digest of a document, in lower-case hexadecimal. -/
def checksum (doc : Value) : String :=
  hex doc.canonicalText

/-- The identifier that ties a decision to its input and its policy body: the first eight bytes
of the digest of the two canonical texts, one after the other. -/
def traceId (input body : Value) : String :=
  Hex.encode ((sha256 (utf8 (input.canonicalText ++ body.canonicalText))).take 8)

/-- The digest of an evaluation context, as a token carries it. -/
def contextHash (context : Value) : String :=
  base64 (utf8 context.canonicalText)

end Mandate.Digest
