import Mandate.Crypto.Pkcs8
import Mandate.Engine.Error
import Mandate.Json.Parser
import Mandate.Token.Claims

/-!
# Trust tokens

A token is three segments in base64url with dots between them: a header, the claims, and a
signature of the two segments before it. A signer answers with a signature, fails, or stays
silent until its time is over.
-/

namespace Mandate.Token

open Mandate.Json Mandate.Text Mandate.Crypto

/-- The answer of a signer. -/
inductive Answer where
  | signature (bytes : List UInt8)
  | failure (fault : SigningFault)
  /-- There is no answer in time. -/
  | silence
  deriving DecidableEq, Repr, Inhabited

/-- Somebody who signs. -/
structure Signer where
  algorithm : String
  keyId : String
  sign : List UInt8 → Answer

/-- The header of a token. -/
def header (algorithm keyId : String) : Value :=
  .object <| field "alg" (.string algorithm) ++ field "typ" (.string "JWT") ++
    field "kid" (.string keyId)

/-- A document as a segment. -/
def segment (doc : Value) : String :=
  Base64Url.encode (utf8 doc.text)

/-- The first two segments of a token. -/
def unsigned (algorithm keyId : String) (claims : Claims) : String :=
  segment (header algorithm keyId) ++ "." ++ segment claims.json

/-- The token that an answer to the first two segments makes. -/
def complete (unsigned : String) (timeoutMs : Nat) : Answer → Except DecisionError String
  | .signature bytes => .ok (unsigned ++ "." ++ Base64Url.encode bytes)
  | .failure fault => .error (.signing fault)
  | .silence => .error (.signerTimeout timeoutMs)

/-- Have claims signed. -/
def mint (signer : Signer) (claims : Claims) (timeoutMs : Nat) : Except DecisionError String :=
  let unsigned := unsigned signer.algorithm signer.keyId claims
  complete unsigned timeoutMs (signer.sign (utf8 unsigned))

/-- The three segments of a token, none of which may be empty. -/
structure Segments where
  header : String
  payload : String
  signature : String
  deriving DecidableEq, Repr

/-- Split a token. -/
def split (token : String) : Except DecisionError Segments :=
  match splitOn '.' token.toList with
  | [h, p, s] =>
      if h.isEmpty || p.isEmpty || s.isEmpty then .error (.invalidToken .notThreeSegments)
      else .ok ⟨String.ofList h, String.ofList p, String.ofList s⟩
  | _ => .error (.invalidToken .notThreeSegments)

/-- The claims of a segment. -/
def claimsOf (payload : String) : Except DecisionError Claims :=
  match Base64Url.decode? payload with
  | none => .error (.invalidToken .payload)
  | some bytes =>
      match (ofUtf8? bytes).bind Tree.ofText? |>.bind Claims.decode with
      | none => .error (.invalidToken .claims)
      | some claims => .ok claims

/-- The claims of a token, whoever signed it. -/
def decodeClaims (token : String) : Except DecisionError Claims := do
  claimsOf (← split token).payload

/-- The claims of a token that was signed under a public key and has not expired. -/
def verify (token : String) (publicKey : List UInt8) (now : Int) :
    Except DecisionError Claims := do
  let parts ← split token
  match Base64Url.decode? parts.signature with
  | none => throw (.invalidToken .signature)
  | some signature =>
      let message := utf8 (parts.header ++ "." ++ parts.payload)
      if !Ed25519.verify publicKey message signature then
        throw (.invalidToken .signatureMismatch)
      let claims ← claimsOf parts.payload
      if claims.exp ≤ now then throw (.invalidToken .expired)
      return claims

/-- A signer with a key of its own. -/
structure LocalSigner where
  keyId : String
  keys : Pkcs8.KeyPair
  deriving DecidableEq, Repr, Inhabited

namespace LocalSigner

/-- The name of the signature algorithm. -/
def algorithm : String := "EdDSA"

/-- The signer of a key document. -/
def ofDocument (keyId : String) (document : List UInt8) : Except DecisionError LocalSigner :=
  match Pkcs8.decode document with
  | .ok keys => .ok ⟨keyId, keys⟩
  | .error fault => .error (.signing (.rejectedKey fault))

/-- What the signer signs with. -/
def signer (s : LocalSigner) : Signer where
  algorithm := algorithm
  keyId := s.keyId
  sign message := .signature (Ed25519.sign s.keys.seed message)

/-- The public key as a document for those who verify. -/
def publicJwk (s : LocalSigner) : Value :=
  .object <| field "alg" (.string algorithm) ++ field "crv" (.string "Ed25519") ++
    field "kid" (.string s.keyId) ++ field "kty" (.string "OKP") ++
    field "use" (.string "sig") ++ field "x" (.string (Base64Url.encode s.keys.publicKey))

end LocalSigner

end Mandate.Token
