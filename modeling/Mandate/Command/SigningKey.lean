import Mandate.Command.Failure
import Mandate.Token.Compact

/-!
# Signing keys in files

A new signing key is drawn and written to a file, and its public part is printed for those who
verify. A key that is there already is never overwritten.
-/

namespace Mandate.Command

open Mandate.Json Mandate.Crypto Mandate.Token

/-- Where a new key goes, and the name under which it signs. -/
structure NewKey where
  out : String
  keyId : String
  deriving DecidableEq, Repr, Inhabited

/-- Draw a key and write it. -/
def NewKey.execute (k : NewKey) : Action Unit := do
  match ← readFile k.out with
  | .error .notFound =>
      let keys := Pkcs8.KeyPair.ofSeed (← drawBytes)
      match ← appendFile k.out (Pkcs8.encode keys) with
      | .error fault => throw (.writing k.out fault)
      | .ok () => printLine (LocalSigner.publicJwk ⟨k.keyId, keys⟩).indented
  | _ => throw (.keyExists k.out)

/-- The signer of the key in a file. -/
def readSigner (path keyId : String) : Action Signer := do
  match ← readFile path with
  | .error fault => throw (.reading path fault)
  | .ok document =>
      match LocalSigner.ofDocument keyId document with
      | .ok signer => return signer.signer
      | .error e => throw (.engine e)

end Mandate.Command
