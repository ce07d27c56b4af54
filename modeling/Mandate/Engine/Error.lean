import Mandate.Crypto.Pkcs8
import Mandate.Ledger.Entry
import Mandate.Policy.Error
import Mandate.Relation.Tuple

/-!
# What can go wrong around decisions

The errors of managing policies, of loading a configuration and of signing. A decision itself
never fails: whatever goes wrong on its way makes it a refusal.
-/

namespace Mandate

/-- What is wrong with a trust token. -/
inductive TokenFault where
  | notThreeSegments
  | payload
  | signature
  | claims
  | signatureMismatch
  | expired
  /-- An objection that comes with words of its own. -/
  | other (text : String)
  deriving DecidableEq, Repr

/-- What is wrong with a configuration. -/
inductive ConfigFault where
  | notPositive (name : String)
  /-- An objection that comes with words of its own. -/
  | other (text : String)
  deriving DecidableEq, Repr

/-- Why signing failed. -/
inductive SigningFault where
  | rejectedKey (fault : Crypto.Pkcs8.KeyFault)
  | noSigner
  /-- The signer's own words. -/
  | other (text : String)
  deriving DecidableEq, Repr

/-- Why an operation of the engine failed. -/
inductive DecisionError where
  | policy (error : PolicyError)
  | graph (error : GraphError)
  | audit (error : AuditError)
  | simulationDenied (reason : String)
  | config (fault : ConfigFault)
  | configRead (path : String) (fault : FileFault)
  | configParse
  | signing (fault : SigningFault)
  | signerTimeout (milliseconds : Nat)
  | invalidToken (fault : TokenFault)
  | store (text : String)
  deriving DecidableEq, Repr

def TokenFault.message : TokenFault → String
  | .notThreeSegments => "expected three dot-separated segments"
  | .payload => "payload: not base64url"
  | .signature => "signature: not base64url"
  | .claims => "claims: not a record of claims"
  | .signatureMismatch => "signature mismatch"
  | .expired => "expired"
  | .other text => text

def ConfigFault.message : ConfigFault → String
  | .notPositive name => name ++ " must be at least 1"
  | .other text => text

def SigningFault.message : SigningFault → String
  | .rejectedKey fault => "rejected ed25519 key: " ++ fault.name
  | .noSigner => "no signer configured"
  | .other text => text

namespace DecisionError

/-- The wording of an error. -/
def message : DecisionError → String
  | .policy error => error.message
  | .graph error => error.message
  | .audit error => error.message
  | .simulationDenied reason => "simulation denied activation: " ++ reason
  | .config fault => "invalid configuration: " ++ fault.message
  | .configRead path fault => "failed to read config at " ++ path ++ ": " ++ fault.message
  | .configParse => "failed to parse config: not a configuration"
  | .signing fault => "signing failed: " ++ fault.message
  | .signerTimeout milliseconds => s!"signer timed out after {milliseconds} ms"
  | .invalidToken fault => "invalid trust token: " ++ fault.message
  | .store text => "store error: " ++ text

/-- Whether a version is in the wrong state, which includes a simulation that refuses. -/
def isConflict : DecisionError → Bool
  | .policy error => error.isConflict
  | .simulationDenied _ => true
  | _ => false

/-- Whether the addressed policy or version does not exist. -/
def isNotFound : DecisionError → Bool
  | .policy error => error.isNotFound
  | _ => false

end DecisionError

end Mandate
