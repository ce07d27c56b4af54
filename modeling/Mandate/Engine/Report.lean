import Mandate.Engine.Error

/-!
# Reports of errors

An error as a document for those who called: its kind, its wording, what it is about, and whether
a version was in the wrong state or was not found.
-/

namespace Mandate

open Mandate.Json

namespace PolicyError

/-- The kind of an error. -/
def kind : PolicyError → String
  | .notFound _ => "NotFound"
  | .versionNotFound .. => "VersionNotFound"
  | .notApproved .. => "NotApproved"
  | .invalidTransition .. => "InvalidTransition"
  | .invalidBody _ => "InvalidBody"
  | .unsupportedEngine _ => "UnsupportedEngine"
  | .badCompiledPolicy _ => "BadCompiledPolicy"
  | .storage _ => "Storage"

def report (e : PolicyError) : Value :=
  .object <| field "error" (.string e.kind) ++ field "message" (.string e.message) ++
    field "conflict" (.bool e.isConflict) ++ field "not_found" (.bool e.isNotFound)

end PolicyError

namespace GraphError

/-- The kind of an error. -/
def kind : GraphError → String
  | .invalidRelation _ => "InvalidRelation"
  | .invalidRef _ => "InvalidRef"
  | .storeUnavailable _ => "StoreUnavailable"
  | .invalidHierarchy _ => "InvalidHierarchy"

def report (e : GraphError) : Value :=
  .object <| field "error" (.string e.kind) ++ field "message" (.string e.message)

end GraphError

namespace AuditError

/-- The kind of an error. -/
def kind : AuditError → String
  | .openFailed .. => "OpenFailed"
  | .writeFailed _ => "WriteFailed"
  | .malformedEntry => "SerializationError"
  | .integrityViolation .. => "IntegrityViolation"
  | .sequenceGap .. => "SequenceGap"
  | .lockPoisoned => "LockPoisoned"

/-- What a broken chain is about, its hashes named by a function. -/
def details (name : String → String) (e : AuditError) : Members :=
  match e with
  | .integrityViolation line org expected actual =>
      field "line" (.nat line) ++ field "org_id" (.uuid org) ++
        field "expected" (.string (name (hashText expected))) ++
        field "actual" (.string (name (hashText actual)))
  | .sequenceGap line org expected actual =>
      field "line" (.nat line) ++ field "org_id" (.uuid org) ++
        field "expected" (.nat expected) ++ field "actual" (.nat actual) ++
        field "message" (.string e.message)
  | .lockPoisoned => field "message" (.string e.message)
  | _ => []

def report (name : String → String) (e : AuditError) : Value :=
  .object (field "error" (.string e.kind) ++ e.details name)

end AuditError

namespace DecisionError

/-- The kind of an error, which is that of the error inside it. -/
def kind : DecisionError → String
  | .policy e => e.kind
  | .graph e => e.kind
  | .audit e => e.kind
  | .simulationDenied _ => "SimulationDenied"
  | .config _ => "Config"
  | .configRead .. => "ConfigRead"
  | .configParse => "ConfigParse"
  | .signing _ => "Signing"
  | .signerTimeout _ => "SignerTimeout"
  | .invalidToken _ => "InvalidToken"
  | .store _ => "Store"

/-- What an error says besides its kind. A configuration that could not be loaded says nothing. -/
def details : DecisionError → Members
  | .audit e => e.details id
  | .configRead .. => []
  | .configParse => []
  | e => field "message" (.string e.message)

def report (e : DecisionError) : Value :=
  .object <| field "error" (.string e.kind) ++ e.details ++
    field "conflict" (.bool e.isConflict) ++ field "not_found" (.bool e.isNotFound)

end DecisionError

end Mandate
