import Mandate.Decision
import Mandate.Json.Printer

/-!
# Ledger entries

What happened, to whom it belongs, and its place in the chain of its organisation: the sequence
number counts from one, and the previous hash is that of the organisation's entry before it.
Actions on policies as such belong to the nil organisation.
-/

namespace Mandate

open Mandate.Json Mandate.Time

/-- Why a file could not be used. -/
inductive FileFault where
  | notFound
  | isDirectory
  | notText
  | other (text : String)
  deriving DecidableEq, Repr

/-- The wording of a file fault. -/
def FileFault.message : FileFault → String
  | .notFound => "No such file or directory (os error 2)"
  | .isDirectory => "Is a directory (os error 21)"
  | .notText => "stream did not contain valid UTF-8"
  | .other text => text

/-- Why an operation on a ledger failed. -/
inductive AuditError where
  | openFailed (path : String) (fault : FileFault)
  | writeFailed (fault : FileFault)
  | malformedEntry
  | integrityViolation (line : Nat) (org : Uuid) (expected actual : Option String)
  | sequenceGap (line : Nat) (org : Uuid) (expected actual : Nat)
  | lockPoisoned
  deriving DecidableEq, Repr

/-- The text of a previous hash that may be absent. -/
def hashText (hash : Option String) : String := hash.getD "None"

/-- The wording of an error. -/
def AuditError.message : AuditError → String
  | .openFailed path fault => s!"failed to open audit ledger at {path}: " ++ fault.message
  | .writeFailed fault => "failed to append ledger entry: " ++ fault.message
  | .malformedEntry => "serialization error: not a ledger entry"
  | .integrityViolation line org expected actual =>
      s!"integrity check failed at line {line} (org " ++ org.text ++
        "): expected previous hash " ++ hashText expected ++ ", got " ++ hashText actual
  | .sequenceGap line org expected actual =>
      s!"sequence gap at line {line} (org " ++ org.text ++
        s!"): expected seq {expected}, got {actual}"
  | .lockPoisoned => "audit ledger lock poisoned"

/-- The kinds of events that are recorded. -/
inductive AuditAction where
  | decisionTraceRecorded
  | federationBoundaryCrossing
  | federationScopeDenied
  | policyVersionApproval
  | policyVersionActivate
  deriving DecidableEq, Repr, Inhabited

namespace AuditAction

def name : AuditAction → String
  | .decisionTraceRecorded => "decision_trace_recorded"
  | .federationBoundaryCrossing => "federation_boundary_crossing"
  | .federationScopeDenied => "federation_scope_denied"
  | .policyVersionApproval => "policy_version_approval"
  | .policyVersionActivate => "policy_version_activate"

def ofName? : String → Option AuditAction
  | "decision_trace_recorded" => some .decisionTraceRecorded
  | "federation_boundary_crossing" => some .federationBoundaryCrossing
  | "federation_scope_denied" => some .federationScopeDenied
  | "policy_version_approval" => some .policyVersionApproval
  | "policy_version_activate" => some .policyVersionActivate
  | _ => none

theorem ofName?_name (a : AuditAction) : ofName? a.name = some a := by
  cases a <;> rfl

def json (a : AuditAction) : Value := .string a.name

def decode : Decoder AuditAction := Decoder.name ofName?

end AuditAction

/-- An event to be recorded. Its place in a chain is not known yet. -/
structure AuditRecord where
  orgId : Uuid
  action : AuditAction
  payload : Value
  actorUser : Option Uuid := none
  actorAgent : Option String := none
  deriving DecidableEq, Repr, Inhabited

/-- Read an event. -/
def AuditRecord.decode : Decoder AuditRecord := Decoder.record do
  let orgId ← Fields.required "org_id" Decoder.uuid
  let action ← Fields.required "action" AuditAction.decode
  let payload ← Fields.withDefault "payload" Decoder.document .null
  let actorUser ← Fields.optional "actor_user" Decoder.uuid
  let actorAgent ← Fields.optional "actor_agent" Decoder.string
  return { orgId, action, payload, actorUser, actorAgent }

/-- What makes an entry unique: a fresh identifier and the time. -/
structure Stamp where
  id : Uuid
  time : Timestamp
  deriving DecidableEq, Repr, Inhabited

/-- One line of a ledger. -/
structure LedgerEntry where
  entryId : Uuid
  orgId : Uuid
  seq : Nat
  timestamp : Timestamp
  action : AuditAction
  actorUser : Option Uuid
  actorAgent : Option String
  payload : Value
  previousHash : Option String
  deriving DecidableEq, Repr, Inhabited

namespace LedgerEntry

/-- The entry of a record at a place in a chain. -/
def ofRecord (record : AuditRecord) (seq : Nat) (previousHash : Option String) (stamp : Stamp) :
    LedgerEntry :=
  { entryId := stamp.id, orgId := record.orgId, seq, timestamp := stamp.time,
    action := record.action, actorUser := record.actorUser, actorAgent := record.actorAgent,
    payload := record.payload, previousHash }

def json (e : LedgerEntry) : Value :=
  .object <| field "entry_id" (.uuid e.entryId) ++ field "org_id" (.uuid e.orgId) ++
    field "seq" (.nat e.seq) ++ field "timestamp" (.time e.timestamp) ++
    field "action" e.action.json ++ optionalField "actor_user" e.actorUser .uuid ++
    optionalField "actor_agent" e.actorAgent .string ++ field "payload" e.payload ++
    field "previous_hash" ((e.previousHash.map Value.string).getD .null)

def decode : Decoder LedgerEntry := Decoder.record do
  let entryId ← Fields.required "entry_id" Decoder.uuid
  let orgId ← Fields.required "org_id" Decoder.uuid
  let seq ← Fields.required "seq" (Decoder.unsigned 64)
  let timestamp ← Fields.required "timestamp" Decoder.time
  let action ← Fields.required "action" AuditAction.decode
  let actorUser ← Fields.optional "actor_user" Decoder.uuid
  let actorAgent ← Fields.optional "actor_agent" Decoder.string
  let payload ← Fields.withDefault "payload" Decoder.document .null
  let previousHash ← Fields.named "previous_hash" Decoder.string
  return { entryId, orgId, seq, timestamp, action, actorUser, actorAgent, payload,
           previousHash }

/-- The line of an entry: its JSON text in declaration order. -/
def line (e : LedgerEntry) : String := e.json.text

end LedgerEntry

end Mandate
