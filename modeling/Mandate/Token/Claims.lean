import Mandate.Decision
import Mandate.Digest

/-!
# Claims of a trust token

What a token asserts: which decision was made for whom, on which context, and until when the
assertion holds.
-/

namespace Mandate.Token

open Mandate.Json Mandate.Time

/-- The content of a token. -/
structure Claims where
  orgId : String
  agentId : String
  policyId : String
  policyVersion : Nat
  allow : Bool
  reason : String
  /-- The digest of the canonical context on which the decision was made. -/
  contextHash : String
  traceId : String
  /-- The end of the assertion, in seconds since the start of 1970. -/
  exp : Int
  /-- What makes the token unique. -/
  jti : String
  deriving DecidableEq, Repr, Inhabited

/-- The part of a decision that a token asserts. -/
structure Subject where
  orgId : String
  agentId : String
  policyId : String
  policyVersion : Nat
  allow : Bool
  reason : String
  traceId : String
  deriving DecidableEq, Repr, Inhabited

/-- Read a subject. -/
def Subject.decode : Decoder Subject := Decoder.record do
  let orgId ← Fields.required "org_id" Decoder.string
  let agentId ← Fields.required "agent_id" Decoder.string
  let policyId ← Fields.required "policy_id" Decoder.string
  let policyVersion ← Fields.required "policy_version" (Decoder.unsigned 32)
  let allow ← Fields.required "allow" Decoder.bool
  let reason ← Fields.required "reason" Decoder.string
  let traceId ← Fields.required "trace_id" Decoder.string
  return { orgId, agentId, policyId, policyVersion, allow, reason, traceId }

/-- The last second that a token can name. -/
def lastSecond : Int := highestInt

/-- The end of a lifetime in seconds that begins now. It does not go beyond the last second. -/
def expiry (now : Timestamp) (lifetime : Nat) : Int :=
  min (now.seconds + min (lifetime : Int) lastSecond) lastSecond

namespace Claims

/-- Claims about a subject, given the digest of the context. -/
def issue (subject : Subject) (contextHash : String) (lifetime : Nat) (now : Timestamp)
    (id : Uuid) : Claims :=
  { orgId := subject.orgId, agentId := subject.agentId, policyId := subject.policyId,
    policyVersion := subject.policyVersion, allow := subject.allow, reason := subject.reason,
    contextHash, traceId := subject.traceId, exp := expiry now lifetime, jti := id.text }

def json (c : Claims) : Value :=
  .object <| field "org_id" (.string c.orgId) ++ field "agent_id" (.string c.agentId) ++
    field "policy_id" (.string c.policyId) ++ field "policy_version" (.nat c.policyVersion) ++
    field "allow" (.bool c.allow) ++ field "reason" (.string c.reason) ++
    field "context_hash" (.string c.contextHash) ++ field "trace_id" (.string c.traceId) ++
    field "exp" (.number (.int c.exp)) ++ field "jti" (.string c.jti)

def decode : Decoder Claims := Decoder.record do
  let orgId ← Fields.required "org_id" Decoder.string
  let agentId ← Fields.required "agent_id" Decoder.string
  let policyId ← Fields.required "policy_id" Decoder.string
  let policyVersion ← Fields.required "policy_version" (Decoder.unsigned 32)
  let allow ← Fields.required "allow" Decoder.bool
  let reason ← Fields.required "reason" Decoder.string
  let contextHash ← Fields.required "context_hash" Decoder.string
  let traceId ← Fields.required "trace_id" Decoder.string
  let exp ← Fields.required "exp" Decoder.signed64
  let jti ← Fields.required "jti" Decoder.string
  return { orgId, agentId, policyId, policyVersion, allow, reason, contextHash, traceId, exp,
           jti }

end Claims

end Mandate.Token
