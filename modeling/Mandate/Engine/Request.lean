import Mandate.Decision

/-!
# Requests and responses

A request asks whether a caller may do something, possibly in another organisation. A response
is the decision as the caller sees it, together with a token if one was asked for and could be
made. The trace of a response is not part of its written form.
-/

namespace Mandate

open Mandate.Json

/-- The caller as the transport knows it. -/
structure Principal where
  spiffeId : Option String := none
  authnKind : Option String := none
  certFingerprint : Option String := none
  deriving DecidableEq, Repr, Inhabited

/-- A request for a decision. -/
structure Request where
  orgId : Uuid
  agentId : Option String := none
  action : String := ""
  resource : String := ""
  context : Value := .null
  targetOrgId : Option Uuid := none
  includeTrustToken : Bool := false
  principal : Principal := {}
  deriving DecidableEq, Repr, Inhabited

/-- A decision as the caller sees it. -/
structure Response where
  allow : Bool
  reason : String := ""
  traceId : String := ""
  requireApproval : Bool := false
  hints : List String := []
  token : Option String := none
  trace : Option Trace := none
  deriving DecidableEq, Repr, Inhabited

namespace Principal

def json (p : Principal) : Value :=
  .object <| optionalField "spiffe_id" p.spiffeId .string ++
    optionalField "authn_kind" p.authnKind .string ++
    optionalField "cert_fingerprint" p.certFingerprint .string

def decode : Decoder Principal := Decoder.record do
  let spiffeId ← Fields.optional "spiffe_id" Decoder.string
  let authnKind ← Fields.optional "authn_kind" Decoder.string
  let certFingerprint ← Fields.optional "cert_fingerprint" Decoder.string
  return ⟨spiffeId, authnKind, certFingerprint⟩

end Principal

namespace Request

/-- The name of the caller, empty if it has none. -/
def agent (r : Request) : String := r.agentId.getD ""

/-- The other organisation, if the request crosses into one. -/
def counterparty? (r : Request) : Option Uuid :=
  r.targetOrgId.filter (· ≠ r.orgId)

/-- The organisation for which the caller has to be allowed to act. -/
def actingFor (r : Request) : Uuid := r.counterparty?.getD r.orgId

/-- The caller as a trace shows it. -/
def principalTrace (r : Request) : PrincipalTrace :=
  { orgId := r.orgId.text, agentId := r.agent, spiffeId := r.principal.spiffeId,
    authnKind := r.principal.authnKind, certFingerprint := r.principal.certFingerprint }

def json (r : Request) : Value :=
  .object <| field "org_id" (.uuid r.orgId) ++ optionalField "agent_id" r.agentId .string ++
    field "action" (.string r.action) ++ field "resource" (.string r.resource) ++
    field "request_context" r.context ++ optionalField "target_org_id" r.targetOrgId .uuid ++
    field "include_trust_token" (.bool r.includeTrustToken) ++
    field "principal" r.principal.json

def decode : Decoder Request := Decoder.record do
  let orgId ← Fields.required "org_id" Decoder.uuid
  let agentId ← Fields.optional "agent_id" Decoder.string
  let action ← Fields.withDefault "action" Decoder.string ""
  let resource ← Fields.withDefault "resource" Decoder.string ""
  let context ← Fields.withDefault "request_context" Decoder.document .null
  let targetOrgId ← Fields.optional "target_org_id" Decoder.uuid
  let includeTrustToken ← Fields.withDefault "include_trust_token" Decoder.bool false
  let principal ← Fields.withDefault "principal" Principal.decode {}
  return { orgId, agentId, action, resource, context, targetOrgId, includeTrustToken, principal }

end Request

namespace Response

/-- A decision as a response. -/
def ofDecision (d : Decision) : Response :=
  { allow := d.allow, reason := d.reason, traceId := d.traceId,
    requireApproval := d.requireApproval, hints := d.hints, trace := d.trace }

def json (r : Response) : Value :=
  .object <| field "allow" (.bool r.allow) ++ textField "reason" r.reason ++
    textField "trace_id" r.traceId ++ flagField "require_approval" r.requireApproval ++
    listField "hints" r.hints .string ++ optionalField "token" r.token .string

def decode : Decoder Response := Decoder.record do
  let allow ← Fields.required "allow" Decoder.bool
  let reason ← Fields.withDefault "reason" Decoder.string ""
  let traceId ← Fields.withDefault "trace_id" Decoder.string ""
  let requireApproval ← Fields.withDefault "require_approval" Decoder.bool false
  let hints ← Fields.withDefault "hints" Decoder.strings []
  let token ← Fields.optional "token" Decoder.string
  return { allow, reason, traceId, requireApproval, hints, token }

end Response

end Mandate
