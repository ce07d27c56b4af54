import Mandate.Json.Record
import Mandate.Time.Timestamp
import Mandate.Uuid

/-!
# Decisions and their traces

A decision says whether a request is allowed and why. Its trace lists the rules that were looked
at and which of them matched, so that the decision can be explained later. Empty parts are left
out of the written form.
-/

namespace Mandate

open Mandate.Json Mandate.Time

/-- When an evaluation happened and how long it took. -/
structure Timing where
  time : Timestamp
  durationMs : Nat
  deriving DecidableEq, Repr, Inhabited

/-- The caller as it stood at evaluation. -/
structure PrincipalTrace where
  orgId : String
  agentId : String
  spiffeId : Option String
  authnKind : Option String
  certFingerprint : Option String
  deriving DecidableEq, Repr, Inhabited

/-- The outcome of one rule. -/
structure RuleTrace where
  ruleId : String
  matched : Bool
  effect : String
  reason : Option String
  deriving DecidableEq, Repr, Inhabited

/-- The explanation of a decision. -/
structure Trace where
  policyId : Uuid
  policyVersion : Nat
  principal : Option PrincipalTrace
  evaluatedRules : List RuleTrace
  inputContext : Value
  timing : Timing
  engine : String
  validations : List String
  deriving DecidableEq, Repr, Inhabited

/-- The outcome of evaluating a request. -/
structure Decision where
  allow : Bool
  reason : String
  traceId : String
  trace : Option Trace
  requireApproval : Bool
  hints : List String
  deriving DecidableEq, Repr, Inhabited

namespace Json

/-- An identifier as a document. -/
def Value.uuid (u : Uuid) : Value := .string u.text

/-- A point in time as a document. -/
def Value.time (t : Timestamp) : Value := .string t.text

/-- An identifier, written as a string. -/
def Decoder.uuid : Decoder Uuid := fun t => (Decoder.string t).bind Uuid.ofText?

/-- A point in time, written as a string. -/
def Decoder.time : Decoder Timestamp := fun t => (Decoder.string t).bind Timestamp.ofText?

end Json

namespace PrincipalTrace

def json (p : PrincipalTrace) : Value :=
  .object <| textField "org_id" p.orgId ++ textField "agent_id" p.agentId ++
    optionalField "spiffe_id" p.spiffeId .string ++
    optionalField "authn_kind" p.authnKind .string ++
    optionalField "cert_fingerprint" p.certFingerprint .string

def decode : Decoder PrincipalTrace := Decoder.record do
  let orgId ← Fields.withDefault "org_id" Decoder.string ""
  let agentId ← Fields.withDefault "agent_id" Decoder.string ""
  let spiffeId ← Fields.optional "spiffe_id" Decoder.string
  let authnKind ← Fields.optional "authn_kind" Decoder.string
  let certFingerprint ← Fields.optional "cert_fingerprint" Decoder.string
  return ⟨orgId, agentId, spiffeId, authnKind, certFingerprint⟩

end PrincipalTrace

namespace RuleTrace

def json (r : RuleTrace) : Value :=
  .object <| field "rule_id" (.string r.ruleId) ++ field "matched" (.bool r.matched) ++
    field "effect" (.string r.effect) ++ optionalField "reason" r.reason .string

def decode : Decoder RuleTrace := Decoder.record do
  let ruleId ← Fields.required "rule_id" Decoder.string
  let matched ← Fields.required "matched" Decoder.bool
  let effect ← Fields.required "effect" Decoder.string
  let reason ← Fields.optional "reason" Decoder.string
  return ⟨ruleId, matched, effect, reason⟩

end RuleTrace

namespace Trace

/-- A trace in which no rule has been looked at yet. The policy is filled in by the engine. -/
def start (engine : String) (input : Value) (timing : Timing) : Trace :=
  { policyId := .nil, policyVersion := 0, principal := none, evaluatedRules := [],
    inputContext := input, timing, engine, validations := [] }

def json (t : Trace) : Value :=
  .object <| field "policy_id" (.uuid t.policyId) ++
    field "policy_version" (.nat t.policyVersion) ++
    optionalField "principal" t.principal PrincipalTrace.json ++
    field "evaluated_rules" (.array (t.evaluatedRules.map RuleTrace.json)) ++
    field "input_context" t.inputContext ++ field "duration_ms" (.nat t.timing.durationMs) ++
    field "at" (.time t.timing.time) ++ field "engine" (.string t.engine) ++
    listField "validations" t.validations .string

def decode : Decoder Trace := Decoder.record do
  let policyId ← Fields.required "policy_id" Decoder.uuid
  let policyVersion ← Fields.required "policy_version" (Decoder.unsigned 32)
  let principal ← Fields.optional "principal" PrincipalTrace.decode
  let evaluatedRules ← Fields.required "evaluated_rules" (Decoder.list RuleTrace.decode)
  let inputContext ← Fields.withDefault "input_context" Decoder.document .null
  let durationMs ← Fields.required "duration_ms" (Decoder.unsigned 64)
  let time ← Fields.required "at" Decoder.time
  let engine ← Fields.required "engine" Decoder.string
  let validations ← Fields.withDefault "validations" Decoder.strings []
  return { policyId, policyVersion, principal, evaluatedRules, inputContext,
           timing := ⟨time, durationMs⟩, engine, validations }

end Trace

namespace Decision

/-- A refusal with a reason and nothing else. -/
def deny (reason : String) : Decision :=
  { allow := false, reason, traceId := "", trace := none, requireApproval := false, hints := [] }

def json (d : Decision) : Value :=
  .object <| field "allow" (.bool d.allow) ++ textField "reason" d.reason ++
    textField "trace_id" d.traceId ++ optionalField "trace" d.trace Trace.json ++
    flagField "require_approval" d.requireApproval ++ listField "hints" d.hints .string

def decode : Decoder Decision := Decoder.record do
  let allow ← Fields.required "allow" Decoder.bool
  let reason ← Fields.withDefault "reason" Decoder.string ""
  let traceId ← Fields.withDefault "trace_id" Decoder.string ""
  let trace ← Fields.optional "trace" Trace.decode
  let requireApproval ← Fields.withDefault "require_approval" Decoder.bool false
  let hints ← Fields.withDefault "hints" Decoder.strings []
  return { allow, reason, traceId, trace, requireApproval, hints }

end Decision

end Mandate
