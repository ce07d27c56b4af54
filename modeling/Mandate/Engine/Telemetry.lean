import Mandate.Decision

/-!
# Traces and reputations

What is kept about past decisions: their traces, and for every agent how often it went on asking
at a spiked rate after a refusal. An agent begins with a reliability of 95 at its first violation
and loses five at every further one.
-/

namespace Mandate

open Mandate.Json

/-- A trace as it is kept. -/
structure TraceRecord where
  traceId : String
  orgId : Uuid
  agentId : String
  allow : Bool
  reason : String
  trace : Trace
  deriving DecidableEq, Repr, Inhabited

namespace TraceRecord

def json (r : TraceRecord) : Value :=
  .object <| field "trace_id" (.string r.traceId) ++ field "org_id" (.uuid r.orgId) ++
    textField "agent_id" r.agentId ++ field "allow" (.bool r.allow) ++
    textField "reason" r.reason ++ field "trace" r.trace.json

def decode : Decoder TraceRecord := Decoder.record do
  let traceId ← Fields.required "trace_id" Decoder.string
  let orgId ← Fields.required "org_id" Decoder.uuid
  let agentId ← Fields.withDefault "agent_id" Decoder.string ""
  let allow ← Fields.required "allow" Decoder.bool
  let reason ← Fields.withDefault "reason" Decoder.string ""
  let trace ← Fields.required "trace" Trace.decode
  return { traceId, orgId, agentId, allow, reason, trace }

end TraceRecord

/-- How far an agent can be relied on. -/
structure Reputation where
  violations : Nat
  reliability : Nat
  deriving DecidableEq, Repr, Inhabited

namespace Reputation

/-- The reputation after a first violation. -/
def first : Reputation := ⟨1, 95⟩

/-- The reputation after a further violation. -/
def lowered (r : Reputation) : Reputation :=
  ⟨r.violations + 1, r.reliability - 5⟩

def json (r : Reputation) : Value :=
  .object <| field "violations" (.nat r.violations) ++ field "reliability" (.nat r.reliability)

end Reputation

/-- The reputations of all agents that have one. -/
structure Reputations where
  entries : List ((Uuid × String) × Reputation) := []
  deriving DecidableEq, Repr, Inhabited

namespace Reputations

/-- The reputation of an agent. -/
def get? (r : Reputations) (org : Uuid) (agent : String) : Option Reputation :=
  r.entries.lookup (org, agent)

/-- The reputation of an agent after one more violation. -/
def afterViolation (r : Reputations) (org : Uuid) (agent : String) : Reputation :=
  match r.get? org agent with
  | some reputation => reputation.lowered
  | none => .first

/-- Count a violation. -/
def recordViolation (r : Reputations) (org : Uuid) (agent : String) : Reputations :=
  ⟨((org, agent), r.afterViolation org agent) :: r.entries.filter (·.1 != (org, agent))⟩

end Reputations

/-- Where something is kept: nowhere, where every write fails, or in memory. -/
inductive Sink (α : Type) where
  | absent
  | failing
  | memory (content : α)
  deriving DecidableEq, Repr, Inhabited

namespace Sink

variable {α : Type}

/-- Whether there is a sink at all. -/
def isPresent : Sink α → Bool
  | .absent => false
  | _ => true

/-- Write to a sink. A failure is not reported to anyone. -/
def write (change : α → α) : Sink α → Sink α
  | .memory content => .memory (change content)
  | other => other

/-- What the sink holds. -/
def content? : Sink α → Option α
  | .memory content => some content
  | _ => none

end Sink

end Mandate
