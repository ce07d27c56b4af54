import Mandate.Engine.Evaluation
import Mandate.Engine.Metrics
import Mandate.Engine.Pool
import Mandate.Engine.Telemetry
import Mandate.Lifecycle
import Mandate.Relation.Client
import Mandate.Token.Compact

/-!
# The decision engine

A decision begins with admission: a limit on the requests under way may turn it away. Then the
request is counted as a risk and evaluated. What is to be kept about an evaluated decision goes
to the background. A request for a token leaves the decision waiting for the signer, and while it
waits other decisions may begin and end; the answer of the signer decides about the token alone.

A decision always ends in a response, and whatever went wrong is a refusal.
-/

namespace Mandate

open Mandate.Json

/-- Work that is done in the background. -/
inductive BackgroundTask where
  | recordEvent (event : AuditRecord)
  | lowerReputation (org : Uuid) (agent : String)
  | keepTrace (record : TraceRecord) (event : AuditRecord)
  deriving DecidableEq, Repr, Inhabited

/-- A decision engine with everything that it works on. -/
structure Engine where
  config : Config
  lifecycle : Lifecycle
  graph : Relation.Client
  contracts : Federation.Contracts := {}
  /-- Whether the contracts are out of reach. -/
  contractsFail : Bool := false
  signer : Option Token.Signer := none
  traces : Sink (List TraceRecord) := .absent
  reputations : Sink Reputations := .absent
  risk : Risk.Tracker
  metrics : Metrics := {}
  background : Pool BackgroundTask
  /-- How many decisions wait for the signer. -/
  inflight : Nat := 0

/-- A decision that waits for the signer. -/
structure PendingToken where
  response : Response
  /-- What the signer is to sign. -/
  unsigned : String
  deriving DecidableEq, Repr, Inhabited

/-- How the beginning of a decision ends. -/
inductive Begun where
  | answered (response : Response)
  | waiting (pending : PendingToken)
  deriving DecidableEq, Repr, Inhabited

namespace Engine

/-- The wording of the refusal of a request that is not admitted. -/
def overloaded : String := "Verify overloaded"

/-- An engine with nothing to do yet. -/
def start (config : Config) (lifecycle : Lifecycle) (graph : Relation.Client) : Engine where
  config := config
  lifecycle := lifecycle
  graph := graph
  risk := .start (config.riskWindowSecs * 1000) config.riskSpikeThreshold
  background := .start config.backgroundWorkers config.backgroundQueue

/-- Those whom the evaluation of a request asks. -/
def collaborators (e : Engine) (clock : Nat) : Evaluation.Collaborators where
  assignments org :=
    e.lifecycle.ask .activeAssignments fun repo => .ok (repo.activeAssignments org)
  rollout org policy :=
    e.lifecycle.ask .activeRollout fun repo => .ok (repo.activeRollout? org policy)
  version policy version := e.lifecycle.ask .getVersion (·.getVersion policy version)
  contract org counterparty :=
    if e.contractsFail then .error (.store outOfReach)
    else .ok (e.contracts.active? org counterparty)
  check subject relation object := (e.graph.check clock subject relation object).1
  evaluator engine := e.lifecycle.registry.get engine

/-- Whether one more request is admitted. -/
def admits (e : Engine) : Bool :=
  e.config.maxInflight = 0 || e.inflight < e.config.maxInflight

/-- Submit a task to the background, and count it if it is dropped. -/
def submit (e : Engine) (task : BackgroundTask) : Engine :=
  match e.background.submit task with
  | (true, background) => { e with background }
  | (false, background) => { e with background, metrics := e.metrics.dropped }

/-- Record an event later, if there is a ledger. -/
def recordLater (e : Engine) (event : AuditRecord) : Engine :=
  if e.lifecycle.audit.isPresent then e.submit (.recordEvent event) else e

/-- Take over what an evaluation has left behind. -/
def absorb (e : Engine) (clock : Nat) (progress : Evaluation.Progress) : Engine :=
  let graph := match progress.asked with
    | some (subject, object) => (e.graph.check clock subject Evaluation.canActFor object).2
    | none => e.graph
  let taken : Engine :=
    { e with
      graph
      risk := progress.risk
      lifecycle := { e.lifecycle with compiled := progress.compiled } }
  progress.events.foldl recordLater taken

/-- Fill the policy and the caller into the trace of a decision. -/
def explain (request : Request) (evaluated : Evaluation.Evaluated) : Decision :=
  let decision := evaluated.decision
  { decision with trace := decision.trace.map fun t =>
      { t with
        policyId := evaluated.policy.id
        policyVersion := evaluated.version
        principal := some request.principalTrace } }

/-- Lower the reputation of an agent later that goes on asking at a spiked rate. -/
def lowerReputationLater (e : Engine) (request : Request) (decision : Decision)
    (signals : Risk.Signals) : Engine :=
  if !decision.allow && signals.hasFlag Risk.rateSpike && e.reputations.isPresent &&
      !request.agent.isEmpty then
    e.submit (.lowerReputation request.orgId request.agent)
  else e

/-- The ledger record of an evaluated decision. -/
def decisionEvent (request : Request) (policy : Uuid) (version : Nat) (decision : Decision) :
    AuditRecord :=
  { orgId := request.orgId
    action := .decisionTraceRecorded
    payload := .object <| field "allow" (.bool decision.allow) ++
      field "policy_id" (.uuid policy) ++ field "reason" (.string decision.reason) ++
      field "trace_id" (.string decision.traceId) ++ field "version" (.nat version)
    actorAgent := if request.agent.isEmpty then none else some request.agent }

/-- Keep the trace of a decision later, if anybody keeps traces or records. -/
def keepTraceLater (e : Engine) (request : Request) (policy : Uuid) (version : Nat)
    (decision : Decision) : Engine :=
  match decision.trace with
  | none => e
  | some trace =>
      if e.traces.isPresent || e.lifecycle.audit.isPresent then
        let record : TraceRecord :=
          { traceId := decision.traceId, orgId := request.orgId, agentId := request.agent,
            allow := decision.allow, reason := decision.reason, trace }
        e.submit (.keepTrace record (decisionEvent request policy version decision))
      else e

/-- Count a decision. -/
def countDecision (e : Engine) (request : Request) (allow : Bool) (reason : String) : Engine :=
  { e with metrics := e.metrics.decision request.orgId.text allow reason }

/-- What a token says about a decision. -/
def tokenSubject (request : Request) (evaluated : Evaluation.Evaluated) (response : Response) :
    Token.Subject :=
  { orgId := request.orgId.text, agentId := request.agent, policyId := evaluated.policy.id.text,
    policyVersion := evaluated.version, allow := response.allow, reason := response.reason,
    traceId := response.traceId }

/-- Turn to the signer, if a token is asked for. Without a signer there is no token. -/
def requestToken (e : Engine) (request : Request) (evaluated : Evaluation.Evaluated)
    (response : Response) (on : Occasion) : Begun × Engine :=
  if !request.includeTrustToken then (.answered response, e)
  else
    match e.signer with
    | none => (.answered response, { e with metrics := e.metrics.token false })
    | some signer =>
        let claims := Token.Claims.issue (tokenSubject request evaluated response)
          (Digest.contextHash evaluated.context) e.config.trustTokenTtlSecs on.time on.id
        let unsigned := Token.unsigned signer.algorithm signer.keyId claims
        (.waiting ⟨response, unsigned⟩, { e with inflight := e.inflight + 1 })

/-- Go on from the end of an evaluation: count its decision, leave work for the background, and
turn to the signer. -/
def conclude (e : Engine) (request : Request) (on : Occasion)
    (result : Except Decision Evaluation.Evaluated) : Begun × Engine :=
  match result with
  | .error refusal =>
      (.answered (.ofDecision refusal), e.countDecision request false refusal.reason)
  | .ok evaluated =>
      let decision := explain request evaluated
      let e := e.countDecision request decision.allow decision.reason
      let e := e.lowerReputationLater request decision evaluated.signals
      let e := e.keepTraceLater request evaluated.policy.id evaluated.version decision
      e.requestToken request evaluated (.ofDecision decision) on

/-- With what an evaluation begins: the request counts as a risk already. -/
def entering (e : Engine) (request : Request) (on : Occasion) : Evaluation.Progress :=
  { risk := e.risk.record request.orgId.text request.agent on.clock
    compiled := e.lifecycle.compiled }

/-- Begin a decision in which given collaborators are asked: everything up to the signer. -/
def beginWith (e : Engine) (c : Evaluation.Collaborators) (request : Request) (on : Occasion) :
    Begun × Engine :=
  if !e.admits then
    (.answered (.ofDecision (.deny overloaded)), { e with metrics := e.metrics.quickReject })
  else
    let (result, progress) :=
      Evaluation.evaluate c e.config request on (e.entering request on)
    (e.absorb on.clock progress).conclude request on result

/-- Begin a decision, asking the engine's own collaborators. -/
def begin (e : Engine) (request : Request) (on : Occasion) : Begun × Engine :=
  e.beginWith (e.collaborators on.clock) request on

/-- End a decision with the answer of the signer. -/
def finish (e : Engine) (pending : PendingToken) (answer : Token.Answer) : Response × Engine :=
  let e := { e with inflight := e.inflight - 1 }
  match Token.complete pending.unsigned e.config.signerTimeoutMs answer with
  | .ok token =>
      ({ pending.response with token := some token }, { e with metrics := e.metrics.token true })
  | .error _ => (pending.response, { e with metrics := e.metrics.token false })

/-- Do one task. What fails is lost. -/
def perform (e : Engine) (task : BackgroundTask) (stamp : Stamp) : Engine :=
  let record (event : AuditRecord) (e : Engine) : Engine :=
    { e with lifecycle := { e.lifecycle with
        audit := e.lifecycle.audit.record Digest.hex event stamp } }
  match task with
  | .recordEvent event => record event e
  | .lowerReputation org agent =>
      { e with reputations := e.reputations.write (·.recordViolation org agent) }
  | .keepTrace trace event =>
      record event { e with traces := e.traces.write (· ++ [trace]) }

/-- Do tasks in order, the first with the first stamp. -/
def performAll (e : Engine) (stamps : Nat → Stamp) : List BackgroundTask → Engine
  | [] => e
  | task :: rest => (e.perform task (stamps 0)).performAll (fun n => stamps (n + 1)) rest

/-- Let the workers do all that is queued. -/
def work (e : Engine) (stamps : Nat → Stamp) : Engine :=
  let tasks := e.background.running ++ e.background.queue
  { e with background := e.background.drain }.performAll stamps tasks

/-- Close the background and do all that is queued. -/
def shutdown (e : Engine) (stamps : Nat → Stamp) : Engine :=
  { e with background := e.background.close }.work stamps

/-- Decide a request with nobody in between, asking given collaborators. The workers get on with
their tasks while the signer keeps silent. -/
def decideWith (e : Engine) (c : Evaluation.Collaborators) (request : Request) (on : Occasion)
    (stamps : Nat → Stamp) : Response × Engine :=
  match e.beginWith c request on with
  | (.answered response, e) => (response, e)
  | (.waiting pending, e) =>
      let answer := match e.signer with
        | some signer => signer.sign (Text.utf8 pending.unsigned)
        | none => .silence
      match answer with
      | .silence => (e.work stamps).finish pending answer
      | _ => e.finish pending answer

/-- Decide a request with nobody in between, asking the engine's own collaborators. -/
def decide (e : Engine) (request : Request) (on : Occasion) (stamps : Nat → Stamp) :
    Response × Engine :=
  e.decideWith (e.collaborators on.clock) request on stamps

/-- Decide requests one after the other, each on an occasion of its own. -/
def decideAll (e : Engine) (on : Nat → Occasion) (stamps : Nat → Stamp) :
    List Request → List Response × Engine
  | [] => ([], e)
  | request :: rest =>
      let (response, e) := e.decide request (on 0) stamps
      let (responses, e) := e.decideAll (fun n => on (n + 1)) stamps rest
      (response :: responses, e)

end Engine

end Mandate
