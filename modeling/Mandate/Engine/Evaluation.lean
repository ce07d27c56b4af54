import Mandate.Config
import Mandate.Engine.Context
import Mandate.Engine.Request
import Mandate.Engine.Routing
import Mandate.Occasion
import Mandate.Policy.CompiledCache
import Mandate.Policy.Version
import Mandate.Relation.Reach

/-!
# Evaluating a request

A request passes several gates before a policy is evaluated. Its organisation must have an active
assignment, of which one is chosen by a stable bucket. A request into another organisation needs
a contract whose scope covers it. A request about a resource needs a caller who may act for the
organisation. A rollout may then put another version in place. Whatever goes wrong on this way is
a refusal; nothing that goes wrong allows.

The collaborators are asked through functions that may fail. What an evaluation leaves behind is
collected in `Progress`.
-/

namespace Mandate.Evaluation

open Mandate.Json

/-- The wording of the refusals before evaluation. -/
def noAssignment : String := "No active policy assignment"

def noDelegation : String := "No delegation to act for org"

def unsupportedEngine : String := "Unsupported engine"

/-- The relation that lets an agent act for an organisation. -/
def canActFor : String := "can_act_for"

/-- Those whom an evaluation asks. -/
structure Collaborators where
  assignments : (org : Uuid) → Except PolicyError (List ActiveAssignment)
  rollout : (org policy : Uuid) → Except PolicyError (Option PolicyRollout)
  version : (policy : Uuid) → (version : Nat) → Except PolicyError PolicyVersion
  contract : (org counterparty : Uuid) → Except DecisionError (Option Federation.Contract)
  check : (subject : Relation.Node) → (relation : String) → (object : Relation.Node) →
    Except GraphError Relation.CheckResult
  evaluator : (engine : String) → Except PolicyError Evaluator

/-- What an evaluation leaves behind. -/
structure Progress where
  risk : Risk.Tracker
  compiled : CompiledCache
  /-- Records for the ledger, to be written later. -/
  events : List AuditRecord := []
  /-- The subject and the object about which the graph was asked. -/
  asked : Option (Relation.Node × Relation.Node) := none

/-- A step of an evaluation. It may end it with a refusal. -/
abbrev Gate := ExceptT Decision (StateM Progress)

/-- End an evaluation with a refusal. -/
def refuse {α : Type} (reason : String) : Gate α :=
  throw (Decision.deny reason)

/-- Leave a record for the ledger. -/
def note (event : AuditRecord) : Gate Unit :=
  modify fun p => { p with events := p.events ++ [event] }

/-- A record about a request into another organisation. -/
def federationEvent (request : Request) (action : AuditAction) (details : Members) :
    AuditRecord :=
  { orgId := request.orgId, action, payload := .object details }

/-- Choose one of the active assignments of an organisation. -/
def selectAssignment (c : Collaborators) (request : Request) : Gate ActiveAssignment := do
  match c.assignments request.orgId with
  | .error _ => refuse noAssignment
  | .ok assignments =>
      let key := Routing.selectionKey request.orgId.text request.agent request.action
        request.resource
      match assignments[Routing.selectIndex key assignments.length]? with
      | some selected => return selected
      | none => refuse noAssignment

/-- Refuse a request into an organisation with which there is no contract. -/
def refuseWithoutContract {α : Type} (request : Request) (target : Uuid) : Gate α := do
  note <| federationEvent request .federationBoundaryCrossing <|
    field "allowed" (.bool false) ++ field "reason" (.string "no_contract") ++
      field "to_org_id" (.uuid target)
  refuse Federation.noContract

/-- Check a request into another organisation. Gives the scope of the contract. -/
def checkFederation (c : Collaborators) (config : Config) (request : Request) (target : Uuid) :
    Gate Federation.Scope := do
  match c.contract request.orgId target with
  | .error _ => refuseWithoutContract request target
  | .ok none => refuseWithoutContract request target
  | .ok (some contract) =>
      let scope := contract.scope
      if !scope.permitsAction request.action then
        note <| federationEvent request .federationScopeDenied <|
          field "action" (.string request.action) ++
            field "reason" (.string "action_not_allowed") ++ field "to_org_id" (.uuid target)
        refuse Federation.actionNotAllowed
      if !scope.permitsResource request.resource then
        note <| federationEvent request .federationScopeDenied <|
          field "reason" (.string "resource_not_allowed") ++
            field "resource" (.string request.resource) ++ field "to_org_id" (.uuid target)
        refuse Federation.resourceNotAllowed
      note <| federationEvent request .federationBoundaryCrossing <|
        field "allowed" (.bool true) ++ field "to_org_id" (.uuid target)
      if config.zeroTrustCrossOrg && request.principal.authnKind ≠ some Federation.attest then
        refuse Federation.attestationRequired
      return scope

/-- Check a request into another organisation, if it is one. -/
def federate (c : Collaborators) (config : Config) (request : Request) :
    Gate (Option (Uuid × Federation.Scope)) := do
  match request.counterparty? with
  | none => return none
  | some target => return some (target, ← checkFederation c config request target)

/-- The subject and the object of the question whether a caller may act for an organisation. -/
def delegation (agent : String) (org : Uuid) : Relation.Node × Relation.Node :=
  (⟨"agent", agent⟩, ⟨"org", org.text⟩)

/-- Check that the caller may act for the organisation, if a resource is named. -/
def checkDelegation (c : Collaborators) (request : Request) : Gate Unit := do
  if request.resource.isEmpty then return ()
  let (subject, object) := delegation request.agent request.actingFor
  modify fun p => { p with asked := some (subject, object) }
  match c.check subject canActFor object with
  | .ok result => if !result.allowed then refuse noDelegation
  | .error _ => refuse noDelegation

/-- The version that a rollout puts in place of the active one. A rollout that cannot be looked
up, or whose version cannot, changes nothing. -/
def routedVersion (c : Collaborators) (request : Request) (selected : ActiveAssignment) :
    PolicyVersion :=
  match c.rollout request.orgId selected.policy.id with
  | .ok (some rollout) =>
      let bucket := Routing.canaryBucket request.orgId.text request.agent selected.policy.id.text
      if bucket < rollout.percent then
        match c.version selected.policy.id rollout.version with
        | .ok version => version
        | .error _ => selected.version
      else selected.version
  | _ => selected.version

/-- Read the risk signals of the caller. -/
def readSignals (request : Request) (clock : Nat) : Gate Risk.Signals := do
  let progress ← get
  let (signals, risk) := progress.risk.signals request.orgId.text request.agent clock
  set { progress with risk }
  return signals

/-- The context on which a policy is evaluated, with the members that the engine writes. -/
def evaluationContext (request : Request) (signals : Risk.Signals)
    (federation : Option (Uuid × Federation.Scope)) : Value :=
  let context := Context.withSignals request.context signals
  match federation with
  | some (target, scope) => Context.withFederation context target scope
  | none => context

/-- The artifact of a version, compiled if it is not kept already. -/
def artifactOf (evaluator : Evaluator) (policy : Uuid) (version : PolicyVersion) :
    Gate Artifact := do
  let progress ← get
  match progress.compiled.get? policy version.version with
  | some artifact => return artifact
  | none =>
      match evaluator.compile version.body with
      | .error e => refuse e.message
      | .ok artifact =>
          set { progress with compiled := progress.compiled.put policy version.version artifact }
          return artifact

/-- An evaluation that came to its end. -/
structure Evaluated where
  decision : Decision
  policy : Policy
  /-- The number of the version that was evaluated. -/
  version : Nat
  signals : Risk.Signals
  /-- The canonical context. -/
  context : Value
  deriving DecidableEq, Repr

/-- Evaluate a request. -/
def evaluate (c : Collaborators) (config : Config) (request : Request) (on : Occasion) :
    Gate Evaluated := do
  let selected ← selectAssignment c request
  let federation ← federate c config request
  checkDelegation c request
  let version := routedVersion c request selected
  let signals ← readSignals request on.signalsClock
  match c.evaluator selected.policy.engine with
  | .error _ => refuse unsupportedEngine
  | .ok evaluator =>
      let artifact ← artifactOf evaluator selected.policy.id version
      let context := (evaluationContext request signals federation).sorted
      match evaluator.evaluate artifact context on.timing with
      | .error e => refuse e.message
      | .ok decision =>
          return { decision, policy := selected.policy, version := version.version, signals,
                   context }

end Mandate.Evaluation
