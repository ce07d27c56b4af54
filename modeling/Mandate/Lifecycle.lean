import Mandate.Engine.Error
import Mandate.Ledger.Sink
import Mandate.Occasion
import Mandate.Policy.CompiledCache
import Mandate.Policy.Operation

/-!
# The life of a policy version

Managing policies puts rules around the repository. A body has to compile before it is stored and
before it is signed; a version is approved once enough people have signed it; and it is activated
only after a simulation with it has allowed. What changes a policy drops its compiled artifacts
and is published, so that others can do the same. Signatures and activations are recorded in the
ledger of the nil organisation.

Approving and activating take several calls to the repository, and others may act between two of
them, so each of the two is a machine whose every step makes at most one call.
-/

namespace Mandate

open Mandate.Json Mandate.Time

/-- What managing policies and deciding requests share. -/
structure Lifecycle where
  /-- How many people have to sign a version; zero counts as one. -/
  approvalsRequired : Nat := 2
  repository : Repository := {}
  registry : Registry := .builtin
  compiled : CompiledCache := {}
  audit : AuditSink := .absent
  /-- The policies whose changes were published, in order. -/
  published : List Uuid := []
  /-- The calls to the repository that fail at present. -/
  failing : List RepositoryCall := []

/-- The result of a signature. -/
structure ApprovalOutcome where
  policyId : Uuid
  version : Nat
  /-- How many people have signed so far. -/
  approvals : Nat
  /-- Whether the version is approved now, or active already. -/
  approved : Bool
  deriving DecidableEq, Repr, Inhabited

namespace ApprovalOutcome

def json (o : ApprovalOutcome) : Value :=
  .object <| field "policy_id" (.uuid o.policyId) ++ field "version" (.nat o.version) ++
    field "approvals" (.nat o.approvals) ++ field "approved" (.bool o.approved)

def decode : Decoder ApprovalOutcome := Decoder.record do
  let policyId ← Fields.required "policy_id" Decoder.uuid
  let version ← Fields.required "version" (Decoder.unsigned 32)
  let approvals ← Fields.required "approvals" (Decoder.unsigned 64)
  let approved ← Fields.required "approved" Decoder.bool
  return ⟨policyId, version, approvals, approved⟩

end ApprovalOutcome

/-- The wording of a failure of somebody out of reach. -/
def outOfReach : String := "down"

namespace Lifecycle

/-- How many people have to sign a version, which is at least one. -/
def quorum (l : Lifecycle) : Nat := max l.approvalsRequired 1

/-- Ask the repository. -/
def ask {α : Type} (l : Lifecycle) (call : RepositoryCall)
    (query : Repository → Except PolicyError α) : Except PolicyError α :=
  if l.failing.contains call then .error (.storage outOfReach) else query l.repository

/-- Have the repository change something. -/
def change {α : Type} (l : Lifecycle) (call : RepositoryCall)
    (update : Repository → Except PolicyError (α × Repository)) :
    Except PolicyError (α × Lifecycle) :=
  (l.ask call update).map fun (a, repository) => (a, { l with repository })

/-- Compile a body with a policy's engine. -/
def compile (l : Lifecycle) (policy : Policy) (body : Value) : Except PolicyError Artifact := do
  (← l.registry.get policy.engine).compile body

/-- Evaluate an artifact of a policy on a context. -/
def evaluate (l : Lifecycle) (policy : Policy) (artifact : Artifact) (context : Value)
    (on : Occasion) : Except PolicyError Decision := do
  (← l.registry.get policy.engine).evaluate artifact context.sorted on.timing

/-- Publish that a policy has changed. -/
def publish (l : Lifecycle) (policy : Uuid) : Lifecycle :=
  { l with published := l.published ++ [policy] }

/-- Drop the artifacts of a policy and publish that it has changed. -/
def invalidate (l : Lifecycle) (policy : Uuid) : Lifecycle :=
  { l with compiled := l.compiled.erasePolicy policy }.publish policy

/-- Record an event in the ledger. -/
def record (l : Lifecycle) (event : AuditRecord) (on : Occasion) : Lifecycle :=
  { l with audit := l.audit.record Digest.hex event on.stamp }

/-- Carry out an operation on the repository. -/
def perform (l : Lifecycle) (operation : RepositoryOperation) (now : Timestamp) :
    Except PolicyError (RepositoryAnswer × Lifecycle) :=
  l.change operation.call (operation.run now)

/-- Turn a failed policy operation into a failure of the engine. -/
def failed {α : Type} (l : Lifecycle) (error : PolicyError) : Except DecisionError α × Lifecycle :=
  (.error (.policy error), l)

/-- Create a policy. -/
def createPolicy (l : Lifecycle) (orgId : Uuid) (name engine : String) (createdBy : Option Uuid)
    (on : Occasion) : Except DecisionError Policy × Lifecycle :=
  match l.change .createPolicy (·.createPolicy on.id orgId name engine createdBy on.time) with
  | .error e => l.failed e
  | .ok (policy, l) => (.ok policy, l)

/-- Add a version of a policy. Its body has to compile. -/
def addVersion (l : Lifecycle) (policyId : Uuid) (body : Value) (createdBy : Option Uuid)
    (on : Occasion) : Except DecisionError PolicyVersion × Lifecycle :=
  match l.ask .getPolicy (·.getPolicy policyId) with
  | .error e => l.failed e
  | .ok policy =>
      match l.compile policy body with
      | .error e => l.failed e
      | .ok _ =>
          match l.change .addVersion (·.addVersion policyId body createdBy on.time) with
          | .error e => l.failed e
          | .ok (version, l) => (.ok version, l.invalidate policyId)

/-- Evaluate a version on a context. Nothing changes. -/
def simulate (l : Lifecycle) (policyId : Uuid) (version : Nat) (context : Value)
    (on : Occasion) : Except DecisionError Decision :=
  Except.mapError DecisionError.policy do
    let policy ← l.ask .getPolicy (·.getPolicy policyId)
    let current ← l.ask .getVersion (·.getVersion policyId version)
    let artifact ← l.compile policy current.body
    l.evaluate policy artifact context on

/-- Bind a policy to a scope. -/
def assign (l : Lifecycle) (policyId : Uuid) (scopeType : ScopeType) (scopeId : String)
    (on : Occasion) : Except DecisionError PolicyAssignment × Lifecycle :=
  match l.change .assign (·.assign policyId scopeType scopeId on.time) with
  | .error e => l.failed e
  | .ok (assignment, l) => (.ok assignment, l.invalidate policyId)

/-- Send a percentage of an organisation's requests to a version. More than a hundred counts as a
hundred. -/
def setRollout (l : Lifecycle) (orgId policyId : Uuid) (version percent : Nat) (on : Occasion) :
    Except DecisionError PolicyRollout × Lifecycle :=
  let rollout : PolicyRollout :=
    { orgId, policyId, version, percent := min percent 100, active := true,
      createdAt := on.time }
  match l.change .putRollout (fun repo => (repo.putRollout rollout).map ((), ·)) with
  | .error e => l.failed e
  | .ok (_, l) => (.ok rollout, l.publish policyId)

/-- The ledger record of a signature. -/
def approvalRecord (policy : Policy) (version approvals : Nat) (user : Uuid) : AuditRecord :=
  { orgId := .nil
    action := .policyVersionApproval
    payload := .object <| field "approvals" (.nat approvals) ++
      field "org_id" (.uuid policy.orgId) ++ field "policy_id" (.uuid policy.id) ++
      field "version" (.nat version)
    actorUser := some user }

/-- The ledger record of an activation. -/
def activationRecord (policy : Policy) (version : Nat) : AuditRecord :=
  { orgId := .nil
    action := .policyVersionActivate
    payload := .object <| field "org_id" (.uuid policy.orgId) ++
      field "policy_id" (.uuid policy.id) ++ field "version" (.nat version) }

/-- What a step leads to: a further stage, or the end. -/
inductive Progress (Stage α : Type) where
  | next (stage : Stage)
  | ended (result : Except DecisionError α)

/-- An operation that fails. -/
def Progress.failed {Stage α : Type} (error : PolicyError) : Progress Stage α :=
  .ended (.error (.policy error))

/-- How far a signature has come. -/
inductive Approval where
  | begun
  | policyFound (policy : Policy)
  | bodyCompiled (policy : Policy) (current : PolicyVersion)
  | signed (policy : Policy) (current : PolicyVersion)
  | counted (policy : Policy) (current : PolicyVersion) (approvals : Nat)
  | settled (policy : Policy) (approvals : Nat) (approved : Bool)

namespace Approval

/-- One step of a signature. The version keeps the status that it had when it was looked up, even
if it changes in the meantime. -/
def step (policyId : Uuid) (version : Nat) (user : Uuid) (on : Occasion) (l : Lifecycle) :
    Approval → Progress Approval ApprovalOutcome × Lifecycle
  | .begun =>
      match l.ask .getPolicy (·.getPolicy policyId) with
      | .error e => (.failed e, l)
      | .ok policy => (.next (.policyFound policy), l)
  | .policyFound policy =>
      match l.ask .getVersion (·.getVersion policyId version) with
      | .error e => (.failed e, l)
      | .ok current =>
          match l.compile policy current.body with
          | .error e => (.failed e, l)
          | .ok _ => (.next (.bodyCompiled policy current), l)
  | .bodyCompiled policy current =>
      match l.change .recordApproval (·.recordApproval policyId version user on.time) with
      | .error e => (.failed e, l)
      | .ok (_, l) => (.next (.signed policy current), l)
  | .signed policy current =>
      match l.ask .countApprovals (fun repo => .ok (repo.countApprovals policyId version)) with
      | .error e => (.failed e, l)
      | .ok approvals => (.next (.counted policy current approvals), l)
  | .counted policy current approvals =>
      if current.status = .active then (.next (.settled policy approvals true), l)
      else if l.quorum ≤ approvals then
        match l.change .approveVersion (·.approveVersion policyId version (some user) on.time) with
        | .error e => (.failed e, l)
        | .ok (_, l) => (.next (.settled policy approvals true), l)
      else (.next (.settled policy approvals false), l)
  | .settled policy approvals approved =>
      (.ended (.ok ⟨policyId, version, approvals, approved⟩),
        (l.invalidate policyId).record (approvalRecord policy version approvals user) on)

/-- How many steps are left at most. -/
def remaining : Approval → Nat
  | .begun => 6
  | .policyFound _ => 5
  | .bodyCompiled .. => 4
  | .signed .. => 3
  | .counted .. => 2
  | .settled .. => 1

theorem remaining_lt_of_step {policyId : Uuid} {version : Nat} {user : Uuid} {on : Occasion}
    {l l' : Lifecycle} {a b : Approval}
    (h : step policyId version user on l a = (.next b, l')) : b.remaining < a.remaining := by
  cases a <;> simp only [step] at h <;> (repeat' split at h) <;>
    simp [Progress.failed] at h <;> simp [← h.1, remaining]

/-- Take the steps of a signature to its end with nobody in between. -/
def run (policyId : Uuid) (version : Nat) (user : Uuid) (on : Occasion) (a : Approval)
    (l : Lifecycle) : Except DecisionError ApprovalOutcome × Lifecycle :=
  match _h : step policyId version user on l a with
  | (.ended result, l) => (result, l)
  | (.next b, l) => run policyId version user on b l
termination_by a.remaining
decreasing_by exact remaining_lt_of_step _h

end Approval

/-- Sign a version. Once enough people have signed, it is approved. -/
def approve (l : Lifecycle) (policyId : Uuid) (version : Nat) (user : Uuid) (on : Occasion) :
    Except DecisionError ApprovalOutcome × Lifecycle :=
  Approval.run policyId version user on .begun l

/-- How far an activation has come. -/
inductive Activation where
  | begun
  | policyFound (policy : Policy)
  | simulated (policy : Policy) (artifact : Artifact)
  | activated (policy : Policy) (artifact : Artifact) (result : PolicyVersion)

namespace Activation

/-- One step of an activation. -/
def step (policyId : Uuid) (version : Nat) (context : Value) (on : Occasion) (l : Lifecycle) :
    Activation → Progress Activation PolicyVersion × Lifecycle
  | .begun =>
      match l.ask .getPolicy (·.getPolicy policyId) with
      | .error e => (.failed e, l)
      | .ok policy => (.next (.policyFound policy), l)
  | .policyFound policy =>
      match l.ask .getVersion (·.getVersion policyId version) with
      | .error e => (.failed e, l)
      | .ok current =>
          match l.compile policy current.body with
          | .error e => (.failed e, l)
          | .ok artifact =>
              match l.evaluate policy artifact context on with
              | .error e => (.failed e, l)
              | .ok decision =>
                  if decision.allow then (.next (.simulated policy artifact), l)
                  else (.ended (.error (.simulationDenied decision.reason)), l)
  | .simulated policy artifact =>
      match l.change .activateVersion (·.activateVersion policyId version on.time) with
      | .error e => (.failed e, l)
      | .ok (result, l) => (.next (.activated policy artifact result), l)
  | .activated policy artifact result =>
      let l := { l with
        compiled := (l.compiled.erasePolicy policyId).put policyId version artifact }
      (.ended (.ok result), (l.publish policyId).record (activationRecord policy version) on)

/-- How many steps are left at most. -/
def remaining : Activation → Nat
  | .begun => 4
  | .policyFound _ => 3
  | .simulated .. => 2
  | .activated .. => 1

theorem remaining_lt_of_step {policyId : Uuid} {version : Nat} {context : Value} {on : Occasion}
    {l l' : Lifecycle} {a b : Activation}
    (h : step policyId version context on l a = (.next b, l')) : b.remaining < a.remaining := by
  cases a <;> simp only [step] at h <;> (repeat' split at h) <;>
    simp [Progress.failed] at h <;> simp [← h.1, remaining]

/-- Take the steps of an activation to its end with nobody in between. -/
def run (policyId : Uuid) (version : Nat) (context : Value) (on : Occasion) (a : Activation)
    (l : Lifecycle) : Except DecisionError PolicyVersion × Lifecycle :=
  match _h : step policyId version context on l a with
  | (.ended result, l) => (result, l)
  | (.next b, l) => run policyId version context on b l
termination_by a.remaining
decreasing_by exact remaining_lt_of_step _h

end Activation

/-- Activate an approved version, provided that a simulation on a context allows. Its artifact is
kept for the decisions to come. -/
def activate (l : Lifecycle) (policyId : Uuid) (version : Nat) (context : Value) (on : Occasion) :
    Except DecisionError PolicyVersion × Lifecycle :=
  Activation.run policyId version context on .begun l

end Lifecycle

/-- An operation on policies under the rules of their life. -/
inductive LifecycleOperation where
  | createPolicy (orgId : Uuid) (name engine : String) (createdBy : Option Uuid)
  | addVersion (policy : Uuid) (body : Value) (createdBy : Option Uuid)
  | approve (policy : Uuid) (version : Nat) (user : Uuid)
  | simulate (policy : Uuid) (version : Nat) (context : Value)
  | activate (policy : Uuid) (version : Nat) (context : Value)
  | assign (policy : Uuid) (scopeType : ScopeType) (scopeId : String)
  | setRollout (orgId policy : Uuid) (version percent : Nat)
  deriving DecidableEq, Repr, Inhabited

/-- What an operation on policies answers. -/
inductive LifecycleAnswer where
  | policy (policy : Policy)
  | version (version : PolicyVersion)
  | approval (outcome : ApprovalOutcome)
  | decision (decision : Decision)
  | assignment (assignment : PolicyAssignment)
  | rollout (rollout : PolicyRollout)
  deriving DecidableEq, Repr, Inhabited

namespace LifecycleOperation

/-- The answer to an operation, with the policies as they are afterwards. -/
def answered {α : Type} (answer : α → LifecycleAnswer)
    (result : Except DecisionError α × Lifecycle) :
    Except DecisionError LifecycleAnswer × Lifecycle :=
  (result.1.map answer, result.2)

/-- Carry an operation out. -/
def run (on : Occasion) (l : Lifecycle) :
    LifecycleOperation → Except DecisionError LifecycleAnswer × Lifecycle
  | .createPolicy orgId name engine createdBy =>
      answered .policy (l.createPolicy orgId name engine createdBy on)
  | .addVersion policy body createdBy =>
      answered .version (l.addVersion policy body createdBy on)
  | .approve policy version user => answered .approval (l.approve policy version user on)
  | .simulate policy version context =>
      ((l.simulate policy version context on).map .decision, l)
  | .activate policy version context =>
      answered .version (l.activate policy version context on)
  | .assign policy scopeType scopeId =>
      answered .assignment (l.assign policy scopeType scopeId on)
  | .setRollout orgId policy version percent =>
      answered .rollout (l.setRollout orgId policy version percent on)

end LifecycleOperation

end Mandate
