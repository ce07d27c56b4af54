import Mandate.Policy.Error
import Mandate.Policy.Version

/-!
# The policy repository

Policies, their versions, and what refers to them. Every operation is one step: it either fails
and says why, or yields its answer together with the next state. So a failed operation has no
effect, numbers are never handed out twice, and two versions of a policy are never active at
once.
-/

namespace Mandate

open Mandate.Json Mandate.Time

/-- The stored records, each list in the order of arrival. -/
structure Repository where
  policies : List Policy := []
  versions : List PolicyVersion := []
  approvals : List PolicyApproval := []
  /-- Who has approved which version, as an index of the approvals. -/
  approvalKeys : List (Uuid × Nat × Uuid) := []
  assignments : List PolicyAssignment := []
  rollouts : List PolicyRollout := []
  deriving DecidableEq, Repr, Inhabited

namespace Repository

/-- The policy with an identifier. -/
def getPolicy (repo : Repository) (policy : Uuid) : Except PolicyError Policy :=
  match repo.policies.find? (·.id == policy) with
  | some p => .ok p
  | none => .error (.notFound policy)

/-- The versions of a policy in the order in which they were added. -/
def versionsOf (repo : Repository) (policy : Uuid) : List PolicyVersion :=
  repo.versions.filter (·.policyId == policy)

/-- A version of a policy. -/
def getVersion (repo : Repository) (policy : Uuid) (version : Nat) :
    Except PolicyError PolicyVersion :=
  match (repo.versionsOf policy).find? (·.version == version) with
  | some v => .ok v
  | none => .error (.versionNotFound policy version)

/-- Add a policy under a fresh identifier. -/
def createPolicy (repo : Repository) (id orgId : Uuid) (name engine : String)
    (createdBy : Option Uuid) (now : Timestamp) : Except PolicyError (Policy × Repository) :=
  let policy : Policy := { id, orgId, name, engine, createdBy, createdAt := now }
  .ok (policy, { repo with policies := repo.policies.filter (·.id != id) ++ [policy] })

/-- The number that the next version of a policy gets: one more than the largest so far. -/
def nextVersion (repo : Repository) (policy : Uuid) : Nat :=
  ((repo.versionsOf policy).map (·.version)).foldl max 0 + 1

/-- Add the next version of a policy, as a draft. -/
def addVersion (repo : Repository) (policy : Uuid) (body : Value) (createdBy : Option Uuid)
    (now : Timestamp) : Except PolicyError (PolicyVersion × Repository) := do
  let _ ← repo.getPolicy policy
  let version := PolicyVersion.draft policy (repo.nextVersion policy) body createdBy now
  return (version, { repo with versions := repo.versions ++ [version] })

/-- All versions of a policy, the newest first. -/
def listVersions (repo : Repository) (policy : Uuid) : Except PolicyError (List PolicyVersion) := do
  let _ ← repo.getPolicy policy
  return (repo.versionsOf policy).mergeSort fun a b => b.version ≤ a.version

/-- Bind a policy to a scope. -/
def assign (repo : Repository) (policy : Uuid) (scopeType : ScopeType) (scopeId : String)
    (now : Timestamp) : Except PolicyError (PolicyAssignment × Repository) := do
  let _ ← repo.getPolicy policy
  let assignment : PolicyAssignment := ⟨policy, scopeType, scopeId, now⟩
  return (assignment, { repo with assignments := repo.assignments ++ [assignment] })

/-- The active version of a policy. -/
def activeVersion? (repo : Repository) (policy : Uuid) : Option PolicyVersion :=
  (repo.versionsOf policy).find? (·.status == .active)

/-- Each element once, where it first occurs. -/
def firstOccurrences (l : List Uuid) : List Uuid :=
  l.foldl (fun seen u => if seen.contains u then seen else seen ++ [u]) []

/-- The policies bound to an organisation as such, each once, in the order of their first
assignment. -/
def assignedPolicies (repo : Repository) (org : Uuid) : List Uuid :=
  firstOccurrences <| (repo.assignments.filter fun a =>
    a.scopeType == .org && a.scopeId == org.text).map (·.policyId)

/-- A policy with its active version, if it has both. -/
def activeAssignment? (repo : Repository) (policy : Uuid) : Option ActiveAssignment := do
  let p ← repo.policies.find? (·.id == policy)
  let v ← repo.activeVersion? policy
  return ⟨p, v⟩

/-- The policies in force for an organisation, with their active versions. Higher version numbers
come first; among equal ones the order of the assignments stays. -/
def activeAssignments (repo : Repository) (org : Uuid) : List ActiveAssignment :=
  ((repo.assignedPolicies org).filterMap repo.activeAssignment?).mergeSort fun a b =>
    b.version.version ≤ a.version.version

/-- Put a signature down, unless it is there already. -/
def sign (repo : Repository) (policy : Uuid) (version : Nat) (user : Uuid) (now : Timestamp) :
    Repository :=
  if repo.approvalKeys.contains (policy, version, user) then repo
  else
    { repo with
      approvals := repo.approvals ++ [⟨policy, version, user, now⟩]
      approvalKeys := repo.approvalKeys ++ [(policy, version, user)] }

/-- Record a signature under a version. The answer is whether it is new. -/
def recordApproval (repo : Repository) (policy : Uuid) (version : Nat) (user : Uuid)
    (now : Timestamp) : Except PolicyError (Bool × Repository) := do
  let _ ← repo.getVersion policy version
  return (!repo.approvalKeys.contains (policy, version, user), repo.sign policy version user now)

/-- The number of signatures under a version. -/
def countApprovals (repo : Repository) (policy : Uuid) (version : Nat) : Nat :=
  (repo.approvals.filter fun a => a.policyId == policy && a.version == version).length

/-- Change one version of a policy in place. -/
def updateVersion (repo : Repository) (policy : Uuid) (version : Nat)
    (change : PolicyVersion → PolicyVersion) : Repository :=
  { repo with versions := repo.versions.map fun v =>
      if v.policyId = policy ∧ v.version = version then change v else v }

/-- Mark a draft as approved. An approved version stays as it is. -/
def approveVersion (repo : Repository) (policy : Uuid) (version : Nat) (approvedBy : Option Uuid)
    (now : Timestamp) : Except PolicyError (PolicyVersion × Repository) := do
  let target ← repo.getVersion policy version
  if !target.status.canBecome .approved then
    throw (.invalidTransition policy version target.status.name VersionStatus.approved.name)
  if target.status = .draft then
    return (target.approved approvedBy now,
      repo.updateVersion policy version (·.approved approvedBy now))
  else return (target, repo)

/-- Put one version of a policy in force. All other versions of the policy become drafts. -/
def promote (repo : Repository) (policy : Uuid) (version : Nat) (now : Timestamp) : Repository :=
  { repo with versions := repo.versions.map fun v =>
      if v.policyId ≠ policy then v
      else if v.version = version then v.activated now
      else v.demoted }

/-- Make an approved version the active one. -/
def activateVersion (repo : Repository) (policy : Uuid) (version : Nat) (now : Timestamp) :
    Except PolicyError (PolicyVersion × Repository) := do
  let target ← repo.getVersion policy version
  if target.status ≠ .approved then throw (.notApproved version target.status.name)
  return (target.activated now, repo.promote policy version now)

/-- Store a rollout of an existing version. -/
def putRollout (repo : Repository) (rollout : PolicyRollout) : Except PolicyError Repository := do
  let _ ← repo.getVersion rollout.policyId rollout.version
  return { repo with rollouts := repo.rollouts ++ [rollout] }

/-- The latest rollout of a policy for an organisation that is in force. -/
def activeRollout? (repo : Repository) (org policy : Uuid) : Option PolicyRollout :=
  repo.rollouts.reverse.find? fun r => r.active && r.orgId == org && r.policyId == policy

end Repository

end Mandate
