import Mandate.Policy.Repository
import Mandate.Rules.RuleSet

/-!
# Operations on a repository

Everything that can be asked of a repository, as a value, so that a run of a repository is a list
of operations. An operation that fails leaves the repository as it is.
-/

namespace Mandate

open Mandate.Json Mandate.Time

/-- The calls to a repository. -/
inductive RepositoryCall where
  | createPolicy
  | getPolicy
  | addVersion
  | getVersion
  | listVersions
  | assign
  | activeAssignments
  | recordApproval
  | countApprovals
  | approveVersion
  | activateVersion
  | putRollout
  | activeRollout
  deriving DecidableEq, Repr, Inhabited

namespace RepositoryCall

def name : RepositoryCall → String
  | .createPolicy => "create_policy"
  | .getPolicy => "get_policy"
  | .addVersion => "add_version"
  | .getVersion => "get_version"
  | .listVersions => "list_versions"
  | .assign => "assign"
  | .activeAssignments => "active_assignments_for_org"
  | .recordApproval => "record_approval"
  | .countApprovals => "count_approvals"
  | .approveVersion => "approve_version"
  | .activateVersion => "activate_version"
  | .putRollout => "put_rollout"
  | .activeRollout => "active_rollout"

/-- All calls. -/
def all : List RepositoryCall :=
  [.createPolicy, .getPolicy, .addVersion, .getVersion, .listVersions, .assign,
    .activeAssignments, .recordApproval, .countApprovals, .approveVersion, .activateVersion,
    .putRollout, .activeRollout]

/-- The call of a name. -/
def ofName? (name : String) : Option RepositoryCall :=
  all.find? (·.name == name)

end RepositoryCall

/-- An operation on a repository. -/
inductive RepositoryOperation where
  | createPolicy (id orgId : Uuid) (name engine : String) (createdBy : Option Uuid)
  | getPolicy (policy : Uuid)
  | addVersion (policy : Uuid) (body : Value) (createdBy : Option Uuid)
  | getVersion (policy : Uuid) (version : Nat)
  | listVersions (policy : Uuid)
  | assign (policy : Uuid) (scopeType : ScopeType) (scopeId : String)
  | activeAssignments (org : Uuid)
  | recordApproval (policy : Uuid) (version : Nat) (user : Uuid)
  | countApprovals (policy : Uuid) (version : Nat)
  | approveVersion (policy : Uuid) (version : Nat) (approvedBy : Option Uuid)
  | activateVersion (policy : Uuid) (version : Nat)
  | putRollout (orgId policy : Uuid) (version percent : Nat) (active : Bool)
  | activeRollout (org policy : Uuid)
  deriving DecidableEq, Repr, Inhabited

/-- What a repository answers. -/
inductive RepositoryAnswer where
  | policy (policy : Policy)
  | version (version : PolicyVersion)
  | versions (versions : List PolicyVersion)
  | assignment (assignment : PolicyAssignment)
  | assignments (assignments : List ActiveAssignment)
  | isNew (isNew : Bool)
  | count (count : Nat)
  | rollout (rollout : Option PolicyRollout)
  | done
  deriving DecidableEq, Repr, Inhabited

namespace RepositoryOperation

/-- The call that an operation makes. -/
def call : RepositoryOperation → RepositoryCall
  | .createPolicy .. => .createPolicy
  | .getPolicy .. => .getPolicy
  | .addVersion .. => .addVersion
  | .getVersion .. => .getVersion
  | .listVersions .. => .listVersions
  | .assign .. => .assign
  | .activeAssignments .. => .activeAssignments
  | .recordApproval .. => .recordApproval
  | .countApprovals .. => .countApprovals
  | .approveVersion .. => .approveVersion
  | .activateVersion .. => .activateVersion
  | .putRollout .. => .putRollout
  | .activeRollout .. => .activeRollout

/-- An answer to a question, which leaves the repository as it is. -/
def answering {α : Type} (repo : Repository) (answer : α → RepositoryAnswer) (a : α) :
    RepositoryAnswer × Repository :=
  (answer a, repo)

/-- The answer to a change, with the repository after it. -/
def answered {α : Type} (answer : α → RepositoryAnswer) (result : α × Repository) :
    RepositoryAnswer × Repository :=
  (answer result.1, result.2)

/-- Carry an operation out. -/
def run (now : Timestamp) (repo : Repository) :
    RepositoryOperation → Except PolicyError (RepositoryAnswer × Repository)
  | .createPolicy id orgId name engine createdBy =>
      (repo.createPolicy id orgId name engine createdBy now).map (answered .policy)
  | .getPolicy policy => (repo.getPolicy policy).map (answering repo .policy)
  | .addVersion policy body createdBy =>
      (repo.addVersion policy body createdBy now).map (answered .version)
  | .getVersion policy version =>
      (repo.getVersion policy version).map (answering repo .version)
  | .listVersions policy => (repo.listVersions policy).map (answering repo .versions)
  | .assign policy scopeType scopeId =>
      (repo.assign policy scopeType scopeId now).map (answered .assignment)
  | .activeAssignments org => .ok (.assignments (repo.activeAssignments org), repo)
  | .recordApproval policy version user =>
      (repo.recordApproval policy version user now).map (answered .isNew)
  | .countApprovals policy version => .ok (.count (repo.countApprovals policy version), repo)
  | .approveVersion policy version approvedBy =>
      (repo.approveVersion policy version approvedBy now).map (answered .version)
  | .activateVersion policy version =>
      (repo.activateVersion policy version now).map (answered .version)
  | .putRollout orgId policy version percent active =>
      let rollout : PolicyRollout :=
        { orgId, policyId := policy, version, percent, active, createdAt := now }
      (repo.putRollout rollout).map (RepositoryAnswer.done, ·)
  | .activeRollout org policy => .ok (.rollout (repo.activeRollout? org policy), repo)

end RepositoryOperation

end Mandate
