import Mandate.Proofs.Policy.Run

/-! # Operations that write in place

A repository is one record that operations read and write in place, so what has been written stays
when an operation fails after it. Here every operation is written out as such work, with its reads
and writes in their order. Approving and activating look the version up once more after they have
written, and would fail with their writes done if it were not there.

On well-formed records nothing fails once something has been written: an operation in place answers
what `RepositoryOperation.run` says, and one that fails has written nothing.
-/

namespace Mandate

open Mandate.Json Mandate.Time

/-- Work on the stored records. What it has written by the time at which it fails stays. -/
abbrev InPlace := ExceptT PolicyError (StateM Repository)

namespace InPlace

variable {α β : Type}

/-- Read the records. -/
def read (query : Repository → Except PolicyError α) : InPlace α := fun repo => (query repo, repo)

/-- Write to the records. -/
def write (change : Repository → Repository) : InPlace Unit := modify change

variable {repo : Repository} {query : Repository → Except PolicyError α}

theorem read_bind_of_ok {a : α} (hread : query repo = .ok a) (next : α → InPlace β) :
    (read query >>= next) repo = next a repo := by
  rw [bind_apply, read, hread]

theorem read_bind_of_error {e : PolicyError} (hread : query repo = .error e)
    (next : α → InPlace β) : (read query >>= next) repo = (.error e, repo) := by
  rw [bind_apply, read, hread]

end InPlace

namespace RepositoryOperation

open InPlace

/-- Put a signature down: first its key in the index, which tells whether it is new, and then the
signature itself. -/
def signInPlace (policy : Uuid) (version : Nat) (user : Uuid) (now : Timestamp) : InPlace Bool := do
  if (← get).approvalKeys.contains (policy, version, user) then return false
  write fun repo =>
    { repo with approvalKeys := repo.approvalKeys ++ [(policy, version, user)] }
  write fun repo =>
    { repo with approvals := repo.approvals ++ [⟨policy, version, user, now⟩] }
  return true

/-- An operation as work in place. -/
def inPlace (now : Timestamp) : RepositoryOperation → InPlace RepositoryAnswer
  | .createPolicy id orgId name engine createdBy => do
      let policy : Policy := { id, orgId, name, engine, createdBy, createdAt := now }
      write fun repo => { repo with policies := repo.policies.filter (·.id != id) ++ [policy] }
      return .policy policy
  | .getPolicy policy => do return .policy (← read (·.getPolicy policy))
  | .addVersion policy body createdBy => do
      let _ ← read (·.getPolicy policy)
      let next := (← get).nextVersion policy
      let version := PolicyVersion.draft policy next body createdBy now
      write fun repo => { repo with versions := repo.versions ++ [version] }
      return .version version
  | .getVersion policy version => do return .version (← read (·.getVersion policy version))
  | .listVersions policy => do return .versions (← read (·.listVersions policy))
  | .assign policy scopeType scopeId => do
      let _ ← read (·.getPolicy policy)
      let assignment : PolicyAssignment := ⟨policy, scopeType, scopeId, now⟩
      write fun repo => { repo with assignments := repo.assignments ++ [assignment] }
      return .assignment assignment
  | .activeAssignments org => do return .assignments ((← get).activeAssignments org)
  | .recordApproval policy version user => do
      let _ ← read (·.getVersion policy version)
      return .isNew (← signInPlace policy version user now)
  | .countApprovals policy version => do return .count ((← get).countApprovals policy version)
  | .approveVersion policy version approvedBy => do
      let target ← read (·.getVersion policy version)
      if !target.status.canBecome .approved then
        throw (.invalidTransition policy version target.status.name VersionStatus.approved.name)
      if target.status = .draft then
        write (·.updateVersion policy version (·.approved approvedBy now))
      return .version (← read (·.getVersion policy version))
  | .activateVersion policy version => do
      let target ← read (·.getVersion policy version)
      if target.status ≠ .approved then throw (.notApproved version target.status.name)
      write (·.promote policy version now)
      return .version (← read (·.getVersion policy version))
  | .putRollout orgId policy version percent active => do
      let _ ← read (·.getVersion policy version)
      write fun repo => { repo with rollouts := repo.rollouts ++
        [{ orgId, policyId := policy, version, percent, active, createdAt := now }] }
      return .done
  | .activeRollout org policy => do return .rollout ((← get).activeRollout? org policy)

variable {repo : Repository} {policy : Uuid} {version : Nat} {user : Uuid} {now : Timestamp}

theorem signInPlace_eq : signInPlace policy version user now repo =
    (.ok (!repo.approvalKeys.contains (policy, version, user)),
      repo.sign policy version user now) := by
  change (if repo.approvalKeys.contains (policy, version, user) then pure false
    else _ : InPlace Bool) repo = _
  unfold Repository.sign
  split
  next hold =>
    rw [hold]
    rfl
  next hnew =>
    rw [Bool.not_eq_true] at hnew
    rw [hnew]
    rfl

section Outcome

variable {α : Type} {operation : RepositoryOperation} {query : Repository → Except PolicyError α}
  {next : α → InPlace RepositoryAnswer}

/-- Work that begins with a failing look fails with it. -/
theorem outcome_of_read_error {β : Type} {found : α → Except PolicyError β}
    {wrap : β → RepositoryAnswer × Repository} {e : PolicyError} (hread : query repo = .error e)
    (hrun : operation.run now repo = (query repo >>= found).map wrap) :
    (read query >>= next) repo = RepositoryEvent.outcome ⟨repo, operation, now⟩ := by
  rw [Fallible.bind_of_error hread] at hrun
  rw [read_bind_of_error hread, RepositoryEvent.outcome_of_error hrun]

/-- Work that begins with a look goes on with what has been found. -/
theorem outcome_of_read_ok {a : α} {answer : RepositoryAnswer} {written : Repository}
    (hread : query repo = .ok a) (hrun : operation.run now repo = .ok (answer, written))
    (hnext : next a repo = (.ok answer, written)) :
    (read query >>= next) repo = RepositoryEvent.outcome ⟨repo, operation, now⟩ := by
  rw [read_bind_of_ok hread, hnext, RepositoryEvent.outcome_of_ok hrun]

/-- A question in place. -/
theorem outcome_of_question {wrap : α → RepositoryAnswer}
    (hrun : operation.run now repo = (query repo).map (answering repo wrap)) :
    (do return wrap (← read query) : InPlace RepositoryAnswer) repo =
      RepositoryEvent.outcome ⟨repo, operation, now⟩ := by
  cases hquery : query repo with
  | error e =>
      rw [hquery] at hrun
      rw [read_bind_of_error hquery, RepositoryEvent.outcome_of_error hrun]
  | ok a => exact outcome_of_read_ok hquery (by rw [hrun, hquery]; rfl) rfl

end Outcome

/-- A version that is looked up once more after a write. -/
theorem write_bind_getVersion {change : Repository → Repository} {v : PolicyVersion}
    (hfound : (change repo).getVersion policy version = .ok v) :
    (do write change; return .version (← read (·.getVersion policy version)) :
      InPlace RepositoryAnswer) repo = (.ok (.version v), change repo) := by
  rw [bind_apply]
  exact read_bind_of_ok hfound _

theorem approveInPlace_eq_outcome (approvedBy : Option Uuid) :
    (approveVersion policy version approvedBy).inPlace now repo =
      RepositoryEvent.outcome ⟨repo, .approveVersion policy version approvedBy, now⟩ := by
  have hrun : (approveVersion policy version approvedBy).run now repo =
      (repo.approveVersion policy version approvedBy now).map (answered .version) := rfl
  cases hfound : repo.getVersion policy version with
  | error e =>
      exact outcome_of_read_error hfound rfl
  | ok found =>
      cases hstatus : found.status with
      | draft =>
          rw [Repository.approveVersion_of_draft hfound hstatus] at hrun
          refine outcome_of_read_ok hfound hrun ?_
          simp only [hstatus, VersionStatus.canBecome, Bool.not_true, Bool.false_eq_true,
            ↓reduceIte]
          exact write_bind_getVersion
            (Repository.getVersion_updateVersion (·.approved approvedBy now) (fun _ => rfl) hfound)
      | approved =>
          rw [Repository.approveVersion_of_approved hfound hstatus] at hrun
          refine outcome_of_read_ok hfound hrun ?_
          simp only [hstatus, VersionStatus.canBecome, Bool.not_true, Bool.false_eq_true,
            ↓reduceIte, reduceCtorEq]
          exact read_bind_of_ok hfound _
      | active =>
          rw [Repository.approveVersion_of_active hfound hstatus] at hrun
          rw [inPlace, read_bind_of_ok hfound, RepositoryEvent.outcome_of_error hrun]
          simp only [hstatus, VersionStatus.canBecome, Bool.not_false, ↓reduceIte]
          rfl

theorem activateInPlace_eq_outcome :
    (activateVersion policy version).inPlace now repo =
      RepositoryEvent.outcome ⟨repo, .activateVersion policy version, now⟩ := by
  have hrun : (activateVersion policy version).run now repo =
      (repo.activateVersion policy version now).map (answered .version) := rfl
  cases hfound : repo.getVersion policy version with
  | error e =>
      exact outcome_of_read_error hfound rfl
  | ok found =>
      by_cases happroved : found.status = .approved
      · rw [Repository.activateVersion_of_approved hfound happroved] at hrun
        refine outcome_of_read_ok hfound hrun ?_
        simp only [happroved, ne_eq, not_true_eq_false, ↓reduceIte]
        exact write_bind_getVersion (Repository.getVersion_promote hfound)
      · rw [Repository.activateVersion_of_not_approved hfound happroved] at hrun
        rw [inPlace, read_bind_of_ok hfound, RepositoryEvent.outcome_of_error hrun]
        simp only [happroved, ne_eq, not_false_eq_true, ↓reduceIte]
        rfl

/-- Work in place comes to what an operation answers and leaves behind. In particular it has
written nothing when it fails. -/
theorem inPlace_eq_outcome (repo : Repository) (operation : RepositoryOperation)
    (now : Timestamp) :
    operation.inPlace now repo = RepositoryEvent.outcome ⟨repo, operation, now⟩ := by
  cases operation with
  | createPolicy id orgId name engine createdBy => rfl
  | getPolicy policy => exact outcome_of_question rfl
  | addVersion policy body createdBy =>
      cases hfound : repo.getPolicy policy with
      | error e =>
          exact outcome_of_read_error hfound rfl
      | ok found =>
          refine outcome_of_read_ok hfound ?_ rfl
          rw [run, Repository.addVersion_of_getPolicy hfound]
          rfl
  | getVersion policy version => exact outcome_of_question rfl
  | listVersions policy => exact outcome_of_question rfl
  | assign policy scopeType scopeId =>
      cases hfound : repo.getPolicy policy with
      | error e =>
          exact outcome_of_read_error hfound rfl
      | ok found =>
          refine outcome_of_read_ok hfound ?_ rfl
          rw [run, Repository.assign_of_getPolicy hfound]
          rfl
  | activeAssignments org => rfl
  | recordApproval policy version user =>
      cases hfound : repo.getVersion policy version with
      | error e =>
          exact outcome_of_read_error hfound rfl
      | ok found =>
          have hsigned : (do return .isNew (← signInPlace policy version user now) :
              InPlace RepositoryAnswer) repo =
                (.ok (.isNew (!repo.approvalKeys.contains (policy, version, user))),
                  repo.sign policy version user now) := by
            rw [bind_apply, signInPlace_eq]
            rfl
          refine outcome_of_read_ok hfound ?_ hsigned
          rw [run, Repository.recordApproval_of_getVersion hfound]
          rfl
  | countApprovals policy version => rfl
  | approveVersion policy version approvedBy => exact approveInPlace_eq_outcome approvedBy
  | activateVersion policy version => exact activateInPlace_eq_outcome
  | putRollout orgId policy version percent active =>
      cases hfound : repo.getVersion policy version with
      | error e =>
          exact outcome_of_read_error hfound rfl
      | ok found =>
          refine outcome_of_read_ok hfound ?_ rfl
          rw [run, Repository.putRollout_of_getVersion hfound]
          rfl
  | activeRollout org policy => rfl

end RepositoryOperation

end Mandate
