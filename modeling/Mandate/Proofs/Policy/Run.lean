import Mandate.Policy.Operation
import Mandate.Proofs.Policy.Repository

/-! # Runs of operations on a repository

What an operation does is said once, by its `Effect`: an operation that succeeds has one of few
effects, and one that fails leaves everything as it is. From the effects follows how the stored
versions come out of an operation: each is changed in place or stays, and at most one draft is
added behind them. What every operation preserves holds after every run.
-/

namespace Mandate

open Mandate.Json Mandate.Time

/-- An operation on a repository at a time. -/
structure TimedOperation where
  operation : RepositoryOperation
  now : Timestamp

/-- An operation together with the repository on which it is carried out. -/
structure RepositoryEvent where
  before : Repository
  timed : TimedOperation

namespace RepositoryEvent

/-- What the operation answers and leaves behind. One that fails leaves everything as it is. -/
def outcome (e : RepositoryEvent) : Except PolicyError RepositoryAnswer × Repository :=
  match e.timed.operation.run e.timed.now e.before with
  | .ok (answer, next) => (.ok answer, next)
  | .error error => (.error error, e.before)

/-- What the operation answers. -/
def answer (e : RepositoryEvent) : Except PolicyError RepositoryAnswer := e.outcome.1

/-- What the operation leaves behind. -/
def after (e : RepositoryEvent) : Repository := e.outcome.2

variable {repo next : Repository} {operation : RepositoryOperation} {now : Timestamp}

theorem outcome_of_ok {answer : RepositoryAnswer}
    (hrun : operation.run now repo = .ok (answer, next)) :
    outcome ⟨repo, operation, now⟩ = (.ok answer, next) := by
  simp [outcome, hrun]

theorem outcome_of_error {error : PolicyError} (hrun : operation.run now repo = .error error) :
    outcome ⟨repo, operation, now⟩ = (.error error, repo) := by
  simp [outcome, hrun]

end RepositoryEvent

namespace Repository

/-- The repository after a run. -/
def afterAll (repo : Repository) : List TimedOperation → Repository
  | [] => repo
  | timed :: rest => (RepositoryEvent.mk repo timed).after.afterAll rest

/-- The history of a run. -/
def history (repo : Repository) : List TimedOperation → List RepositoryEvent
  | [] => []
  | timed :: rest => ⟨repo, timed⟩ :: (RepositoryEvent.mk repo timed).after.history rest

/-- What every operation preserves holds after every run. -/
theorem afterAll_invariant (invariant : List RepositoryEvent → Repository → Prop)
    (hstep : ∀ past repo timed, invariant past repo →
      invariant (past ++ [⟨repo, timed⟩]) (RepositoryEvent.mk repo timed).after)
    (operations : List TimedOperation) (past : List RepositoryEvent) (repo : Repository)
    (hstart : invariant past repo) :
    invariant (past ++ repo.history operations) (repo.afterAll operations) := by
  induction operations generalizing past repo with
  | nil => simpa [history, afterAll] using hstart
  | cons timed rest ih =>
      have hrest := ih _ _ (hstep past repo timed hstart)
      rwa [List.append_assoc, List.singleton_append] at hrest

end Repository

/-! ## Effects -/

/-- Whether an operation only asks. -/
def RepositoryOperation.isQuestion : RepositoryOperation → Bool
  | .getPolicy _ | .getVersion .. | .listVersions _ | .activeAssignments _ | .countApprovals .. |
    .activeRollout .. => true
  | _ => false

/-- What an operation that succeeds answers and leaves behind. -/
inductive Effect (repo : Repository) (now : Timestamp) :
    RepositoryOperation → RepositoryAnswer → Repository → Prop where
  | asked {operation answer} (hquestion : operation.isQuestion = true) :
      Effect repo now operation answer repo
  | created {id orgId name engine createdBy} (added : Policy) :
      Effect repo now (.createPolicy id orgId name engine createdBy) (.policy added)
        { repo with policies := repo.policies.filter (·.id != id) ++ [added] }
  | added {policy body createdBy} {found : Policy} {added : PolicyVersion}
      (hfound : repo.getPolicy policy = .ok found)
      (hadded : added = .draft policy (repo.nextVersion policy) body createdBy now) :
      Effect repo now (.addVersion policy body createdBy) (.version added)
        { repo with versions := repo.versions ++ [added] }
  | assigned {policy scopeType scopeId} (assignment : PolicyAssignment) :
      Effect repo now (.assign policy scopeType scopeId) (.assignment assignment)
        { repo with assignments := repo.assignments ++ [assignment] }
  | signed {policy version user} {found : PolicyVersion}
      (hfound : repo.getVersion policy version = .ok found) (isNew : Bool) :
      Effect repo now (.recordApproval policy version user) (.isNew isNew)
        (repo.sign policy version user now)
  | approved {policy version approvedBy} {found : PolicyVersion}
      (hfound : repo.getVersion policy version = .ok found) (hdraft : found.status = .draft) :
      Effect repo now (.approveVersion policy version approvedBy)
        (.version (found.approved approvedBy now))
        (repo.updateVersion policy version (·.approved approvedBy now))
  | approvedAlready {policy version approvedBy} {found : PolicyVersion}
      (hfound : repo.getVersion policy version = .ok found)
      (happroved : found.status = .approved) :
      Effect repo now (.approveVersion policy version approvedBy) (.version found) repo
  | activated {policy version} {found : PolicyVersion}
      (hfound : repo.getVersion policy version = .ok found)
      (happroved : found.status = .approved) :
      Effect repo now (.activateVersion policy version) (.version (found.activated now))
        (repo.promote policy version now)
  | rolledOut {orgId policy version percent active} (rollout : PolicyRollout) :
      Effect repo now (.putRollout orgId policy version percent active) .done
        { repo with rollouts := repo.rollouts ++ [rollout] }

namespace RepositoryOperation

variable {repo next : Repository} {now : Timestamp} {operation : RepositoryOperation}
  {answer : RepositoryAnswer}

theorem map_answered_ok {α : Type} {wrap : α → RepositoryAnswer}
    {result : Except PolicyError (α × Repository)}
    (hok : result.map (answered wrap) = .ok (answer, next)) :
    ∃ a, result = .ok (a, next) ∧ answer = wrap a := by
  obtain ⟨changed, hresult, hanswer⟩ := Fallible.exists_of_map_eq_ok hok
  cases hanswer
  exact ⟨changed.1, hresult, rfl⟩

theorem map_answering_ok {α : Type} {wrap : α → RepositoryAnswer} {result : Except PolicyError α}
    (hok : result.map (answering repo wrap) = .ok (answer, next)) : next = repo := by
  obtain ⟨a, -, hanswer⟩ := Fallible.exists_of_map_eq_ok hok
  cases hanswer
  rfl

/-- An operation that succeeds has one of the effects. -/
theorem effect_of_run (hrun : operation.run now repo = .ok (answer, next)) :
    Effect repo now operation answer next := by
  cases operation with
  | createPolicy id orgId name engine createdBy =>
      cases hrun
      exact .created _
  | getPolicy policy =>
      obtain rfl := map_answering_ok hrun
      exact .asked rfl
  | addVersion policy body createdBy =>
      obtain ⟨added, hadd, rfl⟩ := map_answered_ok hrun
      obtain ⟨found, hfound, hadded, rfl⟩ := Repository.addVersion_eq_ok hadd
      exact .added hfound hadded
  | getVersion policy version =>
      obtain rfl := map_answering_ok hrun
      exact .asked rfl
  | listVersions policy =>
      obtain rfl := map_answering_ok hrun
      exact .asked rfl
  | assign policy scopeType scopeId =>
      obtain ⟨assignment, hassign, rfl⟩ := map_answered_ok hrun
      obtain ⟨found, -, rfl⟩ := Repository.assign_eq_ok hassign
      exact .assigned assignment
  | activeAssignments org =>
      cases hrun
      exact .asked rfl
  | recordApproval policy version user =>
      obtain ⟨isNew, hrecord, rfl⟩ := map_answered_ok hrun
      obtain ⟨found, hfound, rfl⟩ := Repository.recordApproval_eq_ok hrecord
      exact .signed hfound isNew
  | countApprovals policy version =>
      cases hrun
      exact .asked rfl
  | approveVersion policy version approvedBy =>
      obtain ⟨v, happrove, rfl⟩ := map_answered_ok hrun
      obtain ⟨found, hfound, ⟨hdraft, rfl, rfl⟩ | ⟨happroved, rfl, rfl⟩⟩ :=
        Repository.approveVersion_eq_ok happrove
      · exact .approved hfound hdraft
      · exact .approvedAlready hfound happroved
  | activateVersion policy version =>
      obtain ⟨v, hactivate, rfl⟩ := map_answered_ok hrun
      obtain ⟨found, hfound, happroved, rfl, rfl⟩ := Repository.activateVersion_eq_ok hactivate
      exact .activated hfound happroved
  | putRollout orgId policy version percent active =>
      obtain ⟨stored, hput, hdone⟩ := Fallible.exists_of_map_eq_ok hrun
      obtain ⟨found, -, rfl⟩ := Repository.putRollout_eq_ok hput
      cases hdone
      exact .rolledOut _
  | activeRollout org policy =>
      cases hrun
      exact .asked rfl

/-! ## The stored versions -/

/-- What becomes of a stored version when an operation succeeds. -/
def changed (now : Timestamp) : RepositoryOperation → PolicyVersion → PolicyVersion
  | .approveVersion policy version approvedBy, v =>
      if v.policyId = policy ∧ v.version = version ∧ v.status = .draft then
        v.approved approvedBy now
      else v
  | .activateVersion policy version, v =>
      if v.policyId ≠ policy then v
      else if v.version = version then v.activated now
      else v.demoted
  | _, v => v

/-- The draft that an operation adds when it succeeds. -/
def added? (repo : Repository) (now : Timestamp) : RepositoryOperation → Option PolicyVersion
  | .addVersion policy body createdBy =>
      some (.draft policy (repo.nextVersion policy) body createdBy now)
  | _ => none

theorem changed_of_isQuestion (hquestion : operation.isQuestion = true) (v : PolicyVersion) :
    operation.changed now v = v := by
  cases operation with
  | approveVersion _ _ _ => cases hquestion
  | activateVersion _ _ => cases hquestion
  | _ => rfl

theorem added?_of_isQuestion (hquestion : operation.isQuestion = true) :
    operation.added? repo now = none := by
  cases operation with
  | addVersion _ _ _ => cases hquestion
  | _ => rfl

/-- Of a version, operations change the status and the marks that go with it, and nothing else. -/
theorem changed_keeps (operation : RepositoryOperation) (now : Timestamp) (v : PolicyVersion) :
    (operation.changed now v).key = v.key ∧ (operation.changed now v).body = v.body ∧
      (operation.changed now v).checksum = v.checksum ∧
      (operation.changed now v).createdBy = v.createdBy := by
  cases operation with
  | approveVersion policy version approvedBy =>
      unfold changed
      dsimp only
      split <;> exact ⟨rfl, rfl, rfl, rfl⟩
  | activateVersion policy version =>
      unfold changed
      dsimp only
      split
      · exact ⟨rfl, rfl, rfl, rfl⟩
      · split <;> exact ⟨rfl, rfl, rfl, rfl⟩
  | _ => exact ⟨rfl, rfl, rfl, rfl⟩

end RepositoryOperation

namespace Effect

variable {repo next : Repository} {now : Timestamp} {operation : RepositoryOperation}
  {answer : RepositoryAnswer}

/-- Well-formed records stay well formed. -/
theorem wellFormed (heffect : Effect repo now operation answer next)
    (hwell : repo.WellFormed) : next.WellFormed := by
  cases heffect with
  | asked _ => exact hwell
  | created _ => exact hwell.of_eq rfl rfl rfl
  | added _ hadded =>
      subst hadded
      exact hwell.add_draft _ _
  | assigned _ => exact hwell.of_eq rfl rfl rfl
  | signed _ _ => exact hwell.sign
  | approved _ _ => exact hwell.updateVersion fun _ => rfl
  | approvedAlready _ _ => exact hwell
  | activated _ _ => exact hwell.promote
  | rolledOut _ => exact hwell.of_eq rfl rfl rfl

/-- The versions after an operation are those before it, some of them changed in place, and the
draft that it adds. -/
theorem versions (heffect : Effect repo now operation answer next) (hwell : repo.WellFormed) :
    next.versions =
      repo.versions.map (operation.changed now) ++ (operation.added? repo now).toList := by
  have hkept {operation : RepositoryOperation}
      (hsame : ∀ v ∈ repo.versions, operation.changed now v = v) :
      repo.versions = repo.versions.map (operation.changed now) := by
    rw [List.map_congr_left hsame, List.map_id'']
    exact fun _ => rfl
  have hnothing {l l' : List PolicyVersion} (hl : l = l') : l = l' ++ [] := by
    rw [hl, List.append_nil]
  cases heffect with
  | asked hquestion =>
      rw [RepositoryOperation.added?_of_isQuestion hquestion]
      exact hnothing (hkept fun v _ => RepositoryOperation.changed_of_isQuestion hquestion v)
  | created _ => exact hnothing (hkept fun _ _ => rfl)
  | added _ hadded =>
      subst hadded
      exact congrArg (· ++ _) (hkept fun _ _ => rfl)
  | assigned _ => exact hnothing (hkept fun _ _ => rfl)
  | signed _ _ => exact hnothing (Repository.sign_versions.trans (hkept fun _ _ => rfl))
  | @approved policy version approvedBy found hfound hdraft =>
      obtain ⟨hmem, hpolicy, hversion⟩ := Repository.mem_of_getVersion hfound
      refine hnothing (List.map_congr_left fun v hv => ?_)
      -- no key occurs twice, so the version with this key is the draft that was found
      have hstatus : v.policyId = policy → v.version = version → v.status = .draft := by
        rintro rfl rfl
        rw [hwell.eq_of_key hv hmem hpolicy.symm hversion.symm, hdraft]
      simp only [RepositoryOperation.changed]
      split
      next hkey => rw [if_pos ⟨hkey.1, hkey.2, hstatus hkey.1 hkey.2⟩]
      next hkey => rw [if_neg fun hall => hkey ⟨hall.1, hall.2.1⟩]
  | approvedAlready hfound happroved =>
      obtain ⟨hmem, hpolicy, hversion⟩ := Repository.mem_of_getVersion hfound
      refine hnothing (hkept fun v hv => if_neg ?_)
      rintro ⟨rfl, rfl, hdraft⟩
      rw [hwell.eq_of_key hv hmem hpolicy.symm hversion.symm, happroved] at hdraft
      cases hdraft
  | activated _ _ => exact hnothing rfl
  | rolledOut _ => exact hnothing (hkept fun _ _ => rfl)

/-- A stored version is found again, changed in place. -/
theorem getVersion_after (heffect : Effect repo now operation answer next)
    (hwell : repo.WellFormed) {v : PolicyVersion} (hv : v ∈ repo.versions) :
    next.getVersion v.policyId v.version = .ok (operation.changed now v) := by
  have hmem : operation.changed now v ∈ next.versions := by
    rw [heffect.versions hwell]
    exact List.mem_append_left _ (List.mem_map_of_mem hv)
  obtain ⟨hkey, -⟩ := RepositoryOperation.changed_keeps operation now v
  obtain ⟨hpolicy, hversion⟩ := Prod.mk.inj hkey
  rw [← hpolicy, ← hversion]
  exact (heffect.wellFormed hwell).getVersion_of_mem hmem

end Effect

namespace RepositoryEvent

/-- An operation succeeds with an effect, or fails and leaves everything as it is. -/
theorem effect_or_failed (e : RepositoryEvent) :
    (∃ answer, e.answer = .ok answer ∧
      Effect e.before e.timed.now e.timed.operation answer e.after) ∨
    (∃ error, e.answer = .error error ∧ e.after = e.before) := by
  unfold answer after
  cases hrun : e.timed.operation.run e.timed.now e.before with
  | error error =>
      rw [outcome_of_error hrun]
      exact Or.inr ⟨error, rfl, rfl⟩
  | ok result =>
      rw [outcome_of_ok hrun]
      exact Or.inl ⟨_, rfl, RepositoryOperation.effect_of_run hrun⟩

theorem wellFormed_after (e : RepositoryEvent) (hwell : e.before.WellFormed) :
    e.after.WellFormed := by
  rcases effect_or_failed e with ⟨_, -, heffect⟩ | ⟨_, -, hafter⟩
  · exact heffect.wellFormed hwell
  · rwa [hafter]

/-- What is stored stays stored. -/
theorem stored_after (e : RepositoryEvent) (hwell : e.before.WellFormed)
    {key : Uuid × Nat} (hstored : key ∈ e.before.versions.map PolicyVersion.key) :
    key ∈ e.after.versions.map PolicyVersion.key := by
  rcases e.effect_or_failed with ⟨_, -, heffect⟩ | ⟨_, -, hafter⟩
  · obtain ⟨v, hv, rfl⟩ := List.mem_map.mp hstored
    have hfound := heffect.getVersion_after hwell hv
    obtain ⟨hmem, hpolicy, hversion⟩ := Repository.mem_of_getVersion hfound
    exact List.mem_map.mpr ⟨_, hmem, Prod.ext hpolicy hversion⟩
  · rwa [hafter]

end RepositoryEvent

/-- The records stay well formed over every run. -/
theorem Repository.wellFormed_afterAll (operations : List TimedOperation) :
    (Repository.afterAll {} operations).WellFormed :=
  Repository.afterAll_invariant (fun _ repo => repo.WellFormed)
    (fun _ repo timed hwell => (RepositoryEvent.mk repo timed).wellFormed_after hwell)
    operations [] {} .empty

end Mandate
