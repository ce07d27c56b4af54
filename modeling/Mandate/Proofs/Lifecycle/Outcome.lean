import Mandate.Lifecycle
import Mandate.Proofs.Policy.Repository

/-! # What an operation on policies comes to

As long as every call to the repository is answered, an operation either fails and changes
nothing, or does exactly what its `Outcome` says. What runs of operations preserve is proved from
this alone.
-/

namespace Mandate

open Mandate.Json Mandate.Time

/-- The records after a signature. A draft is approved with it once enough people have signed. -/
def Repository.signedOff (repo : Repository) (quorum : Nat) (status : VersionStatus)
    (policy : Uuid) (version : Nat) (user : Uuid) (now : Timestamp) : Repository :=
  let signed := repo.sign policy version user now
  if status = .draft ∧ quorum ≤ signed.countApprovals policy version then
    signed.updateVersion policy version (·.approved (some user) now)
  else signed

@[simp] theorem Repository.signedOff_approvalKeys (repo : Repository) (quorum : Nat)
    (status : VersionStatus) (policy : Uuid) (version : Nat) (user : Uuid) (now : Timestamp) :
    (repo.signedOff quorum status policy version user now).approvalKeys =
      (repo.sign policy version user now).approvalKeys := by
  unfold signedOff
  dsimp only
  split <;> rfl

@[simp] theorem Repository.countApprovals_signedOff (repo : Repository) (quorum : Nat)
    (status : VersionStatus) (policy : Uuid) (version : Nat) (user : Uuid) (now : Timestamp)
    (otherPolicy : Uuid) (otherVersion : Nat) :
    (repo.signedOff quorum status policy version user now).countApprovals otherPolicy
        otherVersion =
      (repo.sign policy version user now).countApprovals otherPolicy otherVersion := by
  unfold signedOff
  dsimp only
  split <;> rfl

@[simp] theorem Repository.signedOff_policies (repo : Repository) (quorum : Nat)
    (status : VersionStatus) (policy : Uuid) (version : Nat) (user : Uuid) (now : Timestamp) :
    (repo.signedOff quorum status policy version user now).policies = repo.policies := by
  unfold signedOff
  dsimp only
  split
  · exact sign_policies
  · exact sign_policies

/-- What becomes of a version that is signed. -/
theorem Repository.WellFormed.getVersion_signedOff {repo : Repository} {policy : Uuid}
    {version : Nat} {current : PolicyVersion} (hwell : repo.WellFormed)
    (hcurrent : repo.getVersion policy version = .ok current) (quorum : Nat) (user : Uuid)
    (now : Timestamp) :
    (repo.signedOff quorum current.status policy version user now).getVersion policy version =
      .ok (if current.status = .draft ∧
          quorum ≤ (repo.sign policy version user now).countApprovals policy version
        then current.approved (some user) now else current) := by
  obtain ⟨hmem, rfl, rfl⟩ := mem_of_getVersion hcurrent
  unfold signedOff
  dsimp only
  split
  · have hupdated : ((repo.sign current.policyId current.version user now).updateVersion
        current.policyId current.version (·.approved (some user) now)).WellFormed :=
      hwell.sign.updateVersion fun _ => rfl
    refine hupdated.getVersion_of_mem (mem_updateVersion.mpr ⟨current, ?_, if_pos ⟨rfl, rfl⟩⟩)
    rwa [sign_versions]
  · rw [getVersion_sign, hcurrent]

namespace Lifecycle

/-- Every call to the repository is answered. -/
def Unfailing (l : Lifecycle) : Prop := l.failing = []

variable {l l' : Lifecycle} {on : Occasion} {policy : Uuid} {version : Nat} {user : Uuid}

theorem Unfailing.ask {α : Type} (hunfailing : l.Unfailing) (call : RepositoryCall)
    (query : Repository → Except PolicyError α) : l.ask call query = query l.repository := by
  simp [Lifecycle.ask, show l.failing = [] from hunfailing]

theorem Unfailing.change {α : Type} (hunfailing : l.Unfailing) (call : RepositoryCall)
    (update : Repository → Except PolicyError (α × Repository)) :
    l.change call update =
      (update l.repository).map fun (a, repository) => (a, { l with repository }) := by
  rw [Lifecycle.change, hunfailing.ask]

@[simp] theorem quorum_repository (repository : Repository) :
    ({ l with repository } : Lifecycle).quorum = l.quorum := rfl

/-! ## Signing -/

theorem Approval.run_of_next {a b : Approval}
    (hstep : Approval.step policy version user on l a = (.next b, l')) :
    Approval.run policy version user on a l = Approval.run policy version user on b l' := by
  rw [Approval.run]
  split
  next heq =>
    rw [hstep] at heq
    cases heq
  next heq =>
    rw [hstep] at heq
    cases heq
    rfl

theorem Approval.run_of_ended {a : Approval} {result : Except DecisionError ApprovalOutcome}
    (hstep : Approval.step policy version user on l a = (.ended result, l')) :
    Approval.run policy version user on a l = (result, l') := by
  rw [Approval.run]
  split
  next heq =>
    rw [hstep] at heq
    cases heq
    rfl
  next heq =>
    rw [hstep] at heq
    cases heq

/-- What a signature leaves behind. -/
def afterSignature (l : Lifecycle) (policy : Policy) (current : PolicyVersion) (policyId : Uuid)
    (version : Nat) (user : Uuid) (on : Occasion) : Lifecycle :=
  let signed := l.repository.sign policyId version user on.time
  let repository := l.repository.signedOff l.quorum current.status policyId version user on.time
  ({ l with repository }.invalidate policyId).record
    (approvalRecord policy version (signed.countApprovals policyId version) user) on

/-- Once the signatures are counted, the version is approved if that is due. -/
theorem Approval.step_counted (hunfailing : l.Unfailing) {policy : Policy} {policyId : Uuid}
    {current : PolicyVersion} {signed : Lifecycle}
    (hsigned : signed =
      { l with repository := l.repository.sign policyId version user on.time })
    (hcurrent : l.repository.getVersion policyId version = .ok current) :
    Approval.step policyId version user on signed
        (.counted policy current (signed.repository.countApprovals policyId version)) =
      (.next (.settled policy (signed.repository.countApprovals policyId version)
          (current.status = .active ∨
            l.quorum ≤ signed.repository.countApprovals policyId version)),
        { l with repository :=
          l.repository.signedOff l.quorum current.status policyId version user on.time }) := by
  subst hsigned
  have hstill : (l.repository.sign policyId version user on.time).getVersion policyId version =
      .ok current := by
    rw [Repository.getVersion_sign, hcurrent]
  have hcalls : Unfailing
    { l with repository := l.repository.sign policyId version user on.time } := hunfailing
  by_cases hactive : current.status = .active
  · simp [Approval.step, Repository.signedOff, hactive]
  · by_cases hquorum : l.quorum ≤
        (l.repository.sign policyId version user on.time).countApprovals policyId version
    · simp only [Approval.step, Repository.signedOff, hactive, ↓reduceIte, quorum_repository,
        hquorum, hcalls.change]
      -- the status is that of the lookup before the signature, which has not changed since
      cases hstatus : current.status with
      | draft => simp [Repository.approveVersion_of_draft hstill hstatus, Except.map]
      | approved => simp [Repository.approveVersion_of_approved hstill hstatus, Except.map]
      | active => exact absurd hstatus hactive
    · simp [Approval.step, Repository.signedOff, hactive, hquorum]

theorem Unfailing.approve_policyFound (hunfailing : l.Unfailing) {policy : Policy}
    {policyId : Uuid} (hpolicy : l.repository.getPolicy policyId = .ok policy) (version : Nat)
    (user : Uuid) (on : Occasion) : l.approve policyId version user on =
      Approval.run policyId version user on (.policyFound policy) l :=
  Approval.run_of_next (by simp [Approval.step, hunfailing.ask, hpolicy])

/-- A signature that comes to its end. -/
theorem Unfailing.approve_eq (hunfailing : l.Unfailing) {policy : Policy} {policyId : Uuid}
    {current : PolicyVersion} {artifact : Artifact}
    (hpolicy : l.repository.getPolicy policyId = .ok policy)
    (hcurrent : l.repository.getVersion policyId version = .ok current)
    (hcompile : l.compile policy current.body = .ok artifact) :
    l.approve policyId version user on =
      let signed := l.repository.sign policyId version user on.time
      (.ok ⟨policyId, version, signed.countApprovals policyId version,
          current.status = .active ∨ l.quorum ≤ signed.countApprovals policyId version⟩,
        l.afterSignature policy current policyId version user on) := by
  rw [hunfailing.approve_policyFound hpolicy]
  let signed : Lifecycle :=
    { l with repository := l.repository.sign policyId version user on.time }
  have hsigned : signed.Unfailing := hunfailing
  have hcompiled : Approval.step policyId version user on l (.policyFound policy) =
      (.next (.bodyCompiled policy current), l) := by
    simp [Approval.step, hunfailing.ask, hcurrent, hcompile]
  have hrecorded : Approval.step policyId version user on l (.bodyCompiled policy current) =
      (.next (.signed policy current), signed) := by
    simp [Approval.step, hunfailing.change, Repository.recordApproval_of_getVersion hcurrent,
      Except.map, signed]
  have hcounted : Approval.step policyId version user on signed (.signed policy current) =
      (.next (.counted policy current (signed.repository.countApprovals policyId version)),
        signed) := by
    simp [Approval.step, hsigned.ask]
  rw [Approval.run_of_next hcompiled, Approval.run_of_next hrecorded,
    Approval.run_of_next hcounted,
    Approval.run_of_next (Approval.step_counted hunfailing rfl hcurrent),
    Approval.run_of_ended rfl]
  rfl

/-- A signature fails and changes nothing, unless the policy and the version are found and the
body compiles. -/
theorem Unfailing.approve_cases (hunfailing : l.Unfailing) (policyId : Uuid) (version : Nat)
    (user : Uuid) (on : Occasion) :
    (∃ e, l.approve policyId version user on = (.error e, l)) ∨
      ∃ policy current artifact, l.repository.getPolicy policyId = .ok policy ∧
        l.repository.getVersion policyId version = .ok current ∧
        l.compile policy current.body = .ok artifact := by
  cases hpolicy : l.repository.getPolicy policyId with
  | error e =>
      exact Or.inl ⟨.policy e, Approval.run_of_ended
        (by simp [Approval.step, hunfailing.ask, hpolicy, Progress.failed])⟩
  | ok policy =>
      rw [hunfailing.approve_policyFound hpolicy]
      cases hcurrent : l.repository.getVersion policyId version with
      | error e =>
          exact Or.inl ⟨.policy e, Approval.run_of_ended
            (by simp [Approval.step, hunfailing.ask, hcurrent, Progress.failed])⟩
      | ok current =>
          cases hcompile : l.compile policy current.body with
          | error e =>
              exact Or.inl ⟨.policy e, Approval.run_of_ended
                (by simp [Approval.step, hunfailing.ask, hcurrent, hcompile, Progress.failed])⟩
          | ok artifact => exact Or.inr ⟨policy, current, artifact, rfl, rfl, hcompile⟩

/-! ## Activating -/

theorem Activation.run_of_next {context : Value} {a b : Activation}
    (hstep : Activation.step policy version context on l a = (.next b, l')) :
    Activation.run policy version context on a l =
      Activation.run policy version context on b l' := by
  rw [Activation.run]
  split
  next heq =>
    rw [hstep] at heq
    cases heq
  next heq =>
    rw [hstep] at heq
    cases heq
    rfl

theorem Activation.run_of_ended {context : Value} {a : Activation}
    {result : Except DecisionError PolicyVersion}
    (hstep : Activation.step policy version context on l a = (.ended result, l')) :
    Activation.run policy version context on a l = (result, l') := by
  rw [Activation.run]
  split
  next heq =>
    rw [hstep] at heq
    cases heq
    rfl
  next heq =>
    rw [hstep] at heq
    cases heq

theorem Unfailing.activate_policyFound (hunfailing : l.Unfailing) {policy : Policy}
    {policyId : Uuid} (hpolicy : l.repository.getPolicy policyId = .ok policy) (version : Nat)
    (context : Value) (on : Occasion) : l.activate policyId version context on =
      Activation.run policyId version context on (.policyFound policy) l :=
  Activation.run_of_next (by simp [Activation.step, hunfailing.ask, hpolicy])

/-- What an activation leaves behind. -/
def afterActivation (l : Lifecycle) (policy : Policy) (artifact : Artifact) (policyId : Uuid)
    (version : Nat) (on : Occasion) : Lifecycle :=
  let promoted : Lifecycle :=
    { l with
      repository := l.repository.promote policyId version on.time
      compiled := (l.compiled.erasePolicy policyId).put policyId version artifact }
  (promoted.publish policyId).record (activationRecord policy version) on

theorem Unfailing.activate_simulated (hunfailing : l.Unfailing) {policy : Policy}
    {policyId : Uuid} {current : PolicyVersion} {artifact : Artifact} {context : Value}
    {decision : Decision} (hpolicy : l.repository.getPolicy policyId = .ok policy)
    (hcurrent : l.repository.getVersion policyId version = .ok current)
    (hcompile : l.compile policy current.body = .ok artifact)
    (hevaluate : l.evaluate policy artifact context on = .ok decision)
    (hallow : decision.allow = true) :
    l.activate policyId version context on =
      Activation.run policyId version context on (.simulated policy artifact) l := by
  rw [hunfailing.activate_policyFound hpolicy]
  exact Activation.run_of_next
    (by simp [Activation.step, hunfailing.ask, hcurrent, hcompile, hevaluate, hallow])

/-- An activation that comes to its end. -/
theorem Unfailing.activate_eq (hunfailing : l.Unfailing) {policy : Policy} {policyId : Uuid}
    {current : PolicyVersion} {artifact : Artifact} {context : Value} {decision : Decision}
    (hpolicy : l.repository.getPolicy policyId = .ok policy)
    (hcurrent : l.repository.getVersion policyId version = .ok current)
    (hcompile : l.compile policy current.body = .ok artifact)
    (hevaluate : l.evaluate policy artifact context on = .ok decision)
    (hallow : decision.allow = true) (happroved : current.status = .approved) :
    l.activate policyId version context on =
      (.ok (current.activated on.time),
        l.afterActivation policy artifact policyId version on) := by
  have hpromoted := Repository.activateVersion_of_approved hcurrent happroved on.time
  let promoted : Lifecycle :=
    { l with repository := l.repository.promote policyId version on.time }
  have hactivated : Activation.step policyId version context on l (.simulated policy artifact) =
      (.next (.activated policy artifact (current.activated on.time)), promoted) := by
    simp [Activation.step, hunfailing.change, hpromoted, Except.map, promoted]
  rw [hunfailing.activate_simulated hpolicy hcurrent hcompile hevaluate hallow,
    Activation.run_of_next hactivated, Activation.run_of_ended rfl]
  rfl

/-- An activation fails and changes nothing, unless the simulation comes to its end. -/
theorem Unfailing.activate_cases (hunfailing : l.Unfailing) (policyId : Uuid) (version : Nat)
    (context : Value) (on : Occasion) :
    (∃ e, l.activate policyId version context on = (.error e, l)) ∨
      ∃ policy current artifact decision, l.repository.getPolicy policyId = .ok policy ∧
        l.repository.getVersion policyId version = .ok current ∧
        l.compile policy current.body = .ok artifact ∧
        l.evaluate policy artifact context on = .ok decision := by
  cases hpolicy : l.repository.getPolicy policyId with
  | error e =>
      exact Or.inl ⟨.policy e, Activation.run_of_ended
        (by simp [Activation.step, hunfailing.ask, hpolicy, Progress.failed])⟩
  | ok policy =>
      rw [hunfailing.activate_policyFound hpolicy]
      cases hcurrent : l.repository.getVersion policyId version with
      | error e =>
          exact Or.inl ⟨.policy e, Activation.run_of_ended
            (by simp [Activation.step, hunfailing.ask, hcurrent, Progress.failed])⟩
      | ok current =>
          cases hcompile : l.compile policy current.body with
          | error e =>
              exact Or.inl ⟨.policy e, Activation.run_of_ended
                (by simp [Activation.step, hunfailing.ask, hcurrent, hcompile, Progress.failed])⟩
          | ok artifact =>
              cases hevaluate : l.evaluate policy artifact context on with
              | error e =>
                  exact Or.inl ⟨.policy e, Activation.run_of_ended
                    (by simp [Activation.step, hunfailing.ask, hcurrent, hcompile, hevaluate,
                      Progress.failed])⟩
              | ok decision =>
                  exact Or.inr ⟨policy, current, artifact, decision, rfl, rfl, hcompile,
                    hevaluate⟩

/-- A simulation that refuses ends the activation. -/
theorem Unfailing.activate_denied (hunfailing : l.Unfailing) {policy : Policy}
    {policyId : Uuid} {current : PolicyVersion} {artifact : Artifact} {context : Value}
    {decision : Decision} (hpolicy : l.repository.getPolicy policyId = .ok policy)
    (hcurrent : l.repository.getVersion policyId version = .ok current)
    (hcompile : l.compile policy current.body = .ok artifact)
    (hevaluate : l.evaluate policy artifact context on = .ok decision)
    (hallow : decision.allow = false) :
    l.activate policyId version context on = (.error (.simulationDenied decision.reason), l) := by
  rw [hunfailing.activate_policyFound hpolicy]
  exact Activation.run_of_ended
    (by simp [Activation.step, hunfailing.ask, hcurrent, hcompile, hevaluate, hallow])

/-- Only an approved version can be activated. -/
theorem Unfailing.activate_not_approved (hunfailing : l.Unfailing) {policy : Policy}
    {policyId : Uuid} {current : PolicyVersion} {artifact : Artifact} {context : Value}
    {decision : Decision} (hpolicy : l.repository.getPolicy policyId = .ok policy)
    (hcurrent : l.repository.getVersion policyId version = .ok current)
    (hcompile : l.compile policy current.body = .ok artifact)
    (hevaluate : l.evaluate policy artifact context on = .ok decision)
    (hallow : decision.allow = true) (happroved : current.status ≠ .approved) :
    l.activate policyId version context on =
      (.error (.policy (.notApproved version current.status.name)), l) := by
  have hrefused := Repository.activateVersion_of_not_approved hcurrent happroved on.time
  rw [hunfailing.activate_simulated hpolicy hcurrent hcompile hevaluate hallow]
  exact Activation.run_of_ended
    (by simp [Activation.step, hunfailing.change, hrefused, Except.map, Progress.failed])

/-- A simulation that comes to its end. -/
theorem Unfailing.simulate_eq (hunfailing : l.Unfailing) {policy : Policy} {policyId : Uuid}
    {current : PolicyVersion} {artifact : Artifact} {context : Value} {decision : Decision}
    (hpolicy : l.repository.getPolicy policyId = .ok policy)
    (hcurrent : l.repository.getVersion policyId version = .ok current)
    (hcompile : l.compile policy current.body = .ok artifact)
    (hevaluate : l.evaluate policy artifact context on = .ok decision) :
    l.simulate policyId version context on = .ok decision := by
  simp only [simulate, hunfailing.ask, hpolicy, hcurrent]
  simp only [bind, Except.bind, hcompile, hevaluate, Except.mapError]

/-! ## Outcomes -/

/-- What an operation answers, and what it leaves behind. -/
inductive Outcome (l : Lifecycle) (on : Occasion) :
    LifecycleOperation → Except DecisionError LifecycleAnswer → Lifecycle → Prop where
  | failed {operation : LifecycleOperation} {error : DecisionError} :
      Outcome l on operation (.error error) l
  | created {orgId : Uuid} {name engine : String} {createdBy : Option Uuid} {added : Policy}
      (hadded : added = ⟨on.id, orgId, name, engine, createdBy, on.time⟩) :
      Outcome l on (.createPolicy orgId name engine createdBy) (.ok (.policy added))
        { l with repository := { l.repository with
            policies := l.repository.policies.filter (·.id != added.id) ++ [added] } }
  | added {policyId : Uuid} {body : Value} {createdBy : Option Uuid} {policy : Policy}
      {artifact : Artifact} {added : PolicyVersion}
      (hpolicy : l.repository.getPolicy policyId = .ok policy)
      (hcompile : l.compile policy body = .ok artifact)
      (hadded : added = .draft policyId (l.repository.nextVersion policyId) body createdBy
        on.time) :
      Outcome l on (.addVersion policyId body createdBy) (.ok (.version added))
        ({ l with repository := { l.repository with
            versions := l.repository.versions ++ [added] } }.invalidate policyId)
  | signed {policyId : Uuid} {version : Nat} {user : Uuid} {policy : Policy}
      {current : PolicyVersion} {artifact : Artifact} {approvals : Nat}
      (hpolicy : l.repository.getPolicy policyId = .ok policy)
      (hcurrent : l.repository.getVersion policyId version = .ok current)
      (hcompile : l.compile policy current.body = .ok artifact)
      (happrovals : approvals =
        (l.repository.sign policyId version user on.time).countApprovals policyId version) :
      Outcome l on (.approve policyId version user)
        (.ok (.approval ⟨policyId, version, approvals,
          current.status = .active ∨ l.quorum ≤ approvals⟩))
        (l.afterSignature policy current policyId version user on)
  | simulated {policyId : Uuid} {version : Nat} {context : Value} {decision : Decision}
      (hsimulate : l.simulate policyId version context on = .ok decision) :
      Outcome l on (.simulate policyId version context) (.ok (.decision decision)) l
  | activated {policyId : Uuid} {version : Nat} {context : Value} {policy : Policy}
      {current : PolicyVersion} {artifact : Artifact} {decision : Decision}
      (hpolicy : l.repository.getPolicy policyId = .ok policy)
      (hcurrent : l.repository.getVersion policyId version = .ok current)
      (hcompile : l.compile policy current.body = .ok artifact)
      (hevaluate : l.evaluate policy artifact context on = .ok decision)
      (hallow : decision.allow = true) (happroved : current.status = .approved) :
      Outcome l on (.activate policyId version context)
        (.ok (.version (current.activated on.time)))
        (l.afterActivation policy artifact policyId version on)
  | assigned {policyId : Uuid} {scopeType : ScopeType} {scopeId : String} {policy : Policy}
      {assignment : PolicyAssignment}
      (hpolicy : l.repository.getPolicy policyId = .ok policy)
      (hassignment : assignment = ⟨policyId, scopeType, scopeId, on.time⟩) :
      Outcome l on (.assign policyId scopeType scopeId) (.ok (.assignment assignment))
        ({ l with repository := { l.repository with
            assignments := l.repository.assignments ++ [assignment] } }.invalidate policyId)
  | rolledOut {orgId policyId : Uuid} {version percent : Nat} {current : PolicyVersion}
      {rollout : PolicyRollout}
      (hcurrent : l.repository.getVersion policyId version = .ok current)
      (hrollout : rollout = ⟨orgId, policyId, version, min percent 100, true, on.time⟩) :
      Outcome l on (.setRollout orgId policyId version percent) (.ok (.rollout rollout))
        ({ l with repository := { l.repository with
            rollouts := l.repository.rollouts ++ [rollout] } }.publish policyId)

/-- An operation that fails without a trace. -/
theorem Outcome.of_failed {operation : LifecycleOperation} (error : DecisionError)
    (hrun : operation.run on l = (.error error, l)) :
    Outcome l on operation (operation.run on l).1 (operation.run on l).2 := by
  rw [hrun]
  exact .failed

theorem Unfailing.outcome_addVersion (hunfailing : l.Unfailing) (policyId : Uuid) (body : Value)
    (createdBy : Option Uuid) :
    let ran := (LifecycleOperation.addVersion policyId body createdBy).run on l
    Outcome l on (.addVersion policyId body createdBy) ran.1 ran.2 := by
  cases hpolicy : l.repository.getPolicy policyId with
  | error e =>
      exact .of_failed (.policy e) (by
        simp [LifecycleOperation.run, LifecycleOperation.answered, Lifecycle.addVersion,
          hunfailing.ask, hpolicy, Lifecycle.failed, Except.map])
  | ok policy =>
      cases hcompile : l.compile policy body with
      | error e =>
          exact .of_failed (.policy e) (by
            simp [LifecycleOperation.run, LifecycleOperation.answered, Lifecycle.addVersion,
              hunfailing.ask, hpolicy, hcompile, Lifecycle.failed, Except.map])
      | ok artifact =>
          have hadded := Repository.addVersion_of_getPolicy hpolicy body createdBy on.time
          simp only [LifecycleOperation.run, LifecycleOperation.answered, Lifecycle.addVersion,
            hunfailing.ask, hunfailing.change, hpolicy, hcompile, hadded, Except.map]
          exact .added hpolicy hcompile rfl

theorem Unfailing.outcome_approve (hunfailing : l.Unfailing) (policyId : Uuid) (version : Nat)
    (user : Uuid) :
    let ran := (LifecycleOperation.approve policyId version user).run on l
    Outcome l on (.approve policyId version user) ran.1 ran.2 := by
  rw [LifecycleOperation.run, LifecycleOperation.answered]
  rcases hunfailing.approve_cases policyId version user on with
    ⟨e, hfails⟩ | ⟨policy, current, artifact, hpolicy, hcurrent, hcompile⟩
  · rw [hfails]
    exact .failed
  · rw [hunfailing.approve_eq hpolicy hcurrent hcompile]
    exact .signed hpolicy hcurrent hcompile rfl

theorem Unfailing.outcome_activate (hunfailing : l.Unfailing) (policyId : Uuid) (version : Nat)
    (context : Value) :
    let ran := (LifecycleOperation.activate policyId version context).run on l
    Outcome l on (.activate policyId version context) ran.1 ran.2 := by
  rw [LifecycleOperation.run, LifecycleOperation.answered]
  rcases hunfailing.activate_cases policyId version context on with
    ⟨e, hfails⟩ | ⟨policy, current, artifact, decision, hpolicy, hcurrent, hcompile, hevaluate⟩
  · rw [hfails]
    exact .failed
  · cases hallow : decision.allow with
    | false =>
        rw [hunfailing.activate_denied hpolicy hcurrent hcompile hevaluate hallow]
        exact .failed
    | true =>
        by_cases happroved : current.status = .approved
        · rw [hunfailing.activate_eq hpolicy hcurrent hcompile hevaluate hallow happroved]
          exact .activated hpolicy hcurrent hcompile hevaluate hallow happroved
        · rw [hunfailing.activate_not_approved hpolicy hcurrent hcompile hevaluate hallow
            happroved]
          exact .failed

/-- Every operation has the outcome that it should have. -/
theorem Unfailing.outcome (hunfailing : l.Unfailing) (operation : LifecycleOperation)
    (on : Occasion) :
    Outcome l on operation (operation.run on l).1 (operation.run on l).2 := by
  cases operation with
  | createPolicy orgId name engine createdBy =>
      simp only [LifecycleOperation.run, LifecycleOperation.answered, Lifecycle.createPolicy,
        hunfailing.change, Repository.createPolicy, Except.map]
      exact .created rfl
  | addVersion policyId body createdBy =>
      exact hunfailing.outcome_addVersion policyId body createdBy
  | approve policyId version user => exact hunfailing.outcome_approve policyId version user
  | simulate policyId version context =>
      simp only [LifecycleOperation.run]
      cases hsimulate : l.simulate policyId version context on with
      | error e => exact .failed
      | ok decision => exact .simulated hsimulate
  | activate policyId version context =>
      exact hunfailing.outcome_activate policyId version context
  | assign policyId scopeType scopeId =>
      cases hpolicy : l.repository.getPolicy policyId with
      | error e =>
          have hassign : l.repository.assign policyId scopeType scopeId on.time = .error e :=
            Fallible.bind_of_error hpolicy
          exact .of_failed (.policy e) (by
            simp [LifecycleOperation.run, LifecycleOperation.answered, Lifecycle.assign,
              hunfailing.change, hassign, Lifecycle.failed, Except.map])
      | ok policy =>
          simp only [LifecycleOperation.run, LifecycleOperation.answered, Lifecycle.assign,
            hunfailing.change, Repository.assign_of_getPolicy hpolicy, Except.map]
          exact .assigned hpolicy rfl
  | setRollout orgId policyId version percent =>
      let rollout : PolicyRollout :=
        { orgId, policyId, version, percent := min percent 100, active := true,
          createdAt := on.time }
      cases hcurrent : l.repository.getVersion policyId version with
      | error e =>
          have hput : l.repository.putRollout rollout = .error e :=
            Fallible.bind_of_error hcurrent
          exact .of_failed (.policy e) (by
            simp [LifecycleOperation.run, LifecycleOperation.answered, Lifecycle.setRollout,
              hunfailing.change, rollout, hput, Lifecycle.failed, Except.map])
      | ok current =>
          have hput : l.repository.putRollout rollout = .ok _ :=
            Repository.putRollout_of_getVersion hcurrent
          simp only [LifecycleOperation.run, LifecycleOperation.answered, Lifecycle.setRollout,
            hunfailing.change, rollout, hput, Except.map]
          exact .rolledOut hcurrent rfl

end Lifecycle

end Mandate
