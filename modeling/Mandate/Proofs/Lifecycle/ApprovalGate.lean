import Mandate.Proofs.Fallible
import Mandate.Proofs.Lifecycle.Run

/-! # The gates before a version is in force

Over whole runs from an empty repository, a version is approved or active only if enough people
have signed it in calls that succeeded, every stored body compiles, and a version is active only
since an activation that simulated it and was allowed. The invariant joins the stored statuses
with the signatures in the history; that a demoted version keeps its signatures is why it has to
speak about both.
-/

namespace Mandate

open Mandate.Json

/-! ## Who has signed -/

/-- Who signs a version with an operation that gets an answer. -/
def LifecycleOperation.signer? (operation : LifecycleOperation)
    (answer : Except DecisionError LifecycleAnswer) (policy : Uuid) (version : Nat) :
    Option Uuid :=
  match operation, answer with
  | .approve p n user, .ok _ => if p = policy ∧ n = version then some user else none
  | _, _ => none

theorem LifecycleOperation.signer?_approve {p : Uuid} {n : Nat} {u : Uuid} {policy : Uuid}
    {version : Nat} {user : Uuid} {a : LifecycleAnswer} :
    (LifecycleOperation.approve p n u).signer? (.ok a) policy version = some user ↔
      (policy, version, user) = (p, n, u) := by
  simp only [signer?, Option.ite_none_right_eq_some, Option.some.injEq, Prod.mk.injEq]
  constructor
  · rintro ⟨⟨rfl, rfl⟩, rfl⟩
    exact ⟨rfl, rfl, rfl⟩
  · rintro ⟨rfl, rfl, rfl⟩
    exact ⟨⟨rfl, rfl⟩, rfl⟩

/-- Those who have signed a version in calls that succeeded. -/
def approvers (history : List LifecycleEvent) (policy : Uuid) (version : Nat) : Finset Uuid :=
  (history.filterMap fun e => e.call.operation.signer? e.answer policy version).toFinset

theorem mem_approvers_append {past : List LifecycleEvent} {e : LifecycleEvent} {policy : Uuid}
    {version : Nat} {user : Uuid} :
    user ∈ approvers (past ++ [e]) policy version ↔
      user ∈ approvers past policy version ∨
        e.call.operation.signer? e.answer policy version = some user := by
  simp [approvers]

namespace Lifecycle

variable {l l' : Lifecycle} {on : Occasion} {operation : LifecycleOperation}
  {answer : Except DecisionError LifecycleAnswer} {policy : Uuid} {version : Nat} {user : Uuid}

/-- An operation adds the signature that it makes to the index, and no other. -/
theorem Outcome.mem_approvalKeys (houtcome : Outcome l on operation answer l') :
    (policy, version, user) ∈ l'.repository.approvalKeys ↔
      (policy, version, user) ∈ l.repository.approvalKeys ∨
        operation.signer? answer policy version = some user := by
  cases houtcome with
  | failed => cases operation <;> simp [LifecycleOperation.signer?]
  | created _ => simp [LifecycleOperation.signer?]
  | added _ _ _ => simp [LifecycleOperation.signer?, invalidate, publish]
  | signed _ _ _ _ =>
      change _ ∈ (l.repository.signedOff ..).approvalKeys ↔ _
      rw [Repository.signedOff_approvalKeys, Repository.mem_sign_approvalKeys,
        LifecycleOperation.signer?_approve]
  | simulated _ => simp [LifecycleOperation.signer?]
  | activated _ _ _ _ _ _ =>
      simp [LifecycleOperation.signer?, afterActivation, record, publish, Repository.promote]
  | assigned _ _ => simp [LifecycleOperation.signer?, invalidate, publish]
  | rolledOut _ _ => simp [LifecycleOperation.signer?, publish]

/-! ## Simulations -/

/-- The engine that is registered for the policy of a version compiles its body, and decides so on
the canonical form of a context. -/
def EngineDecides (l : Lifecycle) (current : PolicyVersion) (context : Value) (timing : Timing)
    (decision : Decision) : Prop :=
  ∃ policy evaluator artifact, l.repository.getPolicy current.policyId = .ok policy ∧
    l.registry.get policy.engine = .ok evaluator ∧ evaluator.compile current.body = .ok artifact ∧
    evaluator.evaluate artifact context.sorted timing = .ok decision

theorem engineDecides_of_evaluate {current : PolicyVersion} {p : Policy} {artifact : Artifact}
    {context : Value} {decision : Decision}
    (hpolicy : l.repository.getPolicy current.policyId = .ok p)
    (hcompile : l.compile p current.body = .ok artifact)
    (hevaluate : l.evaluate p artifact context on = .ok decision) :
    l.EngineDecides current context on.timing decision := by
  obtain ⟨evaluator, hregistered, hcompile⟩ := Fallible.exists_of_bind_eq_ok hcompile
  rw [evaluate, Fallible.bind_of_ok hregistered] at hevaluate
  exact ⟨p, evaluator, artifact, hpolicy, hregistered, hcompile, hevaluate⟩

/-! ## Where a version comes from -/

/-- Where a version that is stored after an operation comes from. -/
inductive Origin (l : Lifecycle) (on : Occasion) (operation : LifecycleOperation)
    (answer : Except DecisionError LifecycleAnswer) (l' : Lifecycle) (v : PolicyVersion) :
    Prop where
  /-- It was stored before. -/
  | kept (hmem : v ∈ l.repository.versions)
  /-- It is a new draft, whose body compiles. -/
  | added {policy : Policy} {artifact : Artifact}
      (hpolicy : l.repository.getPolicy v.policyId = .ok policy)
      (hcompile : l.compile policy v.body = .ok artifact) (hdraft : v.status = .draft)
  /-- It was stored before, and enough people have signed it now. -/
  | approved {old : PolicyVersion} {approvedBy : Option Uuid}
      (hold : old ∈ l.repository.versions) (hchange : v = old.approved approvedBy on.time)
      (hquorum : l.quorum ≤ l'.repository.countApprovals v.policyId v.version)
  /-- It was approved, and has been activated after a simulation that allowed. -/
  | activated {old : PolicyVersion} {context : Value} {decision : Decision}
      (hold : l.repository.getVersion v.policyId v.version = .ok old)
      (hchange : v = old.activated on.time) (happroved : old.status = .approved)
      (hoperation : operation = .activate v.policyId v.version context)
      (hanswer : answer = .ok (.version v))
      (hsimulate : l.simulate v.policyId v.version context on = .ok decision)
      (hdecides : l.EngineDecides old context on.timing decision)
      (hallow : decision.allow = true)
  /-- Another version of its policy has been activated. -/
  | demoted {old : PolicyVersion} (hold : old ∈ l.repository.versions)
      (hchange : v = old.demoted)

theorem Outcome.origin (houtcome : Outcome l on operation answer l') (hunfailing : l.Unfailing)
    (hwell : l.repository.WellFormed) {v : PolicyVersion} (hv : v ∈ l'.repository.versions) :
    Origin l on operation answer l' v := by
  cases houtcome with
  | failed => exact .kept hv
  | created _ => exact .kept hv
  | added hpolicy hcompile hadded =>
      rcases List.mem_append.mp hv with hold | hnew
      · exact .kept hold
      · obtain rfl := List.mem_singleton.mp hnew
        subst hadded
        exact .added hpolicy hcompile rfl
  | @signed p n u policy current artifact approvals hpolicy hcurrent hcompile happrovals =>
      change v ∈ (l.repository.signedOff ..).versions at hv
      unfold Repository.signedOff at hv
      dsimp only at hv
      split at hv
      next hdue =>
        obtain ⟨old, hold, hchange⟩ := Repository.mem_updateVersion.mp hv
        rw [Repository.sign_versions] at hold
        split at hchange
        next hkey =>
          subst hchange
          refine .approved hold rfl ?_
          change l.quorum ≤ (l.repository.signedOff ..).countApprovals old.policyId old.version
          rw [Repository.countApprovals_signedOff, hkey.1, hkey.2]
          exact hdue.2
        next => exact .kept (hchange ▸ hold)
      next =>
        rw [Repository.sign_versions] at hv
        exact .kept hv
  | simulated _ => exact .kept hv
  | @activated p n context policy current artifact decision hpolicy hcurrent hcompile hevaluate
      hallow happroved =>
      obtain ⟨old, hold, hchange⟩ := Repository.mem_promote.mp hv
      split at hchange
      · exact .kept (hchange ▸ hold)
      next hpolicyId =>
        split at hchange
        next hversion =>
          -- no key occurs twice, so this is the version that was simulated
          obtain ⟨hmem, hsamePolicy, hsameVersion⟩ := Repository.mem_of_getVersion hcurrent
          obtain rfl : old = current := hwell.eq_of_key hold hmem
            ((not_not.mp hpolicyId).trans hsamePolicy.symm) (hversion.trans hsameVersion.symm)
          subst hchange hsamePolicy hsameVersion
          exact .activated hcurrent rfl happroved rfl rfl
            (hunfailing.simulate_eq hpolicy hcurrent hcompile hevaluate)
            (engineDecides_of_evaluate hpolicy hcompile hevaluate) hallow
        next => exact .demoted hold hchange.symm
  | assigned _ _ => exact .kept hv
  | rolledOut _ _ => exact .kept hv

/-! ## Preservation -/

/-- A version that is approved or active has been signed by enough people. -/
def QuorumReached (l : Lifecycle) : Prop :=
  ∀ v ∈ l.repository.versions, v.status ≠ .draft →
    l.quorum ≤ l.repository.countApprovals v.policyId v.version

theorem Outcome.countApprovals_le (houtcome : Outcome l on operation answer l') (policy : Uuid)
    (version : Nat) :
    l.repository.countApprovals policy version ≤ l'.repository.countApprovals policy version := by
  cases houtcome with
  | signed _ _ _ _ =>
      change _ ≤ (l.repository.signedOff ..).countApprovals policy version
      rw [Repository.countApprovals_signedOff]
      exact Repository.countApprovals_le_sign policy version
  | _ => exact Nat.le_refl _

theorem Outcome.quorumReached (houtcome : Outcome l on operation answer l')
    (hunfailing : l.Unfailing) (hwell : l.repository.WellFormed) (hquorum : l.QuorumReached) :
    l'.QuorumReached := by
  intro v hv hstatus
  have hsame : l'.quorum = l.quorum := by rw [quorum, quorum, houtcome.frame.1]
  have hmore := houtcome.countApprovals_le v.policyId v.version
  rw [hsame]
  cases houtcome.origin hunfailing hwell hv with
  | kept hmem => exact Nat.le_trans (hquorum v hmem hstatus) hmore
  | added _ _ hdraft => exact absurd hdraft hstatus
  | approved _ _ hdue => exact hdue
  | activated hold _ happroved _ _ _ _ _ =>
      obtain ⟨hmem, hpolicy, hversion⟩ := Repository.mem_of_getVersion hold
      have hbefore := hquorum _ hmem (by rw [happroved]; decide)
      rw [hpolicy, hversion] at hbefore
      exact Nat.le_trans hbefore hmore
  | demoted _ hchange => exact absurd (congrArg PolicyVersion.status hchange) hstatus

/-- The body of a version compiles with the engine of its policy. -/
def Compiles (l : Lifecycle) (v : PolicyVersion) : Prop :=
  ∃ policy artifact, l.repository.getPolicy v.policyId = .ok policy ∧
    l.compile policy v.body = .ok artifact

end Lifecycle

/-- The identifier of the policy that a call creates. -/
def LifecycleCall.created? (call : LifecycleCall) : Option Uuid :=
  match call.operation with
  | .createPolicy .. => some call.on.id
  | _ => none

/-- The identifiers of the policies that a run creates. -/
def createdIds (calls : List LifecycleCall) : List Uuid :=
  calls.filterMap (·.created?)

namespace Lifecycle

theorem Outcome.getPolicy_eq (houtcome : Outcome l on operation answer l')
    (hother : LifecycleCall.created? ⟨operation, on⟩ ≠ some policy) :
    l'.repository.getPolicy policy = l.repository.getPolicy policy := by
  cases houtcome with
  | created hadded =>
      apply Repository.getPolicy_append
      rintro rfl
      subst hadded
      exact hother rfl
  | signed _ _ _ _ =>
      change (l.repository.signedOff ..).getPolicy policy = _
      unfold Repository.getPolicy
      rw [Repository.signedOff_policies]
  | _ => rfl

theorem Outcome.mem_policies (houtcome : Outcome l on operation answer l') {p : Policy}
    (hp : p ∈ l'.repository.policies) :
    p ∈ l.repository.policies ∨ LifecycleCall.created? ⟨operation, on⟩ = some p.id := by
  cases houtcome with
  | created hadded =>
      rcases List.mem_append.mp hp with hkept | hnew
      · exact Or.inl (List.mem_filter.mp hkept).1
      · obtain rfl := List.mem_singleton.mp hnew
        subst hadded
        exact Or.inr rfl
  | signed _ _ _ _ =>
      change p ∈ (l.repository.signedOff ..).policies at hp
      rw [Repository.signedOff_policies] at hp
      exact Or.inl hp
  | _ => exact Or.inl hp

theorem Outcome.compiles (houtcome : Outcome l on operation answer l')
    (hunfailing : l.Unfailing) (hwell : l.repository.WellFormed)
    (hfresh : ∀ p ∈ l.repository.policies,
      LifecycleCall.created? ⟨operation, on⟩ ≠ some p.id)
    (hcompiles : ∀ v ∈ l.repository.versions, l.Compiles v) {v : PolicyVersion}
    (hv : v ∈ l'.repository.versions) : l'.Compiles v := by
  -- a fresh policy replaces none, so every version keeps its policy and its engine
  have hkeeps : ∀ w : PolicyVersion, w.policyId = v.policyId → w.body = v.body →
      l.Compiles w → l'.Compiles v := by
    rintro w hpolicyId hbody ⟨policy, artifact, hpolicy, hcompile⟩
    obtain ⟨hmem, hid⟩ := Repository.mem_of_getPolicy hpolicy
    refine ⟨policy, artifact, ?_, ?_⟩
    · rw [← hpolicyId, ← hpolicy]
      exact houtcome.getPolicy_eq (hid ▸ hfresh policy hmem)
    · rw [← hbody, ← hcompile, compile, compile, houtcome.frame.2.1]
  cases houtcome.origin hunfailing hwell hv with
  | kept hmem => exact hkeeps v rfl rfl (hcompiles v hmem)
  | added hpolicy hcompile _ => exact hkeeps v rfl rfl ⟨_, _, hpolicy, hcompile⟩
  | @approved old _ hold hchange _ =>
      subst hchange
      exact hkeeps old rfl rfl (hcompiles old hold)
  | activated hold hchange _ _ _ _ _ _ =>
      obtain ⟨hmem, hpolicy, _⟩ := Repository.mem_of_getVersion hold
      exact hkeeps _ hpolicy (by rw [hchange]; rfl) (hcompiles _ hmem)
  | @demoted old hold hchange =>
      subst hchange
      exact hkeeps old rfl rfl (hcompiles old hold)

end Lifecycle

/-- The version is active. -/
def Repository.IsActive (repo : Repository) (policy : Uuid) (version : Nat) : Prop :=
  ∃ v, repo.getVersion policy version = .ok v ∧ v.status = .active

/-- The call activates a version that was approved, after a simulation of it that allowed: so
decided the engine that was registered for its policy. -/
def LifecycleEvent.Activates (e : LifecycleEvent) (policy : Uuid) (version : Nat) : Prop :=
  ∃ context decision old,
    e.call.operation = .activate policy version context ∧
    e.before.repository.getVersion policy version = .ok old ∧ old.status = .approved ∧
    e.before.simulate policy version context e.call.on = .ok decision ∧
    e.before.EngineDecides old context e.call.on.timing decision ∧ decision.allow = true ∧
    e.answer = .ok (.version (old.activated e.call.on.time))

/-- A version has been activated in a history, and has been active ever since. -/
def ActivatedIn (history : List LifecycleEvent) (policy : Uuid) (version : Nat) : Prop :=
  ∃ earlier e since, history = earlier ++ e :: since ∧ e.Activates policy version ∧
    ∀ later ∈ since, later.before.repository.IsActive policy version

theorem ActivatedIn.append {past : List LifecycleEvent} {policy : Uuid} {version : Nat}
    (hactivated : ActivatedIn past policy version) {e : LifecycleEvent}
    (hactive : e.before.repository.IsActive policy version) :
    ActivatedIn (past ++ [e]) policy version := by
  obtain ⟨earlier, activation, since, rfl, hactivates, hsince⟩ := hactivated
  refine ⟨earlier, activation, since ++ [e], by simp, hactivates, ?_⟩
  intro later hlater
  rcases List.mem_append.mp hlater with hlater | hlast
  · exact hsince later hlater
  · obtain rfl := List.mem_singleton.mp hlast
    exact hactive

namespace Lifecycle

/-- What holds after every part of a run in which no policy is created twice. -/
structure Gated (start : Lifecycle) (past : List LifecycleEvent) (l : Lifecycle) : Prop where
  approvalsRequired : l.approvalsRequired = start.approvalsRequired
  registry : l.registry = start.registry
  unfailing : l.Unfailing
  wellFormed : l.repository.WellFormed
  /-- The index of the signatures lists those who have signed. -/
  signed : ∀ policy version user, (policy, version, user) ∈ l.repository.approvalKeys ↔
    user ∈ approvers past policy version
  quorumReached : l.QuorumReached
  created : ∀ p ∈ l.repository.policies, p.id ∈ createdIds (past.map LifecycleEvent.call)
  compiles : ∀ v ∈ l.repository.versions, l.Compiles v
  activated : ∀ v ∈ l.repository.versions, v.status = .active →
    ActivatedIn past v.policyId v.version

variable {start : Lifecycle} {past : List LifecycleEvent}

theorem Gated.empty (hempty : start.repository = {}) (hunfailing : start.Unfailing) :
    Gated start [] start where
  approvalsRequired := rfl
  registry := rfl
  unfailing := hunfailing
  wellFormed := hempty ▸ .empty
  signed := by simp [hempty, approvers]
  quorumReached := by simp [QuorumReached, hempty]
  created := by simp [hempty]
  compiles := by simp [hempty]
  activated := by simp [hempty]

theorem Gated.step (hgated : Gated start past l) (call : LifecycleCall)
    (hfresh : (createdIds (past.map LifecycleEvent.call ++ [call])).Nodup) :
    Gated start (past ++ [⟨l, call⟩]) (LifecycleEvent.mk l call).after := by
  have houtcome := hgated.unfailing.outcome call.operation call.on
  -- stored policies were created in the past, under other identifiers
  have hfresh' : ∀ p ∈ l.repository.policies, call.created? ≠ some p.id := by
    intro p hp hcreated
    rw [createdIds, List.filterMap_append, List.nodup_append] at hfresh
    exact hfresh.2.2 p.id (hgated.created p hp) p.id (by simp [hcreated]) rfl
  obtain ⟨hrequired, hregistry, hfailing⟩ := houtcome.frame
  refine ⟨hrequired.trans hgated.approvalsRequired, hregistry.trans hgated.registry,
    hfailing.trans hgated.unfailing, houtcome.wellFormed hgated.wellFormed, ?_,
    houtcome.quorumReached hgated.unfailing hgated.wellFormed hgated.quorumReached, ?_,
    fun v hv => houtcome.compiles hgated.unfailing hgated.wellFormed hfresh' hgated.compiles hv,
    ?_⟩
  · intro policy version user
    rw [mem_approvers_append, ← hgated.signed]
    exact houtcome.mem_approvalKeys
  · intro p hp
    rw [List.map_append, createdIds, List.filterMap_append, List.mem_append]
    rcases houtcome.mem_policies hp with hold | hnew
    · exact Or.inl (hgated.created p hold)
    · exact Or.inr (by simpa using hnew)
  · intro v hv hactive
    cases houtcome.origin hgated.unfailing hgated.wellFormed hv with
    | kept hmem =>
        exact (hgated.activated v hmem hactive).append
          ⟨v, hgated.wellFormed.getVersion_of_mem hmem, hactive⟩
    | added _ _ hdraft => exact absurd (hactive.symm.trans hdraft) (by decide)
    | approved _ hchange _ =>
        exact absurd (hactive.symm.trans (congrArg PolicyVersion.status hchange)) nofun
    | activated hold hchange happroved hoperation hanswer hsimulate hdecides hallow =>
        exact ⟨past, ⟨l, call⟩, [], rfl, ⟨_, _, _, hoperation, hold, happroved, hsimulate,
          hdecides, hallow, hchange ▸ hanswer⟩, nofun⟩
    | demoted _ hchange =>
        exact absurd (hactive.symm.trans (congrArg PolicyVersion.status hchange)) nofun

/-- After every run from an empty repository in which no policy is created twice. -/
theorem gated_afterAll (hempty : start.repository = {}) (hunfailing : start.Unfailing)
    (calls : List LifecycleCall) (hfresh : (createdIds calls).Nodup) :
    Gated start (start.history calls) (start.afterAll calls) := by
  have hrun := afterAll_invariant
    (fun past l => (createdIds (past.map LifecycleEvent.call)).Nodup → Gated start past l)
    (by
      intro past l call hpast hnodup
      rw [List.map_append, List.map_singleton] at hnodup
      refine (hpast ?_).step call hnodup
      rw [createdIds, List.filterMap_append, List.nodup_append] at hnodup
      exact hnodup.1)
    calls [] start (fun _ => Gated.empty hempty hunfailing)
  rw [List.nil_append] at hrun
  exact hrun (by rwa [map_call_history])

/-- A signature that succeeds tells how many people have signed, and whether the version is
approved or active after it. -/
theorem Gated.approve (hgated : Gated start past l) {outcome : ApprovalOutcome}
    (hrun : (LifecycleOperation.approve policy version user).run on l =
      (.ok (.approval outcome), l')) :
    outcome.approvals = (insert user (approvers past policy version)).card ∧
      (outcome.approved = true ↔ ∃ v, l'.repository.getVersion policy version = .ok v ∧
        (v.status = .approved ∨ v.status = .active)) := by
  have houtcome := hgated.unfailing.outcome (.approve policy version user) on
  rw [hrun] at houtcome
  cases houtcome with
  | @signed _ _ _ found current artifact approvals hpolicy hcurrent hcompile happrovals =>
      subst happrovals
      have hwell : (l.repository.sign policy version user on.time).WellFormed :=
        hgated.wellFormed.sign
      refine ⟨hwell.countApprovals_eq_card _ ?_, ?_⟩
      · intro other
        rw [Repository.mem_sign_approvalKeys, hgated.signed, Finset.mem_insert, Prod.mk.injEq,
          Prod.mk.injEq]
        simp [or_comm]
      · -- a version that was approved before has not lost any signature
        have hbefore : current.status ≠ .draft → l.quorum ≤
            (l.repository.sign policy version user on.time).countApprovals policy version := by
          intro hstatus
          obtain ⟨hmem, rfl, rfl⟩ := Repository.mem_of_getVersion hcurrent
          exact Nat.le_trans (hgated.quorumReached current hmem hstatus)
            (Repository.countApprovals_le_sign _ _)
        have hafter := hgated.wellFormed.getVersion_signedOff hcurrent l.quorum user on.time
        change _ ↔ ∃ v, (l.repository.signedOff ..).getVersion policy version = .ok v ∧ _
        simp only [hafter, Except.ok.injEq, exists_eq_left', decide_eq_true_eq]
        cases hstatus : current.status with
        | draft => split <;> simp_all [PolicyVersion.approved]
        | approved => simp [hstatus, hbefore]
        | active => simp [hstatus]

/-- In every state that a run from an empty repository reaches, a version that is approved or
active has been signed by enough people in calls that succeeded, every stored body compiles with
the engine of its policy, and every active version has been active since an activation that
simulated it and was allowed. A further signature that succeeds answers how many people have
signed, and whether the version is approved or active after it. -/
theorem approval_gate (start : Lifecycle) (hempty : start.repository = {})
    (hunfailing : start.Unfailing) (calls : List LifecycleCall)
    (hfresh : (createdIds calls).Nodup) :
    (∀ v ∈ (start.afterAll calls).repository.versions,
      (v.status ≠ .draft → max 1 start.approvalsRequired ≤
        (approvers (start.history calls) v.policyId v.version).card) ∧
      (∃ policy artifact,
        (start.afterAll calls).repository.getPolicy v.policyId = .ok policy ∧
          start.compile policy v.body = .ok artifact) ∧
      (v.status = .active → ActivatedIn (start.history calls) v.policyId v.version)) ∧
    ∀ policy version user on outcome after,
      (LifecycleOperation.approve policy version user).run on (start.afterAll calls) =
        (.ok (.approval outcome), after) →
      outcome.approvals =
        (insert user (approvers (start.history calls) policy version)).card ∧
      (outcome.approved = true ↔ ∃ v, after.repository.getVersion policy version = .ok v ∧
        (v.status = .approved ∨ v.status = .active)) := by
  have hgated := gated_afterAll hempty hunfailing calls hfresh
  refine ⟨fun v hv => ⟨?_, ?_, hgated.activated v hv⟩, ?_⟩
  · intro hstatus
    have hquorum := hgated.quorumReached v hv hstatus
    rw [hgated.wellFormed.countApprovals_eq_card _ fun user => (hgated.signed _ _ user).symm,
      quorum, hgated.approvalsRequired, Nat.max_comm] at hquorum
    exact hquorum
  · obtain ⟨policy, artifact, hpolicy, hcompile⟩ := hgated.compiles v hv
    exact ⟨policy, artifact, hpolicy, by rwa [compile, hgated.registry] at hcompile⟩
  · intro policy version user on outcome after hrun
    exact hgated.approve hrun

/-- A run that takes a version from its draft into force, with one signature. -/
def shortRun : List LifecycleCall :=
  let on (n : Nat) : Occasion := { (default : Occasion) with id := ⟨n⟩ }
  let body : Value := .object [("rules", .array [.object [("effect", .string "allow")]])]
  [⟨.createPolicy ⟨9⟩ "p" Rules.engineName none, on 1⟩, ⟨.addVersion ⟨1⟩ body none, on 2⟩,
    ⟨.approve ⟨1⟩ 1 ⟨8⟩, on 3⟩, ⟨.activate ⟨1⟩ 1 .null, on 4⟩]

/-- The version that the short run puts in force has passed the gates. -/
theorem shortRun_passes_gates :
    (createdIds shortRun).Nodup ∧
    ∃ v ∈ (({ approvalsRequired := 1 } : Lifecycle).afterAll shortRun).repository.versions,
      v.status = .active ∧
      1 ≤ (approvers (({ approvalsRequired := 1 } : Lifecycle).history shortRun) v.policyId
        v.version).card ∧
      ActivatedIn (({ approvalsRequired := 1 } : Lifecycle).history shortRun) v.policyId
        v.version := by
  have hfresh : (createdIds shortRun).Nodup := by decide
  obtain ⟨v, hv, hactive⟩ : ∃ v ∈
      (({ approvalsRequired := 1 } : Lifecycle).afterAll shortRun).repository.versions,
      v.status = .active := by
    decide +kernel
  obtain ⟨hquorum, -, hactivated⟩ :=
    (approval_gate { approvalsRequired := 1 } rfl rfl shortRun hfresh).1 v hv
  exact ⟨hfresh, v, hv, hactive, hquorum (by rw [hactive]; decide), hactivated hactive⟩

end Lifecycle

end Mandate
