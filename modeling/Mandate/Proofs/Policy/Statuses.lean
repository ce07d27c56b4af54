import Mandate.Proofs.Policy.InPlace

/-! # The statuses of versions

Over whole runs the status of a version changes in three ways only: approving a draft, activating
an approved version, and becoming a draft again when another version of the policy is activated. At
most one version of a policy is active at any time, because an activation demotes all others, and
nothing else makes a version active.
-/

namespace Mandate

open Mandate.Json Mandate.Time

/-- How the status of a version may change, by an operation with its answer. -/
inductive StatusChange (operation : RepositoryOperation)
    (answer : Except PolicyError RepositoryAnswer) (policy : Uuid) (version : Nat) :
    VersionStatus → VersionStatus → Prop where
  | approved {approvedBy : Option Uuid}
      (hoperation : operation = .approveVersion policy version approvedBy) :
      StatusChange operation answer policy version .draft .approved
  | activated (hoperation : operation = .activateVersion policy version) :
      StatusChange operation answer policy version .approved .active
  | demoted {sibling : Nat} {activated : PolicyVersion} {status : VersionStatus}
      (hoperation : operation = .activateVersion policy sibling) (hsibling : version ≠ sibling)
      (hanswer : answer = .ok (.version activated)) :
      StatusChange operation answer policy version status .draft

/-- No policy has two active versions. -/
def Repository.OneActive (repo : Repository) : Prop :=
  ∀ v ∈ repo.versions, ∀ w ∈ repo.versions, v.policyId = w.policyId →
    v.status = .active → w.status = .active → v = w

namespace Effect

variable {repo next : Repository} {now : Timestamp} {operation : RepositoryOperation}
  {answer : RepositoryAnswer} {v : PolicyVersion}

/-- Approving a version approves it or leaves it. -/
theorem approval_status {policy : Uuid} {version : Nat} {approvedBy : Option Uuid}
    {answer : Except PolicyError RepositoryAnswer} (v : PolicyVersion) :
    ((RepositoryOperation.approveVersion policy version approvedBy).changed now v).status =
        v.status ∨
      StatusChange (.approveVersion policy version approvedBy) answer v.policyId v.version
        v.status
        ((RepositoryOperation.approveVersion policy version approvedBy).changed now v).status := by
  unfold RepositoryOperation.changed
  dsimp only
  split
  next hkey =>
    obtain ⟨rfl, rfl, hdraft⟩ := hkey
    rw [hdraft]
    exact Or.inr (.approved rfl)
  next => exact Or.inl rfl

/-- A stored version keeps its status or changes it in one of the three ways. -/
theorem status_changed (heffect : Effect repo now operation answer next)
    (hwell : repo.WellFormed) (hv : v ∈ repo.versions) :
    (operation.changed now v).status = v.status ∨
      StatusChange operation (.ok answer) v.policyId v.version v.status
        (operation.changed now v).status := by
  cases heffect with
  | asked hquestion =>
      rw [RepositoryOperation.changed_of_isQuestion hquestion]
      exact Or.inl rfl
  | created _ => exact Or.inl rfl
  | added _ _ => exact Or.inl rfl
  | assigned _ => exact Or.inl rfl
  | signed _ _ => exact Or.inl rfl
  | approved _ _ => exact approval_status v
  | approvedAlready _ _ => exact approval_status v
  | activated hfound happroved =>
      unfold RepositoryOperation.changed
      dsimp only
      split
      next => exact Or.inl rfl
      next hpolicy =>
        rw [not_not] at hpolicy
        subst hpolicy
        split
        next hversion =>
          subst hversion
          -- the version that has been activated is the one that was found approved
          rw [hwell.getVersion_of_mem hv] at hfound
          cases hfound
          rw [happroved]
          exact Or.inr (.activated rfl)
        next hversion => exact Or.inr (.demoted rfl hversion rfl)
  | rolledOut _ => exact Or.inl rfl

/-- A version that was not stored before is a draft. -/
theorem new_is_draft (heffect : Effect repo now operation answer next) (hwell : repo.WellFormed)
    (hv : v ∈ next.versions) : (∃ old ∈ repo.versions, old.key = v.key) ∨ v.status = .draft := by
  rw [heffect.versions hwell] at hv
  rcases List.mem_append.mp hv with hold | hnew
  · obtain ⟨old, hmem, rfl⟩ := List.mem_map.mp hold
    exact Or.inl ⟨old, hmem, (RepositoryOperation.changed_keeps operation now old).1.symm⟩
  · cases operation with
    | addVersion policy body createdBy =>
        obtain rfl := List.mem_singleton.mp hnew
        exact Or.inr rfl
    | _ => cases hnew

/-- Where an active version comes from: it has just been activated, or it was stored before and no
version of its policy has been activated. -/
theorem active_cases (heffect : Effect repo now operation answer next) (hwell : repo.WellFormed)
    (hv : v ∈ next.versions) (hactive : v.status = .active) :
    operation = .activateVersion v.policyId v.version ∨
      v ∈ repo.versions ∧ ∀ version, operation ≠ .activateVersion v.policyId version := by
  rw [heffect.versions hwell] at hv
  rcases List.mem_append.mp hv with hold | hnew
  · obtain ⟨old, hmem, rfl⟩ := List.mem_map.mp hold
    cases operation with
    | approveVersion policy version approvedBy =>
        unfold RepositoryOperation.changed at hactive ⊢
        dsimp only at hactive ⊢
        split at hactive
        next => cases hactive
        next hkey =>
          rw [if_neg hkey]
          exact Or.inr ⟨hmem, nofun⟩
    | activateVersion policy version =>
        unfold RepositoryOperation.changed at hactive ⊢
        dsimp only at hactive ⊢
        split at hactive
        next hother =>
          rw [if_pos hother]
          refine Or.inr ⟨hmem, ?_⟩
          rintro _ ⟨⟩
          exact hother rfl
        next hpolicy =>
          split at hactive
          next hversion =>
            rw [if_neg hpolicy, if_pos hversion]
            rw [not_not] at hpolicy
            subst hpolicy hversion
            exact Or.inl rfl
          next => cases hactive
    | _ => exact Or.inr ⟨hmem, nofun⟩
  · cases operation with
    | addVersion policy body createdBy =>
        obtain rfl := List.mem_singleton.mp hnew
        cases hactive
    | _ => cases hnew

/-- An operation leaves no policy with two active versions. -/
theorem oneActive (heffect : Effect repo now operation answer next) (hwell : repo.WellFormed)
    (hone : repo.OneActive) : next.OneActive := by
  intro v hv w hw hpolicy hactive hother
  rcases heffect.active_cases hwell hv hactive with hoperation | ⟨hmem, hnot⟩
  · rcases heffect.active_cases hwell hw hother with hoperation' | ⟨-, hnot'⟩
    · obtain ⟨-, hversion⟩ : v.policyId = w.policyId ∧ v.version = w.version := by
        simpa using hoperation.symm.trans hoperation'
      exact (heffect.wellFormed hwell).eq_of_key hv hw hpolicy hversion
    · exact absurd (hpolicy ▸ hoperation) (hnot' v.version)
  · rcases heffect.active_cases hwell hw hother with hoperation' | ⟨hmem', -⟩
    · exact absurd (hpolicy ▸ hoperation') (hnot w.version)
    · exact hone v hmem w hmem' hpolicy hactive hother

end Effect

namespace Repository

variable {repo : Repository} {policy : Uuid} {version : Nat} {now : Timestamp}
  {v w : PolicyVersion}

/-! ## Activations -/

theorem error_of_getVersion {error : PolicyError}
    (hmissing : repo.getVersion policy version = .error error) :
    error = .versionNotFound policy version := by
  unfold getVersion at hmissing
  split at hmissing
  · cases hmissing
  · cases hmissing
    rfl

/-- When a version is activated, the others of its policy are drafts. -/
theorem status_of_sibling (hw : w ∈ (repo.promote policy version now).versions)
    (hpolicy : w.policyId = policy) (hversion : w.version ≠ version) : w.status = .draft := by
  obtain ⟨old, -, hchange⟩ := mem_promote.mp hw
  split at hchange
  next hother =>
    subst hchange
    exact absurd hpolicy hother
  next =>
    split at hchange
    next hsame =>
      subst hchange
      exact absurd hsame hversion
    next =>
      subst hchange
      rfl

/-- An activation does not touch the versions of other policies. -/
theorem versionsOf_promote_of_ne {other : Uuid} (hother : other ≠ policy) :
    (repo.promote policy version now).versionsOf other = repo.versionsOf other := by
  refine (versionsOf_map (fun w => ?_) other).trans ?_
  · split
    · rfl
    · split <;> rfl
  · refine (List.map_congr_left fun w hw => ?_).trans (List.map_id _)
    have hpolicy : w.policyId = other := by simpa using (List.mem_filter.mp hw).2
    exact if_pos (hpolicy.trans_ne hother)

theorem outcome_activate_of_approved (hfound : repo.getVersion policy version = .ok v)
    (happroved : v.status = .approved) :
    RepositoryEvent.outcome ⟨repo, .activateVersion policy version, now⟩ =
      (.ok (.version (v.activated now)), repo.promote policy version now) := by
  apply RepositoryEvent.outcome_of_ok
  rw [RepositoryOperation.run, activateVersion_of_approved hfound happroved]
  rfl

theorem outcome_activate_of_not_approved (hfound : repo.getVersion policy version = .ok v)
    (hother : v.status ≠ .approved) :
    RepositoryEvent.outcome ⟨repo, .activateVersion policy version, now⟩ =
      (.error (.notApproved version v.status.name), repo) := by
  apply RepositoryEvent.outcome_of_error
  rw [RepositoryOperation.run, activateVersion_of_not_approved hfound hother, Except.map]

theorem outcome_activate_of_missing {error : PolicyError}
    (hmissing : repo.getVersion policy version = .error error) :
    RepositoryEvent.outcome ⟨repo, .activateVersion policy version, now⟩ =
      (.error (.versionNotFound policy version), repo) := by
  obtain rfl := error_of_getVersion hmissing
  apply RepositoryEvent.outcome_of_error
  exact congrArg (Except.map _) (Fallible.bind_of_error hmissing)

/-! ## Runs -/

theorem oneActive_afterAll (operations : List TimedOperation) :
    (afterAll {} operations).OneActive := by
  have hrun := afterAll_invariant (fun _ repo => repo.WellFormed ∧ repo.OneActive)
    (by
      rintro past repo timed ⟨hwell, hone⟩
      refine ⟨(RepositoryEvent.mk repo timed).wellFormed_after hwell, ?_⟩
      rcases (RepositoryEvent.mk repo timed).effect_or_failed with ⟨_, -, heffect⟩ | ⟨_, -, hafter⟩
      · exact heffect.oneActive hwell hone
      · rwa [hafter])
    operations [] {} ⟨.empty, by simp [OneActive]⟩
  exact hrun.2

/-- In whatever repository an operation is carried out, as far as a run of operations leads to it:
no policy has two active versions. What the operation makes of the status of a stored version is one
of the three changes, if it is a change, and a version that it adds is a draft. If it fails, it
leaves the repository as it is, also when it works in place and has written something before.
Activating an approved version makes drafts of all others of its policy and touches no other policy;
activating any other version is a conflict, and activating a version that does not exist is not
found. -/
theorem statuses_change_by_rules (operations : List TimedOperation) (e : RepositoryEvent)
    (hreached : e.before = afterAll {} operations) :
    e.before.OneActive ∧
    (∀ policy version v, e.before.getVersion policy version = .ok v →
      ∃ w, e.after.getVersion policy version = .ok w ∧ (w.status = v.status ∨
        StatusChange e.timed.operation e.answer policy version v.status w.status)) ∧
    (∀ w ∈ e.after.versions, (∃ v ∈ e.before.versions, v.key = w.key) ∨ w.status = .draft) ∧
    (∀ error, e.answer = .error error → e.after = e.before) ∧
    e.timed.operation.inPlace e.timed.now e.before = (e.answer, e.after) ∧
    ∀ policy version, e.timed.operation = .activateVersion policy version →
      match e.before.getVersion policy version with
      | .ok v =>
          if v.status = .approved then
            e.answer = .ok (.version (v.activated e.timed.now)) ∧
            e.after.getVersion policy version = .ok (v.activated e.timed.now) ∧
            (∀ w ∈ e.after.versions, w.policyId = policy → w.version ≠ version →
              w.status = .draft) ∧
            ∀ other, other ≠ policy → e.after.versionsOf other = e.before.versionsOf other
          else ∃ error, e.answer = .error error ∧ error.isConflict = true
      | .error _ => ∃ error, e.answer = .error error ∧ error.isNotFound = true := by
  have hwell : e.before.WellFormed := hreached ▸ wellFormed_afterAll operations
  refine ⟨hreached ▸ oneActive_afterAll operations, ?_, ?_, ?_,
    RepositoryOperation.inPlace_eq_outcome _ _ _, ?_⟩
  · intro policy version v hfound
    obtain ⟨hmem, rfl, rfl⟩ := mem_of_getVersion hfound
    rcases e.effect_or_failed with ⟨answer, hanswer, heffect⟩ | ⟨_, -, hafter⟩
    · refine ⟨_, heffect.getVersion_after hwell hmem, ?_⟩
      rw [hanswer]
      exact heffect.status_changed hwell hmem
    · exact ⟨v, by rw [hafter, hfound], Or.inl rfl⟩
  · intro w hw
    rcases e.effect_or_failed with ⟨_, -, heffect⟩ | ⟨_, -, hafter⟩
    · exact heffect.new_is_draft hwell hw
    · exact Or.inl ⟨w, hafter ▸ hw, rfl⟩
  · intro error hanswer
    rcases e.effect_or_failed with ⟨_, hok, -⟩ | ⟨_, -, hafter⟩
    · cases hanswer.symm.trans hok
    · exact hafter
  · obtain ⟨repo, operation, now⟩ := e
    rintro policy version rfl
    unfold RepositoryEvent.answer RepositoryEvent.after
    dsimp only
    split
    next v hfound =>
      split
      next happroved =>
        rw [outcome_activate_of_approved hfound happroved]
        exact ⟨rfl, getVersion_promote hfound, fun w hw => status_of_sibling hw,
          fun other hother => versionsOf_promote_of_ne hother⟩
      next hother =>
        rw [outcome_activate_of_not_approved hfound hother]
        exact ⟨_, rfl, rfl⟩
    next hmissing =>
      rw [outcome_activate_of_missing hmissing]
      exact ⟨_, rfl, rfl⟩

/-- A run after which the first version of a policy is active and the second is approved. -/
def replacement : List TimedOperation :=
  [⟨.createPolicy ⟨1⟩ ⟨9⟩ "p" "e" none, default⟩, ⟨.addVersion ⟨1⟩ .null none, default⟩,
    ⟨.approveVersion ⟨1⟩ 1 none, default⟩, ⟨.activateVersion ⟨1⟩ 1, default⟩,
    ⟨.addVersion ⟨1⟩ .null none, default⟩, ⟨.approveVersion ⟨1⟩ 2 none, default⟩]

/-- When the second version is activated, the first is a draft again. -/
theorem replaced_version_is_draft :
    ∃ e : RepositoryEvent, e.before = afterAll {} replacement ∧
      (∃ v ∈ e.before.versions, v.key = (⟨1⟩, 1) ∧ v.status = .active) ∧
      ∀ w ∈ e.after.versions, w.key = (⟨1⟩, 1) → w.status = .draft := by
  obtain ⟨v, hmem, hkey, happroved⟩ : ∃ v ∈ (afterAll {} replacement).versions,
      v.key = (⟨1⟩, 2) ∧ v.status = .approved := by
    decide +kernel
  obtain ⟨hpolicy, hversion⟩ := Prod.mk.inj hkey
  have hfound := (wellFormed_afterAll replacement).getVersion_of_mem hmem
  rw [hpolicy, hversion] at hfound
  let e : RepositoryEvent := ⟨afterAll {} replacement, .activateVersion ⟨1⟩ 2, default⟩
  obtain ⟨-, -, -, -, -, hactivation⟩ := statuses_change_by_rules replacement e rfl
  have hrule := hactivation ⟨1⟩ 2 rfl
  simp only [e, hfound, happroved, ↓reduceIte] at hrule
  refine ⟨e, rfl, by decide +kernel, fun w hw hw1 => ?_⟩
  obtain ⟨hsame, hfirst⟩ := Prod.mk.inj hw1
  exact hrule.2.2.1 w hw hsame (by rw [hfirst]; decide)

end Repository

end Mandate
