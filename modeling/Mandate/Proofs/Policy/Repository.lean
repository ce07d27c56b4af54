import Mandate.Policy.Repository
import Mandate.Proofs.Fallible
import Mathlib.Data.Finset.Card

/-! # The operations of a repository

For every operation there is one lemma that says when it succeeds and with what. The stored
records stay well formed under all of them: no version and no signature occurs twice, and the
index of the signatures lists exactly what was signed.
-/

namespace Mandate.Repository

open Mandate.Json Mandate.Time Fallible

variable {repo : Repository} {policy : Uuid} {version : Nat} {user : Uuid} {now : Timestamp}

/-! ## Looking up -/

theorem getPolicy_ok_iff {found : Policy} : repo.getPolicy policy = .ok found ↔
    repo.policies.find? (·.id == policy) = some found := by
  unfold getPolicy
  cases repo.policies.find? (·.id == policy) <;> simp

theorem mem_of_getPolicy {found : Policy} (hfound : repo.getPolicy policy = .ok found) :
    found ∈ repo.policies ∧ found.id = policy := by
  have hfind := getPolicy_ok_iff.mp hfound
  exact ⟨List.mem_of_find?_eq_some hfind, by simpa using List.find?_some hfind⟩

theorem getVersion_ok_iff {v : PolicyVersion} : repo.getVersion policy version = .ok v ↔
    (repo.versionsOf policy).find? (·.version == version) = some v := by
  unfold getVersion
  cases (repo.versionsOf policy).find? (·.version == version) <;> simp

theorem mem_of_getVersion {v : PolicyVersion} (hfound : repo.getVersion policy version = .ok v) :
    v ∈ repo.versions ∧ v.policyId = policy ∧ v.version = version := by
  have hfind := getVersion_ok_iff.mp hfound
  obtain ⟨hmem, hpolicy⟩ := List.mem_filter.mp (List.mem_of_find?_eq_some hfind)
  exact ⟨hmem, by simpa using hpolicy, by simpa using List.find?_some hfind⟩

/-- The entry of a policy in force is about this policy and the version that is found active. -/
theorem activeAssignment?_eq_some_iff {entry : ActiveAssignment} :
    repo.activeAssignment? policy = some entry ↔
      entry.policy.id = policy ∧ repo.getPolicy policy = .ok entry.policy ∧
        repo.activeVersion? policy = some entry.version := by
  unfold activeAssignment?
  constructor
  · intro hentry
    obtain ⟨p, hp, hentry⟩ := Option.bind_eq_some_iff.mp hentry
    obtain ⟨v, hv, hentry⟩ := Option.bind_eq_some_iff.mp hentry
    obtain rfl := Option.some.inj hentry
    exact ⟨by simpa using List.find?_some hp, getPolicy_ok_iff.mpr hp, hv⟩
  · rintro ⟨-, hp, hv⟩
    rw [getPolicy_ok_iff.mp hp, hv]
    rfl

/-! ## Well-formed records -/

/-- No version and no signature occurs twice, and the index of the signatures is up to date. -/
structure WellFormed (repo : Repository) : Prop where
  numbered : (repo.versions.map PolicyVersion.key).Nodup
  indexed : repo.approvals.map PolicyApproval.key = repo.approvalKeys
  signedOnce : repo.approvalKeys.Nodup

theorem WellFormed.empty : WellFormed {} where
  numbered := List.nodup_nil
  indexed := rfl
  signedOnce := List.nodup_nil

/-- What does not touch versions and signatures does no harm. -/
theorem WellFormed.of_eq {next : Repository} (hwell : repo.WellFormed)
    (hversions : next.versions = repo.versions) (happrovals : next.approvals = repo.approvals)
    (hkeys : next.approvalKeys = repo.approvalKeys) : next.WellFormed where
  numbered := hversions ▸ hwell.numbered
  indexed := by rw [happrovals, hkeys, hwell.indexed]
  signedOnce := hkeys ▸ hwell.signedOnce

theorem WellFormed.eq_of_key (hwell : repo.WellFormed) {v w : PolicyVersion}
    (hv : v ∈ repo.versions) (hw : w ∈ repo.versions) (hpolicy : v.policyId = w.policyId)
    (hversion : v.version = w.version) : v = w :=
  List.inj_on_of_nodup_map hwell.numbered hv hw (Prod.ext hpolicy hversion)

/-- Every stored version is found under its key. -/
theorem WellFormed.getVersion_of_mem (hwell : repo.WellFormed) {v : PolicyVersion}
    (hv : v ∈ repo.versions) : repo.getVersion v.policyId v.version = .ok v := by
  have hany : ((repo.versionsOf v.policyId).find? (·.version == v.version)).isSome := by
    rw [List.find?_isSome]
    exact ⟨v, List.mem_filter.mpr ⟨hv, beq_self_eq_true _⟩, beq_self_eq_true _⟩
  obtain ⟨w, hw⟩ := Option.isSome_iff_exists.mp hany
  have hfound : repo.getVersion v.policyId v.version = .ok w := by
    unfold getVersion
    rw [hw]
  obtain ⟨hmem, hpolicy, hversion⟩ := mem_of_getVersion hfound
  rw [hfound, hwell.eq_of_key hmem hv hpolicy hversion]

/-! ## Policies and versions -/

/-- A new policy does not hide the others. -/
theorem getPolicy_append {added : Policy} (hne : policy ≠ added.id) :
    ({ repo with policies := repo.policies.filter (·.id != added.id) ++ [added] } :
      Repository).getPolicy policy = repo.getPolicy policy := by
  have hfind : (repo.policies.filter (·.id != added.id) ++ [added]).find? (·.id == policy) =
      repo.policies.find? (·.id == policy) := by
    have hadded : [added].find? (·.id == policy) = none := by simpa using Ne.symm hne
    -- only policies under the new identifier are dropped
    rw [List.find?_append, List.find?_filter, hadded, Option.or_none]
    congr 1
    funext p
    by_cases hp : p.id = policy
    · simp [hp, hne]
    · simp [hp]
  simp only [getPolicy, hfind]

theorem le_foldl_max {l : List Nat} {start n : Nat} (hn : n ≤ start ∨ n ∈ l) :
    n ≤ l.foldl max start := by
  induction l generalizing start with
  | nil => simpa using hn
  | cons head tail ih =>
      apply ih
      rcases hn with hle | hmem
      · exact Or.inl (Nat.le_trans hle (Nat.le_max_left _ _))
      · rcases List.mem_cons.mp hmem with rfl | htail
        · exact Or.inl (Nat.le_max_right _ _)
        · exact Or.inr htail

theorem lt_nextVersion {v : PolicyVersion} (hv : v ∈ repo.versions) :
    v.version < repo.nextVersion v.policyId := by
  have hmem : v.version ∈ (repo.versionsOf v.policyId).map (·.version) :=
    List.mem_map.mpr ⟨v, List.mem_filter.mpr ⟨hv, beq_self_eq_true _⟩, rfl⟩
  exact Nat.lt_succ_of_le (le_foldl_max (Or.inr hmem))

theorem addVersion_of_getPolicy {found : Policy} (hfound : repo.getPolicy policy = .ok found)
    (body : Value) (createdBy : Option Uuid) (now : Timestamp) :
    repo.addVersion policy body createdBy now =
      let added := PolicyVersion.draft policy (repo.nextVersion policy) body createdBy now
      .ok (added, { repo with versions := repo.versions ++ [added] }) :=
  bind_of_ok hfound

theorem addVersion_eq_ok {body : Value} {createdBy : Option Uuid} {added : PolicyVersion}
    {next : Repository} (hadd : repo.addVersion policy body createdBy now = .ok (added, next)) :
    ∃ found, repo.getPolicy policy = .ok found ∧
      added = .draft policy (repo.nextVersion policy) body createdBy now ∧
      next = { repo with versions := repo.versions ++ [added] } := by
  obtain ⟨found, hfound, hadded⟩ := exists_of_bind_eq_ok hadd
  cases hadded
  exact ⟨found, hfound, rfl, rfl⟩

theorem assign_of_getPolicy {found : Policy} (hfound : repo.getPolicy policy = .ok found)
    (scopeType : ScopeType) (scopeId : String) (now : Timestamp) :
    repo.assign policy scopeType scopeId now =
      let assignment : PolicyAssignment := ⟨policy, scopeType, scopeId, now⟩
      .ok (assignment, { repo with assignments := repo.assignments ++ [assignment] }) :=
  bind_of_ok hfound

theorem assign_eq_ok {scopeType : ScopeType} {scopeId : String} {assignment : PolicyAssignment}
    {next : Repository}
    (hassign : repo.assign policy scopeType scopeId now = .ok (assignment, next)) :
    ∃ found, repo.getPolicy policy = .ok found ∧
      next = { repo with assignments := repo.assignments ++ [assignment] } := by
  obtain ⟨found, hfound, hassigned⟩ := exists_of_bind_eq_ok hassign
  cases hassigned
  exact ⟨found, hfound, rfl⟩

theorem putRollout_of_getVersion {rollout : PolicyRollout} {v : PolicyVersion}
    (hfound : repo.getVersion rollout.policyId rollout.version = .ok v) :
    repo.putRollout rollout = .ok { repo with rollouts := repo.rollouts ++ [rollout] } :=
  bind_of_ok hfound

theorem putRollout_eq_ok {rollout : PolicyRollout} {next : Repository}
    (hput : repo.putRollout rollout = .ok next) :
    ∃ v, repo.getVersion rollout.policyId rollout.version = .ok v ∧
      next = { repo with rollouts := repo.rollouts ++ [rollout] } := by
  obtain ⟨v, hfound, hstored⟩ := exists_of_bind_eq_ok hput
  cases hstored
  exact ⟨v, hfound, rfl⟩

theorem WellFormed.add_draft (hwell : repo.WellFormed) (body : Value) (createdBy : Option Uuid) :
    WellFormed { repo with versions := repo.versions ++
      [PolicyVersion.draft policy (repo.nextVersion policy) body createdBy now] } where
  numbered := by
    rw [List.map_append, List.nodup_append]
    refine ⟨hwell.numbered, List.nodup_singleton _, ?_⟩
    -- the draft has a larger number than any version before, so its key is new
    rintro _ hold _ hnew rfl
    obtain ⟨v, hv, hkey⟩ := List.mem_map.mp hold
    rw [List.map_singleton, List.mem_singleton] at hnew
    obtain ⟨rfl, hversion⟩ : v.policyId = policy ∧ v.version = repo.nextVersion policy := by
      simpa [PolicyVersion.key, PolicyVersion.draft] using hkey.trans hnew
    exact absurd (lt_nextVersion hv) (by omega)
  indexed := hwell.indexed
  signedOnce := hwell.signedOnce

/-! ## Signatures -/

theorem recordApproval_of_getVersion {v : PolicyVersion}
    (hfound : repo.getVersion policy version = .ok v) :
    repo.recordApproval policy version user now =
      .ok (!repo.approvalKeys.contains (policy, version, user),
        repo.sign policy version user now) :=
  bind_of_ok hfound

theorem recordApproval_eq_ok {isNew : Bool} {next : Repository}
    (hrecord : repo.recordApproval policy version user now = .ok (isNew, next)) :
    ∃ v, repo.getVersion policy version = .ok v ∧ next = repo.sign policy version user now := by
  obtain ⟨v, hfound, hsigned⟩ := exists_of_bind_eq_ok hrecord
  cases hsigned
  exact ⟨v, hfound, rfl⟩

@[simp] theorem sign_versions : (repo.sign policy version user now).versions = repo.versions := by
  unfold sign
  split <;> rfl

@[simp] theorem sign_policies : (repo.sign policy version user now).policies = repo.policies := by
  unfold sign
  split <;> rfl

@[simp] theorem getVersion_sign (otherPolicy : Uuid) (otherVersion : Nat) :
    (repo.sign policy version user now).getVersion otherPolicy otherVersion =
      repo.getVersion otherPolicy otherVersion := by
  simp [getVersion, versionsOf]

theorem mem_sign_approvalKeys {key : Uuid × Nat × Uuid} :
    key ∈ (repo.sign policy version user now).approvalKeys ↔
      key ∈ repo.approvalKeys ∨ key = (policy, version, user) := by
  unfold sign
  split
  next hmem =>
    refine ⟨Or.inl, fun hor => hor.elim id ?_⟩
    rintro rfl
    simpa using hmem
  next => simp

theorem WellFormed.sign (hwell : repo.WellFormed) :
    (repo.sign policy version user now).WellFormed := by
  unfold Repository.sign
  split
  · exact hwell
  next hnew =>
    have hnotMem : (policy, version, user) ∉ repo.approvalKeys := by simpa using hnew
    refine ⟨hwell.numbered, ?_, ?_⟩
    · rw [List.map_append, hwell.indexed]
      rfl
    · rw [List.nodup_append]
      refine ⟨hwell.signedOnce, List.nodup_singleton _, ?_⟩
      rintro key hkey other hother rfl
      exact hnotMem (List.mem_singleton.mp hother ▸ hkey)

/-- Who has signed a version, in the order of the signatures. -/
def signers (repo : Repository) (policy : Uuid) (version : Nat) : List Uuid :=
  (repo.approvals.filter fun a => a.policyId == policy && a.version == version).map (·.userId)

theorem countApprovals_eq_length :
    repo.countApprovals policy version = (repo.signers policy version).length := by
  simp [countApprovals, signers]

theorem WellFormed.mem_signers_iff (hwell : repo.WellFormed) :
    user ∈ repo.signers policy version ↔ (policy, version, user) ∈ repo.approvalKeys := by
  rw [← hwell.indexed]
  simp only [signers, List.mem_map, List.mem_filter, Bool.and_eq_true, beq_iff_eq,
    PolicyApproval.key, Prod.mk.injEq]
  constructor
  · rintro ⟨a, ⟨hmem, hpolicy, hversion⟩, huser⟩
    exact ⟨a, hmem, hpolicy, hversion, huser⟩
  · rintro ⟨a, hmem, hpolicy, hversion, huser⟩
    exact ⟨a, ⟨hmem, hpolicy, hversion⟩, huser⟩

/-- Nobody signs a version twice. -/
theorem WellFormed.nodup_signers (hwell : repo.WellFormed) :
    (repo.signers policy version).Nodup := by
  have hkeys : (repo.approvals.map PolicyApproval.key).Nodup :=
    hwell.indexed ▸ hwell.signedOnce
  -- among the signatures under one version the user makes the key
  refine List.Nodup.map_on ?_ ((List.Nodup.of_map _ hkeys).filter _)
  intro a ha b hb huser
  simp only [List.mem_filter, Bool.and_eq_true, beq_iff_eq] at ha hb
  apply List.inj_on_of_nodup_map hkeys ha.1 hb.1
  simp only [PolicyApproval.key, ha.2, hb.2, huser]

/-- The count of the signatures under a version is the number of those who have signed it. -/
theorem WellFormed.countApprovals_eq_card (hwell : repo.WellFormed) (users : Finset Uuid)
    (husers : ∀ user, user ∈ users ↔ (policy, version, user) ∈ repo.approvalKeys) :
    repo.countApprovals policy version = users.card := by
  have hsigners : (repo.signers policy version).toFinset = users := by
    ext user
    rw [List.mem_toFinset, hwell.mem_signers_iff, husers]
  rw [countApprovals_eq_length, ← hsigners, List.toFinset_card_of_nodup hwell.nodup_signers]

/-- A signature never lowers a count. -/
theorem countApprovals_le_sign (otherPolicy : Uuid) (otherVersion : Nat) :
    repo.countApprovals otherPolicy otherVersion ≤
      (repo.sign policy version user now).countApprovals otherPolicy otherVersion := by
  unfold Repository.sign
  split
  · exact Nat.le_refl _
  · simp only [countApprovals, List.filter_append, List.length_append]
    exact Nat.le_add_right _ _

/-! ## Approving and activating -/

theorem approveVersion_of_draft {v : PolicyVersion} {approvedBy : Option Uuid}
    (hfound : repo.getVersion policy version = .ok v) (hdraft : v.status = .draft) :
    repo.approveVersion policy version approvedBy now = .ok (v.approved approvedBy now,
      repo.updateVersion policy version (·.approved approvedBy now)) := by
  unfold approveVersion
  rw [hfound]
  simp [bind, Except.bind, hdraft, VersionStatus.canBecome, pure, Except.pure]

theorem approveVersion_of_approved {v : PolicyVersion} {approvedBy : Option Uuid}
    (hfound : repo.getVersion policy version = .ok v) (happroved : v.status = .approved) :
    repo.approveVersion policy version approvedBy now = .ok (v, repo) := by
  unfold approveVersion
  rw [hfound]
  simp [bind, Except.bind, happroved, VersionStatus.canBecome, pure, Except.pure]

theorem approveVersion_of_active {v : PolicyVersion} {approvedBy : Option Uuid}
    (hfound : repo.getVersion policy version = .ok v) (hactive : v.status = .active) :
    repo.approveVersion policy version approvedBy now =
      .error (.invalidTransition policy version "active" "approved") := by
  unfold approveVersion
  rw [hfound]
  simp [bind, Except.bind, hactive, VersionStatus.canBecome, throw, throwThe,
    MonadExceptOf.throw, VersionStatus.name]

theorem activateVersion_of_approved {v : PolicyVersion}
    (hfound : repo.getVersion policy version = .ok v) (happroved : v.status = .approved)
    (now : Timestamp) : repo.activateVersion policy version now =
      .ok (v.activated now, repo.promote policy version now) := by
  unfold activateVersion
  rw [hfound]
  simp [bind, Except.bind, happroved, pure, Except.pure]

theorem activateVersion_of_not_approved {v : PolicyVersion}
    (hfound : repo.getVersion policy version = .ok v) (hother : v.status ≠ .approved)
    (now : Timestamp) :
    repo.activateVersion policy version now = .error (.notApproved version v.status.name) := by
  unfold activateVersion
  rw [hfound]
  simp [bind, Except.bind, hother, throw, throwThe, MonadExceptOf.throw]

/-- An approval that succeeds has found a draft, or an approved version, which stays. -/
theorem approveVersion_eq_ok {approvedBy : Option Uuid} {v : PolicyVersion} {next : Repository}
    (happrove : repo.approveVersion policy version approvedBy now = .ok (v, next)) :
    ∃ found, repo.getVersion policy version = .ok found ∧
      (found.status = .draft ∧ v = found.approved approvedBy now ∧
          next = repo.updateVersion policy version (·.approved approvedBy now) ∨
        found.status = .approved ∧ v = found ∧ next = repo) := by
  obtain ⟨found, hfound, -⟩ := exists_of_bind_eq_ok happrove
  refine ⟨found, hfound, ?_⟩
  cases hstatus : found.status with
  | draft =>
      rw [approveVersion_of_draft hfound hstatus] at happrove
      cases happrove
      exact Or.inl ⟨rfl, rfl, rfl⟩
  | approved =>
      rw [approveVersion_of_approved hfound hstatus] at happrove
      cases happrove
      exact Or.inr ⟨rfl, rfl, rfl⟩
  | active =>
      rw [approveVersion_of_active hfound hstatus] at happrove
      cases happrove

theorem activateVersion_eq_ok {v : PolicyVersion} {next : Repository}
    (hactivate : repo.activateVersion policy version now = .ok (v, next)) :
    ∃ found, repo.getVersion policy version = .ok found ∧ found.status = .approved ∧
      v = found.activated now ∧ next = repo.promote policy version now := by
  obtain ⟨found, hfound, -⟩ := exists_of_bind_eq_ok hactivate
  by_cases happroved : found.status = .approved
  · rw [activateVersion_of_approved hfound happroved] at hactivate
    cases hactivate
    exact ⟨found, hfound, happroved, rfl, rfl⟩
  · rw [activateVersion_of_not_approved hfound happroved] at hactivate
    cases hactivate

theorem mem_updateVersion {change : PolicyVersion → PolicyVersion} {v : PolicyVersion} :
    v ∈ (repo.updateVersion policy version change).versions ↔ ∃ old ∈ repo.versions,
      (if old.policyId = policy ∧ old.version = version then change old else old) = v :=
  List.mem_map

theorem mem_promote {v : PolicyVersion} :
    v ∈ (repo.promote policy version now).versions ↔ ∃ old ∈ repo.versions,
      (if old.policyId ≠ policy then old
        else if old.version = version then old.activated now else old.demoted) = v :=
  List.mem_map

/-- A change in place that keeps the keys does no harm. -/
theorem WellFormed.map_versions (hwell : repo.WellFormed) {change : PolicyVersion → PolicyVersion}
    (hkey : ∀ v, (change v).key = v.key) :
    WellFormed { repo with versions := repo.versions.map change } where
  numbered := by
    have hkeys : (repo.versions.map change).map PolicyVersion.key =
        repo.versions.map PolicyVersion.key := by
      rw [List.map_map]
      exact List.map_congr_left fun v _ => hkey v
    rw [hkeys]
    exact hwell.numbered
  indexed := hwell.indexed
  signedOnce := hwell.signedOnce

/-- A change in place that keeps the keys changes what stands under each key. -/
theorem versionsOf_map {change : PolicyVersion → PolicyVersion}
    (hkey : ∀ v, (change v).key = v.key) (policy : Uuid) :
    ({ repo with versions := repo.versions.map change } : Repository).versionsOf policy =
      (repo.versionsOf policy).map change := by
  have hsame : ∀ v : PolicyVersion, (change v).policyId = v.policyId := fun v =>
    congrArg Prod.fst (hkey v)
  simp only [versionsOf, List.filter_map, Function.comp_def, hsame]

theorem getVersion_map {change : PolicyVersion → PolicyVersion}
    (hkey : ∀ v, (change v).key = v.key) (policy : Uuid) (version : Nat) :
    ({ repo with versions := repo.versions.map change } : Repository).getVersion policy version =
      (repo.getVersion policy version).map change := by
  have hsame : ∀ v : PolicyVersion, (change v).version = v.version := fun v =>
    congrArg Prod.snd (hkey v)
  unfold getVersion
  rw [versionsOf_map hkey, List.find?_map]
  simp only [Function.comp_def, hsame]
  cases (repo.versionsOf policy).find? (·.version == version) <;> rfl

theorem getVersion_updateVersion {v : PolicyVersion} (change : PolicyVersion → PolicyVersion)
    (hkey : ∀ v, (change v).key = v.key) (hfound : repo.getVersion policy version = .ok v) :
    (repo.updateVersion policy version change).getVersion policy version = .ok (change v) := by
  obtain ⟨-, hpolicy, hversion⟩ := mem_of_getVersion hfound
  refine (getVersion_map (fun w => ?_) policy version).trans ?_
  · split
    · exact hkey w
    · rfl
  · rw [hfound]
    exact congrArg Except.ok (if_pos ⟨hpolicy, hversion⟩)

theorem getVersion_promote {v : PolicyVersion} (hfound : repo.getVersion policy version = .ok v) :
    (repo.promote policy version now).getVersion policy version = .ok (v.activated now) := by
  obtain ⟨-, hpolicy, hversion⟩ := mem_of_getVersion hfound
  refine (getVersion_map (fun w => ?_) policy version).trans ?_
  · split
    · rfl
    · split <;> rfl
  · rw [hfound]
    exact congrArg Except.ok ((if_neg (not_not.mpr hpolicy)).trans (if_pos hversion))

theorem WellFormed.updateVersion (hwell : repo.WellFormed)
    {change : PolicyVersion → PolicyVersion} (hkey : ∀ v, (change v).key = v.key) :
    (repo.updateVersion policy version change).WellFormed := by
  apply hwell.map_versions
  intro v
  split
  · exact hkey v
  · rfl

theorem WellFormed.promote (hwell : repo.WellFormed) :
    (repo.promote policy version now).WellFormed := by
  apply hwell.map_versions
  intro v
  split
  · rfl
  · split <;> rfl

end Mandate.Repository
