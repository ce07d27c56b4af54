import Mandate.Proofs.Lifecycle.ApprovalGate

/-! # Where compiled artifacts come from

The operations on policies keep a compiled artifact only when an activation has just made it.
Stored policies keep their engines and stored versions their bodies, and no number is handed out
twice; so whatever was made from a version once is still what its body compiles to, whichever
calls to the repository fail in between.
-/

namespace Mandate

open Mandate.Json Mandate.Time

namespace Repository

variable {repo next last : Repository} {policy : Uuid} {version : Nat} {user : Uuid}
  {now : Timestamp}

/-! ## What later states keep -/

/-- Every policy is still found as it was, and every version with the body that it had. -/
structure Extends (repo next : Repository) : Prop where
  policies : ∀ policy p, repo.getPolicy policy = .ok p → next.getPolicy policy = .ok p
  bodies : ∀ policy version v, repo.getVersion policy version = .ok v →
    ∃ w, next.getVersion policy version = .ok w ∧ w.body = v.body
  wellFormed : repo.WellFormed → next.WellFormed

theorem Extends.refl (repo : Repository) : repo.Extends repo where
  policies _ _ hfound := hfound
  bodies _ _ v hfound := ⟨v, hfound, rfl⟩
  wellFormed := id

theorem Extends.trans (hone : repo.Extends next) (hother : next.Extends last) :
    repo.Extends last where
  policies policy p hfound := hother.policies policy p (hone.policies policy p hfound)
  bodies policy version v hfound := by
    obtain ⟨w, hw, hbody⟩ := hone.bodies policy version v hfound
    obtain ⟨u, hu, hsame⟩ := hother.bodies policy version w hw
    exact ⟨u, hu, hsame.trans hbody⟩
  wellFormed := hother.wellFormed ∘ hone.wellFormed

/-- Changing versions in place without touching their keys and bodies keeps all that. -/
theorem Extends.map_versions {change : PolicyVersion → PolicyVersion}
    (hkey : ∀ v, (change v).key = v.key) (hbody : ∀ v, (change v).body = v.body) :
    repo.Extends { repo with versions := repo.versions.map change } where
  policies _ _ hfound := hfound
  bodies policy version v hfound :=
    ⟨change v, by rw [getVersion_map hkey, hfound, Except.map], hbody v⟩
  wellFormed hwell := hwell.map_versions hkey

/-- What touches neither policies nor versions keeps them. -/
theorem Extends.of_eq (hpolicies : next.policies = repo.policies)
    (hversions : next.versions = repo.versions)
    (hwell : repo.WellFormed → next.WellFormed) : repo.Extends next where
  policies policy p hfound := by rwa [getPolicy, hpolicies]
  bodies policy version v hfound := ⟨v, by rwa [getVersion, versionsOf, hversions], rfl⟩
  wellFormed := hwell

theorem Extends.sign : repo.Extends (repo.sign policy version user now) :=
  .of_eq sign_policies sign_versions WellFormed.sign

theorem Extends.updateVersion {change : PolicyVersion → PolicyVersion}
    (hkey : ∀ v, (change v).key = v.key) (hbody : ∀ v, (change v).body = v.body) :
    repo.Extends (repo.updateVersion policy version change) := by
  apply Extends.map_versions
  · intro v
    split
    · exact hkey v
    · rfl
  · intro v
    split
    · exact hbody v
    · rfl

theorem Extends.promote : repo.Extends (repo.promote policy version now) := by
  apply Extends.map_versions
  · intro v
    split
    · rfl
    · split <;> rfl
  · intro v
    split
    · rfl
    · split <;> rfl

/-! ## Every change -/

theorem extends_of_createPolicy {id orgId : Uuid} {name engine : String}
    {createdBy : Option Uuid} {added : Policy} (hfresh : ∀ p ∈ repo.policies, p.id ≠ id)
    (hcreate : repo.createPolicy id orgId name engine createdBy now = .ok (added, next)) :
    repo.Extends next := by
  cases hcreate
  refine ⟨fun policy p hfound => ?_, fun _ _ v hfound => ⟨v, hfound, rfl⟩,
    fun hwell => hwell.of_eq rfl rfl rfl⟩
  obtain ⟨hmem, hid⟩ := mem_of_getPolicy hfound
  have hother : policy ≠ (⟨id, orgId, name, engine, createdBy, now⟩ : Policy).id :=
    hid ▸ hfresh p hmem
  rw [← hfound]
  exact getPolicy_append hother

theorem extends_of_addVersion {body : Value} {createdBy : Option Uuid} {added : PolicyVersion}
    (hadd : repo.addVersion policy body createdBy now = .ok (added, next)) :
    repo.Extends next := by
  obtain ⟨_, -, rfl, rfl⟩ := addVersion_eq_ok hadd
  refine ⟨fun _ _ hfound => hfound, fun p n v hv => ⟨v, ?_, rfl⟩,
    fun hwell => hwell.add_draft body createdBy⟩
  -- the new version comes last, so the same one is found as before
  unfold getVersion at hv ⊢
  cases hfind : (repo.versionsOf p).find? (·.version == n) with
  | none => simp [hfind] at hv
  | some w =>
      obtain rfl : w = v := by simpa [hfind] using hv
      simp only [versionsOf] at hfind ⊢
      rw [List.filter_append, List.find?_append, hfind]
      rfl

theorem extends_of_assign {scopeType : ScopeType} {scopeId : String}
    {assignment : PolicyAssignment}
    (hassign : repo.assign policy scopeType scopeId now = .ok (assignment, next)) :
    repo.Extends next := by
  obtain ⟨_, -, rfl⟩ := assign_eq_ok hassign
  exact .of_eq rfl rfl fun hwell => hwell.of_eq rfl rfl rfl

theorem extends_of_putRollout {rollout : PolicyRollout}
    (hput : repo.putRollout rollout = .ok next) : repo.Extends next := by
  obtain ⟨_, -, rfl⟩ := putRollout_eq_ok hput
  exact .of_eq rfl rfl fun hwell => hwell.of_eq rfl rfl rfl

theorem extends_of_recordApproval {isNew : Bool}
    (hrecord : repo.recordApproval policy version user now = .ok (isNew, next)) :
    repo.Extends next := by
  obtain ⟨_, -, rfl⟩ := recordApproval_eq_ok hrecord
  exact .sign

theorem extends_of_approveVersion {approvedBy : Option Uuid} {v : PolicyVersion}
    (happrove : repo.approveVersion policy version approvedBy now = .ok (v, next)) :
    repo.Extends next := by
  obtain ⟨_, -, ⟨-, -, rfl⟩ | ⟨-, -, rfl⟩⟩ := approveVersion_eq_ok happrove
  · exact .updateVersion (fun _ => rfl) fun _ => rfl
  · exact .refl next

theorem extends_of_activateVersion {v : PolicyVersion}
    (hactivate : repo.activateVersion policy version now = .ok (v, next)) :
    repo.Extends next := by
  obtain ⟨_, -, -, -, rfl⟩ := activateVersion_eq_ok hactivate
  exact .promote

end Repository

/-! ## Artifacts -/

namespace CompiledCache

/-- What is kept after an artifact was put is that artifact, or was kept before. -/
theorem mem_put {cache : CompiledCache} {policy : Uuid} {version : Nat} {artifact : Artifact}
    {entry : (Uuid × Nat) × Artifact}
    (hentry : entry ∈ (cache.put policy version artifact).entries) :
    entry = ((policy, version), artifact) ∨ entry ∈ cache.entries := by
  rcases List.mem_cons.mp hentry with hnew | hold
  · exact Or.inl hnew
  · exact Or.inr (List.mem_filter.mp hold).1

theorem mem_of_get? {cache : CompiledCache} {policy : Uuid} {version : Nat} {artifact : Artifact}
    (hget : cache.get? policy version = some artifact) :
    ((policy, version), artifact) ∈ cache.entries := by
  obtain ⟨before, after, hentries, -⟩ := List.lookup_eq_some_iff.mp hget
  rw [hentries]
  exact List.mem_append_right _ List.mem_cons_self

end CompiledCache

namespace Lifecycle

variable {l l' l'' : Lifecycle} {on : Occasion} {policyId : Uuid} {version : Nat} {user : Uuid}
  {context : Value}

/-- The artifact is what the engine of a policy makes of the body of one of its versions. -/
def Makes (l : Lifecycle) (policyId : Uuid) (version : Nat) (artifact : Artifact) : Prop :=
  ∃ policy v, l.repository.getPolicy policyId = .ok policy ∧
    l.repository.getVersion policyId version = .ok v ∧ l.compile policy v.body = .ok artifact

/-- Every kept artifact is what its version makes. -/
def KeepsMade (l : Lifecycle) : Prop :=
  ∀ entry ∈ l.compiled.entries, l.Makes entry.1.1 entry.1.2 entry.2

/-- A later state of the same policies: what is stored is kept, and so is the registry; what is
kept in the cache was kept before or has been made from its version. -/
structure Follows (l l' : Lifecycle) : Prop where
  registry : l'.registry = l.registry
  repository : l.repository.Extends l'.repository
  compiled : ∀ entry ∈ l'.compiled.entries,
    entry ∈ l.compiled.entries ∨ l'.Makes entry.1.1 entry.1.2 entry.2

/-- A version goes on making what it makes. -/
theorem Makes.later {artifact : Artifact} (hmakes : l.Makes policyId version artifact)
    (hregistry : l'.registry = l.registry) (hextends : l.repository.Extends l'.repository) :
    l'.Makes policyId version artifact := by
  obtain ⟨policy, v, hpolicy, hversion, hcompile⟩ := hmakes
  obtain ⟨w, hw, hbody⟩ := hextends.bodies policyId version v hversion
  refine ⟨policy, w, hextends.policies policyId policy hpolicy, hw, ?_⟩
  rw [hbody, ← hcompile, compile, compile, hregistry]

/-- No version makes two artifacts. -/
theorem Makes.unique {artifact other : Artifact} (hone : l.Makes policyId version artifact)
    (hother : l.Makes policyId version other) : artifact = other := by
  obtain ⟨policy, v, hpolicy, hversion, hcompile⟩ := hone
  obtain ⟨policy', v', hpolicy', hversion', hcompile'⟩ := hother
  obtain rfl : policy = policy' := Except.ok.inj (hpolicy.symm.trans hpolicy')
  obtain rfl : v = v' := Except.ok.inj (hversion.symm.trans hversion')
  exact Except.ok.inj (hcompile.symm.trans hcompile')

theorem Follows.refl (l : Lifecycle) : l.Follows l where
  registry := rfl
  repository := .refl _
  compiled _ hentry := Or.inl hentry

theorem Follows.trans (hone : l.Follows l') (hother : l'.Follows l'') : l.Follows l'' where
  registry := hother.registry.trans hone.registry
  repository := hone.repository.trans hother.repository
  compiled entry hentry := by
    rcases hother.compiled entry hentry with hold | hmakes
    · exact (hone.compiled entry hold).imp_right (·.later hother.registry hother.repository)
    · exact Or.inr hmakes

theorem Follows.keepsMade (hfollows : l.Follows l') (hkeeps : l.KeepsMade) : l'.KeepsMade := by
  intro entry hentry
  rcases hfollows.compiled entry hentry with hold | hmakes
  · exact (hkeeps entry hold).later hfollows.registry hfollows.repository
  · exact hmakes

/-- A change of the repository alone. -/
theorem Follows.of_extends {repository : Repository} (hextends : l.repository.Extends repository) :
    l.Follows { l with repository } where
  registry := rfl
  repository := hextends
  compiled _ hentry := Or.inl hentry

/-- Dropping artifacts, publishing and recording change nothing that matters here. -/
theorem Follows.of_subset (hregistry : l'.registry = l.registry)
    (hrepository : l'.repository = l.repository)
    (hcompiled : l'.compiled.entries ⊆ l.compiled.entries) : l.Follows l' where
  registry := hregistry
  repository := by
    rw [hrepository]
    exact .refl _
  compiled _ hentry := Or.inl (hcompiled hentry)

theorem follows_invalidate (l : Lifecycle) (policyId : Uuid) :
    l.Follows (l.invalidate policyId) :=
  .of_subset rfl rfl fun _ hentry => (List.mem_filter.mp hentry).1

theorem ask_ok {α : Type} {call : RepositoryCall} {query : Repository → Except PolicyError α}
    {a : α} (hask : l.ask call query = .ok a) : query l.repository = .ok a := by
  unfold Lifecycle.ask at hask
  split at hask
  · cases hask
  · exact hask

/-- A change that succeeds is one of the repository alone. -/
theorem change_ok {α : Type} {call : RepositoryCall}
    {update : Repository → Except PolicyError (α × Repository)} {a : α}
    (hchange : l.change call update = .ok (a, l')) :
    ∃ repository, update l.repository = .ok (a, repository) ∧ l' = { l with repository } := by
  unfold Lifecycle.change at hchange
  cases hask : l.ask call update with
  | error e => simp [hask, Except.map] at hchange
  | ok changed =>
      simp only [hask, Except.map, Except.ok.injEq, Prod.mk.injEq] at hchange
      obtain ⟨rfl, rfl⟩ := hchange
      exact ⟨changed.2, ask_ok hask, rfl⟩

/-! ## Operations -/

theorem createPolicy_follows {orgId : Uuid} {name engine : String} {createdBy : Option Uuid}
    (hfresh : ∀ p ∈ l.repository.policies, p.id ≠ on.id) :
    l.Follows (l.createPolicy orgId name engine createdBy on).2 := by
  unfold createPolicy
  split
  · exact .refl l
  next policy l' hchange =>
    obtain ⟨repository, hcreate, rfl⟩ := change_ok hchange
    exact .of_extends (Repository.extends_of_createPolicy hfresh hcreate)

theorem addVersion_follows {body : Value} {createdBy : Option Uuid} :
    l.Follows (l.addVersion policyId body createdBy on).2 := by
  unfold addVersion
  split
  · exact .refl l
  · split
    · exact .refl l
    · split
      · exact .refl l
      next version l' hchange =>
        obtain ⟨repository, hadd, rfl⟩ := change_ok hchange
        exact (Follows.of_extends (Repository.extends_of_addVersion hadd)).trans
          (follows_invalidate _ _)

theorem assign_follows {scopeType : ScopeType} {scopeId : String} :
    l.Follows (l.assign policyId scopeType scopeId on).2 := by
  unfold assign
  split
  · exact .refl l
  next assignment l' hchange =>
    obtain ⟨repository, hassign, rfl⟩ := change_ok hchange
    exact (Follows.of_extends (Repository.extends_of_assign hassign)).trans
      (follows_invalidate _ _)

theorem setRollout_follows {orgId : Uuid} {percent : Nat} :
    l.Follows (l.setRollout orgId policyId version percent on).2 := by
  unfold setRollout
  dsimp only
  split
  · exact .refl l
  next u l' hchange =>
    obtain ⟨repository, hput, rfl⟩ := change_ok hchange
    cases hnext : l.repository.putRollout
        ⟨orgId, policyId, version, min percent 100, true, on.time⟩ with
    | error e => simp [hnext, Except.map] at hput
    | ok next =>
        obtain rfl : next = repository := by simpa [hnext, Except.map] using hput
        exact (Follows.of_extends (Repository.extends_of_putRollout hnext)).trans
          (.of_subset rfl rfl fun _ hentry => hentry)

theorem Approval.step_follows (policyId : Uuid) (version : Nat) (user : Uuid) (on : Occasion)
    (l : Lifecycle) (a : Approval) :
    l.Follows (Approval.step policyId version user on l a).2 := by
  cases a with
  | begun =>
      simp only [Approval.step]
      split <;> exact .refl l
  | policyFound policy =>
      simp only [Approval.step]
      split
      · exact .refl l
      · split <;> exact .refl l
  | bodyCompiled policy current =>
      simp only [Approval.step]
      split
      · exact .refl l
      next hchange =>
        obtain ⟨repository, hrecord, rfl⟩ := change_ok hchange
        exact .of_extends (Repository.extends_of_recordApproval hrecord)
  | signed policy current =>
      simp only [Approval.step]
      split <;> exact .refl l
  | counted policy current approvals =>
      simp only [Approval.step]
      split
      · exact .refl l
      · split
        · split
          · exact .refl l
          next hchange =>
            obtain ⟨repository, happrove, rfl⟩ := change_ok hchange
            exact .of_extends (Repository.extends_of_approveVersion happrove)
        · exact .refl l
  | settled policy approvals approved =>
      exact (follows_invalidate l policyId).trans
        (.of_subset rfl rfl fun _ hentry => hentry)

theorem Approval.run_follows (a : Approval) (l : Lifecycle) :
    l.Follows (Approval.run policyId version user on a l).2 := by
  fun_induction Approval.run policyId version user on a l with
  | case1 a l result l' hstep =>
      have hfollows := Approval.step_follows policyId version user on l a
      rwa [hstep] at hfollows
  | case2 a l b l' hstep ih =>
      have hfollows := Approval.step_follows policyId version user on l a
      rw [hstep] at hfollows
      exact hfollows.trans ih

/-- What an activation holds in its hands: the policy that is stored, and then the artifact that
the version makes. -/
def Activation.Sound (policyId : Uuid) (version : Nat) (l : Lifecycle) : Activation → Prop
  | .begun => True
  | .policyFound policy => l.repository.getPolicy policyId = .ok policy
  | .simulated _ artifact => l.Makes policyId version artifact
  | .activated _ artifact _ => l.Makes policyId version artifact

theorem Activation.step_follows {a : Activation} (hsound : a.Sound policyId version l)
    (context : Value) (on : Occasion) :
    l.Follows (Activation.step policyId version context on l a).2 ∧
      ∀ b, (Activation.step policyId version context on l a).1 = .next b →
        b.Sound policyId version (Activation.step policyId version context on l a).2 := by
  cases a with
  | begun =>
      simp only [Activation.step]
      split
      · exact ⟨.refl l, by simp [Progress.failed]⟩
      next policy hpolicy =>
        refine ⟨.refl l, ?_⟩
        rintro b ⟨⟩
        exact ask_ok hpolicy
  | policyFound policy =>
      simp only [Activation.step]
      split
      · exact ⟨.refl l, by simp [Progress.failed]⟩
      next current hcurrent =>
        split
        · exact ⟨.refl l, by simp [Progress.failed]⟩
        next artifact hcompile =>
          split
          · exact ⟨.refl l, by simp [Progress.failed]⟩
          · split
            · refine ⟨.refl l, ?_⟩
              rintro b ⟨⟩
              exact ⟨policy, current, hsound, ask_ok hcurrent, hcompile⟩
            · exact ⟨.refl l, by simp⟩
  | simulated policy artifact =>
      simp only [Activation.step]
      split
      · exact ⟨.refl l, by simp [Progress.failed]⟩
      next result l' hchange =>
        obtain ⟨repository, hactivate, rfl⟩ := change_ok hchange
        have hextends := Repository.extends_of_activateVersion hactivate
        refine ⟨.of_extends hextends, ?_⟩
        rintro b ⟨⟩
        exact hsound.later rfl hextends
  | activated policy artifact result =>
      simp only [Activation.step]
      refine ⟨?_, by simp⟩
      have hkept : l.Follows { l with
          compiled := (l.compiled.erasePolicy policyId).put policyId version artifact } := by
        refine ⟨rfl, .refl _, fun entry hentry => ?_⟩
        rcases CompiledCache.mem_put hentry with rfl | hold
        · exact Or.inr hsound
        · exact Or.inl (List.mem_filter.mp hold).1
      exact hkept.trans (.of_subset rfl rfl fun _ hentry => hentry)

theorem Activation.run_follows (a : Activation) (l : Lifecycle)
    (hsound : a.Sound policyId version l) :
    l.Follows (Activation.run policyId version context on a l).2 := by
  fun_induction Activation.run policyId version context on a l with
  | case1 a l result l' hstep =>
      obtain ⟨hfollows, -⟩ := Activation.step_follows hsound context on
      rwa [hstep] at hfollows
  | case2 a l b l' hstep ih =>
      obtain ⟨hfollows, hnext⟩ := Activation.step_follows hsound context on
      rw [hstep] at hfollows hnext
      exact hfollows.trans (ih (hnext b rfl))

/-- Whatever an operation does and however it ends, as long as it does not create a policy under
an identifier that is in use, what comes after it follows what was before. -/
theorem run_follows (operation : LifecycleOperation)
    (hfresh : ∀ p ∈ l.repository.policies,
      LifecycleCall.created? ⟨operation, on⟩ ≠ some p.id) :
    l.Follows (operation.run on l).2 := by
  cases operation with
  | createPolicy orgId name engine createdBy =>
      exact createPolicy_follows fun p hp heq => hfresh p hp (congrArg some heq.symm)
  | addVersion policy body createdBy => exact addVersion_follows
  | approve policy version user => exact Approval.run_follows .begun l
  | simulate policy version context => exact .refl l
  | activate policy version context => exact Activation.run_follows .begun l trivial
  | assign policy scopeType scopeId => exact assign_follows
  | setRollout orgId policy version percent => exact setRollout_follows

end Lifecycle

end Mandate
