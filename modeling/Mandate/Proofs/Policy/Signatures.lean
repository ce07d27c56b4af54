import Mandate.Proofs.Policy.Run

/-! # The signatures under a version

Signatures are kept twice: in a list, which is counted, and in an index, which tells whether a
signature is new. Over every run the two hold the same signatures, each once, and they are those of
the users whose signing of a version has succeeded. Signing a version that does not exist leaves
nothing behind, and nothing but signing touches the signatures.
-/

namespace Mandate

open Mandate.Json Mandate.Time

namespace RepositoryEvent

/-- The user whose signing of a version succeeds with the operation, whether it is new or not. -/
def signer? (policy : Uuid) (version : Nat) (e : RepositoryEvent) : Option Uuid :=
  match e.timed.operation, e.answer with
  | .recordApproval target number user, .ok _ =>
      if target = policy ∧ number = version then some user else none
  | _, _ => none

/-- The signature that the operation puts down. -/
def signature? (e : RepositoryEvent) : Option PolicyApproval :=
  match e.timed.operation, e.answer with
  | .recordApproval policy version user, .ok (.isNew true) =>
      some ⟨policy, version, user, e.timed.now⟩
  | _, _ => none

end RepositoryEvent

namespace Repository

/-- The users who have signed a version in the course of a run. -/
def signersIn (past : List RepositoryEvent) (policy : Uuid) (version : Nat) : Finset Uuid :=
  (past.filterMap (·.signer? policy version)).toFinset

/-- The signatures that have been put down in the course of a run. -/
def signaturesIn (past : List RepositoryEvent) : List PolicyApproval :=
  past.filterMap (·.signature?)

variable {repo : Repository} {past : List RepositoryEvent} {policy : Uuid} {version : Nat}
  {user : Uuid} {e : RepositoryEvent}

theorem mem_signersIn_concat : user ∈ signersIn (past ++ [e]) policy version ↔
    user ∈ signersIn past policy version ∨ e.signer? policy version = some user := by
  simp [signersIn]

theorem signaturesIn_concat :
    signaturesIn (past ++ [e]) = signaturesIn past ++ e.signature?.toList := by
  rw [signaturesIn, List.filterMap_append]
  cases hsignature : e.signature? <;> simp [signaturesIn, hsignature]

theorem getVersion_error {error : PolicyError}
    (hmissing : repo.getVersion policy version = .error error) :
    error = .versionNotFound policy version := by
  unfold getVersion at hmissing
  split at hmissing
  · cases hmissing
  · exact (Except.error.inj hmissing).symm

end Repository

/-! ## One operation -/

namespace RepositoryEvent

variable {e : RepositoryEvent} {repo : Repository} {policy : Uuid} {version : Nat} {user : Uuid}
  {now : Timestamp}

/-- Signing a version that exists. -/
theorem outcome_sign {found : PolicyVersion} (hfound : repo.getVersion policy version = .ok found)
    (user : Uuid) (now : Timestamp) :
    outcome ⟨repo, .recordApproval policy version user, now⟩ =
      (.ok (.isNew !repo.approvalKeys.contains (policy, version, user)),
        repo.sign policy version user now) := by
  apply outcome_of_ok
  rw [RepositoryOperation.run, Repository.recordApproval_of_getVersion hfound]
  rfl

/-- Signing a version that does not exist. -/
theorem outcome_sign_missing {error : PolicyError}
    (hmissing : repo.getVersion policy version = .error error) (user : Uuid) (now : Timestamp) :
    outcome ⟨repo, .recordApproval policy version user, now⟩ =
      (.error (.versionNotFound policy version), repo) := by
  apply outcome_of_error
  rw [RepositoryOperation.run, Repository.recordApproval, Fallible.bind_of_error hmissing,
    Repository.getVersion_error hmissing]
  rfl

/-- Nothing but signing touches the signatures. -/
theorem signatures_kept
    (hother : ∀ policy version user, e.timed.operation ≠ .recordApproval policy version user) :
    e.after.approvals = e.before.approvals ∧ e.after.approvalKeys = e.before.approvalKeys := by
  rcases e.effect_or_failed with ⟨answer, -, heffect⟩ | ⟨_, -, hafter⟩
  · obtain ⟨before, operation, now⟩ := e
    generalize (RepositoryEvent.mk before ⟨operation, now⟩).after = after at heffect
    cases heffect with
    | signed _ _ => exact absurd rfl (hother _ _ _)
    | _ => exact ⟨rfl, rfl⟩
  · rw [hafter]
    exact ⟨rfl, rfl⟩

theorem signature?_of_other
    (hother : ∀ policy version user, e.timed.operation ≠ .recordApproval policy version user) :
    e.signature? = none := by
  unfold signature?
  split
  next hsign _ => exact absurd hsign (hother _ _ _)
  next => rfl

theorem signer?_of_other
    (hother : ∀ policy version user, e.timed.operation ≠ .recordApproval policy version user) :
    e.signer? policy version = none := by
  unfold signer?
  split
  next hsign _ => exact absurd hsign (hother _ _ _)
  next => rfl

theorem signs_or_not (e : RepositoryEvent) :
    (∃ policy version user, e.timed.operation = .recordApproval policy version user) ∨
      ∀ policy version user, e.timed.operation ≠ .recordApproval policy version user := by
  by_cases hsign : ∃ policy version user, e.timed.operation = .recordApproval policy version user
  · exact Or.inl hsign
  · exact Or.inr (by simpa using hsign)

/-- An operation puts a new signature behind the others, in the list as well as in the index. -/
theorem signatures_after (e : RepositoryEvent) :
    e.after.approvals = e.before.approvals ++ e.signature?.toList ∧
      e.after.approvalKeys =
        e.before.approvalKeys ++ e.signature?.toList.map PolicyApproval.key := by
  rcases signs_or_not e with hsign | hother
  · obtain ⟨before, operation, now⟩ := e
    obtain ⟨policy, version, user, rfl⟩ := hsign
    cases hfound : before.getVersion policy version with
    | error error =>
        have houtcome := outcome_sign_missing hfound user now
        simp [signature?, answer, after, houtcome]
    | ok found =>
        have houtcome := outcome_sign hfound user now
        cases hold : before.approvalKeys.contains (policy, version, user) with
        | true => simp_all [signature?, answer, after, Repository.sign]
        | false => simp_all [signature?, answer, after, Repository.sign, PolicyApproval.key]
  · obtain ⟨happrovals, hkeys⟩ := signatures_kept hother
    simp [happrovals, hkeys, signature?_of_other hother]

/-- A user who signs a version successfully has signed it from then on, and nobody else has. -/
theorem mem_approvalKeys_after_iff : (policy, version, user) ∈ e.after.approvalKeys ↔
    (policy, version, user) ∈ e.before.approvalKeys ∨ e.signer? policy version = some user := by
  rcases signs_or_not e with hsign | hother
  · obtain ⟨before, operation, now⟩ := e
    obtain ⟨target, number, signer, rfl⟩ := hsign
    cases hfound : before.getVersion target number with
    | error error => simp [signer?, answer, after, outcome_sign_missing hfound signer now]
    | ok found =>
        simp only [after, answer, signer?, outcome_sign hfound signer now,
          Repository.mem_sign_approvalKeys]
        refine or_congr_right ?_
        by_cases hkey : target = policy ∧ number = version
        · obtain ⟨rfl, rfl⟩ := hkey
          simp [eq_comm]
        · rw [if_neg hkey]
          simp only [Prod.mk.injEq, reduceCtorEq, iff_false]
          rintro ⟨rfl, rfl, -⟩
          exact hkey ⟨rfl, rfl⟩
  · rw [(signatures_kept hother).2, signer?_of_other hother]
    simp

/-- Only what is stored can be signed. -/
theorem stored_of_signer? (hsigner : e.signer? policy version = some user) :
    (policy, version) ∈ e.before.versions.map PolicyVersion.key := by
  rcases signs_or_not e with hsign | hother
  · obtain ⟨before, operation, now⟩ := e
    obtain ⟨target, number, signer, rfl⟩ := hsign
    cases hfound : before.getVersion target number with
    | error error =>
        simp [signer?, answer, outcome_sign_missing hfound signer now] at hsigner
    | ok found =>
        obtain ⟨hmem, hpolicy, hversion⟩ := Repository.mem_of_getVersion hfound
        obtain ⟨⟨rfl, rfl⟩, -⟩ : (target = policy ∧ number = version) ∧ signer = user := by
          simpa [signer?, answer, outcome_sign hfound signer now] using hsigner
        exact List.mem_map.mpr ⟨found, hmem, Prod.ext hpolicy hversion⟩
  · rw [signer?_of_other hother] at hsigner
    cases hsigner

end RepositoryEvent

/-! ## Runs -/

namespace Repository

/-- The signatures are those of the history, and all of them are under stored versions. -/
structure SignedBy (past : List RepositoryEvent) (repo : Repository) : Prop where
  wellFormed : repo.WellFormed
  approvals : repo.approvals = signaturesIn past
  keys : ∀ policy version user,
    (policy, version, user) ∈ repo.approvalKeys ↔ user ∈ signersIn past policy version
  stored : ∀ policy version user, (policy, version, user) ∈ repo.approvalKeys →
    (policy, version) ∈ repo.versions.map PolicyVersion.key

variable {repo : Repository} {past : List RepositoryEvent} {policy : Uuid} {version : Nat}

theorem SignedBy.empty : SignedBy [] {} where
  wellFormed := .empty
  approvals := rfl
  keys _ _ _ := by simp [signersIn]
  stored _ _ _ := nofun

/-- Every operation adds to the history what it does to the signatures. -/
theorem SignedBy.step (hsigned : SignedBy past repo) (timed : TimedOperation) :
    SignedBy (past ++ [⟨repo, timed⟩]) (RepositoryEvent.mk repo timed).after where
  wellFormed := (RepositoryEvent.mk repo timed).wellFormed_after hsigned.wellFormed
  approvals := by
    rw [(RepositoryEvent.signatures_after _).1, signaturesIn_concat, hsigned.approvals]
  keys policy version user := by
    rw [RepositoryEvent.mem_approvalKeys_after_iff, mem_signersIn_concat, hsigned.keys]
  stored policy version user hmem := by
    apply RepositoryEvent.stored_after _ hsigned.wellFormed
    rcases RepositoryEvent.mem_approvalKeys_after_iff.mp hmem with hold | hnew
    · exact hsigned.stored policy version user hold
    · exact RepositoryEvent.stored_of_signer? hnew

theorem signed_afterAll (operations : List TimedOperation) :
    SignedBy (history {} operations) (afterAll {} operations) :=
  afterAll_invariant SignedBy (fun _ _ timed hsigned => hsigned.step timed) operations [] {} .empty

theorem SignedBy.countApprovals_eq (hsigned : SignedBy past repo) (policy : Uuid)
    (version : Nat) : repo.countApprovals policy version = (signersIn past policy version).card :=
  hsigned.wellFormed.countApprovals_eq_card _ fun user => (hsigned.keys policy version user).symm

/-- Nobody has signed what is not stored. -/
theorem SignedBy.signersIn_of_not_stored (hsigned : SignedBy past repo)
    (hnew : (policy, version) ∉ repo.versions.map PolicyVersion.key) :
    signersIn past policy version = ∅ := by
  refine Finset.eq_empty_of_forall_notMem fun user huser => hnew ?_
  exact hsigned.stored policy version user ((hsigned.keys policy version user).mpr huser)

/-- A version that has just been added has no signatures. -/
theorem SignedBy.countApprovals_added (hsigned : SignedBy past repo) {body : Value}
    {createdBy : Option Uuid} {now : Timestamp} {added : PolicyVersion}
    (hadded : (RepositoryEvent.mk repo ⟨.addVersion policy body createdBy, now⟩).answer =
      .ok (.version added)) :
    (RepositoryEvent.mk repo ⟨.addVersion policy body createdBy, now⟩).after.countApprovals policy
      added.version = 0 := by
  have hnew : (policy, repo.nextVersion policy) ∉ repo.versions.map PolicyVersion.key := by
    intro hstored
    obtain ⟨v, hv, hkey⟩ := List.mem_map.mp hstored
    obtain ⟨rfl, hversion⟩ : v.policyId = policy ∧ v.version = repo.nextVersion policy :=
      Prod.mk.inj hkey
    exact absurd (lt_nextVersion hv) (by omega)
  have hnumber : added.version = repo.nextVersion policy := by
    rcases RepositoryEvent.effect_or_failed ⟨repo, .addVersion policy body createdBy, now⟩ with
      ⟨answer, hanswer, heffect⟩ | ⟨error, herror, -⟩
    · obtain rfl : answer = .version added := Except.ok.inj (hanswer.symm.trans hadded)
      generalize (RepositoryEvent.mk repo _).after = after at heffect
      cases heffect with
      | asked hquestion => cases hquestion
      | added _ hdraft => rw [hdraft]; rfl
    · rw [herror] at hadded
      cases hadded
  have hkept := (RepositoryEvent.signatures_kept
    (e := ⟨repo, .addVersion policy body createdBy, now⟩) (fun _ _ _ => nofun)).1
  rw [countApprovals, hkept, hnumber]
  change repo.countApprovals policy (repo.nextVersion policy) = 0
  rw [hsigned.countApprovals_eq, hsigned.signersIn_of_not_stored hnew, Finset.card_empty]

/-- After every run, the count of the signatures under a version is the number of the users who have
signed it successfully. A user who signs an existing version is told that the signature is new
exactly if the user has not signed it before; signing a version that does not exist fails and
leaves everything as it is, so a version that is added later under that number begins without
signatures. The list of signatures and the index hold the same ones, each once; an operation that
puts down a new signature puts it behind those that are there, in both, and no other operation
touches them. -/
theorem signatures_are_users (operations : List TimedOperation) :
    let past := history {} operations
    let repo := afterAll {} operations
    (∀ policy version now, (RepositoryEvent.mk repo ⟨.countApprovals policy version, now⟩).answer =
      .ok (.count (signersIn past policy version).card)) ∧
    (∀ policy version user now,
      (RepositoryEvent.mk repo ⟨.recordApproval policy version user, now⟩).outcome =
        match repo.getVersion policy version with
        | .ok _ => (.ok (.isNew (user ∉ signersIn past policy version)),
            repo.sign policy version user now)
        | .error _ => (.error (.versionNotFound policy version), repo)) ∧
    (∀ policy body createdBy now added,
      let e := RepositoryEvent.mk repo ⟨.addVersion policy body createdBy, now⟩
      e.answer = .ok (.version added) → e.after.countApprovals policy added.version = 0) ∧
    (repo.approvals.map PolicyApproval.key = repo.approvalKeys ∧ repo.approvalKeys.Nodup) ∧
    (∀ timed, let e := RepositoryEvent.mk repo timed
      e.after.approvals = repo.approvals ++ e.signature?.toList ∧
        e.after.approvalKeys = repo.approvalKeys ++ e.signature?.toList.map PolicyApproval.key) ∧
    repo.approvals = signaturesIn past := by
  intro past repo
  have hsigned : SignedBy past repo := signed_afterAll operations
  refine ⟨fun policy version now => ?_, fun policy version user now => ?_,
    fun policy body createdBy now added hadded => hsigned.countApprovals_added hadded,
    ⟨hsigned.wellFormed.indexed, hsigned.wellFormed.signedOnce⟩,
    fun timed => RepositoryEvent.signatures_after _, hsigned.approvals⟩
  · rw [← hsigned.countApprovals_eq]
    rfl
  · cases hfound : repo.getVersion policy version with
    | error error => exact RepositoryEvent.outcome_sign_missing hfound user now
    | ok found =>
        have hindex : repo.approvalKeys.contains (policy, version, user) =
            decide (user ∈ signersIn past policy version) := by
          simp [← hsigned.keys]
        rw [RepositoryEvent.outcome_sign hfound user now, hindex, decide_not]

/-- A run in which a version is signed before it exists, then by two users, one of them twice, and
then approved, put in force and replaced. -/
def endorsed : List TimedOperation :=
  [⟨.createPolicy ⟨1⟩ ⟨9⟩ "p" "e" none, default⟩, ⟨.recordApproval ⟨1⟩ 1 ⟨6⟩, default⟩,
    ⟨.addVersion ⟨1⟩ .null none, default⟩, ⟨.recordApproval ⟨1⟩ 1 ⟨7⟩, default⟩,
    ⟨.recordApproval ⟨1⟩ 1 ⟨8⟩, default⟩, ⟨.recordApproval ⟨1⟩ 1 ⟨7⟩, default⟩,
    ⟨.approveVersion ⟨1⟩ 1 none, default⟩, ⟨.activateVersion ⟨1⟩ 1, default⟩,
    ⟨.addVersion ⟨1⟩ .null none, default⟩, ⟨.recordApproval ⟨1⟩ 2 ⟨7⟩, default⟩,
    ⟨.approveVersion ⟨1⟩ 2 none, default⟩, ⟨.activateVersion ⟨1⟩ 2, default⟩]

/-- Two users have signed the first version, and the next version begins without signatures. -/
theorem endorsed_by_two :
    let repo := afterAll {} endorsed
    (RepositoryEvent.mk repo ⟨.countApprovals ⟨1⟩ 1, default⟩).answer = .ok (.count 2) ∧
    (RepositoryEvent.mk repo ⟨.recordApproval ⟨1⟩ 1 ⟨6⟩, default⟩).answer = .ok (.isNew true) ∧
    (RepositoryEvent.mk repo ⟨.recordApproval ⟨1⟩ 1 ⟨8⟩, default⟩).answer = .ok (.isNew false) ∧
    ∃ added, let e := RepositoryEvent.mk repo ⟨.addVersion ⟨1⟩ .null none, default⟩
      e.answer = .ok (.version added) ∧ added.version = 3 ∧ e.after.countApprovals ⟨1⟩ 3 = 0 := by
  intro repo
  obtain ⟨hcount, hsign, hadded, -⟩ := signatures_are_users endorsed
  obtain ⟨found, hfound⟩ : ∃ found, repo.getVersion ⟨1⟩ 1 = .ok found := ⟨_, rfl⟩
  have hsigners : signersIn (history {} endorsed) ⟨1⟩ 1 = {⟨7⟩, ⟨8⟩} := by decide +kernel
  refine ⟨(hcount ⟨1⟩ 1 default).trans ?_, ?_, ?_, _, rfl, rfl, hadded ⟨1⟩ .null none default _ rfl⟩
  · rw [hsigners]
    rfl
  · rw [RepositoryEvent.answer, hsign, hfound, hsigners]
    rfl
  · rw [RepositoryEvent.answer, hsign, hfound, hsigners]
    rfl

end Repository

end Mandate
