import Mandate.Proofs.Policy.Run

/-! # The numbers and the contents of versions

The versions of a policy are numbered from one on, in the order in which they have been added, and
no number is ever used again. What a version has been given when it was added stays with it for
ever. Its approver is whoever has last approved it while it was a draft.

All of it is told from the history of a run: the additions of a policy and the approvals of a
version are found in the history, and the stored versions are what these make of them.
-/

namespace Mandate

open Mandate.Json Mandate.Time

/-- What is given for a new version. -/
structure Contribution where
  body : Value
  createdBy : Option Uuid

/-- What stands in a version for ever: its number, its body with the checksum, and its creator. -/
def PolicyVersion.contents (v : PolicyVersion) : Nat × Value × String × Option Uuid :=
  (v.version, v.body, v.checksum, v.createdBy)

namespace Contribution

/-- What stands in the version with a number for ever. -/
def contents (given : Contribution) (version : Nat) : Nat × Value × String × Option Uuid :=
  (version, given.body, Digest.checksum given.body, given.createdBy)

/-- What stands in the versions of a policy, numbered from one on. -/
def numbered (given : List Contribution) : List (Nat × Value × String × Option Uuid) :=
  (given.zipIdx 1).map fun entry => entry.1.contents entry.2

theorem numbered_append (given : List Contribution) (last : Contribution) :
    numbered (given ++ [last]) = numbered given ++ [last.contents (given.length + 1)] := by
  simp [numbered, List.zipIdx_append, Nat.add_comm]

theorem numbers_numbered (given : List Contribution) :
    (numbered given).map (·.1) = List.range' 1 given.length := by
  rw [numbered, List.map_map, ← List.zipIdx_map_snd 1 given]
  rfl

end Contribution

/-- The status of a version, if it exists. -/
def Repository.statusOf? (repo : Repository) (policy : Uuid) (version : Nat) :
    Option VersionStatus :=
  (repo.getVersion policy version).toOption.map (·.status)

namespace RepositoryEvent

/-- What has been given for the version that the operation adds to a policy. -/
def contribution? (policy : Uuid) (e : RepositoryEvent) : Option Contribution :=
  match e.timed.operation, e.answer with
  | .addVersion target body createdBy, .ok _ =>
      if target = policy then some ⟨body, createdBy⟩ else none
  | _, _ => none

/-- The approver, if the operation approves a version that is a draft. -/
def approval? (policy : Uuid) (version : Nat) (e : RepositoryEvent) : Option (Option Uuid) :=
  match e.timed.operation with
  | .approveVersion target number approvedBy =>
      if target = policy ∧ number = version ∧
          e.before.statusOf? policy version = some .draft ∧
          e.after.statusOf? policy version = some .approved then
        some approvedBy
      else none
  | _ => none

end RepositoryEvent

namespace Repository

/-- What has been given for the versions of a policy, in the order of their addition. -/
def contributions (past : List RepositoryEvent) (policy : Uuid) : List Contribution :=
  past.filterMap (·.contribution? policy)

/-- The approvers of a version in their order, each of whom has found it a draft. -/
def approvers (past : List RepositoryEvent) (policy : Uuid) (version : Nat) :
    List (Option Uuid) :=
  past.filterMap (·.approval? policy version)

/-- Who has last approved a version while it was a draft. -/
def lastApprover (past : List RepositoryEvent) (policy : Uuid) (version : Nat) : Option Uuid :=
  (approvers past policy version).getLastD none

variable {repo : Repository} {past : List RepositoryEvent} {policy : Uuid} {version : Nat}
  {e : RepositoryEvent}

theorem contributions_concat : contributions (past ++ [e]) policy =
    contributions past policy ++ (e.contribution? policy).toList := by
  rw [contributions, List.filterMap_append]
  cases hgiven : e.contribution? policy <;> simp [contributions, hgiven]

theorem approvers_concat : approvers (past ++ [e]) policy version =
    approvers past policy version ++ (e.approval? policy version).toList := by
  rw [approvers, List.filterMap_append]
  cases hgiven : e.approval? policy version <;> simp [approvers, hgiven]

theorem lastApprover_concat : lastApprover (past ++ [e]) policy version =
    (e.approval? policy version).getD (lastApprover past policy version) := by
  rw [lastApprover, approvers_concat]
  cases e.approval? policy version with
  | none => rw [Option.toList, List.append_nil, Option.getD_none, lastApprover]
  | some approvedBy => exact List.getLastD_concat

theorem statusOf?_of_getVersion {v : PolicyVersion}
    (hfound : repo.getVersion policy version = .ok v) :
    repo.statusOf? policy version = some v.status := by
  rw [statusOf?, hfound]
  rfl

theorem statusOf?_of_not_stored
    (hnew : (policy, version) ∉ repo.versions.map PolicyVersion.key) :
    repo.statusOf? policy version = none := by
  unfold statusOf?
  cases hfound : repo.getVersion policy version with
  | error e => rfl
  | ok v =>
      obtain ⟨hmem, rfl, rfl⟩ := mem_of_getVersion hfound
      exact absurd (List.mem_map_of_mem hmem) hnew

/-! ## Numbers -/

theorem foldl_max_range' (n : Nat) : (List.range' 1 n).foldl max 0 = n := by
  induction n with
  | zero => rfl
  | succ n ih =>
      rw [List.range'_1_concat, List.foldl_append, ih]
      change max n (1 + n) = n + 1
      omega

/-- Numbers without gaps are continued without a gap. -/
theorem nextVersion_of_numbers {n : Nat}
    (hnumbers : (repo.versionsOf policy).map (·.version) = List.range' 1 n) :
    repo.nextVersion policy = n + 1 := by
  rw [nextVersion, hnumbers, foldl_max_range']

theorem listVersions_of_getPolicy {found : Policy} (hfound : repo.getPolicy policy = .ok found) :
    repo.listVersions policy =
      .ok ((repo.versionsOf policy).mergeSort fun a b => b.version ≤ a.version) :=
  Fallible.bind_of_ok hfound

/-- Versions that are stored in ascending order are listed the other way round. -/
theorem mergeSort_of_numbers {n : Nat}
    (hnumbers : (repo.versionsOf policy).map (·.version) = List.range' 1 n) :
    ((repo.versionsOf policy).mergeSort fun a b => b.version ≤ a.version) =
      (repo.versionsOf policy).reverse := by
  have hascending : (repo.versionsOf policy).Pairwise fun a b => a.version < b.version := by
    rw [← List.pairwise_map (f := PolicyVersion.version) (R := (· < ·)), hnumbers]
    exact List.pairwise_lt_range'
  let newestFirst : PolicyVersion → PolicyVersion → Bool := fun a b => b.version ≤ a.version
  have hsorted : ((repo.versionsOf policy).mergeSort newestFirst).Pairwise (newestFirst · ·) :=
    List.pairwise_mergeSort (by simp [newestFirst]; omega) (by simp [newestFirst]; omega) _
  have hperm := List.mergeSort_perm (repo.versionsOf policy) newestFirst
  refine (hperm.trans (List.reverse_perm _).symm).eq_of_pairwise (fun v w hv hw hle hge => ?_)
    hsorted ((List.pairwise_reverse.mpr hascending).imp fun hlt => by
      simpa [newestFirst] using hlt.le)
  -- both orders can only hold of one number, and no number occurs twice
  have hnodup : ((repo.versionsOf policy).map (·.version)).Nodup := by
    rw [hnumbers]
    exact List.nodup_range'
  refine List.inj_on_of_nodup_map hnodup (hperm.mem_iff.mp hv) (List.mem_reverse.mp hw) ?_
  exact le_antisymm (by simpa [newestFirst] using hge) (by simpa [newestFirst] using hle)

end Repository

/-! ## One operation -/

namespace RepositoryOperation

theorem contents_changed (operation : RepositoryOperation) (now : Timestamp) (v : PolicyVersion) :
    (operation.changed now v).contents = v.contents := by
  obtain ⟨hkey, hbody, hchecksum, hcreator⟩ := RepositoryOperation.changed_keeps operation now v
  rw [PolicyVersion.contents, hbody, hchecksum, hcreator,
    show (operation.changed now v).version = v.version from congrArg Prod.snd hkey]
  rfl

/-- What is added is new and not approved. -/
theorem added?_fresh {repo : Repository} {operation : RepositoryOperation} {now : Timestamp}
    {v : PolicyVersion}
    (hv : v ∈ (operation.added? repo now).toList) :
    v.approvedBy = none ∧ (v.policyId, v.version) ∉ repo.versions.map PolicyVersion.key := by
  cases operation with
  | addVersion policy body createdBy =>
      obtain rfl := List.mem_singleton.mp hv
      refine ⟨rfl, fun hstored => ?_⟩
      obtain ⟨old, hmem, hkey⟩ := List.mem_map.mp hstored
      obtain ⟨rfl, hversion⟩ : old.policyId = policy ∧ old.version = repo.nextVersion policy :=
        Prod.mk.inj hkey
      exact absurd (Repository.lt_nextVersion hmem) (by omega)
  | _ => cases hv

end RepositoryOperation

namespace Effect

variable {repo next : Repository} {now : Timestamp} {operation : RepositoryOperation}
  {answer : RepositoryAnswer}

/-- The versions of a policy after an operation are those before it, some of them changed in place,
and the draft if it has been added to this policy. -/
theorem versionsOf (heffect : Effect repo now operation answer next) (hwell : repo.WellFormed)
    (policy : Uuid) : next.versionsOf policy =
      (repo.versionsOf policy).map (operation.changed now) ++
        (operation.added? repo now).toList.filter (·.policyId == policy) := by
  have hsame : ∀ v, (operation.changed now v).policyId = v.policyId := fun v =>
    congrArg Prod.fst (RepositoryOperation.changed_keeps operation now v).1
  rw [Repository.versionsOf, heffect.versions hwell, List.filter_append, List.filter_map]
  simp only [Function.comp_def, hsame, Repository.versionsOf]

end Effect

namespace RepositoryEvent

variable {e : RepositoryEvent}

/-- An operation that fails has not added anything. -/
theorem contribution?_of_error {error : PolicyError} (hanswer : e.answer = .error error)
    (policy : Uuid) : e.contribution? policy = none := by
  unfold contribution?
  split
  next hok =>
    rw [hanswer] at hok
    cases hok
  next => rfl

/-- What stands in the versions of a policy stays there, and what is given for a new version comes
after it. -/
theorem contents_after (e : RepositoryEvent) (hwell : e.before.WellFormed) (policy : Uuid) :
    (e.after.versionsOf policy).map PolicyVersion.contents =
      (e.before.versionsOf policy).map PolicyVersion.contents ++
        (e.contribution? policy).toList.map (·.contents (e.before.nextVersion policy)) := by
  rcases e.effect_or_failed with ⟨answer, hanswer, heffect⟩ | ⟨error, hanswer, hafter⟩
  · rw [heffect.versionsOf hwell, List.map_append, List.map_map]
    have hkept : PolicyVersion.contents ∘ e.timed.operation.changed e.timed.now =
        PolicyVersion.contents := funext (RepositoryOperation.contents_changed _ _)
    rw [hkept]
    congr 1
    unfold contribution?
    cases e.timed.operation with
    | addVersion target body createdBy =>
        rw [hanswer]
        by_cases htarget : target = policy
        · subst htarget
          simp [RepositoryOperation.added?, PolicyVersion.draft, PolicyVersion.contents,
            Contribution.contents]
        · simp [RepositoryOperation.added?, PolicyVersion.draft, htarget]
    | _ => rfl
  · rw [contribution?_of_error hanswer, hafter]
    simp

/-- An operation that leaves everything as it is has not approved anything. -/
theorem approval?_of_after_eq (hafter : e.after = e.before) (policy : Uuid) (version : Nat) :
    e.approval? policy version = none := by
  unfold approval?
  rw [hafter]
  split
  next =>
    apply if_neg
    rintro ⟨-, -, hdraft, happroved⟩
    cases hdraft.symm.trans happroved
  next => rfl

/-- What is not stored is not approved. -/
theorem approval?_of_not_stored {policy : Uuid} {version : Nat}
    (hnew : (policy, version) ∉ e.before.versions.map PolicyVersion.key) :
    e.approval? policy version = none := by
  unfold approval?
  split
  next =>
    apply if_neg
    rintro ⟨-, -, hdraft, -⟩
    rw [Repository.statusOf?_of_not_stored hnew] at hdraft
    cases hdraft
  next => rfl

/-- The approver of a stored version becomes whoever approves it while it is a draft. -/
theorem approvedBy_changed {answer : RepositoryAnswer} {v : PolicyVersion}
    (heffect : Effect e.before e.timed.now e.timed.operation answer e.after)
    (hwell : e.before.WellFormed) (hv : v ∈ e.before.versions) :
    (e.timed.operation.changed e.timed.now v).approvedBy =
      (e.approval? v.policyId v.version).getD v.approvedBy := by
  have hbefore := Repository.statusOf?_of_getVersion (hwell.getVersion_of_mem hv)
  have hafter := Repository.statusOf?_of_getVersion (heffect.getVersion_after hwell hv)
  unfold approval?
  rw [hbefore, hafter]
  cases e.timed.operation with
  | approveVersion target number approvedBy =>
      unfold RepositoryOperation.changed
      dsimp only
      split
      next hdraft =>
        obtain ⟨rfl, rfl, hdraft⟩ := hdraft
        rw [hdraft, if_pos ⟨rfl, rfl, rfl, rfl⟩]
        rfl
      next hnot =>
        rw [if_neg]
        · rfl
        · rintro ⟨rfl, rfl, hdraft, -⟩
          exact hnot ⟨rfl, rfl, Option.some.inj hdraft⟩
  | activateVersion target number =>
      unfold RepositoryOperation.changed
      dsimp only
      split
      · rfl
      · split <;> rfl
  | _ => rfl

end RepositoryEvent

/-! ## Runs -/

namespace Repository

/-- The stored versions are what the history makes of them. -/
structure ToldBy (past : List RepositoryEvent) (repo : Repository) : Prop where
  wellFormed : repo.WellFormed
  contents : ∀ policy, (repo.versionsOf policy).map PolicyVersion.contents =
    Contribution.numbered (contributions past policy)
  approvedBy : ∀ v ∈ repo.versions, v.approvedBy = lastApprover past v.policyId v.version
  unapproved : ∀ policy version, (policy, version) ∉ repo.versions.map PolicyVersion.key →
    approvers past policy version = []

variable {past : List RepositoryEvent} {repo : Repository} {policy : Uuid}

theorem ToldBy.empty : ToldBy [] {} where
  wellFormed := .empty
  contents _ := rfl
  approvedBy _ hv := absurd hv List.not_mem_nil
  unapproved _ _ _ := rfl

theorem ToldBy.numbers (htold : ToldBy past repo) (policy : Uuid) :
    (repo.versionsOf policy).map (·.version) =
      List.range' 1 (contributions past policy).length := by
  rw [← Contribution.numbers_numbered, ← htold.contents, List.map_map]
  rfl

/-- Each version stands under its number. -/
theorem ToldBy.exists_version (htold : ToldBy past repo) {k : Nat}
    (hk : k < (contributions past policy).length) :
    ∃ v ∈ repo.versions, v.policyId = policy ∧
      v.contents = (contributions past policy)[k].contents (k + 1) := by
  have hmem : (contributions past policy)[k].contents (k + 1) ∈
      (repo.versionsOf policy).map PolicyVersion.contents := by
    rw [htold.contents]
    refine List.mem_map.mpr ⟨((contributions past policy)[k], k + 1), ?_, rfl⟩
    rw [List.mem_iff_getElem]
    exact ⟨k, by simpa using hk, by simp [Nat.add_comm]⟩
  obtain ⟨v, hv, hcontents⟩ := List.mem_map.mp hmem
  obtain ⟨hstored, hpolicy⟩ := List.mem_filter.mp hv
  exact ⟨v, hstored, by simpa using hpolicy, hcontents⟩

/-- Every operation adds to the history what it does to the versions. -/
theorem ToldBy.step (htold : ToldBy past repo) (timed : TimedOperation) :
    ToldBy (past ++ [⟨repo, timed⟩]) (RepositoryEvent.mk repo timed).after where
  wellFormed := (RepositoryEvent.mk repo timed).wellFormed_after htold.wellFormed
  contents policy := by
    rw [RepositoryEvent.contents_after _ htold.wellFormed, htold.contents, contributions_concat,
      nextVersion_of_numbers (htold.numbers policy)]
    cases (RepositoryEvent.mk repo timed).contribution? policy with
    | none => simp
    | some given => exact (Contribution.numbered_append _ given).symm
  approvedBy v hv := by
    rw [lastApprover_concat]
    rcases (RepositoryEvent.mk repo timed).effect_or_failed with
      ⟨answer, -, heffect⟩ | ⟨_, -, hafter⟩
    · rw [heffect.versions htold.wellFormed] at hv
      rcases List.mem_append.mp hv with hold | hnew
      · obtain ⟨old, hmem, rfl⟩ := List.mem_map.mp hold
        obtain ⟨hkey, -⟩ := RepositoryOperation.changed_keeps timed.operation timed.now old
        obtain ⟨hpolicy, hversion⟩ := Prod.mk.inj hkey
        rw [hpolicy, hversion, ← htold.approvedBy old hmem]
        exact RepositoryEvent.approvedBy_changed heffect htold.wellFormed hmem
      · obtain ⟨hunapproved, hfresh⟩ := RepositoryOperation.added?_fresh hnew
        rw [RepositoryEvent.approval?_of_not_stored hfresh, lastApprover,
          htold.unapproved _ _ hfresh]
        exact hunapproved
    · rw [RepositoryEvent.approval?_of_after_eq hafter]
      rw [hafter] at hv
      exact htold.approvedBy v hv
  unapproved policy version hnew := by
    have hbefore : (policy, version) ∉ repo.versions.map PolicyVersion.key := fun hstored =>
      hnew (RepositoryEvent.stored_after ⟨repo, timed⟩ htold.wellFormed hstored)
    rw [approvers_concat, htold.unapproved _ _ hbefore,
      RepositoryEvent.approval?_of_not_stored hbefore]
    rfl

theorem told_afterAll (operations : List TimedOperation) :
    ToldBy (history {} operations) (afterAll {} operations) :=
  afterAll_invariant ToldBy (fun _ _ timed htold => htold.step timed) operations [] {} .empty

/-- After every run, the versions of a policy are numbered from one on without gaps, in the order of
their addition, and these numbers fit into 32 bits as long as there are no more than that many
versions. An existing policy lists them the newest first, and its next version is a draft under the
next number. Under each number stands what has been given for the version when it was added, with
the checksum of its body, whatever has happened since; its approver is whoever has last approved it
while it was a draft, and nobody if nobody has. -/
theorem versions_numbered_and_kept (operations : List TimedOperation) (policy : Uuid) :
    let past := history {} operations
    let repo := afterAll {} operations
    let given := contributions past policy
    (repo.versionsOf policy).map (·.version) = List.range' 1 given.length ∧
    (given.length < UInt32.size → ∀ v ∈ repo.versionsOf policy, v.version < UInt32.size) ∧
    (∀ found, repo.getPolicy policy = .ok found →
      repo.listVersions policy = .ok (repo.versionsOf policy).reverse ∧
      ∀ body createdBy now, ∃ added next,
        repo.addVersion policy body createdBy now = .ok (added, next) ∧
          added.version = given.length + 1 ∧ added.status = .draft) ∧
    ∀ k (hk : k < given.length), ∃ v, repo.getVersion policy (k + 1) = .ok v ∧
      v.body = given[k].body ∧ v.checksum = Digest.checksum given[k].body ∧
      v.createdBy = given[k].createdBy ∧ v.approvedBy = lastApprover past policy (k + 1) := by
  intro past repo given
  have htold : ToldBy past repo := told_afterAll operations
  have hnumbers := htold.numbers policy
  refine ⟨hnumbers, fun hfew v hv => ?_, fun found hfound => ⟨?_, fun body createdBy now => ?_⟩,
    fun k hk => ?_⟩
  · have hmem : v.version ∈ List.range' 1 given.length :=
      hnumbers ▸ List.mem_map_of_mem hv
    have hbound := (List.mem_range'_1.mp hmem).2
    omega
  · rw [listVersions_of_getPolicy hfound, mergeSort_of_numbers hnumbers]
  · exact ⟨_, _, addVersion_of_getPolicy hfound body createdBy now,
      nextVersion_of_numbers hnumbers, rfl⟩
  · obtain ⟨v, hv, rfl, hcontents⟩ := htold.exists_version hk
    obtain ⟨hversion, hbody, hchecksum, hcreator⟩ :
        v.version = k + 1 ∧ v.body = given[k].body ∧
          v.checksum = Digest.checksum given[k].body ∧ v.createdBy = given[k].createdBy := by
      simpa [PolicyVersion.contents, Contribution.contents] using hcontents
    rw [← hversion]
    exact ⟨v, htold.wellFormed.getVersion_of_mem hv, hbody, hchecksum, hcreator,
      htold.approvedBy v hv⟩

/-- A run with three versions of a policy, the second of which is approved and put in force. -/
def succession : List TimedOperation :=
  [⟨.createPolicy ⟨1⟩ ⟨9⟩ "p" "e" none, default⟩, ⟨.addVersion ⟨1⟩ .null none, default⟩,
    ⟨.addVersion ⟨1⟩ (.bool true) (some ⟨5⟩), default⟩,
    ⟨.approveVersion ⟨1⟩ 2 (some ⟨7⟩), default⟩, ⟨.approveVersion ⟨1⟩ 2 (some ⟨8⟩), default⟩,
    ⟨.activateVersion ⟨1⟩ 2, default⟩, ⟨.addVersion ⟨1⟩ .null none, default⟩]

/-- The second version is what has been given for it, and the first one to approve it is its
approver. -/
theorem second_version_is_kept : ∃ v, (afterAll {} succession).getVersion ⟨1⟩ 2 = .ok v ∧
    v.body = .bool true ∧ v.createdBy = some ⟨5⟩ ∧ v.approvedBy = some ⟨7⟩ ∧
    (afterAll {} succession).listVersions ⟨1⟩ =
      .ok ((afterAll {} succession).versionsOf ⟨1⟩).reverse := by
  obtain ⟨-, -, hlist, hkept⟩ := versions_numbered_and_kept succession ⟨1⟩
  obtain ⟨v, hfound, hbody, -, hcreator, happrover⟩ := hkept 1 (by decide +kernel)
  obtain ⟨found, hpolicy⟩ : ∃ found, (afterAll {} succession).getPolicy ⟨1⟩ = .ok found :=
    ⟨_, rfl⟩
  refine ⟨v, hfound, hbody.trans rfl, hcreator.trans rfl, happrover.trans ?_,
    (hlist found hpolicy).1⟩
  decide +kernel

end Repository

end Mandate
