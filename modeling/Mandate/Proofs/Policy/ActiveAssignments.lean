import Mandate.Proofs.Policy.Statuses

/-! # The policies in force for an organisation

A policy is in force for an organisation if it is bound to the organisation as such and has an
active version. The answer to the question which policies are in force has one entry for each of
them, however often it has been bound, and the order of the entries is settled: higher version
numbers come first, and equal ones stand in the order in which the policies were first bound.
-/

namespace Mandate

open Mandate.Json Mandate.Time

/-! ## Sorting -/

section Sorting

variable {α : Type} {number : α → Nat}

/-- Higher numbers first. -/
def highestFirst (number : α → Nat) (a b : α) : Bool := number b ≤ number a

theorem highestFirst_trans (a b c : α) (hab : highestFirst number a b = true)
    (hbc : highestFirst number b c = true) : highestFirst number a c = true := by
  simp only [highestFirst, decide_eq_true_eq] at hab hbc ⊢
  exact Nat.le_trans hbc hab

theorem highestFirst_total (a b : α) :
    (highestFirst number a b || highestFirst number b a) = true := by
  simp only [highestFirst, Bool.or_eq_true, decide_eq_true_eq]
  exact Nat.le_total _ _

/-- Sorting leaves those with one number in the order in which they stand. -/
theorem filter_mergeSort_highestFirst (l : List α) (n : Nat) :
    (l.mergeSort (highestFirst number)).filter (number · == n) = l.filter (number · == n) := by
  have hlevel : (l.filter (number · == n)).Pairwise (highestFirst number · ·) := by
    refine List.pairwise_of_forall_mem_list fun a ha b hb => ?_
    have ha : number a = n := by simpa using (List.mem_filter.mp ha).2
    have hb : number b = n := by simpa using (List.mem_filter.mp hb).2
    simp [highestFirst, ha, hb]
  have hsublist := (List.sublist_mergeSort highestFirst_trans highestFirst_total hlevel
    List.filter_sublist).filter (number · == n)
  simp only [List.filter_filter, Bool.and_self] at hsublist
  have hperm := (List.mergeSort_perm l (highestFirst number)).filter (number · == n)
  exact (hsublist.eq_of_length hperm.length_eq.symm).symm

theorem pairwise_mergeSort_highestFirst {r : α → α → Prop} {l : List α} (hl : l.Pairwise r) :
    (l.mergeSort (highestFirst number)).Pairwise fun a b =>
      number b < number a ∨ number a = number b ∧ r a b := by
  have hsorted : (l.mergeSort (highestFirst number)).Pairwise (highestFirst number · ·) :=
    List.pairwise_mergeSort highestFirst_trans highestFirst_total l
  rw [List.pairwise_iff_forall_sublist] at hl hsorted ⊢
  intro a b hab
  have hle : number b ≤ number a := by simpa [highestFirst] using hsorted hab
  rcases hle.lt_or_eq with hlt | heq
  · exact Or.inl hlt
  · have hpair := hab.filter (number · == number a)
    rw [filter_mergeSort_highestFirst, List.filter_eq_self.mpr (by simp [heq])] at hpair
    exact Or.inr ⟨heq.symm, hl (hpair.trans List.filter_sublist)⟩

end Sorting

/-! ## Assignments to an organisation -/

namespace PolicyAssignment

/-- Whether an assignment is to an organisation as such. -/
def scopedTo (a : PolicyAssignment) (org : Uuid) : Bool :=
  a.scopeType == .org && a.scopeId == org.text

/-- Whether an assignment binds a policy to an organisation as such. -/
def binds (a : PolicyAssignment) (org policy : Uuid) : Bool :=
  a.scopedTo org && a.policyId == policy

end PolicyAssignment

namespace Repository

variable {repo : Repository} {org policy : Uuid}

/-! ## The policies that are bound -/

theorem firstOccurrences_concat (l : List Uuid) (u : Uuid) :
    firstOccurrences (l ++ [u]) =
      if u ∈ firstOccurrences l then firstOccurrences l else firstOccurrences l ++ [u] := by
  simp [firstOccurrences, List.foldl_append]

theorem mem_firstOccurrences {u : Uuid} {l : List Uuid} : u ∈ firstOccurrences l ↔ u ∈ l := by
  induction l using List.reverseRecOn with
  | nil => simp [firstOccurrences]
  | append_singleton l v ih =>
      rw [firstOccurrences_concat, List.mem_append, List.mem_singleton, ← ih]
      split
      next hv => exact ⟨Or.inl, fun hor => hor.elim id fun heq => heq ▸ hv⟩
      next => rw [List.mem_append, List.mem_singleton]

/-- The position of the first assignment that binds a policy to an organisation. -/
def firstBinding (assignments : List PolicyAssignment) (org policy : Uuid) : Nat :=
  assignments.findIdx (·.binds org policy)

/-- The policies that are bound to an organisation by assignments, each once. -/
def boundBy (assignments : List PolicyAssignment) (org : Uuid) : List Uuid :=
  firstOccurrences <| (assignments.filter (·.scopedTo org)).map (·.policyId)

theorem assignedPolicies_eq_boundBy :
    repo.assignedPolicies org = boundBy repo.assignments org := rfl

theorem mem_boundBy {assignments : List PolicyAssignment} :
    policy ∈ boundBy assignments org ↔ ∃ a ∈ assignments, a.binds org policy := by
  simp [boundBy, mem_firstOccurrences, PolicyAssignment.binds, and_assoc]

theorem boundBy_concat (assignments : List PolicyAssignment) (a : PolicyAssignment) (org : Uuid) :
    boundBy (assignments ++ [a]) org =
      if a.scopedTo org ∧ a.policyId ∉ boundBy assignments org then
        boundBy assignments org ++ [a.policyId]
      else boundBy assignments org := by
  unfold boundBy
  rw [List.filter_append, List.map_append]
  cases hscope : a.scopedTo org with
  | false => simp [hscope]
  | true => simp [hscope, firstOccurrences_concat, ite_not]

theorem firstBinding_lt_length {assignments : List PolicyAssignment} :
    firstBinding assignments org policy < assignments.length ↔
      policy ∈ boundBy assignments org := by
  rw [firstBinding, List.findIdx_lt_length, mem_boundBy]

/-- The first assignment of a policy stays the first. -/
theorem firstBinding_concat {assignments : List PolicyAssignment} (a : PolicyAssignment)
    (hmem : policy ∈ boundBy assignments org) :
    firstBinding (assignments ++ [a]) org policy = firstBinding assignments org policy := by
  have hlt := firstBinding_lt_length.mpr hmem
  unfold firstBinding at hlt ⊢
  rw [List.findIdx_append, if_pos hlt]

/-- The first assignment of a policy that has not been bound before comes behind. -/
theorem length_le_firstBinding_concat {assignments : List PolicyAssignment} (a : PolicyAssignment)
    (hmem : policy ∉ boundBy assignments org) :
    assignments.length ≤ firstBinding (assignments ++ [a]) org policy := by
  have hnot := firstBinding_lt_length.not.mpr hmem
  unfold firstBinding at hnot ⊢
  rw [List.findIdx_append, if_neg hnot]
  exact Nat.le_add_left _ _

/-- The policies come in the order in which they were first bound. -/
theorem pairwise_boundBy (assignments : List PolicyAssignment) (org : Uuid) :
    (boundBy assignments org).Pairwise fun p q =>
      firstBinding assignments org p < firstBinding assignments org q := by
  induction assignments using List.reverseRecOn with
  | nil => exact List.Pairwise.nil
  | append_singleton assignments a ih =>
      have hold : (boundBy assignments org).Pairwise fun p q =>
          firstBinding (assignments ++ [a]) org p < firstBinding (assignments ++ [a]) org q := by
        refine ih.imp_of_mem fun hp hq hlt => ?_
        rwa [firstBinding_concat a hp, firstBinding_concat a hq]
      rw [boundBy_concat]
      split
      next hnew =>
        refine List.pairwise_append.mpr ⟨hold, List.pairwise_singleton _ _, fun p hp q hq => ?_⟩
        obtain rfl := List.mem_singleton.mp hq
        rw [firstBinding_concat a hp]
        exact (firstBinding_lt_length.mpr hp).trans_le (length_le_firstBinding_concat a hnew.2)
      next => exact hold

/-! ## The entries -/

theorem activeVersion?_eq_some_iff (hone : repo.OneActive) {v : PolicyVersion} :
    repo.activeVersion? policy = some v ↔ v ∈ repo.versionsOf policy ∧ v.status = .active := by
  constructor
  · intro hfind
    exact ⟨List.mem_of_find?_eq_some hfind, by simpa using List.find?_some hfind⟩
  · rintro ⟨hv, hactive⟩
    have hany : (repo.activeVersion? policy).isSome := by
      rw [activeVersion?, List.find?_isSome]
      exact ⟨v, hv, by simp [hactive]⟩
    obtain ⟨w, hfind⟩ := Option.isSome_iff_exists.mp hany
    obtain ⟨hw, hwpolicy⟩ := List.mem_filter.mp (List.mem_of_find?_eq_some hfind)
    obtain ⟨hv, hvpolicy⟩ := List.mem_filter.mp hv
    have hsame : w.policyId = v.policyId := by simp_all
    rw [hfind, hone w hw v hv hsame (by simpa using List.find?_some hfind) hactive]

theorem mem_activeAssignments_iff (hone : repo.OneActive) {entry : ActiveAssignment} :
    entry ∈ repo.activeAssignments org ↔
      (∃ a ∈ repo.assignments, a.binds org entry.policy.id) ∧
        repo.getPolicy entry.policy.id = .ok entry.policy ∧
        entry.version ∈ repo.versionsOf entry.policy.id ∧ entry.version.status = .active := by
  simp only [activeAssignments, assignedPolicies_eq_boundBy, List.mem_mergeSort,
    List.mem_filterMap, mem_boundBy, activeAssignment?_eq_some_iff,
    activeVersion?_eq_some_iff hone]
  constructor
  · rintro ⟨_, hassigned, rfl, hentry⟩
    exact ⟨hassigned, hentry⟩
  · rintro ⟨hassigned, hentry⟩
    exact ⟨_, hassigned, rfl, hentry⟩

/-- No policy has two entries, and they are in order. -/
theorem pairwise_activeAssignments (repo : Repository) (org : Uuid) :
    (repo.activeAssignments org).Pairwise fun x y =>
      y.version.version < x.version.version ∨ x.version.version = y.version.version ∧
        firstBinding repo.assignments org x.policy.id <
          firstBinding repo.assignments org y.policy.id := by
  refine pairwise_mergeSort_highestFirst (List.pairwise_filterMap.mpr ?_)
  refine (pairwise_boundBy repo.assignments org).imp fun hlt x hx y hy => ?_
  rw [(activeAssignment?_eq_some_iff.mp hx).1, (activeAssignment?_eq_some_iff.mp hy).1]
  exact hlt

theorem nodup_activeAssignments (repo : Repository) (org : Uuid) :
    ((repo.activeAssignments org).map (·.policy.id)).Nodup := by
  have hentries : (((repo.assignedPolicies org).filterMap repo.activeAssignment?).map
      (·.policy.id)).Nodup := by
    refine List.pairwise_map.mpr (List.pairwise_filterMap.mpr ?_)
    refine (pairwise_boundBy repo.assignments org).imp fun hlt x hx y hy heq => ?_
    rw [(activeAssignment?_eq_some_iff.mp hx).1, (activeAssignment?_eq_some_iff.mp hy).1] at heq
    exact absurd (heq ▸ hlt) (Nat.lt_irrefl _)
  exact ((List.mergeSort_perm _ _).map _).nodup_iff.mpr hentries

/-! ## Runs -/

/-- Whatever is bound is stored. -/
def Bound (repo : Repository) : Prop :=
  ∀ a ∈ repo.assignments, ∃ p ∈ repo.policies, p.id = a.policyId

theorem exists_getPolicy_of_mem {p : Policy} (hp : p ∈ repo.policies) :
    ∃ found, repo.getPolicy p.id = .ok found := by
  have hany : (repo.policies.find? (·.id == p.id)).isSome := by
    rw [List.find?_isSome]
    exact ⟨p, hp, beq_self_eq_true _⟩
  obtain ⟨found, hfind⟩ := Option.isSome_iff_exists.mp hany
  exact ⟨found, getPolicy_ok_iff.mpr hfind⟩

/-- A policy that takes the place of another one under its identifier leaves nothing unbound. -/
theorem Bound.create (hbound : repo.Bound) (added : Policy) :
    Bound { repo with policies := repo.policies.filter (·.id != added.id) ++ [added] } := by
  intro a ha
  obtain ⟨p, hp, hid⟩ := hbound a ha
  by_cases hsame : p.id = added.id
  · exact ⟨added, List.mem_append_right _ (List.mem_singleton.mpr rfl), hsame.symm.trans hid⟩
  · refine ⟨p, List.mem_append_left _ (List.mem_filter.mpr ⟨hp, ?_⟩), hid⟩
    simpa using hsame

theorem Bound.assign (hbound : repo.Bound) {scopeType : ScopeType} {scopeId : String}
    {now : Timestamp} {assignment : PolicyAssignment} {next : Repository}
    (hassign : repo.assign policy scopeType scopeId now = .ok (assignment, next)) :
    next.Bound := by
  obtain ⟨found, hfound, hassigned⟩ := Fallible.exists_of_bind_eq_ok hassign
  cases hassigned
  intro a ha
  rcases List.mem_append.mp ha with hold | hnew
  · exact hbound a hold
  · obtain rfl := List.mem_singleton.mp hnew
    obtain ⟨hmem, hid⟩ := mem_of_getPolicy hfound
    exact ⟨found, hmem, hid⟩

theorem sign_assignments {version : Nat} {user : Uuid} {now : Timestamp} :
    (repo.sign policy version user now).assignments = repo.assignments := by
  unfold sign
  split <;> rfl

end Repository

/-- After every operation, whatever is bound is stored. -/
theorem RepositoryOperation.bound_of_run {repo next : Repository} {now : Timestamp}
    {operation : RepositoryOperation} {answer : RepositoryAnswer}
    (hrun : operation.run now repo = .ok (answer, next))
    (hbound : repo.Bound) : next.Bound := by
  have hsame (hpolicies : next.policies = repo.policies)
      (hassignments : next.assignments = repo.assignments) : next.Bound := by
    rw [Repository.Bound, hpolicies, hassignments]
    exact hbound
  cases RepositoryOperation.effect_of_run hrun with
  | asked _ => exact hbound
  | @created id orgId name engine createdBy _ =>
      cases hrun
      exact hbound.create { id, orgId, name, engine, createdBy, createdAt := now }
  | assigned _ =>
      obtain ⟨assignment, hassign, -⟩ := RepositoryOperation.map_answered_ok hrun
      exact hbound.assign hassign
  | signed _ _ => exact hsame Repository.sign_policies Repository.sign_assignments
  | approvedAlready _ _ => exact hbound
  | _ => exact hsame rfl rfl

namespace Repository

variable {repo : Repository}

theorem bound_afterAll (operations : List TimedOperation) : (afterAll {} operations).Bound := by
  refine afterAll_invariant (fun _ repo => repo.Bound) ?_ operations [] {} nofun
  rintro past repo ⟨operation, now⟩ hbound
  unfold RepositoryEvent.after
  cases hrun : operation.run now repo with
  | error error => rwa [RepositoryEvent.outcome_of_error hrun]
  | ok result =>
      rw [RepositoryEvent.outcome_of_ok hrun]
      exact RepositoryOperation.bound_of_run hrun hbound

/-- The entries are those of the policies in force for an organisation, each of them once and in
order. -/
structure InForce (repo : Repository) (org : Uuid) (entries : List ActiveAssignment) : Prop where
  /-- An entry is about a stored policy that is bound to the organisation, and about an active
  version of it. -/
  sound : ∀ entry ∈ entries, repo.getPolicy entry.policy.id = .ok entry.policy ∧
    (∃ a ∈ repo.assignments, a.binds org entry.policy.id) ∧
    entry.version ∈ repo.versionsOf entry.policy.id ∧ entry.version.status = .active
  /-- A policy that is bound to the organisation and has an active version has an entry with it. -/
  complete : ∀ policy, (∃ a ∈ repo.assignments, a.binds org policy) →
    ∀ v ∈ repo.versionsOf policy, v.status = .active →
    ∃ entry ∈ entries, entry.policy.id = policy ∧ entry.version = v
  /-- The policy has no other active version. -/
  unique : ∀ entry ∈ entries, ∀ v ∈ repo.versionsOf entry.policy.id, v.status = .active →
    v = entry.version
  once : (entries.map (·.policy.id)).Nodup
  /-- Higher version numbers come first, and equal ones in the order of their first assignments. -/
  ordered : entries.Pairwise fun x y =>
    y.version.version < x.version.version ∨ x.version.version = y.version.version ∧
      firstBinding repo.assignments org x.policy.id < firstBinding repo.assignments org y.policy.id

theorem inForce_activeAssignments (hone : repo.OneActive) (hbound : repo.Bound) (org : Uuid) :
    repo.InForce org (repo.activeAssignments org) where
  sound entry hentry := by
    obtain ⟨hassigned, hstored, hversion⟩ := (mem_activeAssignments_iff hone).mp hentry
    exact ⟨hstored, hassigned, hversion⟩
  complete policy hassigned v hv hactive := by
    obtain ⟨a, ha, hbinds⟩ := hassigned
    obtain ⟨p, hp, hid⟩ := hbound a ha
    have hpolicy : a.policyId = policy := by
      simp only [PolicyAssignment.binds, Bool.and_eq_true, beq_iff_eq] at hbinds
      exact hbinds.2
    obtain ⟨found, hfound⟩ := exists_getPolicy_of_mem hp
    rw [hid, hpolicy] at hfound
    obtain ⟨-, rfl⟩ := mem_of_getPolicy hfound
    exact ⟨⟨found, v⟩, (mem_activeAssignments_iff hone).mpr
      ⟨⟨a, ha, hbinds⟩, hfound, hv, hactive⟩, rfl, rfl⟩
  unique entry hentry v hv hactive := by
    obtain ⟨-, -, hversion⟩ := (mem_activeAssignments_iff hone).mp hentry
    have hfirst := (activeVersion?_eq_some_iff hone).mpr hversion
    exact Option.some.inj (((activeVersion?_eq_some_iff hone).mpr ⟨hv, hactive⟩).symm.trans hfirst)
  once := nodup_activeAssignments repo org
  ordered := pairwise_activeAssignments repo org

/-- Whatever has been done to a repository, asking which policies are in force for an organisation
changes nothing, and it gives an entry for each policy that is bound to the organisation as such and
has an active version. The entry holds this version, which is the only active one, no policy has two
entries, and the entries are in order. -/
theorem active_assignments_answered (operations : List TimedOperation) (org : Uuid)
    (now : Timestamp) :
    ∃ entries, RepositoryEvent.outcome ⟨afterAll {} operations, .activeAssignments org, now⟩ =
        (.ok (.assignments entries), afterAll {} operations) ∧
      (afterAll {} operations).InForce org entries :=
  ⟨_, RepositoryEvent.outcome_of_ok rfl,
    inForce_activeAssignments (oneActive_afterAll operations) (bound_afterAll operations) org⟩

end Repository

end Mandate
