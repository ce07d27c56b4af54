import Mandate.Proofs.Engine.Accounts
import Mandate.Proofs.Engine.Prediction
import Mandate.Proofs.Engine.Selection

/-! # Rollouts send a share of the agents to a version

The version that is evaluated for a policy is a function of the organisation, the agent, the policy,
the latest rollout in force and the stored versions. Nothing else of a request counts. A larger
share keeps every agent of a smaller one, a full share takes everybody, and an empty share takes
nobody. Setting a rollout touches nothing but the way of the requests that it is about.
-/

namespace Mandate

open Evaluation

/-! ## Where requests are sent -/

namespace Routing

/-- The version to which the requests of an agent are sent: the one of the rollout, if the bucket of
the agent lies in the share and there is such a version, and else the active one. -/
def route (org policy : Uuid) (agent : String) (rollout : Option PolicyRollout)
    (versions : List PolicyVersion) : Option PolicyVersion :=
  let active := versions.find? (·.status == .active)
  match rollout with
  | none => active
  | some r =>
      if canaryBucket org.text agent policy.text < r.percent then
        (versions.find? (·.version == r.version)).or active
      else active

variable {org policy : Uuid} {agent : String} {rollout : PolicyRollout}
  {versions : List PolicyVersion}

theorem canaryBucket_lt (org agent policy : String) : canaryBucket org agent policy < 100 :=
  bucketOfDigest_lt _

theorem route_of_not_lt (hbucket : ¬ canaryBucket org.text agent policy.text < rollout.percent) :
    route org policy agent (some rollout) versions = versions.find? (·.status == .active) :=
  if_neg hbucket

theorem route_of_lt (hbucket : canaryBucket org.text agent policy.text < rollout.percent) :
    route org policy agent (some rollout) versions =
      (versions.find? (·.version == rollout.version)).or (versions.find? (·.status == .active)) :=
  if_pos hbucket

/-- A rollout to a version that does not exist changes nothing, whatever its share. -/
theorem route_of_missing (hmissing : versions.find? (·.version == rollout.version) = none) :
    route org policy agent (some rollout) versions = versions.find? (·.status == .active) := by
  by_cases hbucket : canaryBucket org.text agent policy.text < rollout.percent
  · rw [route_of_lt hbucket, hmissing, Option.none_or]
  · exact route_of_not_lt hbucket

/-- Whoever is sent to the version of a rollout is sent to it under a larger share, too. -/
theorem route_of_le (rollout larger : PolicyRollout) (hversion : larger.version = rollout.version)
    (hpercent : rollout.percent ≤ larger.percent)
    (hsent : (route org policy agent (some rollout) versions).map (·.version) =
      some rollout.version) :
    (route org policy agent (some larger) versions).map (·.version) = some rollout.version := by
  cases hfound : versions.find? (·.version == rollout.version) with
  | none => rwa [route_of_missing (hversion ▸ hfound), ← route_of_missing hfound]
  | some v =>
      by_cases hbucket : canaryBucket org.text agent policy.text < larger.percent
      · have hnumber : v.version = rollout.version := by simpa using List.find?_some hfound
        rw [route_of_lt hbucket, hversion, hfound, Option.some_or, Option.map_some, hnumber]
      · rw [route_of_not_lt fun hless => hbucket (Nat.lt_of_lt_of_le hless hpercent)] at hsent
        rwa [route_of_not_lt hbucket]

end Routing

/-! ## Stored rollouts -/

namespace Repository

theorem activeRollout?_append (repo : Repository) (rollout : PolicyRollout)
    (hactive : rollout.active = true) :
    ({ repo with rollouts := repo.rollouts ++ [rollout] } : Repository).activeRollout?
      rollout.orgId rollout.policyId = some rollout := by
  simp [activeRollout?, hactive]

/-- A rollout counts for its organisation and its policy only. -/
theorem activeRollout?_append_of_ne (repo : Repository) {rollout : PolicyRollout}
    {org policy : Uuid} (hne : (org, policy) ≠ (rollout.orgId, rollout.policyId)) :
    ({ repo with rollouts := repo.rollouts ++ [rollout] } : Repository).activeRollout? org policy =
      repo.activeRollout? org policy := by
  have hother : (rollout.active && rollout.orgId == org && rollout.policyId == policy) = false := by
    by_contra htrue
    simp only [Bool.not_eq_false, Bool.and_eq_true, beq_iff_eq] at htrue
    obtain ⟨⟨-, rfl⟩, rfl⟩ := htrue
    exact hne rfl
  simp only [activeRollout?, List.reverse_append, List.reverse_singleton, List.singleton_append,
    List.find?_cons, hother]

theorem activeVersion?_of_mem {repo : Repository} {org : Uuid} {entry : ActiveAssignment}
    (hentry : entry ∈ repo.activeAssignments org) :
    repo.activeVersion? entry.policy.id = some entry.version := by
  rw [activeAssignments, List.mem_mergeSort, List.mem_filterMap] at hentry
  obtain ⟨_, -, hentry⟩ := hentry
  obtain ⟨rfl, -, hactive⟩ := activeAssignment?_eq_some_iff.mp hentry
  exact hactive

end Repository

namespace Lifecycle

/-- The latest rollout of a policy that is in force for an organisation, as long as rollouts and
versions can be looked up. -/
def rollout? (l : Lifecycle) (org policy : Uuid) : Option PolicyRollout :=
  if .activeRollout ∈ l.failing ∨ .getVersion ∈ l.failing then none
  else l.repository.activeRollout? org policy

/-- The version of a policy to which the requests of an agent are sent. -/
def routed? (l : Lifecycle) (org policy : Uuid) (agent : String) : Option PolicyVersion :=
  Routing.route org policy agent (l.rollout? org policy) (l.repository.versionsOf policy)

variable {l : Lifecycle} {org policy : Uuid} {version percent : Nat} {agent : String}
  {on : Occasion}

/-- The rollout that is stored when one is set. -/
def rolloutOf (org policy : Uuid) (version percent : Nat) (on : Occasion) : PolicyRollout :=
  ⟨org, policy, version, min percent 100, true, on.time⟩

/-- What is there once a rollout has been stored and published. -/
def withRollout (l : Lifecycle) (rollout : PolicyRollout) : Lifecycle :=
  { l with repository := { l.repository with
      rollouts := l.repository.rollouts ++ [rollout] } }.publish rollout.policyId

/-- A rollout that has been stored decides about the requests that it is about, as long as it can
be looked up. -/
theorem routed?_withRollout (l : Lifecycle) (org policy : Uuid) (version percent : Nat)
    (on : Occasion) (agent : String) :
    (l.withRollout (rolloutOf org policy version percent on)).routed? org policy agent =
      Routing.route org policy agent
        (if .activeRollout ∈ l.failing ∨ .getVersion ∈ l.failing then none
          else some (rolloutOf org policy version percent on))
        (l.repository.versionsOf policy) := by
  have hlatest := l.repository.activeRollout?_append (rolloutOf org policy version percent on) rfl
  rw [← hlatest]
  rfl

theorem routed?_withRollout_of_ne {rollout : PolicyRollout}
    (hne : (org, policy) ≠ (rollout.orgId, rollout.policyId)) (agent : String) :
    (l.withRollout rollout).routed? org policy agent = l.routed? org policy agent := by
  have hkept := l.repository.activeRollout?_append_of_ne hne
  rw [routed?, routed?, rollout?, rollout?, ← hkept]
  rfl

theorem setRollout_of_found {v : PolicyVersion}
    (hfound : l.repository.getVersion policy version = .ok v) (hput : .putRollout ∉ l.failing) :
    (l.setRollout org policy version percent on).2 =
      l.withRollout (rolloutOf org policy version percent on) := by
  have hstored : l.repository.putRollout (rolloutOf org policy version percent on) = _ :=
    Repository.putRollout_of_getVersion hfound
  rw [rolloutOf] at hstored
  simp [setRollout, change, ask, hput, hstored, Except.map, withRollout, rolloutOf]

/-- A rollout is stored and published, or nothing changes. Which of the two it is does not hang on
the share. -/
theorem setRollout_cases (l : Lifecycle) (org policy : Uuid) (version : Nat) :
    (∀ percent on, (l.setRollout org policy version percent on).2 =
      l.withRollout (rolloutOf org policy version percent on)) ∨
    ∀ percent on, (l.setRollout org policy version percent on).2 = l := by
  by_cases hput : .putRollout ∈ l.failing
  · refine Or.inr fun percent on => ?_
    simp [setRollout, change, ask, hput, Except.map, failed]
  · cases hfound : l.repository.getVersion policy version with
    | ok v => exact Or.inl fun percent on => setRollout_of_found hfound hput
    | error e =>
        refine Or.inr fun percent on => ?_
        have hrejected : l.repository.putRollout (rolloutOf org policy version percent on) =
            .error e := Fallible.bind_of_error hfound
        rw [rolloutOf] at hrejected
        simp [setRollout, change, ask, hput, hrejected, Except.map, failed]

/-- An agent that is sent to the version of a rollout is sent to it under a larger share, too. -/
theorem routed?_setRollout_of_le {larger : Nat} {later : Occasion} (hpercent : percent ≤ larger)
    (hsent : ((l.setRollout org policy version percent on).2.routed? org policy agent).map
      (·.version) = some version) :
    ((l.setRollout org policy version larger later).2.routed? org policy agent).map (·.version) =
      some version := by
  rcases setRollout_cases l org policy version with hset | hkept
  · rw [hset, routed?_withRollout] at hsent ⊢
    split
    next hfailing => rwa [if_pos hfailing] at hsent
    next hfailing =>
      rw [if_neg hfailing] at hsent
      have hshare : min percent 100 ≤ min larger 100 := by omega
      exact Routing.route_of_le (rolloutOf org policy version percent on) _ rfl hshare hsent
  · rw [hkept] at hsent ⊢
    exact hsent

/-- Once a rollout of a version has been set, an agent is sent to that version if its bucket lies
below the share, and else to the active version. -/
theorem routed?_setRollout {v : PolicyVersion}
    (hfound : l.repository.getVersion policy version = .ok v) (hput : .putRollout ∉ l.failing)
    (hlookup : .activeRollout ∉ l.failing) (hget : .getVersion ∉ l.failing) :
    (l.setRollout org policy version percent on).2.routed? org policy agent =
      if Routing.canaryBucket org.text agent policy.text < percent then some v
      else l.repository.activeVersion? policy := by
  have hbucket := Routing.canaryBucket_lt org.text agent policy.text
  have hversion : (l.repository.versionsOf policy).find?
      (·.version == (rolloutOf org policy version percent on).version) = some v :=
    Repository.getVersion_ok_iff.mp hfound
  rw [setRollout_of_found hfound hput, routed?_withRollout,
    if_neg (not_or.mpr ⟨hlookup, hget⟩)]
  split
  next hless =>
    have hshare : Routing.canaryBucket org.text agent policy.text < min percent 100 := by omega
    rw [Routing.route_of_lt hshare, hversion, Option.some_or]
  next hless =>
    have hshare : ¬ Routing.canaryBucket org.text agent policy.text < min percent 100 := by omega
    exact Routing.route_of_not_lt hshare

/-- Setting a rollout keeps versions and assignments, and the ways of all other requests. -/
theorem setRollout_keeps (l : Lifecycle) (org policy : Uuid) (version percent : Nat)
    (on : Occasion) :
    let next := (l.setRollout org policy version percent on).2
    next.repository.versions = l.repository.versions ∧
    (∀ other, next.repository.activeAssignments other = l.repository.activeAssignments other) ∧
    ∀ otherOrg otherPolicy agent, (otherOrg, otherPolicy) ≠ (org, policy) →
      next.routed? otherOrg otherPolicy agent = l.routed? otherOrg otherPolicy agent := by
  intro next
  rcases setRollout_cases l org policy version with hset | hkept
  · rw [show next = _ from hset percent on]
    exact ⟨rfl, fun _ => rfl, fun _ _ agent hne => routed?_withRollout_of_ne hne agent⟩
  · rw [show next = l from hkept percent on]
    exact ⟨rfl, fun _ => rfl, fun _ _ _ _ => rfl⟩

end Lifecycle

/-! ## The versions that are evaluated -/

namespace Engine

variable {e : Engine} {request : Request} {on : Occasion}

/-- The engine evaluates the version to which the requests of the agent are sent. -/
theorem routed?_eq_routedVersion {selected : ActiveAssignment}
    (hselected : selected ∈ e.lifecycle.repository.activeAssignments request.orgId) (clock : Nat) :
    e.lifecycle.routed? request.orgId selected.policy.id request.agent =
      some (routedVersion (e.collaborators clock) request selected) := by
  have hactive := Repository.activeVersion?_of_mem hselected
  rw [Repository.activeVersion?] at hactive
  simp only [Lifecycle.routed?, Lifecycle.rollout?, Routing.route, routedVersion, collaborators,
    Lifecycle.ask, List.contains_iff_mem, hactive]
  by_cases hlookup : .activeRollout ∈ e.lifecycle.failing
  · simp [hlookup]
  cases e.lifecycle.repository.activeRollout? request.orgId selected.policy.id with
  | none => simp [hlookup]
  | some rollout =>
      by_cases hget : .getVersion ∈ e.lifecycle.failing
      · -- whatever the bucket is, no version can be put in place of the active one
        simp [hlookup, hget]
      · simp only [hlookup, hget, or_self, reduceIte]
        split
        next =>
          rw [Repository.getVersion]
          cases (e.lifecycle.repository.versionsOf selected.policy.id).find?
            (·.version == rollout.version) <;> rfl
        next => rfl

/-- A request that comes to an evaluation comes to the version to which the requests of its agent
are sent. -/
theorem routed?_of_consultation
    (consulted : Consultation (e.collaborators on.clock) e.config request on
      (e.entering request on)) :
    e.lifecycle.routed? request.orgId consulted.selected.policy.id request.agent =
      some consulted.version := by
  have hselected : consulted.selected ∈
      e.lifecycle.repository.activeAssignments request.orgId := by
    rw [← assignments_of_collaborators consulted.assigned]
    exact List.mem_of_getElem? consulted.chosen
  rw [routed?_eq_routedVersion hselected on.clock, routed_iff.mp consulted.routed]

/-- A trace that is shown names the version that was evaluated. -/
theorem trace_of_consultation {decision : Decision} {trace : Trace} (hadmits : e.admits = true)
    (consulted : Consultation (e.collaborators on.clock) e.config request on
      (e.entering request on)) (hdecided : consulted.outcome = .ok decision)
    (htrace : decision.trace = some trace) (stamps : Nat → Stamp) :
    ∃ shown, (e.decide request on stamps).1.trace = some shown ∧
      shown.policyId = consulted.selected.policy.id ∧
      shown.policyVersion = consulted.version.version := by
  obtain ⟨token, hresponse⟩ :=
    decideWith_response_of_passage hadmits (consulted.passage hdecided) stamps
  refine ⟨(consulted.passage hdecided).shown trace, ?_, rfl, rfl⟩
  rw [decide, hresponse]
  exact Passage.explain_trace htrace

/-- Whatever a request asks for, in which context and of whom, the version that is evaluated for it
is the one that follows from its organisation, its agent, the policy, the latest rollout and the
versions of the policy. An agent that is sent to the version of a rollout is sent to it when the
same rollout is set with a larger share. A share of a hundred or more takes every agent and an empty
one takes none, and in between an agent is taken if its bucket lies below the share. Setting a
rollout keeps all versions with their statuses, the active assignments of every organisation, and
the versions to which an agent is sent for another organisation or policy. -/
theorem rollouts_stable_and_monotone (e : Engine) (org policy : Uuid) (version : Nat) :
    let l := e.lifecycle
    let after (percent : Nat) (on : Occasion) : Lifecycle :=
      (e.manage (.setRollout org policy version percent) on).lifecycle
    (∀ request on (consulted : Consultation (e.collaborators on.clock) e.config request on
        (e.entering request on)),
      Routing.route request.orgId consulted.selected.policy.id request.agent
          (l.rollout? request.orgId consulted.selected.policy.id)
          (l.repository.versionsOf consulted.selected.policy.id) = some consulted.version ∧
        ∀ decision trace stamps, e.admits = true → consulted.outcome = .ok decision →
          decision.trace = some trace →
          ∃ shown, (e.decide request on stamps).1.trace = some shown ∧
            shown.policyId = consulted.selected.policy.id ∧
            shown.policyVersion = consulted.version.version) ∧
    (∀ agent percent larger on later, percent ≤ larger →
      ((after percent on).routed? org policy agent).map (·.version) = some version →
      ((after larger later).routed? org policy agent).map (·.version) = some version) ∧
    (∀ v, l.repository.getVersion policy version = .ok v → .putRollout ∉ l.failing →
      .activeRollout ∉ l.failing → .getVersion ∉ l.failing → ∀ percent on agent,
        ((after percent on).routed? org policy agent =
          if Routing.canaryBucket org.text agent policy.text < percent then some v
          else l.repository.activeVersion? policy) ∧
        (100 ≤ percent → (after percent on).routed? org policy agent = some v) ∧
        (percent = 0 →
          (after percent on).routed? org policy agent = l.repository.activeVersion? policy)) ∧
    ∀ percent on,
      (after percent on).repository.versions = l.repository.versions ∧
      (∀ other, (after percent on).repository.activeAssignments other =
        l.repository.activeAssignments other) ∧
      ∀ otherOrg otherPolicy agent, (otherOrg, otherPolicy) ≠ (org, policy) →
        (after percent on).routed? otherOrg otherPolicy agent =
          l.routed? otherOrg otherPolicy agent := by
  intro l after
  refine ⟨fun request on consulted => ⟨routed?_of_consultation consulted,
      fun decision trace stamps hadmits hdecided htrace =>
        trace_of_consultation hadmits consulted hdecided htrace stamps⟩,
    fun agent percent larger on later hpercent hsent =>
      Lifecycle.routed?_setRollout_of_le hpercent hsent, ?_,
    fun percent on => l.setRollout_keeps org policy version percent on⟩
  intro v hfound hput hlookup hget percent on agent
  have hbucket := Routing.canaryBucket_lt org.text agent policy.text
  have hrouted : (after percent on).routed? org policy agent =
      if Routing.canaryBucket org.text agent policy.text < percent then some v
      else l.repository.activeVersion? policy :=
    Lifecycle.routed?_setRollout hfound hput hlookup hget
  refine ⟨hrouted, fun hfull => ?_, fun hempty => ?_⟩
  · rw [hrouted, if_pos (by omega)]
  · rw [hrouted, if_neg (by omega)]

/-- An agent with the bucket 49 goes on being sent to the active version under a share of 49, and is
sent to the version of the rollout from 50 on. The version is evaluated for its requests. -/
theorem taken_behind_its_bucket :
    let after (percent : Nat) : Engine :=
      tellingEngine.manage (.setRollout ⟨2⟩ ⟨1⟩ 2 percent) default
    ((after 49).lifecycle.routed? ⟨2⟩ ⟨1⟩ "a").map (·.version) = some 1 ∧
    (∀ percent, 50 ≤ percent →
      ((after percent).lifecycle.routed? ⟨2⟩ ⟨1⟩ "a").map (·.version) = some 2) ∧
    ∃ consulted : Consultation ((after 50).collaborators 0) (after 50).config vouched default
      ((after 50).entering vouched default), consulted.version.version = 2 := by
  intro after
  have hbucket : Routing.canaryBucket (⟨2⟩ : Uuid).text "a" (⟨1⟩ : Uuid).text = 49 := by
    decide +kernel
  obtain ⟨v, hfound, hnumber⟩ : ∃ v,
      tellingEngine.lifecycle.repository.getVersion ⟨1⟩ 2 = .ok v ∧ v.version = 2 := ⟨_, rfl, rfl⟩
  obtain ⟨-, hlarger, hshare, -⟩ := rollouts_stable_and_monotone tellingEngine ⟨2⟩ ⟨1⟩ 2
  have hrouted := fun percent =>
    (hshare v hfound (by decide) (by decide) (by decide) percent default "a").1
  simp only [hbucket] at hrouted
  refine ⟨?_, fun percent hpercent => hlarger "a" 50 percent default default hpercent ?_, ?_⟩
  · rw [show (after 49).lifecycle.routed? ⟨2⟩ ⟨1⟩ "a" = _ from hrouted 49]
    rfl
  · rw [hrouted 50, if_pos (by decide), Option.map_some, hnumber]
  · have hdecided : ((after 50).decide vouched default fun _ => default).1.allow = true ∧
        ((after 50).decide vouched default fun _ => default).1.trace.map (·.policyVersion) =
          some 2 := by
      decide +kernel
    rw [Engine.decide, decideWith_allow_iff_passage] at hdecided
    obtain ⟨⟨hadmits, passage, -⟩, hshown⟩ := hdecided
    obtain ⟨token, hresponse⟩ := decideWith_response_of_passage hadmits passage fun _ => default
    rw [hresponse] at hshown
    obtain ⟨shown, hmapped, hversion⟩ := Option.map_eq_some_iff.mp hshown
    obtain ⟨trace, htrace, rfl⟩ := Option.map_eq_some_iff.mp hmapped
    exact ⟨{ passage with }, hversion⟩

end Engine

end Mandate
