import Mandate.Proofs.Engine.WithoutRecords
import Mandate.Proofs.Lifecycle.Artifacts

/-! # Kept artifacts do not show

Managing policies and deciding requests share one cache of compiled artifacts. In every state
that they reach together from an empty cache, each kept artifact is what the engine of its policy
makes of the body of its version. So a decision that finds an artifact in the cache answers as one
that has to compile the body anew, and the engine of rule sets is never handed an artifact that is
not its own.
-/

namespace Mandate

open Mandate.Json

/-! ## Evaluations that differ in what is kept -/

namespace Evaluation

variable {α β : Type} {l : Lifecycle} {worded : String → Prop}

/-- Two beginnings that differ at most in which artifacts are kept, where those that are kept are
what their versions make. -/
structure Alike (l : Lifecycle) (start other : Progress) : Prop where
  risk : other.risk = start.risk
  events : other.events = start.events
  asked : other.asked = start.asked
  made : ∀ entry ∈ start.compiled.entries, l.Makes entry.1.1 entry.1.2 entry.2
  otherMade : ∀ entry ∈ other.compiled.entries, l.Makes entry.1.1 entry.1.2 entry.2

/-- Two ends with one result, which differ at most in which artifacts are kept. If the result is
a refusal, its wording is one of the given ones. -/
structure Agree (l : Lifecycle) (worded : String → Prop)
    (ending other : Except Decision α × Progress) : Prop where
  result : other.1 = ending.1
  after : Alike l ending.2 other.2
  refusal : ∀ refusal, ending.1 = .error refusal → worded refusal.reason

/-- From beginnings that are alike the gate comes to ends that agree. -/
def Steady (l : Lifecycle) (worded : String → Prop) (gate : Gate α) : Prop :=
  ∀ start other, Alike l start other → Agree l worded (gate start) (gate other)

theorem Steady.pure (a : α) : Steady l worded (pure a : Gate α) := by
  intro start other halike
  exact ⟨rfl, halike, fun _ hrefused => nomatch hrefused⟩

theorem Steady.refuse {reason : String} (hworded : worded reason) :
    Steady l worded (refuse reason : Gate α) := by
  intro start other halike
  refine ⟨rfl, halike, ?_⟩
  rintro refusal ⟨⟩
  exact hworded

theorem Steady.modify {change : Progress → Progress}
    (hchange : ∀ start other, Alike l start other → Alike l (change start) (change other)) :
    Steady l worded (modify change : Gate Unit) := by
  intro start other halike
  exact ⟨rfl, hchange start other halike, fun _ hrefused => nomatch hrefused⟩

theorem Steady.note (event : AuditRecord) : Steady l worded (note event) := by
  refine Steady.modify fun start other halike => ⟨halike.risk, ?_, halike.asked, halike.made,
    halike.otherMade⟩
  simp only [halike.events]

theorem Steady.bind {gate : Gate α} {next : α → Gate β} (hgate : Steady l worded gate)
    (hnext : ∀ a start other after, Alike l start other → Passes gate start a after →
      Steady l worded (next a)) :
    Steady l worded (gate >>= next) := by
  intro start other halike
  obtain ⟨hresult, hafter, hrefusal⟩ := hgate start other halike
  rw [bind_apply, bind_apply]
  obtain ⟨result, after, hfirst⟩ : ∃ result after, gate start = (result, after) := ⟨_, _, rfl⟩
  obtain ⟨result', after', hother⟩ : ∃ result after, gate other = (result, after) := ⟨_, _, rfl⟩
  rw [hfirst, hother] at hresult hafter
  rw [hfirst] at hrefusal
  obtain rfl : result' = result := hresult
  rw [hfirst, hother]
  cases result' with
  | error refusal =>
      refine ⟨rfl, hafter, ?_⟩
      rintro _ ⟨⟩
      exact hrefusal refusal rfl
  | ok a => exact hnext a start other after halike hfirst after after' hafter

theorem Steady.then {gate : Gate α} {next : α → Gate β} (hgate : Steady l worded gate)
    (hnext : ∀ a, Steady l worded (next a)) : Steady l worded (gate >>= next) :=
  hgate.bind fun a _ _ _ _ _ => hnext a

/-! ## Gate by gate -/

/-- The refusals that a gate words itself. -/
def ownRefusals : List String :=
  [noAssignment, Federation.noContract, Federation.actionNotAllowed,
    Federation.resourceNotAllowed, Federation.attestationRequired, noDelegation,
    unsupportedEngine]

variable {c : Collaborators} {config : Config} {request : Request}

theorem steady_selectAssignment (hown : ∀ reason ∈ ownRefusals, worded reason) :
    Steady l worded (selectAssignment c request) := by
  have hrefused : worded noAssignment := hown _ (by simp [ownRefusals])
  unfold selectAssignment
  split
  · exact Steady.refuse hrefused
  · dsimp only
    split
    · exact Steady.pure _
    · exact Steady.refuse hrefused

theorem steady_refuseWithoutContract (hown : ∀ reason ∈ ownRefusals, worded reason)
    {target : Uuid} : Steady l worded (refuseWithoutContract request target : Gate α) :=
  (Steady.note _).then fun _ => Steady.refuse (hown _ (by simp [ownRefusals]))

theorem steady_checkFederation (hown : ∀ reason ∈ ownRefusals, worded reason) {target : Uuid} :
    Steady l worded (checkFederation c config request target) := by
  unfold checkFederation
  split
  · exact steady_refuseWithoutContract hown
  · exact steady_refuseWithoutContract hown
  next contract _ =>
    -- every refusal comes after a note, so each of the two checks is a bind of three
    have hattested : Steady l worded (do
        if config.zeroTrustCrossOrg && request.principal.authnKind ≠ some Federation.attest then
          refuse Federation.attestationRequired
        return contract.scope) := by
      dsimp only
      split
      · exact (Steady.refuse (hown _ (by simp [ownRefusals]))).then fun _ => Steady.pure _
      · exact Steady.pure _
    have hpermitted : Steady l worded (note (crossing request target) >>= fun _ => _) :=
      (Steady.note _).then fun _ => hattested
    have hresource : worded Federation.resourceNotAllowed := hown _ (by simp [ownRefusals])
    dsimp only
    split
    · refine (Steady.note _).then fun _ =>
        (Steady.refuse (hown _ (by simp [ownRefusals]))).then fun _ => ?_
      split
      · exact (Steady.note _).then fun _ => (Steady.refuse hresource).then fun _ => hpermitted
      · exact hpermitted
    · split
      · exact (Steady.note _).then fun _ => (Steady.refuse hresource).then fun _ => hpermitted
      · exact hpermitted

theorem steady_federate (hown : ∀ reason ∈ ownRefusals, worded reason) :
    Steady l worded (federate c config request) := by
  unfold federate
  split
  · exact Steady.pure _
  · exact (steady_checkFederation hown).then fun _ => Steady.pure _

theorem steady_checkDelegation (hown : ∀ reason ∈ ownRefusals, worded reason) :
    Steady l worded (checkDelegation c request) := by
  have hrefused : worded noDelegation := hown _ (by simp [ownRefusals])
  unfold checkDelegation
  split
  · exact Steady.pure _
  · have hasked : Steady l worded (modify fun p =>
        { p with asked := some (delegation request.agent request.actingFor) } : Gate Unit) :=
      Steady.modify fun start other halike =>
        ⟨halike.risk, halike.events, rfl, halike.made, halike.otherMade⟩
    refine hasked.then fun _ => ?_
    split
    · split
      · exact Steady.refuse hrefused
      · exact Steady.pure _
    · exact Steady.refuse hrefused

theorem steady_readSignals {clock : Nat} : Steady l worded (readSignals request clock) := by
  intro start other halike
  refine ⟨?_, ⟨?_, halike.events, halike.asked, halike.made, halike.otherMade⟩,
    fun _ hrefused => nomatch hrefused⟩
  · change Except.ok (other.signals request clock) = Except.ok (start.signals request clock)
    rw [Progress.signals, Progress.signals, halike.risk]
  · change (other.signalsRead request clock).risk = (start.signalsRead request clock).risk
    rw [Progress.signalsRead, Progress.signalsRead, halike.risk]

/-- A version that is stored, of a policy with a known engine. -/
structure Stored (l : Lifecycle) (policyId : Uuid) (evaluator : Evaluator)
    (version : PolicyVersion) : Prop where
  policy : ∃ policy, l.repository.getPolicy policyId = .ok policy ∧
    l.registry.get policy.engine = .ok evaluator
  version : l.repository.getVersion policyId version.version = .ok version

/-- What a stored version makes is what the engine of its policy compiles. -/
theorem Stored.makes_iff {policyId : Uuid} {evaluator : Evaluator} {version : PolicyVersion}
    {artifact : Artifact} (hstored : Stored l policyId evaluator version) :
    l.Makes policyId version.version artifact ↔ evaluator.compile version.body = .ok artifact := by
  obtain ⟨⟨policy, hpolicy, hengine⟩, hversion⟩ := hstored
  have hcompile : l.compile policy version.body = evaluator.compile version.body := by
    simp only [Lifecycle.compile, hengine]
    rfl
  constructor
  · rintro ⟨policy', version', hpolicy', hversion', hmade⟩
    obtain rfl : policy = policy' := Except.ok.inj (hpolicy.symm.trans hpolicy')
    obtain rfl : version = version' := Except.ok.inj (hversion.symm.trans hversion')
    rwa [hcompile] at hmade
  · intro hmade
    exact ⟨policy, version, hpolicy, hversion, hcompile.trans hmade⟩

/-- With an artifact at hand, kept or not, the body of a stored version compiles to it. -/
theorem Stored.compile_of_prepared {policyId : Uuid} {evaluator : Evaluator}
    {version : PolicyVersion} {artifact : Artifact} {compiled : CompiledCache}
    (hstored : Stored l policyId evaluator version)
    (hmade : ∀ entry ∈ compiled.entries, l.Makes entry.1.1 entry.1.2 entry.2)
    (hprepared : Prepared compiled evaluator policyId version artifact) :
    evaluator.compile version.body = .ok artifact := by
  cases hprepared with
  | kept hkept => exact hstored.makes_iff.mp (hmade _ (CompiledCache.mem_of_get? hkept))
  | compiled _ hcompile => exact hcompile

theorem artifactOf_apply (evaluator : Evaluator) (policyId : Uuid) (version : PolicyVersion)
    (start : Progress) : artifactOf evaluator policyId version start =
      (match start.compiled.get? policyId version.version with
        | some artifact => pure artifact
        | none => match evaluator.compile version.body with
          | .error e => refuse e.message
          | .ok artifact => do
              set { start with
                compiled := start.compiled.put policyId version.version artifact }
              return artifact : Gate Artifact) start := rfl

/-- The artifact of a stored version is what its body compiles to, kept or not. -/
theorem artifactOf_stored {policyId : Uuid} {evaluator : Evaluator} {version : PolicyVersion}
    {start : Progress} (hstored : Stored l policyId evaluator version)
    (hmade : ∀ entry ∈ start.compiled.entries, l.Makes entry.1.1 entry.1.2 entry.2) :
    artifactOf evaluator policyId version start = match evaluator.compile version.body with
      | .error e => (.error (.deny e.message), start)
      | .ok artifact => (.ok artifact, start.prepared policyId version artifact) := by
  rw [artifactOf_apply]
  unfold Progress.prepared
  cases hget : start.compiled.get? policyId version.version with
  | some artifact =>
      have hcompile := hstored.makes_iff.mp (hmade _ (CompiledCache.mem_of_get? hget))
      rw [hcompile]
      rfl
  | none => cases evaluator.compile version.body <;> rfl

@[simp] theorem Progress.prepared_risk (p : Progress) (policyId : Uuid)
    (version : PolicyVersion) (artifact : Artifact) :
    (p.prepared policyId version artifact).risk = p.risk := by
  unfold Progress.prepared
  split <;> rfl

@[simp] theorem Progress.prepared_events (p : Progress) (policyId : Uuid)
    (version : PolicyVersion) (artifact : Artifact) :
    (p.prepared policyId version artifact).events = p.events := by
  unfold Progress.prepared
  split <;> rfl

@[simp] theorem Progress.prepared_asked (p : Progress) (policyId : Uuid)
    (version : PolicyVersion) (artifact : Artifact) :
    (p.prepared policyId version artifact).asked = p.asked := by
  unfold Progress.prepared
  split <;> rfl

theorem Stored.made_prepared {policyId : Uuid} {evaluator : Evaluator} {version : PolicyVersion}
    {artifact : Artifact} {p : Progress} (hstored : Stored l policyId evaluator version)
    (hartifact : evaluator.compile version.body = .ok artifact)
    (hmade : ∀ entry ∈ p.compiled.entries, l.Makes entry.1.1 entry.1.2 entry.2) :
    ∀ entry ∈ (p.prepared policyId version artifact).compiled.entries,
      l.Makes entry.1.1 entry.1.2 entry.2 := by
  intro entry hentry
  unfold Progress.prepared at hentry
  split at hentry
  · exact hmade entry hentry
  · rcases CompiledCache.mem_put hentry with rfl | hold
    · exact hstored.makes_iff.mpr hartifact
    · exact hmade entry hold

theorem steady_artifactOf {policyId : Uuid} {evaluator : Evaluator} {version : PolicyVersion}
    (hstored : Stored l policyId evaluator version)
    (hcompile : ∀ e, evaluator.compile version.body = .error e → worded e.message) :
    Steady l worded (artifactOf evaluator policyId version) := by
  intro start other halike
  rw [artifactOf_stored hstored halike.made, artifactOf_stored hstored halike.otherMade]
  cases hartifact : evaluator.compile version.body with
  | error e =>
      refine ⟨rfl, halike, ?_⟩
      rintro _ ⟨⟩
      exact hcompile e hartifact
  | ok artifact =>
      refine ⟨rfl, ⟨?_, ?_, ?_, ?_, ?_⟩, fun _ hrefused => nomatch hrefused⟩
      · simpa using halike.risk
      · simpa using halike.events
      · simpa using halike.asked
      · exact hstored.made_prepared hartifact halike.made
      · exact hstored.made_prepared hartifact halike.otherMade

/-! ## All gates -/

/-- Collaborators that answer about policies what is stored. -/
structure Faithful (c : Collaborators) (l : Lifecycle) : Prop where
  policy : ∀ org assignments, c.assignments org = .ok assignments → ∀ a ∈ assignments,
    l.repository.getPolicy a.policy.id = .ok a.policy
  active : ∀ org assignments, c.assignments org = .ok assignments → ∀ a ∈ assignments,
    l.repository.getVersion a.policy.id a.version.version = .ok a.version
  version : ∀ policy version v, c.version policy version = .ok v →
    l.repository.getVersion policy version = .ok v
  evaluator : ∀ engine, c.evaluator engine = l.registry.get engine

/-- The assignment that is chosen for a request. -/
def selected? (c : Collaborators) (request : Request) : Option ActiveAssignment :=
  match c.assignments request.orgId with
  | .ok assignments => assignments[Routing.selectIndex (selectionKey request) assignments.length]?
  | .error _ => none

theorem selected?_of_passes {selected : ActiveAssignment} {start after : Progress}
    (hpass : Passes (selectAssignment c request) start selected after) :
    selected? c request = some selected := by
  obtain ⟨⟨assignments, hassigned, hchosen⟩, -⟩ := passes_selectAssignment_iff.mp hpass
  rw [selected?, hassigned]
  exact hchosen

theorem Passage.selected?_eq {on : Occasion} {start : Progress}
    (passage : Passage c config request on start) :
    selected? c request = some passage.selected := by
  rw [selected?, passage.assigned]
  exact passage.chosen

/-- The version that is evaluated for the chosen assignment is stored. -/
theorem Faithful.stored {selected : ActiveAssignment} {evaluator : Evaluator}
    (hfaithful : Faithful c l) (hselected : selected? c request = some selected)
    (hevaluator : c.evaluator selected.policy.engine = .ok evaluator) :
    Stored l selected.policy.id evaluator (routedVersion c request selected) := by
  unfold selected? at hselected
  split at hselected
  next assignments hassigned =>
    have hmem := List.mem_of_getElem? hselected
    obtain ⟨version, hrouted⟩ : ∃ version, routedVersion c request selected = version := ⟨_, rfl⟩
    refine ⟨⟨selected.policy, hfaithful.policy _ _ hassigned _ hmem, ?_⟩, ?_⟩
    · rw [← hfaithful.evaluator, hevaluator]
    · rw [hrouted]
      cases routed_iff.mpr hrouted with
      | rolledOut hrolled =>
          obtain ⟨rollout, -, -, -, hversion⟩ := hrolled
          have hfound := hfaithful.version _ _ _ hversion
          rw [(Repository.mem_of_getVersion hfound).2.2]
          exact hfound
      | active hnone => exact hfaithful.active _ _ hassigned _ hmem
  next => cases hselected

/-- The wording of whatever the engine of the chosen policy objects to: a body that it cannot
compile, or the evaluation of an artifact that it has compiled. -/
structure Objections (c : Collaborators) (request : Request) (worded : String → Prop) :
    Prop where
  compile : ∀ selected evaluator, selected? c request = some selected →
    c.evaluator selected.policy.engine = .ok evaluator →
    ∀ body e, evaluator.compile body = .error e → worded e.message
  evaluate : ∀ selected evaluator, selected? c request = some selected →
    c.evaluator selected.policy.engine = .ok evaluator →
    ∀ body artifact context timing e, evaluator.compile body = .ok artifact →
      evaluator.evaluate artifact context timing = .error e → worded e.message

theorem steady_evaluate {on : Occasion} (hfaithful : Faithful c l)
    (hown : ∀ reason ∈ ownRefusals, worded reason) (hobjections : Objections c request worded) :
    Steady l worded (evaluate c config request on) := by
  refine (steady_selectAssignment hown).bind fun selected _ _ _ _ hselect => ?_
  have hselected := selected?_of_passes hselect
  refine (steady_federate hown).then fun federation => (steady_checkDelegation hown).then
    fun _ => steady_readSignals.then fun signals => ?_
  split
  · exact Steady.refuse (hown _ (by simp [ownRefusals]))
  next evaluator hevaluator =>
    have hstored := hfaithful.stored hselected hevaluator
    refine (steady_artifactOf hstored (hobjections.compile _ _ hselected hevaluator _)).bind
      fun artifact start _ _ halike hartifact => ?_
    unfold Passes at hartifact
    rw [artifactOf_stored hstored halike.made] at hartifact
    dsimp only
    split
    next e hevaluate =>
      cases hcompile : evaluator.compile (routedVersion c request selected).body with
      | error _ =>
          rw [hcompile] at hartifact
          cases hartifact
      | ok made =>
          rw [hcompile] at hartifact
          cases hartifact
          exact Steady.refuse
            (hobjections.evaluate _ _ hselected hevaluator _ _ _ _ _ hcompile hevaluate)
    next => exact Steady.pure _

end Evaluation

/-! ## The engine's own collaborators -/

/-- The active assignments of an organisation hold what is stored. -/
theorem Repository.WellFormed.mem_activeAssignments {repo : Repository} (hwell : repo.WellFormed)
    {org : Uuid} {a : ActiveAssignment} (ha : a ∈ repo.activeAssignments org) :
    repo.getPolicy a.policy.id = .ok a.policy ∧
      repo.getVersion a.policy.id a.version.version = .ok a.version := by
  rw [activeAssignments, List.mem_mergeSort] at ha
  obtain ⟨policy, -, hactive⟩ := List.mem_filterMap.mp ha
  obtain ⟨rfl, hstored, hversion⟩ := activeAssignment?_eq_some_iff.mp hactive
  refine ⟨hstored, ?_⟩
  obtain ⟨hmem, hpolicy⟩ := List.mem_filter.mp (List.mem_of_find?_eq_some hversion)
  have hsame : a.version.policyId = a.policy.id := by simpa using hpolicy
  rw [← hsame]
  exact hwell.getVersion_of_mem hmem

namespace Engine

open Evaluation

variable {e e' e'' : Engine} {request : Request} {on : Occasion}

theorem assignments_of_collaborators {clock : Nat} {org : Uuid}
    {assignments : List ActiveAssignment}
    (hassigned : (e.collaborators clock).assignments org = .ok assignments) :
    assignments = e.lifecycle.repository.activeAssignments org := by
  have hasked : e.lifecycle.ask .activeAssignments
      (fun repo => .ok (repo.activeAssignments org)) = .ok assignments := hassigned
  unfold Lifecycle.ask at hasked
  split at hasked
  · cases hasked
  · exact (Except.ok.inj hasked).symm

theorem faithful_collaborators (hwell : e.lifecycle.repository.WellFormed) (clock : Nat) :
    Faithful (e.collaborators clock) e.lifecycle where
  policy _ _ hassigned _ ha :=
    (hwell.mem_activeAssignments (assignments_of_collaborators hassigned ▸ ha)).1
  active _ _ hassigned _ ha :=
    (hwell.mem_activeAssignments (assignments_of_collaborators hassigned ▸ ha)).2
  version policy version v hversion := by
    change e.lifecycle.ask .getVersion (·.getVersion policy version) = .ok v at hversion
    exact Lifecycle.ask_ok hversion
  evaluator _ := rfl

/-! ## What counting, queueing and recording leave alone -/

/-- What a decision and the work after it leave alone, apart from the artifacts that it keeps. -/
structure Untouched (e e' : Engine) : Prop where
  config : e'.config = e.config
  signer : e'.signer = e.signer
  repository : e'.lifecycle.repository = e.lifecycle.repository
  registry : e'.lifecycle.registry = e.lifecycle.registry
  compiled : e'.lifecycle.compiled = e.lifecycle.compiled

theorem Untouched.refl (e : Engine) : e.Untouched e := ⟨rfl, rfl, rfl, rfl, rfl⟩

theorem Untouched.trans (hone : e.Untouched e') (hother : e'.Untouched e'') :
    e.Untouched e'' where
  config := hother.config.trans hone.config
  signer := hother.signer.trans hone.signer
  repository := hother.repository.trans hone.repository
  registry := hother.registry.trans hone.registry
  compiled := hother.compiled.trans hone.compiled

/-- What differs in records and permits only is left alone. -/
theorem untouched_of_withoutRecords {inflight : Nat}
    (hsame : e'.withoutRecords = e.withoutRecords.withInflight inflight) : e.Untouched e' := by
  have hconfig := congrArg Engine.config hsame
  have hsigner := congrArg Engine.signer hsame
  have hrepository := congrArg (fun e => e.lifecycle.repository) hsame
  have hregistry := congrArg (fun e => e.lifecycle.registry) hsame
  have hcompiled := congrArg (fun e => e.lifecycle.compiled) hsame
  exact ⟨hconfig, hsigner, hrepository, hregistry, hcompiled⟩

/-- An engine with other artifacts in its cache. -/
def withCompiled (e : Engine) (compiled : CompiledCache) : Engine :=
  { e with lifecycle := { e.lifecycle with compiled } }

/-- An evaluation leaves the artifacts behind that it keeps, and nothing else. -/
theorem untouched_absorb (e : Engine) (clock : Nat) (progress : Progress) :
    (e.withCompiled progress.compiled).Untouched (e.absorb clock progress) := by
  have hkeeping : (e.keeping clock progress).Untouched (e.absorb clock progress) :=
    untouched_of_withoutRecords (withoutRecords_absorb e clock progress)
  have hcompiled : (e.withCompiled progress.compiled).Untouched (e.keeping clock progress) :=
    ⟨rfl, rfl, rfl, rfl, rfl⟩
  exact hcompiled.trans hkeeping

/-- What comes between the evaluation of a request and the question for a token. -/
theorem untouched_remember (e : Engine) (request : Request) (evaluated : Evaluated) :
    e.Untouched (((e.countDecision request (explain request evaluated).allow
      (explain request evaluated).reason).lowerReputationLater request
        (explain request evaluated) evaluated.signals).keepTraceLater request
          evaluated.policy.id evaluated.version (explain request evaluated)) := by
  apply untouched_of_withoutRecords
  rw [withoutRecords_keepTraceLater, withoutRecords_lowerReputationLater,
    withoutRecords_countDecision]
  rfl

theorem untouched_work (e : Engine) (stamps : Nat → Stamp) : e.Untouched (e.work stamps) :=
  untouched_of_withoutRecords (withoutRecords_work e stamps)

theorem untouched_finish (e : Engine) (pending : PendingToken) (answer : Token.Answer) :
    e.Untouched (e.finish pending answer).2 :=
  untouched_of_withoutRecords (withoutRecords_finish e pending answer)

/-! ## Decisions -/

/-- What is kept in the cache is what its versions make, and the records are well formed. -/
structure Consistent (e : Engine) : Prop where
  wellFormed : e.lifecycle.repository.WellFormed
  keepsMade : e.lifecycle.KeepsMade

/-- The engine with nothing in its cache. -/
def withoutArtifacts (e : Engine) : Engine := e.withCompiled {}

theorem Consistent.alike (hconsistent : e.Consistent) :
    Alike e.lifecycle (e.entering request on) (e.withoutArtifacts.entering request on) where
  risk := rfl
  events := rfl
  asked := rfl
  made := hconsistent.keepsMade
  otherMade _ hentry := absurd hentry List.not_mem_nil

/-- The end of an evaluation by a consistent engine agrees with that by an engine with an empty
cache. -/
theorem Consistent.agree (hconsistent : e.Consistent) {worded : String → Prop}
    (hown : ∀ reason ∈ ownRefusals, worded reason)
    (hobjections : Objections (e.collaborators on.clock) request worded) :
    Agree e.lifecycle worded
      (evaluate (e.collaborators on.clock) e.config request on (e.entering request on))
      (evaluate (e.collaborators on.clock) e.config request on
        (e.withoutArtifacts.entering request on)) :=
  steady_evaluate (faithful_collaborators hconsistent.wellFormed on.clock) hown hobjections
    _ _ hconsistent.alike

/-- Engines with one configuration and one signer. -/
def SameSigner (e e' : Engine) : Prop := e'.config = e.config ∧ e'.signer = e.signer

theorem Untouched.sameSigner (huntouched : e.Untouched e') : e.SameSigner e' :=
  ⟨huntouched.config, huntouched.signer⟩

theorem SameSigner.symm (hsame : e.SameSigner e') : e'.SameSigner e :=
  ⟨hsame.1.symm, hsame.2.symm⟩

theorem SameSigner.trans (hone : e.SameSigner e') (hother : e'.SameSigner e'') :
    e.SameSigner e'' :=
  ⟨hother.1.trans hone.1, hother.2.trans hone.2⟩

/-- How a decision goes on after its evaluation depends on the configuration and the signer. -/
theorem SameSigner.requestToken_eq (hsame : e.SameSigner e') (evaluated : Evaluated)
    (response : Response) :
    (e'.requestToken request evaluated response on).1 =
      (e.requestToken request evaluated response on).1 := by
  unfold requestToken
  rw [hsame.1, hsame.2]
  split
  · rfl
  · split <;> rfl

theorem SameSigner.conclude_eq (hsame : e.SameSigner e') (result : Except Decision Evaluated) :
    (e'.conclude request on result).1 = (e.conclude request on result).1 := by
  cases result with
  | error refusal => rfl
  | ok evaluated =>
      have hone := (untouched_remember e request evaluated).sameSigner
      have hother := (untouched_remember e' request evaluated).sameSigner
      exact ((hone.symm.trans hsame).trans hother).requestToken_eq evaluated _

theorem SameSigner.finish_eq (hsame : e.SameSigner e') (pending : PendingToken)
    (answer : Token.Answer) : (e'.finish pending answer).1 = (e.finish pending answer).1 := by
  unfold finish
  dsimp only
  rw [hsame.1]
  split <;> rfl

/-- Decisions that begin alike end alike. -/
theorem decideWith_eq_of_begun {c c' : Collaborators} (stamps : Nat → Stamp)
    (hbegun : (e'.beginWith c' request on).1 = (e.beginWith c request on).1)
    (hsame : (e.beginWith c request on).2.SameSigner (e'.beginWith c' request on).2) :
    (e'.decideWith c' request on stamps).1 = (e.decideWith c request on stamps).1 := by
  obtain ⟨begun, e₁, hone⟩ : ∃ begun e₁, e.beginWith c request on = (begun, e₁) := ⟨_, _, rfl⟩
  obtain ⟨begun', e₂, hother⟩ : ∃ begun e₂, e'.beginWith c' request on = (begun, e₂) :=
    ⟨_, _, rfl⟩
  rw [hone, hother] at hbegun hsame
  obtain rfl : begun' = begun := hbegun
  have hsigner : e₂.signer = e₁.signer := hsame.2
  unfold decideWith
  rw [hone, hother]
  cases begun' with
  | answered response => rfl
  | waiting pending =>
      dsimp only
      rw [hsigner]
      have hworked := ((untouched_work e₁ stamps).sameSigner.symm.trans hsame).trans
        (untouched_work e₂ stamps).sameSigner
      split
      · exact hworked.finish_eq pending _
      · exact hsame.finish_eq pending _

/-- What a beginning decision leaves behind: the artifacts that its evaluation keeps. -/
theorem untouched_beginWith (e : Engine) (c : Collaborators) (request : Request) (on : Occasion) :
    (if e.admits then
        e.withCompiled (evaluate c e.config request on (e.entering request on)).2.compiled
      else e).Untouched (e.beginWith c request on).2 := by
  cases hadmits : e.admits with
  | false =>
      rw [beginWith_of_not_admits hadmits]
      exact ⟨rfl, rfl, rfl, rfl, rfl⟩
  | true =>
      let progress := (evaluate c e.config request on (e.entering request on)).2
      have hcompiled : (e.withCompiled progress.compiled).Untouched
          (e.keeping on.clock progress) := ⟨rfl, rfl, rfl, rfl, rfl⟩
      exact hcompiled.trans
        (untouched_of_withoutRecords (withoutRecords_beginWith hadmits c request on))

theorem sameSigner_beginWith (e : Engine) (c : Collaborators) (request : Request)
    (on : Occasion) : e.SameSigner (e.beginWith c request on).2 := by
  have huntouched := (untouched_beginWith e c request on).sameSigner
  split at huntouched
  · exact SameSigner.trans ⟨rfl, rfl⟩ huntouched
  · exact huntouched

/-! ## Reached states -/

/-- Carry out an operation on the policies of an engine. -/
def manage (e : Engine) (operation : LifecycleOperation) (on : Occasion) : Engine :=
  { e with lifecycle := (operation.run on e.lifecycle).2 }

/-- The states that an engine reaches: policies are managed, where a new policy gets an identifier
that is not in use, and decisions begin. Meanwhile anything else may change, and kept artifacts
may be dropped, but nobody else writes to the repository, the registry or the cache. -/
inductive Reached (start : Engine) : Engine → Prop where
  | start : Reached start start
  | managed {e : Engine} (operation : LifecycleOperation) (on : Occasion)
      (hreached : Reached start e)
      (hfresh : ∀ p ∈ e.lifecycle.repository.policies,
        LifecycleCall.created? ⟨operation, on⟩ ≠ some p.id) :
      Reached start (e.manage operation on)
  | begun {e : Engine} (request : Request) (on : Occasion) (hreached : Reached start e) :
      Reached start (e.begin request on).2
  | meanwhile {e e' : Engine} (hreached : Reached start e)
      (hrepository : e'.lifecycle.repository = e.lifecycle.repository)
      (hregistry : e'.lifecycle.registry = e.lifecycle.registry)
      (hcompiled : e'.lifecycle.compiled.entries ⊆ e.lifecycle.compiled.entries) :
      Reached start e'

/-- A whole decision is a beginning, and work that does not touch the policies. -/
theorem Reached.decide {start e : Engine} (hreached : Reached start e) (request : Request)
    (on : Occasion) (stamps : Nat → Stamp) : Reached start (e.decide request on stamps).2 := by
  have hbegun := Reached.begun request on hreached
  have huntouched : (e.begin request on).2.Untouched (e.decide request on stamps).2 := by
    unfold Engine.decide decideWith begin
    split
    next heq =>
      rw [heq]
      exact .refl _
    next heq =>
      rw [heq]
      dsimp only
      split
      · exact (untouched_work _ _).trans (untouched_finish _ _ _)
      · exact untouched_finish _ _ _
  exact .meanwhile hbegun huntouched.repository huntouched.registry
    (by rw [huntouched.compiled]; exact List.Subset.refl _)

theorem Reached.registry {start e : Engine} (hreached : Reached start e) :
    e.lifecycle.registry = start.lifecycle.registry := by
  induction hreached with
  | start => rfl
  | managed operation on hreached hfresh ih =>
      exact (Lifecycle.run_follows operation hfresh).registry.trans ih
  | @begun e request on hreached ih =>
      have hregistry := (untouched_beginWith e (e.collaborators on.clock) request on).registry
      split at hregistry
      · exact hregistry.trans ih
      · exact hregistry.trans ih
  | meanwhile hreached hrepository hregistry hcompiled ih => exact hregistry.trans ih

/-- The same, whatever the wording of refusals. -/
theorem Consistent.agree_evaluate (hconsistent : e.Consistent) (request : Request)
    (on : Occasion) :
    Agree e.lifecycle (fun _ => True)
      (evaluate (e.collaborators on.clock) e.config request on (e.entering request on))
      (evaluate (e.collaborators on.clock) e.config request on
        (e.withoutArtifacts.entering request on)) :=
  hconsistent.agree (fun _ _ => trivial)
    ⟨fun _ _ _ _ _ _ _ => trivial, fun _ _ _ _ _ _ _ _ _ _ _ => trivial⟩

theorem Consistent.of_follows {lifecycle : Lifecycle} (hconsistent : e.Consistent)
    (hlifecycle : e'.lifecycle = lifecycle) (hfollows : e.lifecycle.Follows lifecycle) :
    e'.Consistent := by
  subst hlifecycle
  exact ⟨hfollows.repository.wellFormed hconsistent.wellFormed,
    hfollows.keepsMade hconsistent.keepsMade⟩

/-- An evaluation keeps only what its version makes. -/
theorem Consistent.begin (hconsistent : e.Consistent) (request : Request) (on : Occasion) :
    (e.begin request on).2.Consistent := by
  have hmade := (hconsistent.agree_evaluate request on).after.made
  have huntouched := untouched_beginWith e (e.collaborators on.clock) request on
  refine hconsistent.of_follows rfl ?_
  split at huntouched
  · have hextends : e.lifecycle.repository.Extends (e.begin request on).2.lifecycle.repository :=
      huntouched.repository ▸ .refl _
    refine ⟨huntouched.registry, hextends, fun entry hentry => Or.inr ?_⟩
    rw [Engine.begin, huntouched.compiled] at hentry
    exact (hmade entry hentry).later huntouched.registry hextends
  · refine .of_subset huntouched.registry huntouched.repository ?_
    rw [Engine.begin, huntouched.compiled]
    exact List.Subset.refl _

theorem Consistent.of_reached {start e : Engine}
    (hempty : start.lifecycle.compiled.entries = [])
    (hwell : start.lifecycle.repository.WellFormed) (hreached : Reached start e) :
    e.Consistent := by
  induction hreached with
  | start => exact ⟨hwell, by simp [Lifecycle.KeepsMade, hempty]⟩
  | managed operation on hreached hfresh ih =>
      exact ih.of_follows rfl (Lifecycle.run_follows operation hfresh)
  | begun request on hreached ih => exact ih.begin request on
  | meanwhile hreached hrepository hregistry hcompiled ih =>
      exact ih.of_follows rfl (.of_subset hregistry hrepository hcompiled)

/-! ## Responses -/

/-- Engines with one signer whose evaluations come to one result give one response. -/
theorem SameSigner.decideWith_eq {c c' : Collaborators} (hsame : e.SameSigner e')
    (hadmits : e.admits = true) (hadmits' : e'.admits = true)
    (hresult : (evaluate c' e'.config request on (e'.entering request on)).1 =
      (evaluate c e.config request on (e.entering request on)).1) (stamps : Nat → Stamp) :
    (e'.decideWith c' request on stamps).1 = (e.decideWith c request on stamps).1 := by
  apply decideWith_eq_of_begun
  · have habsorbed : ∀ (e : Engine) (progress : Progress),
        e.SameSigner (e.absorb on.clock progress) := fun e progress =>
      SameSigner.trans ⟨rfl, rfl⟩ (untouched_absorb e on.clock progress).sameSigner
    rw [beginWith_of_admits hadmits, beginWith_of_admits hadmits', hresult]
    exact (((habsorbed e _).symm.trans hsame).trans (habsorbed e' _)).conclude_eq _
  · exact ((sameSigner_beginWith _ _ _ _).symm.trans hsame).trans (sameSigner_beginWith _ _ _ _)

/-- A consistent engine responds as it would with an empty cache. -/
theorem Consistent.decide_withoutArtifacts (hconsistent : e.Consistent) (request : Request)
    (on : Occasion) (stamps : Nat → Stamp) :
    (e.withoutArtifacts.decide request on stamps).1 = (e.decide request on stamps).1 := by
  have hsame : e.SameSigner e.withoutArtifacts := ⟨rfl, rfl⟩
  cases hadmits : e.admits with
  | false =>
      have hadmits' : e.withoutArtifacts.admits = false := hadmits
      rw [decide, decide, decideWith, decideWith, beginWith_of_not_admits hadmits,
        beginWith_of_not_admits hadmits']
  | true =>
      have hresult := (hconsistent.agree_evaluate request on).result
      exact hsame.decideWith_eq hadmits hadmits hresult stamps

/-! ## The engine of rule sets -/

/-- A wording that cannot be the objection to an artifact of another engine. -/
def OtherwiseWorded (reason : String) : Prop := reason.toList.head? ≠ some 'b'

theorem head?_append {a : String} (ha : a.toList ≠ []) (b : String) :
    (a ++ b).toList.head? = a.toList.head? := by
  rw [String.toList_append, List.head?_append_of_ne_nil _ ha]

theorem OtherwiseWorded.ne_badCompiledPolicy {reason : String} (hworded : OtherwiseWorded reason)
    (engine : String) : reason ≠ (PolicyError.badCompiledPolicy engine).message := by
  rintro rfl
  apply hworded
  unfold PolicyError.message
  dsimp only [toString]
  rw [head?_append (by rw [String.toList_append]; simp), head?_append (by decide)]
  rfl

theorem otherwiseWorded_invalidBody (fault : BodyFault) :
    OtherwiseWorded (PolicyError.invalidBody fault).message := by
  change ("invalid policy body: " ++ fault.message).toList.head? ≠ some 'b'
  rw [head?_append (by decide)]
  decide

theorem otherwiseWorded_ownRefusals : ∀ reason ∈ ownRefusals, OtherwiseWorded reason := by
  unfold ownRefusals OtherwiseWorded
  decide

/-- The engine of rule sets compiles to rule sets, and objects only to bodies. -/
theorem evaluator_compile_cases (body : Value) :
    (∃ set, Rules.evaluator.compile body = .ok (.rules set)) ∨
      ∃ fault, Rules.evaluator.compile body = .error (.invalidBody fault) := by
  unfold Rules.evaluator
  dsimp only
  split
  next set _ => exact Or.inl ⟨set, rfl⟩
  next fault _ => exact Or.inr ⟨fault, rfl⟩

theorem rules_of_compile {body : Value} {artifact : Artifact}
    (hcompile : Rules.evaluator.compile body = .ok artifact) :
    ∃ set, artifact = .rules set := by
  rcases evaluator_compile_cases body with ⟨set, hset⟩ | ⟨fault, hfault⟩
  · exact ⟨set, Except.ok.inj (hcompile.symm.trans hset)⟩
  · rw [hfault] at hcompile
    cases hcompile

theorem objections_rules {c : Collaborators} {selected : ActiveAssignment}
    (hselected : selected? c request = some selected)
    (hrules : c.evaluator selected.policy.engine = .ok Rules.evaluator) :
    Objections c request OtherwiseWorded where
  compile other evaluator hother hevaluator body e herror := by
    obtain rfl : selected = other := Option.some.inj (hselected.symm.trans hother)
    obtain rfl : Rules.evaluator = evaluator := Except.ok.inj (hrules.symm.trans hevaluator)
    rcases evaluator_compile_cases body with ⟨set, hset⟩ | ⟨fault, hfault⟩
    · rw [hset] at herror
      cases herror
    · rw [hfault] at herror
      cases herror
      exact otherwiseWorded_invalidBody fault
  evaluate other evaluator hother hevaluator body artifact context timing e hcompile herror := by
    obtain rfl : selected = other := Option.some.inj (hselected.symm.trans hother)
    obtain rfl : Rules.evaluator = evaluator := Except.ok.inj (hrules.symm.trans hevaluator)
    obtain ⟨set, rfl⟩ := rules_of_compile hcompile
    cases herror

/-- A rule set words its decisions itself. -/
theorem otherwiseWorded_evaluate (set : Rules.RuleSet) (context : Value) (timing : Timing) :
    OtherwiseWorded (set.evaluate context timing).reason := by
  have hreason : ∃ reason : Rules.Reason,
      (set.evaluate context timing).reason = reason.message := by
    unfold Rules.RuleSet.evaluate
    dsimp only
    split
    · exact ⟨_, rfl⟩
    · exact ⟨.violations, rfl⟩
  obtain ⟨reason, hreason⟩ := hreason
  rw [hreason]
  unfold OtherwiseWorded
  cases reason <;> decide

/-- Along a passage for a policy with rule sets, a rule set is evaluated. -/
theorem Consistent.rules_of_passage (hconsistent : e.Consistent)
    (passage : Passage (e.collaborators on.clock) e.config request on (e.entering request on))
    (hrules : e.lifecycle.registry.get passage.selected.policy.engine = .ok Rules.evaluator) :
    ∃ set context, passage.decision = Rules.RuleSet.evaluate set context on.timing := by
  have hstored := (faithful_collaborators hconsistent.wellFormed on.clock).stored
    passage.selected?_eq passage.registered
  rw [routed_iff.mp passage.routed] at hstored
  have hevaluator : passage.evaluator = Rules.evaluator :=
    Except.ok.inj (passage.registered.symm.trans hrules)
  have hcompile := hstored.compile_of_prepared hconsistent.keepsMade passage.prepared
  rw [hevaluator] at hcompile
  obtain ⟨set, hset⟩ := rules_of_compile hcompile
  have hevaluates := passage.evaluates
  rw [hevaluator, hset] at hevaluates
  exact ⟨set, _, (Except.ok.inj hevaluates).symm⟩

/-- A request to which a policy with rule sets applies is never refused because of an artifact of
another engine. -/
theorem Consistent.otherwiseWorded (hconsistent : e.Consistent) {selected : ActiveAssignment}
    (hselected : selected? (e.collaborators on.clock) request = some selected)
    (hrules : e.lifecycle.registry.get selected.policy.engine = .ok Rules.evaluator)
    (stamps : Nat → Stamp) : OtherwiseWorded (e.decide request on stamps).1.reason := by
  have hreason : (e.decide request on stamps).1.reason =
      (e.verdict (e.collaborators on.clock) request on).reason :=
    (decideWith_outcome e _ request on stamps).2.1
  rw [hreason]
  cases hadmits : e.admits with
  | false =>
      rw [verdict_of_not_admits hadmits]
      unfold OtherwiseWorded
      decide
  | true =>
      rcases passes_or_stops (evaluate (e.collaborators on.clock) e.config request on)
        (e.entering request on) with ⟨evaluated, after, hpasses⟩ | ⟨refusal, after, hstops⟩
      · rw [verdict_of_passes hadmits hpasses]
        obtain ⟨passage, rfl, -⟩ := passes_evaluate_iff.mp hpasses
        obtain rfl : passage.selected = selected :=
          Option.some.inj (passage.selected?_eq.symm.trans hselected)
        obtain ⟨set, context, hdecision⟩ := hconsistent.rules_of_passage passage hrules
        change OtherwiseWorded passage.decision.reason
        rw [hdecision]
        exact otherwiseWorded_evaluate set context _
      · rw [verdict_of_stops hadmits hstops]
        have hagree := hconsistent.agree otherwiseWorded_ownRefusals
          (objections_rules hselected hrules)
        exact hagree.refusal refusal (congrArg Prod.fst hstops)

/-- In every state that is reached from an empty cache and well-formed records, each kept artifact
is what the engine of its policy makes of the body of its version. So every decision answers as it
would if the cache were empty; and a request to which a policy with rule sets applies is never
refused because of an artifact of another engine. -/
theorem kept_artifacts_do_not_show {start e : Engine}
    (hempty : start.lifecycle.compiled.entries = [])
    (hwell : start.lifecycle.repository.WellFormed) (hreached : Reached start e) :
    (∀ entry ∈ e.lifecycle.compiled.entries,
      e.lifecycle.Makes entry.1.1 entry.1.2 entry.2) ∧
    ∀ request on stamps,
      (e.decide request on stamps).1 = (e.withoutArtifacts.decide request on stamps).1 ∧
      ∀ selected, selected? (e.collaborators on.clock) request = some selected →
        e.lifecycle.registry.get selected.policy.engine = .ok Rules.evaluator →
        ∀ engine, (e.decide request on stamps).1.reason ≠
          (PolicyError.badCompiledPolicy engine).message := by
  have hconsistent := Consistent.of_reached hempty hwell hreached
  refine ⟨hconsistent.keepsMade, fun request on stamps => ⟨?_, ?_⟩⟩
  · exact (hconsistent.decide_withoutArtifacts request on stamps).symm
  · intro selected hselected hrules engine
    exact (hconsistent.otherwiseWorded hselected hrules stamps).ne_badCompiledPolicy engine

/-- An engine for which one signature is enough. -/
def keeper : Engine := .start {} { approvalsRequired := 1 } {}

/-- The engine once a policy that allows everything is assigned to an organisation and active. -/
def warmed : Engine :=
  let allowing : Value := .object [("rules", .array [.object [("effect", .string "allow")]])]
  let on (n : Nat) : Occasion := { (default : Occasion) with id := ⟨n⟩ }
  ((((keeper.manage (.createPolicy ⟨9⟩ "p" Rules.engineName none) (on 1)).manage
    (.addVersion ⟨1⟩ allowing none) (on 2)).manage (.approve ⟨1⟩ 1 ⟨8⟩) (on 3)).manage
    (.assign ⟨1⟩ .org (⟨9⟩ : Uuid).text) (on 4)).manage (.activate ⟨1⟩ 1 .null) (on 5)

theorem reached_warmed : Reached keeper warmed := by
  refine .managed _ _ (.managed _ _ (.managed _ _ (.managed _ _ (.managed _ _ .start ?_) ?_) ?_)
    ?_) ?_
  · intro p hp
    exact absurd hp List.not_mem_nil
  all_goals exact fun _ _ => nofun

/-- The activation has kept an artifact, which shows in no answer. -/
theorem warmed_artifact_does_not_show :
    keeper.lifecycle.compiled.entries = [] ∧ Reached keeper warmed ∧
    warmed.lifecycle.compiled.entries.map Prod.fst = [(⟨1⟩, 1)] ∧
    (∀ entry ∈ warmed.lifecycle.compiled.entries,
      warmed.lifecycle.Makes entry.1.1 entry.1.2 entry.2) ∧
    (warmed.decide { orgId := ⟨9⟩ } default fun _ => default).1.allow = true ∧
    (warmed.decide { orgId := ⟨9⟩ } default fun _ => default).1 =
      (warmed.withoutArtifacts.decide { orgId := ⟨9⟩ } default fun _ => default).1 ∧
    ∀ engine, (warmed.decide { orgId := ⟨9⟩ } default fun _ => default).1.reason ≠
      (PolicyError.badCompiledPolicy engine).message := by
  obtain ⟨hmade, hdecide⟩ := kept_artifacts_do_not_show rfl Repository.WellFormed.empty
    reached_warmed
  obtain ⟨hsame, hreason⟩ := hdecide { orgId := ⟨9⟩ } default fun _ => default
  have hengine : (selected? (warmed.collaborators 0) { orgId := ⟨9⟩ }).map
      (·.policy.engine) = some Rules.engineName := by
    decide +kernel
  obtain ⟨selected, hselected, hengine⟩ := Option.map_eq_some_iff.mp hengine
  refine ⟨rfl, reached_warmed, by decide +kernel, hmade, by decide +kernel, hsame,
    hreason selected hselected ?_⟩
  rw [reached_warmed.registry, hengine]
  rfl

end Engine

end Mandate
