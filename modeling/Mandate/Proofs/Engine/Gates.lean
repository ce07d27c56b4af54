import Mandate.Engine.Decide

/-! # The gates of an evaluation

For every gate there is one lemma that says exactly when a request passes it and what it leaves
behind, and every refusal at a gate denies. An evaluation therefore comes to its end exactly
along a `Passage`, which records what the collaborators answered on the way.
-/

namespace Mandate.Evaluation

open Mandate.Json

variable {α β : Type}

/-! ## Passing a gate and being stopped at one -/

/-- The gate is passed with a result. -/
def Passes (gate : Gate α) (start : Progress) (a : α) (after : Progress) : Prop :=
  gate start = (.ok a, after)

/-- The gate stops the request with a refusal. -/
def Stops (gate : Gate α) (start : Progress) (refusal : Decision) (after : Progress) : Prop :=
  gate start = (.error refusal, after)

/-- Whoever is stopped at the gate is not allowed. -/
def Denies (gate : Gate α) : Prop :=
  ∀ start refusal after, Stops gate start refusal after → refusal.allow = false

theorem passes_or_stops (gate : Gate α) (start : Progress) :
    (∃ a after, Passes gate start a after) ∨ ∃ refusal after, Stops gate start refusal after := by
  obtain ⟨result, after, hgate⟩ : ∃ result after, gate start = (result, after) := ⟨_, _, rfl⟩
  cases result with
  | error refusal => exact Or.inr ⟨refusal, after, hgate⟩
  | ok a => exact Or.inl ⟨a, after, hgate⟩

theorem Passes.unique {gate : Gate α} {start after after' : Progress} {a a' : α}
    (hone : Passes gate start a after) (hother : Passes gate start a' after') :
    a = a' ∧ after = after' := by
  have heq : ((.ok a, after) : Except Decision α × Progress) = (.ok a', after') :=
    hone.symm.trans hother
  simpa using heq

theorem Passes.not_stops {gate : Gate α} {start after after' : Progress} {a : α}
    {refusal : Decision} (hpass : Passes gate start a after) :
    ¬ Stops gate start refusal after' := by
  intro hstop
  have heq : ((.ok a, after) : Except Decision α × Progress) = (.error refusal, after') :=
    hpass.symm.trans hstop
  simp at heq

theorem bind_apply (gate : Gate α) (next : α → Gate β) (start : Progress) :
    (gate >>= next) start = match gate start with
      | (.ok a, middle) => next a middle
      | (.error refusal, middle) => (.error refusal, middle) := by
  simp only [bind, ExceptT.bind, ExceptT.mk, StateT.bind, ExceptT.bindCont]
  cases gate start with
  | mk result middle => cases result <;> rfl

@[simp] theorem passes_pure_iff {a b : α} {start after : Progress} :
    Passes (pure a) start b after ↔ a = b ∧ start = after := by
  change ((.ok a, start) : Except Decision α × Progress) = (.ok b, after) ↔ _
  simp

@[simp] theorem not_passes_refuse {reason : String} {a : α} {start after : Progress} :
    ¬ Passes (refuse reason) start a after := by
  change ¬ ((.error _, start) : Except Decision α × Progress) = (.ok a, after)
  simp

@[simp] theorem passes_note_iff {event : AuditRecord} {start after : Progress} {u : Unit} :
    Passes (note event) start u after ↔
      { start with events := start.events ++ [event] } = after := by
  change ((.ok (), _) : Except Decision Unit × Progress) = (.ok u, after) ↔ _
  simp

theorem passes_modify_iff {change : Progress → Progress} {start after : Progress} {u : Unit} :
    Passes (modify change) start u after ↔ change start = after := by
  change ((.ok (), _) : Except Decision Unit × Progress) = (.ok u, after) ↔ _
  simp

theorem passes_set_iff {start p after : Progress} {u : Unit} :
    Passes (set p) start u after ↔ p = after := by
  change ((.ok (), p) : Except Decision Unit × Progress) = (.ok u, after) ↔ _
  simp

theorem passes_get_bind_iff {next : Progress → Gate β} {start after : Progress} {b : β} :
    Passes (get >>= next) start b after ↔ Passes (next start) start b after := Iff.rfl

theorem passes_bind_iff {gate : Gate α} {next : α → Gate β} {start after : Progress} {b : β} :
    Passes (gate >>= next) start b after ↔
      ∃ a middle, Passes gate start a middle ∧ Passes (next a) middle b after := by
  unfold Passes
  rw [bind_apply]
  obtain ⟨result, middle, hgate⟩ : ∃ result middle, gate start = (result, middle) := ⟨_, _, rfl⟩
  rw [hgate]
  cases result with
  | error refusal =>
      constructor
      · intro h
        cases h
      · rintro ⟨a, middle', hok, -⟩
        cases hok
  | ok a =>
      constructor
      · intro h
        exact ⟨a, middle, rfl, h⟩
      · rintro ⟨a', middle', hok, h⟩
        cases hok
        exact h

/-- What comes after a gate matters only where the gate is passed. -/
theorem bind_congr_of_passes (gate : Gate α) {next next' : α → Gate β} {start : Progress}
    (hsame : ∀ a middle, Passes gate start a middle → next a middle = next' a middle) :
    (gate >>= next) start = (gate >>= next') start := by
  rw [bind_apply, bind_apply]
  obtain ⟨result, middle, hgate⟩ : ∃ result middle, gate start = (result, middle) := ⟨_, _, rfl⟩
  rw [hgate]
  cases result with
  | error refusal => rfl
  | ok a => exact hsame a middle hgate

theorem Denies.refuse (reason : String) : Denies (refuse reason : Gate α) := by
  intro start refusal after hstop
  cases hstop
  rfl

theorem Denies.pure (a : α) : Denies (pure a : Gate α) := by
  intro start refusal after hstop
  cases hstop

theorem Denies.note (event : AuditRecord) : Denies (note event) := by
  intro start refusal after hstop
  cases hstop

theorem Denies.modify (change : Progress → Progress) : Denies (modify change : Gate Unit) := by
  intro start refusal after hstop
  cases hstop

theorem Denies.set (p : Progress) : Denies (set p : Gate Unit) := by
  intro start refusal after hstop
  cases hstop

theorem Denies.get_bind {next : Progress → Gate β} (hnext : ∀ p, Denies (next p)) :
    Denies (get >>= next) := fun start refusal after hstop => hnext start start refusal after hstop

theorem Denies.bind {gate : Gate α} {next : α → Gate β} (hgate : Denies gate)
    (hnext : ∀ a, Denies (next a)) : Denies (gate >>= next) := by
  intro start refusal after hstop
  unfold Stops at hstop
  rw [bind_apply] at hstop
  obtain ⟨result, middle, hfirst⟩ : ∃ result middle, gate start = (result, middle) := ⟨_, _, rfl⟩
  rw [hfirst] at hstop
  cases result with
  | error early =>
      cases hstop
      exact hgate start _ _ hfirst
  | ok a => exact hnext a middle refusal after hstop

/-! ## Gate by gate -/

variable {c : Collaborators} {config : Config} {request : Request} {start after : Progress}

/-- The text by whose bucket an assignment is chosen for a request. -/
def selectionKey (request : Request) : String :=
  Routing.selectionKey request.orgId.text request.agent request.action request.resource

theorem passes_selectAssignment_iff {selected : ActiveAssignment} :
    Passes (selectAssignment c request) start selected after ↔
      (∃ assignments, c.assignments request.orgId = .ok assignments ∧
        assignments[Routing.selectIndex (selectionKey request) assignments.length]? =
          some selected) ∧ start = after := by
  unfold selectAssignment
  cases hassigned : c.assignments request.orgId with
  | error _ => simp
  | ok assignments =>
      have hkey : Routing.selectionKey request.orgId.text request.agent request.action
          request.resource = selectionKey request := rfl
      simp only [Except.ok.injEq, exists_eq_left', hkey]
      cases assignments[Routing.selectIndex (selectionKey request) assignments.length]? with
      | none => simp
      | some found => simp

theorem denies_selectAssignment : Denies (selectAssignment c request) := by
  unfold selectAssignment
  split
  · exact Denies.refuse _
  · dsimp only
    split
    · exact Denies.pure _
    · exact Denies.refuse _

/-- The record of a request that has crossed into another organisation. -/
def crossing (request : Request) (target : Uuid) : AuditRecord :=
  federationEvent request .federationBoundaryCrossing
    (field "allowed" (.bool true) ++ field "to_org_id" (.uuid target))

/-- A contract is found whose scope covers the request, with attestation where that is asked for. -/
structure Covered (c : Collaborators) (config : Config) (request : Request) (target : Uuid)
    (contract : Federation.Contract) : Prop where
  found : c.contract request.orgId target = .ok (some contract)
  action : contract.scope.permitsAction request.action = true
  resource : contract.scope.permitsResource request.resource = true
  attested : config.zeroTrustCrossOrg = false ∨
    request.principal.authnKind = some Federation.attest

theorem covered_iff {target : Uuid} {contract : Federation.Contract} :
    Covered c config request target contract ↔
      c.contract request.orgId target = .ok (some contract) ∧
        contract.scope.permitsAction request.action = true ∧
        contract.scope.permitsResource request.resource = true ∧
        (config.zeroTrustCrossOrg = false ∨
          request.principal.authnKind = some Federation.attest) :=
  ⟨fun h => ⟨h.found, h.action, h.resource, h.attested⟩,
    fun ⟨hfound, haction, hresource, hattested⟩ => ⟨hfound, haction, hresource, hattested⟩⟩

theorem passes_checkFederation_iff {target : Uuid} {scope : Federation.Scope} :
    Passes (checkFederation c config request target) start scope after ↔
      (∃ contract, Covered c config request target contract ∧ contract.scope = scope) ∧
        { start with events := start.events ++ [crossing request target] } = after := by
  unfold checkFederation
  cases hfound : c.contract request.orgId target with
  | error _ => simp [refuseWithoutContract, passes_bind_iff, covered_iff, hfound]
  | ok found =>
      cases found with
      | none => simp [refuseWithoutContract, passes_bind_iff, covered_iff, hfound]
      | some contract =>
          simp only [covered_iff, hfound, Except.ok.injEq, Option.some.injEq, and_assoc,
            exists_eq_left']
          -- attestation is asked for last, when the crossing has been recorded already
          by_cases haction : contract.scope.permitsAction request.action = true
          · by_cases hresource : contract.scope.permitsResource request.resource = true
            · by_cases hzero : config.zeroTrustCrossOrg = true <;>
                by_cases hattest : request.principal.authnKind = some Federation.attest <;>
                simp [passes_bind_iff, crossing, -bind_pure_comp, *]
            · simp [passes_bind_iff, haction, hresource]
          · simp [passes_bind_iff, haction]

theorem denies_refuseWithoutContract {target : Uuid} :
    Denies (refuseWithoutContract request target : Gate α) :=
  (Denies.note _).bind fun _ => Denies.refuse _

theorem denies_checkFederation {target : Uuid} :
    Denies (checkFederation c config request target) := by
  unfold checkFederation
  split
  · exact denies_refuseWithoutContract
  · exact denies_refuseWithoutContract
  next contract _ =>
    -- every refusal comes after a note, so each of the two checks is a bind of three
    have hattested : Denies (do
        if config.zeroTrustCrossOrg && request.principal.authnKind ≠ some Federation.attest then
          refuse Federation.attestationRequired
        return contract.scope) := by
      dsimp only
      split
      · exact (Denies.refuse _).bind fun _ => Denies.pure _
      · exact Denies.pure _
    have hpermitted := (Denies.note (crossing request target)).bind fun _ => hattested
    dsimp only
    split
    · refine (Denies.note _).bind fun _ => (Denies.refuse _).bind fun _ => ?_
      split
      · exact (Denies.note _).bind fun _ => (Denies.refuse _).bind fun _ => hpermitted
      · exact hpermitted
    · split
      · exact (Denies.note _).bind fun _ => (Denies.refuse _).bind fun _ => hpermitted
      · exact hpermitted

theorem counterparty?_eq_some_iff {target : Uuid} :
    request.counterparty? = some target ↔
      request.targetOrgId = some target ∧ target ≠ request.orgId := by
  simp [Request.counterparty?, Option.filter_eq_some_iff]

theorem counterparty?_eq_none_iff :
    request.counterparty? = none ↔
      ∀ target, request.targetOrgId = some target → target = request.orgId := by
  simp [Request.counterparty?, Option.filter_eq_none_iff]

/-- What the gate between organisations lets through: a request that names no organisation but its
own, or one into another organisation under a contract that covers it. -/
inductive Federated (c : Collaborators) (config : Config) (request : Request) :
    Option (Uuid × Federation.Scope) → Prop where
  | inside (hinside : ∀ target, request.targetOrgId = some target → target = request.orgId) :
      Federated c config request none
  | across {target : Uuid} {contract : Federation.Contract}
      (htarget : request.targetOrgId = some target) (hother : target ≠ request.orgId)
      (hcovered : Covered c config request target contract) :
      Federated c config request (some (target, contract.scope))

/-- The gate between organisations leaves one record behind, and only if it is crossed. -/
def Progress.crossed (p : Progress) (request : Request) :
    Option (Uuid × Federation.Scope) → Progress
  | none => p
  | some (target, _) => { p with events := p.events ++ [crossing request target] }

theorem passes_federate_iff {federation : Option (Uuid × Federation.Scope)} :
    Passes (federate c config request) start federation after ↔
      Federated c config request federation ∧ start.crossed request federation = after := by
  unfold federate
  cases hcounterparty : request.counterparty? with
  | none =>
      constructor
      · intro hpass
        obtain ⟨rfl, rfl⟩ := passes_pure_iff.mp hpass
        exact ⟨.inside (counterparty?_eq_none_iff.mp hcounterparty), rfl⟩
      · rintro ⟨hfederated, rfl⟩
        cases hfederated with
        | inside => exact passes_pure_iff.mpr ⟨rfl, rfl⟩
        | across htarget hother =>
            exact absurd (counterparty?_eq_none_iff.mp hcounterparty _ htarget) hother
  | some target =>
      obtain ⟨htarget, hother⟩ := counterparty?_eq_some_iff.mp hcounterparty
      constructor
      · intro hpass
        obtain ⟨scope, middle, hcheck, hpure⟩ := passes_bind_iff.mp hpass
        obtain ⟨⟨contract, hcovered, rfl⟩, rfl⟩ := passes_checkFederation_iff.mp hcheck
        obtain ⟨rfl, rfl⟩ := passes_pure_iff.mp hpure
        exact ⟨.across htarget hother hcovered, rfl⟩
      · rintro ⟨hfederated, rfl⟩
        cases hfederated with
        | inside hinside => exact absurd (hinside target htarget) hother
        | across hacross _ hcovered =>
            obtain rfl : target = _ := by simpa [htarget] using hacross
            exact passes_bind_iff.mpr ⟨_, _,
              passes_checkFederation_iff.mpr ⟨⟨_, hcovered, rfl⟩, rfl⟩,
              passes_pure_iff.mpr ⟨rfl, rfl⟩⟩

theorem denies_federate : Denies (federate c config request) := by
  unfold federate
  split
  · exact Denies.pure _
  · exact denies_checkFederation.bind fun _ => Denies.pure _

@[simp] theorem Progress.crossed_risk (p : Progress)
    (federation : Option (Uuid × Federation.Scope)) :
    (p.crossed request federation).risk = p.risk := by
  cases federation <;> rfl

@[simp] theorem Progress.crossed_compiled (p : Progress)
    (federation : Option (Uuid × Federation.Scope)) :
    (p.crossed request federation).compiled = p.compiled := by
  cases federation <;> rfl

/-- The caller may act for the organisation that the request names, or else for its own, as far as
a resource is named. -/
def Delegated (c : Collaborators) (request : Request) : Prop :=
  request.resource ≠ "" → ∃ result,
    c.check ⟨"agent", request.agentId.getD ""⟩ "can_act_for"
      ⟨"org", (request.targetOrgId.getD request.orgId).text⟩ = .ok result ∧ result.allowed = true

/-- A request is made for the organisation that it names, or else for its own. -/
theorem actingFor_eq (request : Request) :
    request.actingFor = request.targetOrgId.getD request.orgId := by
  unfold Request.actingFor
  cases hcounterparty : request.counterparty? with
  | some target =>
      obtain ⟨htarget, -⟩ := counterparty?_eq_some_iff.mp hcounterparty
      rw [htarget]
  | none =>
      cases htarget : request.targetOrgId with
      | none => rfl
      | some target => exact (counterparty?_eq_none_iff.mp hcounterparty target htarget).symm

/-- The question to the graph is the one about the caller and the organisation. -/
theorem check_delegation_eq (c : Collaborators) (request : Request) :
    c.check (delegation request.agent request.actingFor).1 canActFor
        (delegation request.agent request.actingFor).2 =
      c.check ⟨"agent", request.agentId.getD ""⟩ "can_act_for"
        ⟨"org", (request.targetOrgId.getD request.orgId).text⟩ := by
  rw [actingFor_eq]
  rfl

/-- The question about the caller is remembered, if it was asked. -/
def Progress.askedFor (p : Progress) (request : Request) : Progress :=
  if request.resource.isEmpty then p
  else { p with asked := some (delegation request.agent request.actingFor) }

@[simp] theorem Progress.askedFor_risk (p : Progress) : (p.askedFor request).risk = p.risk := by
  unfold Progress.askedFor
  split <;> rfl

@[simp] theorem Progress.askedFor_compiled (p : Progress) :
    (p.askedFor request).compiled = p.compiled := by
  unfold Progress.askedFor
  split <;> rfl

theorem passes_checkDelegation_iff {u : Unit} :
    Passes (checkDelegation c request) start u after ↔
      Delegated c request ∧ start.askedFor request = after := by
  unfold checkDelegation Delegated Progress.askedFor
  by_cases hresource : request.resource = ""
  · simp [hresource]
  · have hnamed : request.resource.isEmpty = false := by simpa using hresource
    simp only [hnamed, Bool.false_eq_true, ↓reduceIte, passes_bind_iff, passes_modify_iff,
      hresource, ne_eq, not_false_eq_true, forall_const]
    rw [check_delegation_eq]
    cases c.check ⟨"agent", request.agentId.getD ""⟩ "can_act_for"
        ⟨"org", (request.targetOrgId.getD request.orgId).text⟩ with
    | error _ => simp
    | ok result => cases hallowed : result.allowed <;> simp [hallowed]

theorem denies_checkDelegation : Denies (checkDelegation c request) := by
  unfold checkDelegation
  split
  · exact Denies.pure _
  · refine (Denies.modify _).bind fun _ => ?_
    split
    · split
      · exact Denies.refuse _
      · exact Denies.pure _
    · exact Denies.refuse _

/-- A rollout puts the version in place of the active one: its share is not empty, the caller's
bucket lies in it, and the version can be looked up. -/
def RolledOut (c : Collaborators) (request : Request) (selected : ActiveAssignment)
    (version : PolicyVersion) : Prop :=
  ∃ rollout, c.rollout request.orgId selected.policy.id = .ok (some rollout) ∧
    0 < rollout.percent ∧
    Routing.canaryBucket request.orgId.text request.agent selected.policy.id.text <
      rollout.percent ∧
    c.version selected.policy.id rollout.version = .ok version

/-- The version that is evaluated: the one that is rolled out, or else the active one. -/
inductive Routed (c : Collaborators) (request : Request) (selected : ActiveAssignment) :
    PolicyVersion → Prop where
  | rolledOut {version : PolicyVersion} (hrolled : RolledOut c request selected version) :
      Routed c request selected version
  | active (hnone : ∀ version, ¬ RolledOut c request selected version) :
      Routed c request selected selected.version

theorem RolledOut.routedVersion_eq {selected : ActiveAssignment} {version : PolicyVersion}
    (hrolled : RolledOut c request selected version) :
    routedVersion c request selected = version := by
  obtain ⟨rollout, hrollout, -, hbucket, hversion⟩ := hrolled
  simp [routedVersion, hrollout, hbucket, hversion]

theorem routedVersion_eq_active {selected : ActiveAssignment}
    (hnone : ∀ version, ¬ RolledOut c request selected version) :
    routedVersion c request selected = selected.version := by
  unfold routedVersion
  split
  next rollout hrollout =>
    dsimp only
    split
    next hbucket =>
      cases hversion : c.version selected.policy.id rollout.version with
      | error _ => rfl
      | ok version =>
          -- a bucket below the share shows that the share is not empty
          exact absurd ⟨rollout, hrollout, by omega, hbucket, hversion⟩ (hnone version)
    next => rfl
  next => rfl

theorem routed_iff {selected : ActiveAssignment} {version : PolicyVersion} :
    Routed c request selected version ↔ routedVersion c request selected = version := by
  constructor
  · intro hrouted
    cases hrouted with
    | rolledOut hrolled => exact hrolled.routedVersion_eq
    | active hnone => exact routedVersion_eq_active hnone
  · rintro rfl
    by_cases hany : ∃ version, RolledOut c request selected version
    · obtain ⟨version, hrolled⟩ := hany
      rw [hrolled.routedVersion_eq]
      exact .rolledOut hrolled
    · have hnone : ∀ version, ¬ RolledOut c request selected version := by simpa using hany
      rw [routedVersion_eq_active hnone]
      exact .active hnone

/-- The risk signals of the caller, as an evaluation reads them. -/
def Progress.signals (p : Progress) (request : Request) (clock : Nat) : Risk.Signals :=
  (p.risk.signals request.orgId.text request.agent clock).1

/-- Reading the signals of the caller forgets what is over for it. -/
def Progress.signalsRead (p : Progress) (request : Request) (clock : Nat) : Progress :=
  { p with risk := (p.risk.signals request.orgId.text request.agent clock).2 }

@[simp] theorem Progress.signalsRead_compiled (p : Progress) (clock : Nat) :
    (p.signalsRead request clock).compiled = p.compiled := rfl

theorem passes_readSignals_iff {clock : Nat} {signals : Risk.Signals} :
    Passes (readSignals request clock) start signals after ↔
      start.signals request clock = signals ∧ start.signalsRead request clock = after := by
  change ((.ok (start.signals request clock), start.signalsRead request clock) :
    Except Decision Risk.Signals × Progress) = (.ok signals, after) ↔ _
  simp

theorem denies_readSignals {clock : Nat} : Denies (readSignals request clock) := by
  intro start refusal after hstop
  cases hstop

/-- The version has a compiled artifact: a kept one, or else what its body compiles to. -/
inductive Prepared (compiled : CompiledCache) (evaluator : Evaluator) (policy : Uuid)
    (version : PolicyVersion) : Artifact → Prop where
  | kept {artifact : Artifact} (hkept : compiled.get? policy version.version = some artifact) :
      Prepared compiled evaluator policy version artifact
  | compiled {artifact : Artifact} (hmissing : compiled.get? policy version.version = none)
      (hcompile : evaluator.compile version.body = .ok artifact) :
      Prepared compiled evaluator policy version artifact

/-- An artifact that was not kept is kept from now on. -/
def Progress.prepared (p : Progress) (policy : Uuid) (version : PolicyVersion)
    (artifact : Artifact) : Progress :=
  match p.compiled.get? policy version.version with
  | some _ => p
  | none => { p with compiled := p.compiled.put policy version.version artifact }

theorem passes_artifactOf_iff {evaluator : Evaluator} {policy : Uuid} {version : PolicyVersion}
    {artifact : Artifact} :
    Passes (artifactOf evaluator policy version) start artifact after ↔
      Prepared start.compiled evaluator policy version artifact ∧
        start.prepared policy version artifact = after := by
  unfold artifactOf Progress.prepared
  rw [passes_get_bind_iff]
  cases hget : start.compiled.get? policy version.version with
  | some found =>
      constructor
      · intro hpass
        obtain ⟨rfl, rfl⟩ := passes_pure_iff.mp hpass
        exact ⟨.kept hget, rfl⟩
      · rintro ⟨hprepared, rfl⟩
        cases hprepared with
        | kept hkept =>
            obtain rfl : found = artifact := by simpa [hget] using hkept
            exact passes_pure_iff.mpr ⟨rfl, rfl⟩
        | compiled hmissing => simp [hget] at hmissing
  | none =>
      cases hcompile : evaluator.compile version.body with
      | error e =>
          constructor
          · intro hpass
            exact absurd hpass not_passes_refuse
          · rintro ⟨hprepared, -⟩
            cases hprepared with
            | kept hkept => simp [hget] at hkept
            | compiled _ hok => simp [hcompile] at hok
      | ok made =>
          constructor
          · intro hpass
            obtain ⟨_, _, hset, hpure⟩ := passes_bind_iff.mp hpass
            obtain rfl := passes_set_iff.mp hset
            obtain ⟨rfl, rfl⟩ := passes_pure_iff.mp hpure
            exact ⟨.compiled hget hcompile, rfl⟩
          · rintro ⟨hprepared, rfl⟩
            cases hprepared with
            | kept hkept => simp [hget] at hkept
            | compiled _ hok =>
                obtain rfl : made = artifact := by simpa [hcompile] using hok
                exact passes_bind_iff.mpr
                  ⟨(), _, passes_set_iff.mpr rfl, passes_pure_iff.mpr ⟨rfl, rfl⟩⟩

theorem denies_artifactOf {evaluator : Evaluator} {policy : Uuid} {version : PolicyVersion} :
    Denies (artifactOf evaluator policy version) := by
  refine Denies.get_bind fun _ => ?_
  split
  · exact Denies.pure _
  · split
    · exact Denies.refuse _
    · exact (Denies.set _).bind fun _ => Denies.pure _

/-! ## All gates -/

/-- A way through all gates: what the collaborators answered at each of them. -/
structure Passage (c : Collaborators) (config : Config) (request : Request) (on : Occasion)
    (start : Progress) where
  assignments : List ActiveAssignment
  selected : ActiveAssignment
  federation : Option (Uuid × Federation.Scope)
  version : PolicyVersion
  evaluator : Evaluator
  artifact : Artifact
  decision : Decision
  /-- The organisation has active assignments, and one of them is chosen. -/
  assigned : c.assignments request.orgId = .ok assignments
  nonempty : assignments ≠ []
  chosen : assignments[Routing.selectIndex (selectionKey request) assignments.length]? =
    some selected
  federated : Federated c config request federation
  delegated : Delegated c request
  /-- The engine of the chosen policy is known. -/
  registered : c.evaluator selected.policy.engine = .ok evaluator
  routed : Routed c request selected version
  prepared : Prepared start.compiled evaluator selected.policy.id version artifact
  /-- The artifact can be evaluated on the canonical context. -/
  evaluates : evaluator.evaluate artifact
    (evaluationContext request (start.signals request on.signalsClock) federation).sorted
      on.timing = .ok decision

namespace Passage

variable {on : Occasion}

/-- The evaluation to which a passage leads. -/
def evaluated (passage : Passage c config request on start) : Evaluated where
  decision := passage.decision
  policy := passage.selected.policy
  version := passage.version.version
  signals := start.signals request on.signalsClock
  context :=
    (evaluationContext request (start.signals request on.signalsClock) passage.federation).sorted

/-- What a passage leaves behind. -/
def final (passage : Passage c config request on start) : Progress :=
  (((start.crossed request passage.federation).askedFor request).signalsRead request
    on.signalsClock).prepared passage.selected.policy.id passage.version passage.artifact

end Passage

/-- The gates before the signals are read do not touch what the signals are read from. -/
@[simp] theorem Progress.signals_gated (p : Progress) (clock : Nat)
    (federation : Option (Uuid × Federation.Scope)) :
    ((p.crossed request federation).askedFor request).signals request clock =
      p.signals request clock := by
  simp [Progress.signals]

theorem passes_evaluate_iff {on : Occasion} {evaluated : Evaluated} :
    Passes (evaluate c config request on) start evaluated after ↔
      ∃ passage : Passage c config request on start,
        passage.evaluated = evaluated ∧ passage.final = after := by
  constructor
  -- what one gate leaves behind is where the next one starts
  · intro hpass
    obtain ⟨selected, _, hselect, hpass⟩ := passes_bind_iff.mp hpass
    obtain ⟨⟨assignments, hassigned, hchosen⟩, rfl⟩ := passes_selectAssignment_iff.mp hselect
    obtain ⟨federation, _, hfederate, hpass⟩ := passes_bind_iff.mp hpass
    obtain ⟨hfederated, rfl⟩ := passes_federate_iff.mp hfederate
    obtain ⟨_, _, hdelegate, hpass⟩ := passes_bind_iff.mp hpass
    obtain ⟨hdelegated, rfl⟩ := passes_checkDelegation_iff.mp hdelegate
    obtain ⟨signals, _, hsignals, hpass⟩ := passes_bind_iff.mp hpass
    obtain ⟨rfl, rfl⟩ := passes_readSignals_iff.mp hsignals
    cases hregistered : c.evaluator selected.policy.engine with
    | error e => simp [hregistered] at hpass
    | ok evaluator =>
        simp only [hregistered] at hpass
        obtain ⟨artifact, _, hartifact, hpass⟩ := passes_bind_iff.mp hpass
        obtain ⟨hprepared, rfl⟩ := passes_artifactOf_iff.mp hartifact
        simp only [Progress.signals_gated] at hpass
        cases hevaluates : evaluator.evaluate artifact (evaluationContext request
            (start.signals request on.signalsClock) federation).sorted on.timing with
        | error e => simp [hevaluates] at hpass
        | ok decision =>
            simp only [hevaluates] at hpass
            obtain ⟨rfl, rfl⟩ := passes_pure_iff.mp hpass
            have hnonempty : assignments ≠ [] := by
              rintro rfl
              simp at hchosen
            exact ⟨{ assignments, selected, federation, evaluator, artifact, decision,
                     version := routedVersion c request selected
                     assigned := hassigned, nonempty := hnonempty, chosen := hchosen,
                     federated := hfederated, delegated := hdelegated,
                     registered := hregistered, routed := routed_iff.mpr rfl,
                     prepared := by simpa using hprepared
                     evaluates := hevaluates }, rfl, rfl⟩
  -- the answers of a passage lead through every gate again
  · rintro ⟨passage, rfl, rfl⟩
    refine passes_bind_iff.mpr ⟨passage.selected, _, passes_selectAssignment_iff.mpr
      ⟨⟨_, passage.assigned, passage.chosen⟩, rfl⟩, ?_⟩
    refine passes_bind_iff.mpr ⟨passage.federation, _, passes_federate_iff.mpr
      ⟨passage.federated, rfl⟩, ?_⟩
    refine passes_bind_iff.mpr ⟨(), _, passes_checkDelegation_iff.mpr
      ⟨passage.delegated, rfl⟩, ?_⟩
    refine passes_bind_iff.mpr ⟨_, _, passes_readSignals_iff.mpr ⟨rfl, rfl⟩, ?_⟩
    simp only [passage.registered, routed_iff.mp passage.routed]
    refine passes_bind_iff.mpr ⟨passage.artifact, _, passes_artifactOf_iff.mpr
      ⟨by simpa using passage.prepared, rfl⟩, ?_⟩
    simp only [Progress.signals_gated, passage.evaluates]
    exact passes_pure_iff.mpr ⟨rfl, rfl⟩

theorem denies_evaluate {on : Occasion} : Denies (evaluate c config request on) := by
  refine denies_selectAssignment.bind fun selected => denies_federate.bind fun federation =>
    denies_checkDelegation.bind fun _ => denies_readSignals.bind fun signals => ?_
  split
  · exact Denies.refuse _
  · refine denies_artifactOf.bind fun artifact => ?_
    dsimp only
    split
    · exact Denies.refuse _
    · exact Denies.pure _

end Mandate.Evaluation
