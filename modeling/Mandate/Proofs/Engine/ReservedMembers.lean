import Mandate.Proofs.Engine.Verdict
import Mandate.Proofs.Json.Members

/-! # The members that the engine writes itself

The evaluated context holds the engine's own `risk` member whatever the caller sent. A request
into another organisation also meets with the engine's own `federation` member; inside an
organisation the caller's `federation` member is evaluated as it was sent. So what a caller sends
under the two reserved keys never matters across organisations, and inside an organisation it
matters exactly as far as `federation` is concerned.
-/

namespace Mandate

open Mandate.Json

namespace Evaluation

/-! ## The evaluated context -/

/-- The member under `risk`. -/
def riskSection (signals : Risk.Signals) : Value :=
  .object (field "flags" (.strings signals.flags) ++ field "score" (.nat signals.score))

/-- The member under `federation`. -/
def federationSection (counterparty : Uuid) (scope : Federation.Scope) : Value :=
  .object (field "counterparty_org_id" (.uuid counterparty) ++ field "scope" scope.json)

theorem sorted_strings (l : List String) : (Value.strings l).sorted = .strings l := by
  have hitems : Value.sortedItems (l.map Value.string) = l.map Value.string := by
    induction l with
    | nil => rfl
    | cons head tail ih => simp only [List.map_cons, Value.sortedItems, ih, Value.sorted]
  rw [Value.strings, Value.sorted, hitems]

theorem sorted_riskSection (signals : Risk.Signals) :
    (riskSection signals).sorted = riskSection signals := by
  have hsections := Value.sorted_object_pair (k := "flags") (l := "score") (by decide)
    (.strings signals.flags) (.nat signals.score)
  rw [sorted_strings] at hsections
  exact hsections

theorem sorted_scope (scope : Federation.Scope) : scope.json.sorted = scope.json := by
  have hscope := Value.sorted_object_pair (k := "allowed_actions") (l := "allowed_resources")
    (by decide) (.strings scope.allowedActions) (.strings scope.allowedResources)
  rw [sorted_strings, sorted_strings] at hscope
  exact hscope

theorem sorted_federationSection (counterparty : Uuid) (scope : Federation.Scope) :
    (federationSection counterparty scope).sorted = federationSection counterparty scope := by
  have hsections := Value.sorted_object_pair (k := "counterparty_org_id") (l := "scope")
    (by decide) (.uuid counterparty) scope.json
  rw [sorted_scope] at hsections
  exact hsections

/-- What stands under `federation` in an evaluated context: what the engine writes there, or else
what the caller sent. -/
def federationMember (m : Members) : Option (Uuid × Federation.Scope) → Option Value
  | none => m.get? "federation"
  | some (target, scope) => some (federationSection target scope)

/-- The members of an evaluated context. -/
def contextMembers (m : Members) (signals : Risk.Signals)
    (federation : Option (Uuid × Federation.Scope)) : Members :=
  let known := Members.insert "risk" (riskSection signals) m
  match federation with
  | none => known
  | some (target, scope) => Members.insert "federation" (federationSection target scope) known

variable {m m₁ m₂ : Members} {signals : Risk.Signals}
  {federation : Option (Uuid × Federation.Scope)}

theorem evaluationContext_object (request : Request) :
    evaluationContext { request with context := .object m } signals federation =
      .object (contextMembers m signals federation) := by
  cases federation <;> rfl

theorem sorted_contextMembers (hm : m.Sorted) : (contextMembers m signals federation).Sorted := by
  cases federation with
  | none => exact hm.insert _ _
  | some crossed => exact (hm.insert _ _).insert _ _

theorem get?_contextMembers (query : String) :
    (contextMembers m signals federation).get? query =
      if query = "risk" then some (riskSection signals)
      else if query = "federation" then federationMember m federation
      else m.get? query := by
  by_cases hrisk : query = "risk"
  · subst hrisk
    cases federation with
    | none => rw [contextMembers, Members.get?_insert, if_pos rfl, if_pos rfl]
    | some crossed =>
        rw [contextMembers, Members.get?_insert, if_neg (by decide), Members.get?_insert,
          if_pos rfl, if_pos rfl]
  · rw [if_neg hrisk]
    cases federation with
    | none =>
        rw [contextMembers, Members.get?_insert, if_neg hrisk]
        split
        next heq => rw [heq, federationMember]
        next => rfl
    | some crossed =>
        rw [contextMembers, Members.get?_insert, Members.get?_insert, if_neg hrisk]
        rfl

/-- What the canonical evaluated context holds under a key. -/
theorem get?_sorted_contextMembers (hm : m.Sorted) (query : String) :
    (Value.object (contextMembers m signals federation)).sorted.get? query =
      if query = "risk" then some (riskSection signals)
      else if query = "federation" then (federationMember m federation).map Value.sorted
      else (m.get? query).map Value.sorted := by
  rw [Value.get?_sorted_object (sorted_contextMembers hm), get?_contextMembers]
  split
  · rw [Option.map_some, sorted_riskSection]
  · split <;> rfl

/-- The members agree but for those under the reserved keys. -/
def AgreeUnreserved (m₁ m₂ : Members) : Prop :=
  ∀ key, key ≠ "risk" → key ≠ "federation" → m₁.get? key = m₂.get? key

/-- Callers' contexts that differ under reserved keys only are evaluated alike, provided that what
stands under `federation` comes to the same. -/
theorem contextMembers_congr (h₁ : m₁.Sorted) (h₂ : m₂.Sorted) (hagree : AgreeUnreserved m₁ m₂)
    (hfederation : (federationMember m₁ federation).map Value.sorted =
      (federationMember m₂ federation).map Value.sorted) :
    (Value.object (contextMembers m₁ signals federation)).sorted =
      (Value.object (contextMembers m₂ signals federation)).sorted := by
  apply Value.sorted_object_congr (sorted_contextMembers h₁) (sorted_contextMembers h₂)
  intro query
  rw [get?_contextMembers, get?_contextMembers]
  by_cases hrisk : query = "risk"
  · rw [if_pos hrisk, if_pos hrisk]
  · rw [if_neg hrisk, if_neg hrisk]
    by_cases hfed : query = "federation"
    · rw [if_pos hfed, if_pos hfed, hfederation]
    · rw [if_neg hfed, if_neg hfed, hagree query hrisk hfed]

/-! ## Evaluations of contexts that agree -/

variable {c : Collaborators} {config : Config} {request : Request} {on : Occasion}
  {start after : Progress}

/-- Requests whose contexts come to the same, whatever the signals and the way between
organisations, are evaluated alike. -/
theorem evaluate_congr {context₁ context₂ : Value}
    (hcontext : ∀ signals federation, Federated c config request federation →
      (evaluationContext { request with context := context₁ } signals federation).sorted =
        (evaluationContext { request with context := context₂ } signals federation).sorted) :
    evaluate c config { request with context := context₁ } on start =
      evaluate c config { request with context := context₂ } on start := by
  -- no gate before the evaluation reads the context
  refine bind_congr_of_passes (selectAssignment c request) fun selected _ _ => ?_
  refine bind_congr_of_passes (federate c config request)
    fun federation _ hfederate => ?_
  have hsame := fun signals => hcontext signals federation (passes_federate_iff.mp hfederate).1
  refine bind_congr_of_passes (checkDelegation c request) fun _ _ _ => ?_
  refine bind_congr_of_passes (readSignals request on.signalsClock) fun signals _ _ => ?_
  simp only [hsame]
  rfl

/-- The reserved members cannot tell two contexts apart: the request crosses into another
organisation, or the callers sent the same under `federation`. -/
def SameReserved (request : Request) (m₁ m₂ : Members) : Prop :=
  request.counterparty?.isSome ∨
    (m₁.get? "federation").map Value.sorted = (m₂.get? "federation").map Value.sorted

theorem evaluate_congr_of_sameReserved (h₁ : m₁.Sorted) (h₂ : m₂.Sorted)
    (hagree : AgreeUnreserved m₁ m₂) (hreserved : SameReserved request m₁ m₂) :
    evaluate c config { request with context := .object m₁ } on start =
      evaluate c config { request with context := .object m₂ } on start := by
  apply evaluate_congr
  intro signals federation hfederated
  rw [evaluationContext_object, evaluationContext_object]
  apply contextMembers_congr h₁ h₂ hagree
  cases hfederated with
  | inside hinside =>
      exact hreserved.resolve_left (by simp [counterparty?_eq_none_iff.mpr hinside])
  | across htarget hother hcovered => rfl

theorem Federated.of_context {context : Value}
    (hfederated : Federated c config { request with context } federation) :
    Federated c config request federation := by
  cases hfederated with
  | inside hinside => exact .inside hinside
  | across htarget hother hcovered =>
      exact .across htarget hother ⟨hcovered.found, hcovered.action, hcovered.resource,
        hcovered.attested⟩

/-- The reserved members of an evaluated context. Across organisations the engine has written
both; inside an organisation `federation` is what the caller sent. -/
theorem reserved_of_passes {evaluated : Evaluated} (hm : m.Sorted)
    (hpasses : Passes (evaluate c config { request with context := .object m } on) start
      evaluated after) :
    evaluated.context.get? "risk" = some (riskSection evaluated.signals) ∧
      match request.counterparty? with
      | none => evaluated.context.get? "federation" = (m.get? "federation").map Value.sorted
      | some target => ∃ contract, c.contract request.orgId target = .ok (some contract) ∧
          evaluated.context.get? "federation" =
            some (federationSection target contract.scope) := by
  obtain ⟨passage, rfl, -⟩ := passes_evaluate_iff.mp hpasses
  have hfederated := passage.federated.of_context
  have hcontext : passage.evaluated.context = (Value.object
      (contextMembers m passage.evaluated.signals passage.federation)).sorted :=
    congrArg Value.sorted (evaluationContext_object request)
  rw [hcontext, get?_sorted_contextMembers hm, get?_sorted_contextMembers hm, if_pos rfl,
    if_neg (by decide), if_pos rfl]
  refine ⟨rfl, ?_⟩
  generalize passage.federation = federation at hfederated
  cases hfederated with
  | inside hinside =>
      rw [counterparty?_eq_none_iff.mpr hinside]
      rfl
  | across htarget hother hcovered =>
      rw [counterparty?_eq_some_iff.mpr ⟨htarget, hother⟩]
      refine ⟨_, hcovered.found, ?_⟩
      rw [federationMember, Option.map_some, sorted_federationSection]

end Evaluation

/-! ## Verdicts on contexts that agree -/

namespace Engine

open Evaluation

theorem decideWith_sameOutcome {e : Engine} {c : Collaborators} {r₁ r₂ : Request}
    {on : Occasion} (stamps : Nat → Stamp) (hverdict : e.verdict c r₁ on = e.verdict c r₂ on) :
    (e.decideWith c r₁ on stamps).1.SameOutcome (e.decideWith c r₂ on stamps).1 := by
  have hone := decideWith_outcome e c r₁ on stamps
  have hother := decideWith_outcome e c r₂ on stamps
  rw [hverdict] at hone
  exact hone.trans hother.symm

theorem verdict_congr {e : Engine} {c : Collaborators} {request : Request} {on : Occasion}
    {context₁ context₂ : Value}
    (hsame : evaluate c e.config { request with context := context₁ } on (e.entering request on) =
      evaluate c e.config { request with context := context₂ } on (e.entering request on)) :
    e.verdict c { request with context := context₁ } on =
      e.verdict c { request with context := context₂ } on := by
  have hentering : ∀ context,
      e.entering { request with context := context } on = e.entering request on := fun _ => rfl
  have hexplain : ∀ context evaluated,
      explain { request with context := context } evaluated = explain request evaluated :=
    fun _ _ => rfl
  simp only [verdict, hentering, hexplain, hsame]

/-- An evaluator that allows a single input. -/
def onlyEvaluator (input : Value) : Evaluator where
  name := "only"
  compile _ := .ok (.foreign "only" .null)
  evaluate _ found _ := .ok { Decision.deny "" with allow := found == input }

/-- A policy of the requester's organisation with an active version. -/
def onlyAssignment (request : Request) : ActiveAssignment where
  policy :=
    { id := .nil, orgId := request.orgId, name := "only", engine := "only", createdBy := none,
      createdAt := default }
  version := { PolicyVersion.draft .nil 1 .null none default with status := .active }

/-- An engine in which a request inside its organisation passes every gate, and meets with an
evaluator that allows a single input. -/
def gatekeeper (request : Request) (input : Value) : Engine :=
  .start {}
    { repository :=
        { policies := [(onlyAssignment request).policy]
          versions := [(onlyAssignment request).version]
          assignments := [⟨.nil, .org, request.orgId.text, default⟩] }
      registry := ⟨[onlyEvaluator input]⟩ }
    { store := ⟨[⟨⟨"org", request.orgId.text⟩, canActFor, ⟨"agent", request.agent⟩⟩]⟩ }

variable {request : Request} {input : Value} {on : Occasion}

theorem gatekeeper_assignments :
    ((gatekeeper request input).collaborators on.clock).assignments request.orgId =
      .ok [onlyAssignment request] := by
  simp [gatekeeper, start, collaborators, Lifecycle.ask, Repository.activeAssignments,
    Repository.assignedPolicies, Repository.firstOccurrences, Repository.activeAssignment?,
    Repository.activeVersion?, Repository.versionsOf, onlyAssignment, PolicyVersion.draft]

theorem gatekeeper_delegated (hinside : request.counterparty? = none) :
    Delegated ((gatekeeper request input).collaborators on.clock) request := by
  rintro -
  refine ⟨⟨true, Relation.localSource⟩, ?_, rfl⟩
  have hactingFor : request.actingFor = request.orgId := by
    simp [Request.actingFor, hinside]
  have hnamed : Text.isBlankText canActFor = false := by decide
  rw [← check_delegation_eq, hactingFor]
  simp [gatekeeper, start, collaborators, Relation.Client.check, Relation.Client.checkWhile,
    Relation.Client.checkTimed, Relation.Client.ask, Relation.Client.source,
    Relation.Graph.check, Relation.TupleSource.ofStore, Relation.TupleStore.relationsBetween,
    Relation.Hierarchy.implies, delegation, hnamed]
  rfl

/-- The context on which the engine of a single input evaluates a request. -/
def gatekeeperContext (request : Request) (on : Occasion) : Value :=
  (evaluationContext request
    (((gatekeeper request .null).entering request on).signals request on.signalsClock) none).sorted

/-- The way of a request through the engine of a single input. -/
def gatekeeperPassage (input : Value) (on : Occasion) (hinside : request.counterparty? = none) :
    Passage ((gatekeeper request input).collaborators on.clock) (gatekeeper request input).config
      request on ((gatekeeper request input).entering request on) where
  assignments := [onlyAssignment request]
  selected := onlyAssignment request
  federation := none
  version := (onlyAssignment request).version
  evaluator := onlyEvaluator input
  artifact := .foreign "only" .null
  decision := { Decision.deny "" with allow := gatekeeperContext request on == input }
  assigned := gatekeeper_assignments
  nonempty := by simp
  chosen := by simp [Routing.selectIndex, Routing.indexOfBucket, Nat.mod_one]
  federated := .inside (counterparty?_eq_none_iff.mp hinside)
  delegated := gatekeeper_delegated hinside
  registered := rfl
  routed := routed_iff.mpr rfl
  prepared := .compiled rfl rfl
  evaluates := rfl

theorem gatekeeper_allow (request : Request) (input : Value) (on : Occasion)
    (hinside : request.counterparty? = none) :
    ((gatekeeper request input).verdict ((gatekeeper request input).collaborators on.clock)
      request on).allow = (gatekeeperContext request on == input) := by
  have hpasses := passes_evaluate_iff.mpr ⟨gatekeeperPassage input on hinside, rfl, rfl⟩
  rw [verdict_of_passes rfl hpasses]
  rfl

/-- If all engines give the same outcome, the reserved members cannot tell the contexts apart. -/
theorem sameReserved_of_sameOutcome {m₁ m₂ : Members} (h₁ : m₁.Sorted) (h₂ : m₂.Sorted)
    (hsame : ∀ (e : Engine) on stamps,
      (e.decide { request with context := .object m₁ } on stamps).1.SameOutcome
        (e.decide { request with context := .object m₂ } on stamps).1) :
    SameReserved request m₁ m₂ := by
  cases hcounterparty : request.counterparty? with
  | some target => exact Or.inl (by simp [hcounterparty])
  | none =>
      refine Or.inr ?_
      let r₁ : Request := { request with context := .object m₁ }
      let r₂ : Request := { request with context := .object m₂ }
      let signals := ((gatekeeper request .null).entering request default).signals request 0
      -- an engine that allows the first context alone has to allow the second one as well
      have hcontexts : gatekeeperContext r₂ default = gatekeeperContext r₁ default := by
        have hallow := (hsame (gatekeeper request (gatekeeperContext r₁ default)) default
          fun _ => default).1
        unfold Engine.decide at hallow
        rw [decideWith_allow, decideWith_allow] at hallow
        have hone := gatekeeper_allow r₁ (gatekeeperContext r₁ default) default hcounterparty
        have hother := gatekeeper_allow r₂ (gatekeeperContext r₁ default) default hcounterparty
        have hagree := hother.symm.trans (hallow.symm.trans hone)
        simpa using hagree
      have hmember := congrArg (Value.get? · "federation") hcontexts
      have hread : ∀ m : Members, m.Sorted →
          (gatekeeperContext { request with context := .object m } default).get? "federation" =
            (m.get? "federation").map Value.sorted := by
        intro m hm
        change (Value.object (contextMembers m signals none)).sorted.get? "federation" = _
        exact get?_sorted_contextMembers hm "federation"
      exact ((hread m₂ h₂).symm.trans (hmember.trans (hread m₁ h₁))).symm

/-- Contexts that differ under the reserved keys only meet with the same outcome in every engine
exactly if the request crosses into another organisation, or `federation` holds the same in both.
The evaluated context always shows the engine's own `risk`. It shows the engine's own `federation`
across organisations, with the counterparty and the scope of its contract; inside an organisation
it shows what the caller sent there. -/
theorem sameOutcome_iff_sameReserved {m₁ m₂ : Members} (h₁ : m₁.Sorted) (h₂ : m₂.Sorted)
    (hagree : AgreeUnreserved m₁ m₂) (request : Request) :
    ((∀ (e : Engine) on stamps,
        (e.decide { request with context := .object m₁ } on stamps).1.SameOutcome
          (e.decide { request with context := .object m₂ } on stamps).1) ↔
      SameReserved request m₁ m₂) ∧
    (SameReserved request m₁ m₂ → ∀ (e : Engine) c on stamps,
      (e.decideWith c { request with context := .object m₁ } on stamps).1.SameOutcome
        (e.decideWith c { request with context := .object m₂ } on stamps).1) ∧
    ∀ c config on start evaluated after,
      Passes (evaluate c config { request with context := .object m₁ } on) start evaluated
        after →
      evaluated.context.get? "risk" = some (riskSection evaluated.signals) ∧
        match request.counterparty? with
        | none => evaluated.context.get? "federation" = (m₁.get? "federation").map Value.sorted
        | some target => ∃ contract, c.contract request.orgId target = .ok (some contract) ∧
            evaluated.context.get? "federation" =
              some (federationSection target contract.scope) := by
  have houtcome : SameReserved request m₁ m₂ → ∀ (e : Engine) c on stamps,
      (e.decideWith c { request with context := .object m₁ } on stamps).1.SameOutcome
        (e.decideWith c { request with context := .object m₂ } on stamps).1 := by
    intro hreserved e c on stamps
    exact decideWith_sameOutcome stamps
      (verdict_congr (evaluate_congr_of_sameReserved h₁ h₂ hagree hreserved))
  refine ⟨⟨sameReserved_of_sameOutcome h₁ h₂, ?_⟩, houtcome, ?_⟩
  · intro hreserved e on stamps
    exact houtcome hreserved e (e.collaborators on.clock) on stamps
  · intro c config on start evaluated after hpasses
    exact reserved_of_passes h₁ hpasses

/-- A context in which the caller claims a partner. -/
def claimedPartner : Members :=
  [("federation", .object [("counterparty_org_id", .string "partner")])]

theorem claimedPartner_agreeUnreserved : AgreeUnreserved [] claimedPartner := by
  intro key _ hfederation
  rw [claimedPartner, Members.get?_cons, if_neg hfederation]

/-- A rule set that allows requests into the organisation of a partner. -/
def partnerRules : Value :=
  .object [("rules", .array [.object [("effect", .string "allow"), ("id", .string "partner"),
    ("when", .object [("federation.counterparty_org_id", .object [("eq", .string "partner")])])]])]

/-- An engine with the rules for partners in force. -/
def partnerEngine : Engine :=
  .start {}
    { repository :=
        { policies := [{ id := ⟨1⟩, orgId := ⟨2⟩, name := "p", engine := Rules.engineName,
                         createdBy := none, createdAt := default }]
          versions := [{ PolicyVersion.draft ⟨1⟩ 1 partnerRules none default with
                         status := .active }]
          assignments := [⟨⟨1⟩, .org, (⟨2⟩ : Uuid).text, default⟩] } }
    {}

/-- Inside an organisation a caller who claims a partner is taken at his word. -/
theorem partner_forged_inside_organisation :
    AgreeUnreserved [] claimedPartner ∧
    (partnerEngine.decide { orgId := ⟨2⟩, action := "read", context := .object [] } default
      fun _ => default).1.allow = false ∧
    (partnerEngine.decide { orgId := ⟨2⟩, action := "read", context := .object claimedPartner }
      default fun _ => default).1.allow = true := by
  refine ⟨claimedPartner_agreeUnreserved, ?_, ?_⟩
  · decide +kernel
  · decide +kernel

/-- Into another organisation a claimed partner changes nothing. -/
theorem sameOutcome_claimedPartner_across :
    Members.Sorted [] ∧ claimedPartner.Sorted ∧ AgreeUnreserved [] claimedPartner ∧
    ∀ (e : Engine) on stamps,
      (e.decide { orgId := ⟨2⟩, targetOrgId := some ⟨3⟩, context := .object [] } on
        stamps).1.SameOutcome
        (e.decide { orgId := ⟨2⟩, targetOrgId := some ⟨3⟩, context := .object claimedPartner } on
          stamps).1 := by
  have hempty : Members.Sorted [] := by decide
  have hclaimed : claimedPartner.Sorted := by decide
  have hagree := claimedPartner_agreeUnreserved
  exact ⟨hempty, hclaimed, hagree, (sameOutcome_iff_sameReserved hempty hclaimed hagree
    { orgId := ⟨2⟩, targetOrgId := some ⟨3⟩ }).1.mpr (Or.inl rfl)⟩

end Engine

end Mandate
