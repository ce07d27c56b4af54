import Mandate.Proofs.Engine.FederationRecords
import Mandate.Proofs.Engine.SinkWrites

/-! # What a request leaves behind

A visit is a request together with the engine to which it came. What it is to leave behind in the
sinks can be read off the visit alone: the trace of its decision, if there is one to be kept, a
record for the ledger that tells the same as the trace, another one if the request has come to the
check between the organisations, and a violation if an agent is denied that asks at a spiked rate.
All of it is filed under the organisation of the request.
-/

namespace Mandate

open Evaluation

/-- A trace in which it has been filled in which version of which policy was evaluated, and for
whom. -/
def Trace.filledIn (trace : Trace) (request : Request) (policy : Uuid) (version : Nat) : Trace :=
  { trace with
    policyId := policy
    policyVersion := version
    principal := some
      { orgId := request.orgId.text
        agentId := request.agentId.getD ""
        spiffeId := request.principal.spiffeId
        authnKind := request.principal.authnKind
        certFingerprint := request.principal.certFingerprint } }

/-- The explanation of a decision fills in its trace. -/
theorem Engine.explain_trace_eq (request : Request) (evaluated : Evaluated) :
    (Engine.explain request evaluated).trace =
      evaluated.decision.trace.map (·.filledIn request evaluated.policy.id evaluated.version) :=
  rfl

/-- The record in the ledger that goes with a trace that is kept. -/
def TraceRecord.event (record : TraceRecord) : AuditRecord where
  orgId := record.orgId
  action := .decisionTraceRecorded
  payload := .object
    [("allow", .bool record.allow), ("policy_id", .string record.trace.policyId.text),
      ("reason", .string record.reason), ("trace_id", .string record.traceId),
      ("version", .nat record.trace.policyVersion)]
  actorAgent := if record.agentId.isEmpty then none else some record.agentId

/-! ## Visits -/

/-- A request that comes to an engine, with the engine as it is then. -/
structure Visit where
  engine : Engine
  request : Request
  on : Occasion

namespace Visit

/-- Those whom the engine asks. -/
def collaborators (v : Visit) : Collaborators := v.engine.collaborators v.on.clock

/-- The evaluation of a policy to which the visit comes, if it is admitted and passes all gates. -/
def evaluated? (v : Visit) : Option Evaluated :=
  if v.engine.admits then
    (evaluate v.collaborators v.engine.config v.request v.on
      (v.engine.entering v.request v.on)).1.toOption
  else none

/-- The trace of the decision that is to be kept, if the decision has one. -/
def kept? (v : Visit) : Option TraceRecord :=
  v.evaluated?.bind fun evaluated => evaluated.decision.trace.map fun trace =>
    { traceId := evaluated.decision.traceId
      orgId := v.request.orgId
      agentId := v.request.agentId.getD ""
      allow := evaluated.decision.allow
      reason := evaluated.decision.reason
      trace := trace.filledIn v.request evaluated.policy.id evaluated.version }

/-- The record of a request that names another organisation and that has come to the check between
the organisations, which is where an assignment has been chosen. -/
def crossing? (v : Visit) : Option AuditRecord :=
  if v.engine.admits && (selected? v.collaborators v.request).isSome then
    (v.request.targetOrgId.filter (· ≠ v.request.orgId)).map
      (federationRecord v.collaborators v.request)
  else none

/-- The records for the ledger. -/
def records (v : Visit) : List AuditRecord :=
  v.crossing?.toList ++ (v.kept?.map TraceRecord.event).toList

/-- Whether an evaluation has denied an agent that asks at a spiked rate. -/
def deniesAtSpike (v : Visit) (org : Uuid) (agent : String) : Bool :=
  v.request.orgId == org && v.request.agentId.getD "" == agent &&
    v.evaluated?.any fun evaluated =>
      !evaluated.decision.allow && evaluated.signals.hasFlag Risk.rateSpike

/-- The tasks that the visit submits. -/
def tasks (v : Visit) : List BackgroundTask :=
  if v.engine.admits then v.engine.submissions v.collaborators v.request v.on else []

/-- What the visit has to write. -/
def writes (v : Visit) : List SinkWrite := v.tasks.flatMap BackgroundTask.writes

end Visit

namespace Engine

/-- There is a sink of each kind. -/
structure Equipped (e : Engine) : Prop where
  traces : e.traces.isPresent = true
  audit : e.lifecycle.audit.isPresent = true
  reputations : e.reputations.isPresent = true

theorem Holds.equipped {e : Engine} {written : List SinkWrite} (hholds : e.Holds written) :
    e.Equipped where
  traces := by rw [hholds.traces]; rfl
  audit := by
    obtain ⟨ledger, haudit, -⟩ := hholds.ledger
    rw [haudit]
    rfl
  reputations := by
    obtain ⟨reputations, hreputations, -⟩ := hholds.reputations
    rw [hreputations]
    rfl

end Engine

/-! ## What a visit writes -/

theorem writes_map_recordEvent (events : List AuditRecord) :
    (events.map BackgroundTask.recordEvent).flatMap BackgroundTask.writes =
      events.map SinkWrite.event := by
  induction events with
  | nil => rfl
  | cons event rest ih => rw [List.map_cons, List.flatMap_cons, ih]; rfl

theorem writes_violationTasks {e : Engine} (hequipped : e.Equipped) (request : Request)
    (decision : Decision) (signals : Risk.Signals) :
    (e.violationTasks request decision signals).flatMap BackgroundTask.writes =
      if !decision.allow && signals.hasFlag Risk.rateSpike && !request.agent.isEmpty then
        [.violation request.orgId request.agent] else [] := by
  rw [Engine.violationTasks, hequipped.reputations, Bool.and_true]
  split <;> rfl

theorem writes_traceTasks {e : Engine} (hequipped : e.Equipped) (request : Request)
    (policy : Uuid) (version : Nat) (decision : Decision) :
    (e.traceTasks request policy version decision).flatMap BackgroundTask.writes =
      match decision.trace with
      | none => []
      | some trace =>
          [.trace ⟨decision.traceId, request.orgId, request.agent, decision.allow,
              decision.reason, trace⟩,
            .event (Engine.decisionEvent request policy version decision)] := by
  unfold Engine.traceTasks
  cases decision.trace with
  | none => rfl
  | some trace =>
      rw [hequipped.traces]
      rfl

namespace Visit

variable {v : Visit}

theorem crossing?_eq (v : Visit) :
    v.crossing? = if v.engine.admits then crossingRecord? v.collaborators v.request else none := by
  unfold crossing? crossingRecord? Request.counterparty?
  cases v.engine.admits with
  | true => rfl
  | false => rfl

/-- A request that is turned away leaves nothing behind. -/
theorem writes_of_not_admits (hadmits : ¬ v.engine.admits = true) : v.writes = [] := by
  rw [writes, tasks, if_neg hadmits]
  rfl

/-- A visit writes the record of the crossing, then the violation, and then what is kept of the
decision. -/
theorem writes_eq (hequipped : v.engine.Equipped) :
    v.writes = v.crossing?.toList.map SinkWrite.event ++
      (if v.deniesAtSpike v.request.orgId v.request.agent && !v.request.agent.isEmpty then
        [.violation v.request.orgId v.request.agent] else []) ++
      v.kept?.toList.flatMap fun kept => [.trace kept, .event kept.event] := by
  by_cases hadmits : v.engine.admits = true
  · have hevents := events_evaluate_eq v.collaborators v.engine.config v.request v.on
      (v.engine.entering v.request v.on)
    obtain ⟨ending, hending⟩ : ∃ ending, evaluate v.collaborators v.engine.config v.request v.on
      (v.engine.entering v.request v.on) = ending := ⟨_, rfl⟩
    rw [hending] at hevents
    have hagent : v.request.agentId.getD "" = v.request.agent := rfl
    simp only [writes, tasks, crossing?_eq, deniesAtSpike, kept?, evaluated?, Engine.submissions,
      hadmits, ↓reduceIte, hending, hevents, List.flatMap_append, writes_map_recordEvent,
      List.append_assoc, hagent]
    refine congrArg (_ ++ ·) ?_
    cases ending.1 with
    | error refusal => simp [Engine.followingTasks, Except.toOption]
    | ok evaluated =>
        simp only [Engine.followingTasks, List.flatMap_append, writes_violationTasks hequipped,
          writes_traceTasks hequipped, Except.toOption, Option.bind_some, Option.any_some,
          beq_self_eq_true, Bool.true_and, Bool.and_assoc, Engine.explain_trace_eq]
        congr 1
        cases evaluated.decision.trace <;> rfl
  · simp [writes_of_not_admits hadmits, crossing?, deniesAtSpike, kept?, evaluated?, hadmits]

theorem filterMap_trace?_writes (hequipped : v.engine.Equipped) :
    v.writes.filterMap SinkWrite.trace? = v.kept?.toList := by
  rw [writes_eq hequipped, List.filterMap_append, List.filterMap_append, List.filterMap_map]
  have hcrossing : v.crossing?.toList.filterMap (SinkWrite.trace? ∘ SinkWrite.event) = [] :=
    List.filterMap_eq_nil_iff.mpr fun _ _ => rfl
  have hviolation : List.filterMap SinkWrite.trace?
      (if v.deniesAtSpike v.request.orgId v.request.agent && !v.request.agent.isEmpty then
        [.violation v.request.orgId v.request.agent] else []) = [] := by
    split <;> rfl
  rw [hcrossing, hviolation]
  cases v.kept? <;> rfl

theorem filterMap_event?_writes (hequipped : v.engine.Equipped) :
    v.writes.filterMap SinkWrite.event? = v.records := by
  rw [writes_eq hequipped, List.filterMap_append, List.filterMap_append, List.filterMap_map]
  have hcrossing : v.crossing?.toList.filterMap (SinkWrite.event? ∘ SinkWrite.event) =
      v.crossing?.toList := by
    cases v.crossing? <;> rfl
  have hviolation : List.filterMap SinkWrite.event?
      (if v.deniesAtSpike v.request.orgId v.request.agent && !v.request.agent.isEmpty then
        [.violation v.request.orgId v.request.agent] else []) = [] := by
    split <;> rfl
  rw [hcrossing, hviolation, List.append_nil, records]
  refine congrArg (_ ++ ·) ?_
  cases v.kept? <;> rfl

/-- A visit counts as a violation of an agent at most once, and never of the empty agent. -/
theorem violations_writes (hequipped : v.engine.Equipped) (org : Uuid) (agent : String) :
    SinkWrite.violations v.writes org agent =
      if v.deniesAtSpike org agent && !agent.isEmpty then 1 else 0 := by
  rw [writes_eq hequipped, SinkWrite.violations, List.count_append, List.count_append]
  have hcrossing : (v.crossing?.toList.map SinkWrite.event).count (.violation org agent) = 0 := by
    cases v.crossing? <;> rfl
  have hkept : (v.kept?.toList.flatMap fun kept =>
      [SinkWrite.trace kept, .event kept.event]).count (.violation org agent) = 0 := by
    cases v.kept? <;> rfl
  rw [hcrossing, hkept, Nat.add_zero, Nat.zero_add]
  by_cases hsame : v.request.orgId = org ∧ v.request.agent = agent
  · obtain ⟨rfl, rfl⟩ := hsame
    split
    · exact List.count_singleton_self
    · rfl
  · have hother : ¬ (v.deniesAtSpike org agent && !agent.isEmpty) = true := by
      intro hdenies
      simp only [deniesAtSpike, Bool.and_eq_true, beq_iff_eq] at hdenies
      exact hsame hdenies.1.1
    rw [if_neg hother]
    split
    · apply List.count_eq_zero_of_not_mem
      rw [List.mem_singleton]
      rintro ⟨⟩
      exact hsame ⟨rfl, rfl⟩
    · rfl

end Visit

/-! ## Visits among each other -/

theorem filterMap_trace?_visits {visits : List Visit}
    (hequipped : ∀ v ∈ visits, v.engine.Equipped) :
    (visits.flatMap Visit.writes).filterMap SinkWrite.trace? =
      visits.filterMap Visit.kept? := by
  induction visits with
  | nil => rfl
  | cons v rest ih =>
      obtain ⟨hv, hrest⟩ := List.forall_mem_cons.mp hequipped
      rw [List.flatMap_cons, List.filterMap_append, Visit.filterMap_trace?_writes hv, ih hrest,
        List.filterMap_cons]
      cases v.kept? <;> rfl

theorem filterMap_event?_visits {visits : List Visit}
    (hequipped : ∀ v ∈ visits, v.engine.Equipped) :
    (visits.flatMap Visit.writes).filterMap SinkWrite.event? = visits.flatMap Visit.records := by
  rw [List.filterMap_flatMap]
  exact List.flatMap_congr fun v hv => Visit.filterMap_event?_writes (hequipped v hv)

theorem orgId_federationRecord (c : Collaborators) (request : Request) (target : Uuid) :
    (federationRecord c request target).orgId = request.orgId := by
  unfold federationRecord
  split
  · split
    · rfl
    · split <;> rfl
  · rfl

/-- What a visit leaves in the ledger is filed under the organisation of its request. -/
theorem Visit.orgId_of_mem_records {v : Visit} {record : AuditRecord}
    (hrecord : record ∈ v.records) : record.orgId = v.request.orgId := by
  rw [records, List.mem_append, Option.mem_toList, Option.mem_toList] at hrecord
  rcases hrecord with hcrossing | htold
  · unfold crossing? at hcrossing
    split at hcrossing
    · obtain ⟨target, -, rfl⟩ := Option.map_eq_some_iff.mp hcrossing
      exact orgId_federationRecord v.collaborators v.request target
    · cases hcrossing
  · obtain ⟨kept, hkept, rfl⟩ := Option.map_eq_some_iff.mp htold
    obtain ⟨evaluated, -, htrace⟩ := Option.bind_eq_some_iff.mp hkept
    obtain ⟨trace, -, rfl⟩ := Option.map_eq_some_iff.mp htrace
    rfl

/-- The records of an organisation are those of the visits for it. -/
theorem filter_records_visits (visits : List Visit) (org : Uuid) :
    (visits.flatMap Visit.records).filter (·.orgId = org) =
      (visits.filter (·.request.orgId = org)).flatMap Visit.records := by
  induction visits with
  | nil => rfl
  | cons v rest ih =>
      rw [List.flatMap_cons, List.filter_append, ih, List.filter_cons]
      by_cases horg : v.request.orgId = org
      · rw [if_pos (decide_eq_true horg), List.flatMap_cons, List.filter_eq_self.mpr]
        exact fun record hrecord => decide_eq_true ((Visit.orgId_of_mem_records hrecord).trans horg)
      · rw [if_neg (by simpa using horg), List.filter_eq_nil_iff.mpr, List.nil_append]
        intro record hrecord hsame
        exact horg ((Visit.orgId_of_mem_records hrecord).symm.trans (of_decide_eq_true hsame))

/-- The records of visits are one for each trace that is kept and those of the crossings. -/
theorem records_visits_perm (visits : List Visit) :
    (visits.flatMap Visit.records).Perm
      ((visits.filterMap Visit.kept?).map TraceRecord.event ++
        visits.filterMap Visit.crossing?) := by
  have hsplit := List.flatMap_append_perm visits (fun v => v.crossing?.toList)
    fun v => (v.kept?.map TraceRecord.event).toList
  rw [← List.filterMap_eq_flatMap_toList, ← List.filterMap_eq_flatMap_toList] at hsplit
  rw [List.map_filterMap]
  exact hsplit.symm.trans List.perm_append_comm

theorem violations_visits {visits : List Visit} (hequipped : ∀ v ∈ visits, v.engine.Equipped)
    (org : Uuid) (agent : String) :
    SinkWrite.violations (visits.flatMap Visit.writes) org agent =
      if agent.isEmpty then 0 else visits.countP (·.deniesAtSpike org agent) := by
  induction visits with
  | nil => simp [SinkWrite.violations]
  | cons v rest ih =>
      obtain ⟨hv, hrest⟩ := List.forall_mem_cons.mp hequipped
      have hfirst := Visit.violations_writes hv org agent
      have hothers := ih hrest
      rw [SinkWrite.violations] at hfirst hothers ⊢
      rw [List.flatMap_cons, List.count_append, hfirst, hothers, List.countP_cons]
      cases agent.isEmpty with
      | true => simp
      | false => simp [Nat.add_comm]

end Mandate
