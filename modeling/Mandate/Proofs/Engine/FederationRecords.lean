import Mandate.Proofs.Engine.KeptArtifacts

/-! # Records of requests into other organisations

A decision about a request into another organisation leaves one record of it for the ledger,
whichever way the check between the organisations ends, and nothing else that a decision does
leaves such a record. What the record says is settled before attestation is asked for.
-/

namespace Mandate

open Mandate.Json

/-! ## What an evaluation notes -/

namespace Evaluation

variable {α β : Type} {c : Collaborators} {config : Config} {request : Request}

/-- Whichever way the gate ends, it notes nothing. -/
def Quiet (gate : Gate α) : Prop := ∀ start, (gate start).2.events = start.events

theorem Quiet.pure (a : α) : Quiet (pure a : Gate α) := fun _ => rfl

theorem Quiet.refuse (reason : String) : Quiet (refuse reason : Gate α) := fun _ => rfl

theorem Quiet.get_bind {next : Progress → Gate β}
    (hnext : ∀ start, (next start start).2.events = start.events) : Quiet (get >>= next) := hnext

theorem events_bind (gate : Gate α) {next : α → Gate β} (hnext : ∀ a, Quiet (next a))
    (start : Progress) : ((gate >>= next) start).2.events = (gate start).2.events := by
  rw [bind_apply]
  obtain ⟨result, middle, hgate⟩ : ∃ result middle, gate start = (result, middle) := ⟨_, _, rfl⟩
  rw [hgate]
  cases result with
  | error refusal => rfl
  | ok a => exact hnext a middle

theorem Quiet.bind {gate : Gate α} {next : α → Gate β} (hgate : Quiet gate)
    (hnext : ∀ a, Quiet (next a)) : Quiet (gate >>= next) := by
  intro start
  rw [events_bind gate hnext, hgate]

theorem quiet_checkDelegation : Quiet (checkDelegation c request) := by
  unfold checkDelegation
  split
  · exact Quiet.pure _
  · have hasked : Quiet (modify fun p =>
        { p with asked := some (delegation request.agent request.actingFor) } : Gate Unit) :=
      fun _ => rfl
    refine hasked.bind fun _ => ?_
    split
    · split
      · exact Quiet.refuse _
      · exact Quiet.pure _
    · exact Quiet.refuse _

theorem quiet_readSignals {clock : Nat} : Quiet (readSignals request clock) := fun _ => rfl

theorem quiet_artifactOf {evaluator : Evaluator} {policy : Uuid} {version : PolicyVersion} :
    Quiet (artifactOf evaluator policy version) := by
  refine Quiet.get_bind fun start => ?_
  cases start.compiled.get? policy version.version with
  | some artifact => rfl
  | none => cases evaluator.compile version.body <;> rfl

/-- The record that the check between two organisations leaves behind, for the organisation of the
caller: what the contract does not cover, or whether the boundary may be crossed. -/
def federationRecord (c : Collaborators) (request : Request) (target : Uuid) : AuditRecord :=
  match c.contract request.orgId target with
  | .ok (some contract) =>
      if !contract.scope.permitsAction request.action then
        { orgId := request.orgId
          action := .federationScopeDenied
          payload := .object [("action", .string request.action),
            ("reason", .string "action_not_allowed"), ("to_org_id", .string target.text)] }
      else if !contract.scope.permitsResource request.resource then
        { orgId := request.orgId
          action := .federationScopeDenied
          payload := .object [("reason", .string "resource_not_allowed"),
            ("resource", .string request.resource), ("to_org_id", .string target.text)] }
      else
        { orgId := request.orgId
          action := .federationBoundaryCrossing
          payload := .object [("allowed", .bool true), ("to_org_id", .string target.text)] }
  | _ =>
      { orgId := request.orgId
        action := .federationBoundaryCrossing
        payload := .object [("allowed", .bool false), ("reason", .string "no_contract"),
          ("to_org_id", .string target.text)] }

theorem events_checkFederation (target : Uuid) (start : Progress) :
    (checkFederation c config request target start).2.events =
      start.events ++ [federationRecord c request target] := by
  unfold checkFederation federationRecord
  cases c.contract request.orgId target with
  | error _ => rfl
  | ok found =>
      cases found with
      | none => rfl
      | some contract =>
          dsimp only
          cases contract.scope.permitsAction request.action with
          | false => rfl
          | true =>
              cases contract.scope.permitsResource request.resource with
              | false => rfl
              | true =>
                  -- attestation is asked for when the record has been left already
                  simp only [Bool.not_true, Bool.false_eq_true, ↓reduceIte]
                  split <;> rfl

theorem events_federate (start : Progress) :
    (federate c config request start).2.events =
      start.events ++ (request.counterparty?.map (federationRecord c request)).toList := by
  unfold federate
  cases request.counterparty? with
  | none => simp [Quiet.pure _ start]
  | some target =>
      exact (events_bind _ (fun _ => Quiet.pure _) start).trans
        (events_checkFederation target start)

/-- Without an assignment to choose the evaluation ends at once. -/
theorem selectAssignment_of_none (hnone : selected? c request = none) (start : Progress) :
    selectAssignment c request start = (.error (.deny noAssignment), start) := by
  unfold selected? at hnone
  unfold selectAssignment
  cases hassigned : c.assignments request.orgId with
  | error _ => rfl
  | ok assignments =>
      rw [hassigned] at hnone
      dsimp only [selectionKey] at hnone ⊢
      rw [hnone]
      rfl

theorem passes_selectAssignment_of_selected? {selected : ActiveAssignment}
    (hselected : selected? c request = some selected) (start : Progress) :
    Passes (selectAssignment c request) start selected start := by
  unfold selected? at hselected
  split at hselected
  next assignments hassigned =>
    exact passes_selectAssignment_iff.mpr ⟨⟨assignments, hassigned, hselected⟩, rfl⟩
  next => cases hselected

/-- The record that an evaluation leaves of a request into another organisation. A request for which
no assignment is chosen does not come to the check between the organisations. -/
def crossingRecord? (c : Collaborators) (request : Request) : Option AuditRecord :=
  if (selected? c request).isSome then request.counterparty?.map (federationRecord c request)
  else none

/-- An evaluation notes what the check between organisations notes. -/
theorem events_evaluate_eq (c : Collaborators) (config : Config) (request : Request)
    (on : Occasion) (start : Progress) :
    (evaluate c config request on start).2.events =
      start.events ++ (crossingRecord? c request).toList := by
  unfold evaluate crossingRecord?
  rw [bind_apply]
  cases hselected : selected? c request with
  | none =>
      rw [selectAssignment_of_none hselected]
      exact (List.append_nil _).symm
  | some selected =>
      rw [passes_selectAssignment_of_selected? hselected start]
      refine (events_bind _ (fun federation => ?_) start).trans (events_federate start)
      refine quiet_checkDelegation.bind fun _ => quiet_readSignals.bind fun signals => ?_
      split
      · exact Quiet.refuse _
      · refine quiet_artifactOf.bind fun artifact => ?_
        dsimp only
        split
        · exact Quiet.refuse _
        · exact Quiet.pure _

/-- For an organisation with assignments one is chosen. -/
theorem crossingRecord?_of_nonempty {assignments : List ActiveAssignment}
    (hassigned : c.assignments request.orgId = .ok assignments) (hnonempty : assignments ≠ []) :
    crossingRecord? c request = request.counterparty?.map (federationRecord c request) := by
  have hlength := List.length_pos_of_ne_nil hnonempty
  have hindex : Routing.selectIndex (selectionKey request) assignments.length <
      assignments.length := by
    rw [Routing.selectIndex, Routing.indexOfBucket, if_neg hlength.ne']
    exact Nat.mod_lt _ hlength
  have hchosen : (selected? c request).isSome = true := by
    rw [selected?, hassigned]
    exact Option.isSome_iff_exists.mpr ⟨_, List.getElem?_eq_getElem hindex⟩
  rw [crossingRecord?, if_pos hchosen]

end Evaluation

/-! ## What a pool knows of -/

namespace Pool

variable {Task : Type}

/-- The tasks that a pool has accepted, the oldest first. -/
def known (pool : Pool Task) : List Task := pool.finished ++ pool.running ++ pool.queue

/-- How many tasks a pool would accept now. -/
def free (pool : Pool Task) : Nat :=
  if pool.closed then 0 else pool.capacity - pool.queue.length

theorem accepts_iff {pool : Pool Task} : pool.accepts = true ↔ 0 < pool.free := by
  unfold accepts free
  cases pool.closed with
  | true => simp
  | false =>
      rw [if_neg Bool.false_ne_true, Nat.sub_pos_iff_lt]
      simp

theorem submit_of_accepts {pool : Pool Task} (task : Task) (haccepts : pool.accepts = true) :
    pool.submit task = (true, { pool with queue := pool.queue ++ [task] }) := if_pos haccepts

theorem submit_of_not_accepts {pool : Pool Task} (task : Task) (haccepts : ¬ pool.accepts = true) :
    pool.submit task = (false, pool) := if_neg haccepts

theorem free_submitted (pool : Pool Task) (task : Task) :
    ({ pool with queue := pool.queue ++ [task] } : Pool Task).free = pool.free - 1 := by
  unfold free
  dsimp only
  split
  · rfl
  · rw [List.length_append, List.length_singleton, Nat.sub_add_eq]

@[simp] theorem known_drain (pool : Pool Task) : pool.drain.known = pool.known := by
  simp [known, drain]

end Pool

/-! ## What a decision submits -/

namespace Engine

open Evaluation

variable {e e' e'' : Engine} {request : Request} {on : Occasion}

/-- Between two engines tasks have been submitted in order: those for which there was a place are
known from now on, and the others are counted as dropped. Nothing is written yet. -/
structure Submitted (e e' : Engine) (tasks : List BackgroundTask) : Prop where
  known : e'.background.known = e.background.known ++ tasks.take e.background.free
  free : e'.background.free = e.background.free - tasks.length
  dropped : e'.metrics.droppedTasks =
    e.metrics.droppedTasks + (tasks.length - e.background.free)
  audit : e'.lifecycle.audit = e.lifecycle.audit
  traces : e'.traces = e.traces
  reputations : e'.reputations = e.reputations

theorem Submitted.nothing (hbackground : e'.background = e.background)
    (hdropped : e'.metrics.droppedTasks = e.metrics.droppedTasks)
    (haudit : e'.lifecycle.audit = e.lifecycle.audit) (htraces : e'.traces = e.traces)
    (hreputations : e'.reputations = e.reputations) : e.Submitted e' [] where
  known := by simp [hbackground]
  free := by simp [hbackground]
  dropped := by simp [hdropped]
  audit := haudit
  traces := htraces
  reputations := hreputations

theorem Submitted.refl (e : Engine) : e.Submitted e [] := .nothing rfl rfl rfl rfl rfl

theorem Submitted.trans {tasks more : List BackgroundTask} (hone : e.Submitted e' tasks)
    (hother : e'.Submitted e'' more) : e.Submitted e'' (tasks ++ more) where
  known := by rw [hother.known, hone.known, hone.free, List.take_append, List.append_assoc]
  free := by rw [hother.free, hone.free, List.length_append, Nat.sub_add_eq]
  dropped := by
    rw [hother.dropped, hone.dropped, hone.free, List.length_append]
    omega
  audit := hother.audit.trans hone.audit
  traces := hother.traces.trans hone.traces
  reputations := hother.reputations.trans hone.reputations

theorem submitted_submit (e : Engine) (task : BackgroundTask) :
    e.Submitted (e.submit task) [task] := by
  unfold submit
  by_cases haccepts : e.background.accepts = true
  · have hfree : [task].length ≤ e.background.free := Pool.accepts_iff.mp haccepts
    rw [Pool.submit_of_accepts task haccepts]
    refine ⟨?_, Pool.free_submitted e.background task, ?_, rfl, rfl, rfl⟩
    · rw [List.take_of_length_le hfree]
      simp [Pool.known]
    · rw [Nat.sub_eq_zero_of_le hfree]
      rfl
  · have hfree : e.background.free = 0 := by
      rw [Pool.accepts_iff] at haccepts
      omega
    rw [Pool.submit_of_not_accepts task haccepts]
    refine ⟨?_, ?_, ?_, rfl, rfl, rfl⟩
    · simp [hfree]
    · simp [hfree]
    · simp [hfree, Metrics.dropped]

theorem submitted_foldl_recordLater (e : Engine) (events : List AuditRecord)
    (hpresent : e.lifecycle.audit.isPresent = true) :
    e.Submitted (events.foldl recordLater e) (events.map .recordEvent) := by
  induction events generalizing e with
  | nil => exact .refl e
  | cons event rest ih =>
      have hfirst : e.Submitted (e.recordLater event) [.recordEvent event] := by
        rw [recordLater, if_pos hpresent]
        exact submitted_submit e _
      have hstill : (e.recordLater event).lifecycle.audit.isPresent = true := by
        rw [hfirst.audit]
        exact hpresent
      exact hfirst.trans (ih _ hstill)

theorem submitted_absorb (e : Engine) (clock : Nat) (progress : Progress)
    (hpresent : e.lifecycle.audit.isPresent = true) :
    e.Submitted (e.absorb clock progress) (progress.events.map .recordEvent) := by
  unfold absorb
  refine Submitted.trans (.nothing ?_ ?_ ?_ ?_ ?_) (submitted_foldl_recordLater _ _ hpresent)
  all_goals rfl

theorem foldl_recordLater_of_absent (e : Engine) (events : List AuditRecord)
    (habsent : e.lifecycle.audit.isPresent = false) : events.foldl recordLater e = e := by
  induction events with
  | nil => rfl
  | cons event rest ih =>
      rw [List.foldl_cons, recordLater, if_neg (by simp [habsent]), ih]

/-- Without a ledger an evaluation leaves nothing to record. -/
theorem submitted_absorb_of_absent (e : Engine) (clock : Nat) (progress : Progress)
    (habsent : e.lifecycle.audit.isPresent = false) :
    e.Submitted (e.absorb clock progress) [] := by
  have habsent' : (e.keeping clock progress).lifecycle.audit.isPresent = false := habsent
  rw [absorb_eq, foldl_recordLater_of_absent _ _ habsent']
  exact .nothing rfl rfl rfl rfl rfl

/-- The tasks that follow from a refusal at a spiked rate. -/
def violationTasks (e : Engine) (request : Request) (decision : Decision)
    (signals : Risk.Signals) : List BackgroundTask :=
  if !decision.allow && signals.hasFlag Risk.rateSpike && e.reputations.isPresent &&
      !request.agent.isEmpty then
    [.lowerReputation request.orgId request.agent]
  else []

theorem submitted_lowerReputationLater (e : Engine) (request : Request) (decision : Decision)
    (signals : Risk.Signals) : e.Submitted (e.lowerReputationLater request decision signals)
      (e.violationTasks request decision signals) := by
  unfold lowerReputationLater violationTasks
  split
  · exact submitted_submit e _
  · exact .refl e

/-- The tasks that keep the trace of a decision. -/
def traceTasks (e : Engine) (request : Request) (policy : Uuid) (version : Nat)
    (decision : Decision) : List BackgroundTask :=
  match decision.trace with
  | none => []
  | some trace =>
      if e.traces.isPresent || e.lifecycle.audit.isPresent then
        [.keepTrace
          { traceId := decision.traceId, orgId := request.orgId, agentId := request.agent,
            allow := decision.allow, reason := decision.reason, trace }
          (decisionEvent request policy version decision)]
      else []

theorem submitted_keepTraceLater (e : Engine) (request : Request) (policy : Uuid) (version : Nat)
    (decision : Decision) : e.Submitted (e.keepTraceLater request policy version decision)
      (e.traceTasks request policy version decision) := by
  unfold keepTraceLater traceTasks
  cases decision.trace with
  | none => exact .refl e
  | some trace =>
      dsimp only
      split
      · exact submitted_submit e _
      · exact .refl e

theorem submitted_requestToken (e : Engine) (request : Request) (on : Occasion)
    (evaluated : Evaluated) (response : Response) :
    e.Submitted (e.requestToken request evaluated response on).2 [] := by
  unfold requestToken
  split
  · exact .refl e
  · split <;> exact .nothing rfl rfl rfl rfl rfl

/-- The tasks that follow from the end of an evaluation. -/
def followingTasks (e : Engine) (request : Request) :
    Except Decision Evaluated → List BackgroundTask
  | .error _ => []
  | .ok evaluated =>
      e.violationTasks request (explain request evaluated) evaluated.signals ++
        e.traceTasks request evaluated.policy.id evaluated.version (explain request evaluated)

theorem Submitted.violationTasks_eq {tasks : List BackgroundTask}
    (hsubmitted : e.Submitted e' tasks) (decision : Decision) (signals : Risk.Signals) :
    e'.violationTasks request decision signals = e.violationTasks request decision signals := by
  rw [violationTasks, hsubmitted.reputations]
  rfl

theorem Submitted.traceTasks_eq {tasks : List BackgroundTask} (hsubmitted : e.Submitted e' tasks)
    (policy : Uuid) (version : Nat) (decision : Decision) :
    e'.traceTasks request policy version decision =
      e.traceTasks request policy version decision := by
  rw [traceTasks, hsubmitted.traces, hsubmitted.audit]
  rfl

theorem Submitted.followingTasks_eq {tasks : List BackgroundTask}
    (hsubmitted : e.Submitted e' tasks) (result : Except Decision Evaluated) :
    e'.followingTasks request result = e.followingTasks request result := by
  cases result with
  | error refusal => rfl
  | ok evaluated =>
      simp only [followingTasks, hsubmitted.violationTasks_eq, hsubmitted.traceTasks_eq]

theorem submitted_conclude (e : Engine) (result : Except Decision Evaluated) :
    e.Submitted (e.conclude request on result).2 (e.followingTasks request result) := by
  cases result with
  | error refusal => exact .nothing rfl rfl rfl rfl rfl
  | ok evaluated =>
      let decision := explain request evaluated
      have hcounted : e.Submitted (e.countDecision request decision.allow decision.reason) [] :=
        .nothing rfl rfl rfl rfl rfl
      have hlowered := hcounted.trans
        (submitted_lowerReputationLater _ request decision evaluated.signals)
      have hkept := hlowered.trans
        (submitted_keepTraceLater _ request evaluated.policy.id evaluated.version decision)
      have hrequested := hkept.trans
        (submitted_requestToken _ request on evaluated (.ofDecision decision))
      rw [hcounted.violationTasks_eq, hlowered.traceTasks_eq, List.append_nil,
        List.nil_append] at hrequested
      exact hrequested

/-- The tasks that a decision submits in an engine with a ledger that admits the request. -/
def submissions (e : Engine) (c : Collaborators) (request : Request) (on : Occasion) :
    List BackgroundTask :=
  let ending := evaluate c e.config request on (e.entering request on)
  ending.2.events.map .recordEvent ++ e.followingTasks request ending.1

theorem submitted_beginWith {c : Collaborators} (hadmits : e.admits = true)
    (hpresent : e.lifecycle.audit.isPresent = true) :
    e.Submitted (e.beginWith c request on).2 (e.submissions c request on) := by
  have habsorbed := submitted_absorb e on.clock
    (evaluate c e.config request on (e.entering request on)).2 hpresent
  rw [beginWith_of_admits hadmits, submissions, ← habsorbed.followingTasks_eq]
  exact habsorbed.trans (submitted_conclude _ _)

/-- Two engines that know of the same tasks and have dropped as many. -/
structure SameTasks (e e' : Engine) : Prop where
  known : e'.background.known = e.background.known
  dropped : e'.metrics.droppedTasks = e.metrics.droppedTasks

theorem SameTasks.trans (hone : e.SameTasks e') (hother : e'.SameTasks e'') : e.SameTasks e'' :=
  ⟨hother.known.trans hone.known, hother.dropped.trans hone.dropped⟩

theorem sameTasks_performAll (e : Engine) (stamps : Nat → Stamp) (tasks : List BackgroundTask) :
    e.SameTasks (e.performAll stamps tasks) := by
  induction tasks generalizing e stamps with
  | nil => exact ⟨rfl, rfl⟩
  | cons task rest ih =>
      have hfirst : e.SameTasks (e.perform task (stamps 0)) := by
        cases task <;> exact ⟨rfl, rfl⟩
      exact hfirst.trans (ih _ _)

theorem sameTasks_work (e : Engine) (stamps : Nat → Stamp) : e.SameTasks (e.work stamps) := by
  unfold work
  refine SameTasks.trans ?_ (sameTasks_performAll _ _ _)
  exact ⟨Pool.known_drain _, rfl⟩

theorem sameTasks_finish (e : Engine) (pending : PendingToken) (answer : Token.Answer) :
    e.SameTasks (e.finish pending answer).2 := by
  unfold finish
  dsimp only
  split <;> exact ⟨rfl, rfl⟩

/-- While a decision waits for the signer, and when it ends, nothing more is submitted. -/
theorem sameTasks_decideWith (e : Engine) (c : Collaborators) (request : Request)
    (on : Occasion) (stamps : Nat → Stamp) :
    (e.beginWith c request on).2.SameTasks (e.decideWith c request on stamps).2 := by
  unfold decideWith
  split
  next response begun heq =>
    rw [heq]
    exact ⟨rfl, rfl⟩
  next pending begun heq =>
    rw [heq]
    dsimp only
    split
    · exact (sameTasks_work begun stamps).trans (sameTasks_finish _ _ _)
    · exact sameTasks_finish begun _ _

/-- Deciding a request submits tasks in order. Whatever pool the engine has, it knows of as many of
them as it had places for, and the others are counted as dropped. -/
structure Submits (e : Engine) (c : Collaborators) (request : Request) (on : Occasion)
    (stamps : Nat → Stamp) (tasks : List BackgroundTask) : Prop where
  known : ∀ pool,
    ({ e with background := pool }.decideWith c request on stamps).2.background.known =
      pool.known ++ tasks.take pool.free
  dropped : ∀ pool,
    ({ e with background := pool }.decideWith c request on stamps).2.metrics.droppedTasks =
      e.metrics.droppedTasks + (tasks.length - pool.free)

/-- What is submitted before the signer is asked is all that is submitted. -/
theorem Submits.of_submitted {c : Collaborators} {tasks : List BackgroundTask}
    (hsubmitted : ∀ pool, ({ e with background := pool } : Engine).Submitted
      ({ e with background := pool }.beginWith c request on).2 tasks) (stamps : Nat → Stamp) :
    e.Submits c request on stamps tasks := by
  constructor
  · intro pool
    rw [(sameTasks_decideWith _ c request on stamps).known, (hsubmitted pool).known]
  · intro pool
    rw [(sameTasks_decideWith _ c request on stamps).dropped, (hsubmitted pool).dropped]

theorem submits_submissions {c : Collaborators} (hadmits : e.admits = true)
    (hpresent : e.lifecycle.audit.isPresent = true) (stamps : Nat → Stamp) :
    e.Submits c request on stamps (e.submissions c request on) :=
  .of_submitted (fun pool =>
    submitted_beginWith (e := { e with background := pool }) hadmits hpresent) stamps

end Engine

/-! ## What the records say -/

/-- The record that a task is to write. -/
def BackgroundTask.record? : BackgroundTask → Option AuditRecord
  | .recordEvent event => some event
  | .lowerReputation .. => none
  | .keepTrace _ event => some event

/-- Records about a request into another organisation. -/
def AuditAction.isFederation : AuditAction → Bool
  | .federationBoundaryCrossing => true
  | .federationScopeDenied => true
  | _ => false

/-- The records that tasks are to write about requests into other organisations. -/
def federationRecords (tasks : List BackgroundTask) : List AuditRecord :=
  (tasks.filterMap (·.record?)).filter (·.action.isFederation)

/-- The record says that the boundary was crossed. -/
def AuditRecord.Crosses (record : AuditRecord) : Prop :=
  record.action = .federationBoundaryCrossing ∧
    record.payload.get? "allowed" = some (.bool true)

namespace Evaluation

variable {c : Collaborators} {config : Config} {request : Request} {target : Uuid}

/-- There is a contract whose scope covers the request, whoever the caller is. -/
def Permitted (c : Collaborators) (request : Request) (target : Uuid) : Prop :=
  ∃ contract, c.contract request.orgId target = .ok (some contract) ∧
    contract.scope.permitsAction request.action = true ∧
    contract.scope.permitsResource request.resource = true

/-- A request into another organisation that is stopped by nothing but that attestation is asked
for. -/
def Unattested (c : Collaborators) (config : Config) (request : Request) : Prop :=
  (∃ target, request.counterparty? = some target ∧ Permitted c request target) ∧
    config.zeroTrustCrossOrg = true ∧ request.principal.authnKind ≠ some Federation.attest

/-- What records about a request should say: nothing if it stays in its organisation, and else
once, whether the check between the organisations lets it through. -/
def TellTruth (c : Collaborators) (config : Config) (request : Request)
    (records : List AuditRecord) : Prop :=
  match request.counterparty? with
  | none => records = []
  | some target => ∃ record, records = [record] ∧
      (record.Crosses ↔ ∃ contract, Covered c config request target contract)

theorem isFederation_federationRecord :
    (federationRecord c request target).action.isFederation = true := by
  unfold federationRecord
  split
  · split
    · rfl
    · split <;> rfl
  · rfl

theorem not_crosses_of_scopeDenied {record : AuditRecord}
    (haction : record.action = .federationScopeDenied) : ¬ record.Crosses := by
  rintro ⟨hcrossing, -⟩
  cases haction.symm.trans hcrossing

theorem not_crosses_of_refused {record : AuditRecord}
    (hrefused : record.payload.get? "allowed" = some (.bool false)) : ¬ record.Crosses := by
  rintro ⟨-, hallowed⟩
  cases hrefused.symm.trans hallowed

theorem crosses_federationRecord_iff :
    (federationRecord c request target).Crosses ↔ Permitted c request target := by
  unfold federationRecord Permitted
  cases c.contract request.orgId target with
  | error _ => exact iff_of_false (not_crosses_of_refused rfl) (by simp)
  | ok found =>
      cases found with
      | none => exact iff_of_false (not_crosses_of_refused rfl) (by simp)
      | some contract =>
          cases haction : contract.scope.permitsAction request.action with
          | false =>
              simp only [haction]
              exact iff_of_false (not_crosses_of_scopeDenied rfl) (by simp [haction])
          | true =>
              cases hresource : contract.scope.permitsResource request.resource with
              | false =>
                  simp only [haction, hresource]
                  exact iff_of_false (not_crosses_of_scopeDenied rfl) (by simp [hresource])
              | true =>
                  simp only [haction, hresource]
                  exact iff_of_true ⟨rfl, rfl⟩ ⟨contract, rfl, haction, hresource⟩

theorem exists_covered_iff : (∃ contract, Covered c config request target contract) ↔
    Permitted c request target ∧ (config.zeroTrustCrossOrg = false ∨
      request.principal.authnKind = some Federation.attest) := by
  constructor
  · rintro ⟨contract, hfound, haction, hresource, hattested⟩
    exact ⟨⟨contract, hfound, haction, hresource⟩, hattested⟩
  · rintro ⟨⟨contract, hfound, haction, hresource⟩, hattested⟩
    exact ⟨contract, hfound, haction, hresource, hattested⟩

/-- The record is true unless the request is permitted and lacks attestation. -/
theorem tellTruth_federationRecord_iff :
    TellTruth c config request (request.counterparty?.map (federationRecord c request)).toList ↔
      ¬ Unattested c config request := by
  unfold TellTruth Unattested
  cases request.counterparty? with
  | none => simp
  | some target =>
      simp only [Option.map_some, Option.toList_some, List.cons.injEq, and_true, exists_eq_left',
        crosses_federationRecord_iff, exists_covered_iff, Option.some.injEq]
      by_cases hpermitted : Permitted c request target
      · cases config.zeroTrustCrossOrg <;> simp [hpermitted]
      · simp [hpermitted]

end Evaluation

@[simp] theorem federationRecords_append (tasks more : List BackgroundTask) :
    federationRecords (tasks ++ more) = federationRecords tasks ++ federationRecords more := by
  simp [federationRecords]

theorem federationRecords_map_recordEvent (events : List AuditRecord) :
    federationRecords (events.map .recordEvent) = events.filter (·.action.isFederation) := by
  simp [federationRecords, List.filterMap_map, BackgroundTask.record?]

namespace Engine

open Evaluation

variable {e : Engine} {c : Collaborators} {request : Request} {on : Occasion}

theorem federationRecords_violationTasks (decision : Decision) (signals : Risk.Signals) :
    federationRecords (e.violationTasks request decision signals) = [] := by
  unfold violationTasks
  split <;> rfl

theorem federationRecords_traceTasks (policy : Uuid) (version : Nat) (decision : Decision) :
    federationRecords (e.traceTasks request policy version decision) = [] := by
  unfold traceTasks
  cases decision.trace with
  | none => rfl
  | some trace =>
      dsimp only
      split <;> rfl

/-- What follows an evaluation leaves no record about another organisation. -/
theorem federationRecords_followingTasks (result : Except Decision Evaluated) :
    federationRecords (e.followingTasks request result) = [] := by
  cases result with
  | error refusal => rfl
  | ok evaluated =>
      simp [followingTasks, federationRecords_violationTasks, federationRecords_traceTasks]

theorem federationRecords_submissions (e : Engine) (on : Occasion)
    {assignments : List ActiveAssignment}
    (hassigned : c.assignments request.orgId = .ok assignments) (hnonempty : assignments ≠ []) :
    federationRecords (e.submissions c request on) =
      (request.counterparty?.map (federationRecord c request)).toList := by
  rw [submissions, federationRecords_append, federationRecords_map_recordEvent,
    federationRecords_followingTasks, events_evaluate_eq,
    crossingRecord?_of_nonempty hassigned hnonempty]
  cases request.counterparty? with
  | none => rfl
  | some target => simp [entering, isFederation_federationRecord]

/-- A decision about a request of an organisation with assignments leaves one record of it if it
goes into another organisation, and none if it does not. The records tell the truth exactly if
attestation is not what the request fails for: where zero trust asks for it of a request that a
contract permits, the crossing has been recorded as allowed before the request is refused. -/
theorem records_tell_truth_iff (e : Engine) (c : Collaborators) (request : Request)
    (on : Occasion) (stamps : Nat → Stamp) {assignments : List ActiveAssignment}
    (hpresent : e.lifecycle.audit.isPresent = true) (hadmits : e.admits = true)
    (hassigned : c.assignments request.orgId = .ok assignments) (hnonempty : assignments ≠ []) :
    ∃ tasks, e.Submits c request on stamps tasks ∧
      federationRecords tasks =
        (request.counterparty?.map (federationRecord c request)).toList ∧
      (TellTruth c e.config request (federationRecords tasks) ↔
        ¬ Unattested c e.config request) := by
  have hrecords := federationRecords_submissions e on hassigned hnonempty
  refine ⟨e.submissions c request on, submits_submissions hadmits hpresent stamps, hrecords, ?_⟩
  rw [hrecords]
  exact tellTruth_federationRecord_iff

/-- An engine under zero trust, with a contract that permits everything. -/
def guardedEngine : Engine :=
  { (Engine.start { zeroTrustCrossOrg := true }
      { repository :=
          { policies := [{ id := ⟨1⟩, orgId := ⟨2⟩, name := "p", engine := Rules.engineName,
                           createdBy := none, createdAt := default }]
            versions := [{ PolicyVersion.draft ⟨1⟩ 1 .null none default with status := .active }]
            assignments := [⟨⟨1⟩, .org, (⟨2⟩ : Uuid).text, default⟩] }
        audit := .memory {} }
      {}) with
    contracts := ⟨[⟨⟨2⟩, ⟨3⟩, .unrestricted, true, default⟩]⟩ }

/-- A request into the organisation of the contract. -/
def abroad : Request := { orgId := ⟨2⟩, targetOrgId := some ⟨3⟩ }

theorem guardedEngine_assignments : ∃ assignments,
    (guardedEngine.collaborators 0).assignments abroad.orgId = .ok assignments ∧
      assignments ≠ [] := by
  refine ⟨_, rfl, ?_⟩
  decide +kernel

/-- Without attestation the request is refused, and recorded as one that was let through. -/
theorem refused_but_recorded_as_crossing :
    guardedEngine.admits = true ∧ guardedEngine.lifecycle.audit.isPresent = true ∧
    (∃ assignments, (guardedEngine.collaborators 0).assignments abroad.orgId = .ok assignments ∧
      assignments ≠ []) ∧
    (guardedEngine.decide abroad default fun _ => default).1.allow = false ∧
    (guardedEngine.decide abroad default fun _ => default).1.reason =
      Federation.attestationRequired ∧
    (¬ ∃ contract, Covered (guardedEngine.collaborators 0) guardedEngine.config abroad ⟨3⟩
      contract) ∧
    (guardedEngine.decide abroad default fun _ => default).2.background.known =
      [.recordEvent (crossing abroad ⟨3⟩)] ∧
    (crossing abroad ⟨3⟩).Crosses := by
  refine ⟨rfl, rfl, guardedEngine_assignments, ?_, ?_, ?_, ?_, ⟨rfl, rfl⟩⟩
  · decide +kernel
  · decide +kernel
  · rw [exists_covered_iff]
    rintro ⟨-, hattested⟩
    revert hattested
    decide
  · decide +kernel

/-- With attestation the record is true. -/
theorem attested_crossing_recorded :
    ∃ tasks, guardedEngine.Submits (guardedEngine.collaborators 0)
        { abroad with principal.authnKind := some Federation.attest } default
        (fun _ => default) tasks ∧
      TellTruth (guardedEngine.collaborators 0) guardedEngine.config
        { abroad with principal.authnKind := some Federation.attest }
        (federationRecords tasks) := by
  obtain ⟨assignments, hassigned, hnonempty⟩ := guardedEngine_assignments
  obtain ⟨tasks, hsubmits, -, htruth⟩ := records_tell_truth_iff guardedEngine
    (guardedEngine.collaborators 0) { abroad with principal.authnKind := some Federation.attest }
    default (fun _ => default) rfl rfl hassigned hnonempty
  refine ⟨tasks, hsubmits, htruth.mpr ?_⟩
  rintro ⟨-, -, hattested⟩
  exact hattested rfl

end Engine

end Mandate
