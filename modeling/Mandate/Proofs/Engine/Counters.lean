import Mandate.Proofs.Engine.Admission
import Mandate.Proofs.Engine.Metrics
import Mandate.Proofs.Text.Identifiers

/-! # The counters tell the responses

Every call counts when it begins: as turned away, or under its organisation with the outcome and the
reason of its response. A call that waits for the signer counts once more when it ends, as a token
or as a failure. So when no call waits any longer, the counters tell how many responses of each kind
have been given, whatever has happened on the way: collaborators that are out of reach, calls that
end in another order than they have begun, signers that fail or keep silent.
-/

namespace Mandate

open Evaluation

/-! ## One decision -/

namespace Metrics

/-- The counters without that of dropped tasks, which does not tell about decisions. -/
def withoutDropped (m : Metrics) : Metrics := { m with droppedTasks := 0 }

end Metrics

/-- What is known of a call once it has begun. -/
structure Call where
  request : Request
  /-- Whether it has passed the admission. -/
  admitted : Bool
  /-- Whether the evaluation of a policy has come to a decision. An evaluator that was asked and
  failed has not decided: asking it is what a `Consultation` describes. -/
  evaluated : Bool
  /-- What it is answered, but for the token. -/
  plain : Response

namespace Call

/-- Whether somebody is asked for a token. -/
def tokenDue (call : Call) : Bool :=
  call.admitted && call.evaluated && call.request.includeTrustToken

/-- Under which organisation and outcome it counts. -/
def decision? (call : Call) : Option (String × String) :=
  if call.admitted then some (call.request.orgId.text, outcomeName call.plain.allow) else none

/-- Under which outcome and reason it counts. -/
def reason? (call : Call) : Option (String × String) :=
  if call.admitted ∧ call.plain.reason.isEmpty = false then
    some (outcomeName call.plain.allow, call.plain.reason)
  else none

/-- Its decision is counted. -/
def decided (call : Call) (m : Metrics) : Metrics :=
  m.decision call.request.orgId.text call.plain.allow call.plain.reason

/-- How it counts when it has begun. A token that is due although the call does not wait for it is a
failure already. -/
def count (call : Call) (begun : Begun) (m : Metrics) : Metrics :=
  if call.admitted then
    match begun with
    | .answered _ => if call.tokenDue then (call.decided m).token false else call.decided m
    | .waiting _ => call.decided m
  else m.quickReject

variable {call : Call} {begun : Begun} {m : Metrics} {pairs : List (String × String)}

/-- A call counts as turned away, as a decision, or as a decision with a failure. -/
theorem count_cases (call : Call) (begun : Begun) (m : Metrics) :
    (call.admitted = false ∧ call.count begun m = m.quickReject) ∨
    (call.admitted = true ∧ (call.tokenDue = false ∨ begun.permits = 1) ∧
      call.count begun m = call.decided m) ∨
    (call.admitted = true ∧ call.tokenDue = true ∧ begun.permits = 0 ∧
      call.count begun m = (call.decided m).token false) := by
  unfold count
  cases hadmitted : call.admitted with
  | false => exact Or.inl ⟨rfl, rfl⟩
  | true =>
      refine Or.inr ?_
      cases begun with
      | answered response =>
          cases hdue : call.tokenDue with
          | false => exact Or.inl ⟨rfl, Or.inl rfl, rfl⟩
          | true => exact Or.inr ⟨rfl, rfl, rfl, rfl⟩
      | waiting pending => exact Or.inl ⟨rfl, Or.inr rfl, rfl⟩

theorem decisionsByOrg_count (hm : m.decisionsByOrg = .tally pairs) :
    (call.count begun m).decisionsByOrg = .tally (pairs ++ call.decision?.toList) := by
  have hdecided (hadmitted : call.admitted = true) :
      (call.decided m).decisionsByOrg = .tally (pairs ++ call.decision?.toList) := by
    rw [decision?, if_pos hadmitted, Option.toList, Counts.tally_concat, ← hm]
    rfl
  rcases call.count_cases begun m with ⟨hturned, hcount⟩ | ⟨hadmitted, -, hcount⟩ |
    ⟨hadmitted, -, -, hcount⟩
  · rw [hcount, decision?, if_neg (by simp [hturned]), Option.toList, List.append_nil, ← hm]
    rfl
  · rw [hcount]
    exact hdecided hadmitted
  · rw [hcount]
    exact hdecided hadmitted

theorem reasons_count (hm : m.reasons = .tally pairs) :
    (call.count begun m).reasons = .tally (pairs ++ call.reason?.toList) := by
  have hdecided (hadmitted : call.admitted = true) :
      (call.decided m).reasons = .tally (pairs ++ call.reason?.toList) := by
    unfold decided Metrics.decision reason?
    cases call.plain.reason.isEmpty with
    | true => simpa using hm
    | false => simp [hadmitted, Counts.tally_concat, hm]
  rcases call.count_cases begun m with ⟨hturned, hcount⟩ | ⟨hadmitted, -, hcount⟩ |
    ⟨hadmitted, -, -, hcount⟩
  · rw [hcount, reason?, if_neg (by simp [hturned]), Option.toList, List.append_nil, ← hm]
    rfl
  · rw [hcount]
    exact hdecided hadmitted
  · rw [hcount]
    exact hdecided hadmitted

theorem quickRejects_count : (call.count begun m).quickRejects =
    m.quickRejects + if call.admitted then 0 else 1 := by
  rcases call.count_cases begun m with ⟨hadmitted, hcount⟩ | ⟨hadmitted, -, hcount⟩ |
    ⟨hadmitted, -, -, hcount⟩ <;>
  · rw [hcount, hadmitted]
    rfl

theorem tokensMinted_count : (call.count begun m).tokensMinted = m.tokensMinted := by
  rcases call.count_cases begun m with ⟨-, hcount⟩ | ⟨-, -, hcount⟩ | ⟨-, -, -, hcount⟩ <;>
  · rw [hcount]
    rfl

/-- Of a token that is due, somebody waits for it or it is a failure. -/
theorem tokenFailures_count (hwaits : begun.permits = 1 → call.tokenDue = true) :
    (call.count begun m).tokenFailures + begun.permits =
      m.tokenFailures + if call.tokenDue then 1 else 0 := by
  have hnobody : call.tokenDue = false → begun.permits = 0 := fun hdue => by
    cases begun with
    | answered response => rfl
    | waiting pending => cases hdue.symm.trans (hwaits rfl)
  rcases call.count_cases begun m with ⟨hturned, hcount⟩ | ⟨-, hdue, hcount⟩ |
    ⟨-, hdue, hpermits, hcount⟩
  · have hdue : call.tokenDue = false := by simp [tokenDue, hturned]
    rw [hcount, hnobody hdue, hdue]
    rfl
  · rw [hcount]
    rcases hdue with hdue | hpermits
    · rw [hnobody hdue, hdue]
      rfl
    · rw [hpermits, hwaits hpermits]
      rfl
  · rw [hcount, hpermits, hdue]
    rfl

theorem decision?_eq_some_iff {org : Uuid} {allow : Bool} :
    call.decision? = some (org.text, outcomeName allow) ↔
      call.plain.allow = allow ∧ call.admitted = true ∧ call.request.orgId = org := by
  unfold decision?
  split
  next hadmitted =>
    rw [Option.some.injEq, Prod.mk.injEq, Uuid.text_injective.eq_iff,
      outcomeName_injective.eq_iff]
    tauto
  next hturned => simp [hturned]

theorem reason?_eq_some_iff {allow : Bool} {reason : String} (hreason : reason ≠ "") :
    call.reason? = some (outcomeName allow, reason) ↔
      (call.plain.allow = allow ∧ call.plain.reason = reason) ∧ call.admitted = true := by
  unfold reason?
  split
  next hcounts =>
    rw [Option.some.injEq, Prod.mk.injEq, outcomeName_injective.eq_iff]
    exact (and_iff_left hcounts.1).symm
  next hnot =>
    refine iff_of_false nofun ?_
    rintro ⟨⟨-, rfl⟩, hadmitted⟩
    exact hnot ⟨hadmitted, by simpa using hreason⟩

/-- Every call counts as allowed, as denied or as turned away. -/
theorem total_decisions (calls : List Call) :
    (calls.filterMap decision?).countP (·.2 == outcomeName true) +
        (calls.filterMap decision?).countP (·.2 == outcomeName false) +
      calls.countP (!·.admitted) = calls.length := by
  induction calls with
  | nil => rfl
  | cons call rest ih =>
      rw [List.filterMap_cons, decision?, List.countP_cons, List.length_cons, ← ih]
      cases call.admitted with
      | false => rfl
      | true =>
          cases call.plain.allow <;> simp [outcomeName] <;> omega

end Call

namespace Engine

variable {e : Engine} {request : Request} {on : Occasion}

/-- What is known of a request as a call, once it has begun. -/
def callOf (e : Engine) (request : Request) (on : Occasion) : Call where
  request
  admitted := e.admits
  evaluated :=
    (evaluate (e.collaborators on.clock) e.config request on (e.entering request on)).1.isOk
  plain := (e.begin request on).1.response

/-- The counters of an engine that tell about decisions. -/
def counters (e : Engine) : Metrics := e.metrics.withoutDropped

theorem counters_submit (e : Engine) (task : BackgroundTask) :
    (e.submit task).counters = e.counters := by
  unfold submit
  split <;> rfl

theorem counters_absorb (e : Engine) (clock : Nat) (progress : Progress) :
    (e.absorb clock progress).counters = e.counters := by
  rw [absorb_eq, foldl_recordLater_of_submit counters_submit]
  rfl

theorem counters_requestToken (e : Engine) (request : Request) (evaluated : Evaluated)
    (response : Response) (on : Occasion) :
    (e.requestToken request evaluated response on).2.counters =
      match (e.requestToken request evaluated response on).1 with
      | .answered _ => if request.includeTrustToken then e.counters.token false else e.counters
      | .waiting _ => e.counters := by
  unfold requestToken
  cases hasked : request.includeTrustToken with
  | false => rfl
  | true => cases e.signer <;> rfl

theorem counters_conclude (e : Engine) (request : Request) (on : Occasion)
    (evaluated : Evaluated) :
    (e.conclude request on (.ok evaluated)).2.counters =
      let m := e.counters.decision request.orgId.text
        (e.conclude request on (.ok evaluated)).1.response.allow
        (e.conclude request on (.ok evaluated)).1.response.reason
      match (e.conclude request on (.ok evaluated)).1 with
      | .answered _ => if request.includeTrustToken then m.token false else m
      | .waiting _ => m := by
  let decision := explain request evaluated
  let remembered := ((e.countDecision request decision.allow
    decision.reason).lowerReputationLater request decision evaluated.signals).keepTraceLater
      request evaluated.policy.id evaluated.version decision
  have hremembered : remembered.counters =
      e.counters.decision request.orgId.text decision.allow decision.reason :=
    (keepTraceLater_of_submit counters_submit _ _ _ _ _).trans
      (lowerReputationLater_of_submit counters_submit _ _ _ _)
  have hconclude : e.conclude request on (.ok evaluated) =
      remembered.requestToken request evaluated (.ofDecision decision) on := rfl
  rw [hconclude, counters_requestToken, requestToken_response, hremembered]
  rfl

/-- How a decision counts when it begins. -/
theorem counters_begin (e : Engine) (request : Request) (on : Occasion) :
    (e.begin request on).2.counters =
      (e.callOf request on).count (e.begin request on).1 e.counters := by
  cases hadmits : e.admits with
  | false =>
      rw [begin, beginWith_of_not_admits hadmits]
      unfold Call.count
      rw [if_neg (by simp [callOf, hadmits])]
      rfl
  | true =>
      have hcall : (e.callOf request on).admitted = true := hadmits
      have hbegin : e.begin request on = _ := beginWith_of_admits hadmits
      unfold Call.count
      rw [if_pos hcall]
      rcases passes_or_stops (evaluate (e.collaborators on.clock) e.config request on)
        (e.entering request on) with ⟨evaluated, after, hpasses⟩ | ⟨refusal, after, hstops⟩
      · have hdue : (e.callOf request on).tokenDue = request.includeTrustToken := by
          rw [Call.tokenDue, hcall, callOf, hpasses]
          rfl
        rw [hpasses] at hbegin
        rw [hdue, hbegin, counters_conclude, counters_absorb, ← hbegin]
        rfl
      · have hdue : (e.callOf request on).tokenDue = false := by
          rw [Call.tokenDue, hcall, callOf, hstops]
          rfl
        have hplain : (e.callOf request on).plain = .ofDecision refusal := by
          rw [callOf, hbegin, hstops]
          rfl
        have hdenied : (Response.ofDecision refusal).allow = false := denies_evaluate _ _ _ hstops
        rw [hdue, Call.decided, hplain, hdenied, hbegin, hstops]
        change (e.absorb on.clock after).counters.decision _ false refusal.reason = _
        rw [counters_absorb]
        rfl

/-- Nobody waits for a token that is not due. -/
theorem tokenDue_of_waiting {pending : PendingToken} {next : Engine}
    (hbegun : e.begin request on = (.waiting pending, next)) :
    (e.callOf request on).tokenDue = true := by
  cases hadmits : e.admits with
  | false =>
      rw [begin, beginWith_of_not_admits hadmits] at hbegun
      cases hbegun
  | true =>
      have hbegin : e.begin request on = _ := beginWith_of_admits hadmits
      rcases passes_or_stops (evaluate (e.collaborators on.clock) e.config request on)
        (e.entering request on) with ⟨evaluated, after, hpasses⟩ | ⟨refusal, after, hstops⟩
      · cases hasked : request.includeTrustToken with
        | true =>
            rw [Call.tokenDue, callOf, hadmits, hpasses, hasked]
            rfl
        | false =>
            rw [hbegin, hpasses, conclude, requestToken, hasked] at hbegun
            cases hbegun
      · rw [hbegin, hstops] at hbegun
        cases hbegun

/-- What a call is answered at first has no token. -/
theorem plain_token (e : Engine) (request : Request) (on : Occasion) :
    (e.callOf request on).plain.token = none :=
  congrArg Response.token (beginWith_response e (e.collaborators on.clock) request on)

theorem decideWith_of_answered {c : Collaborators} {response : Response} {next : Engine}
    (hbegun : e.beginWith c request on = (.answered response, next)) (stamps : Nat → Stamp) :
    e.decideWith c request on stamps = (response, next) := by
  rw [decideWith, hbegun]

/-- The workers may get on before the decision ends with an answer of the signer. -/
theorem decideWith_of_waiting {c : Collaborators} {pending : PendingToken} {next : Engine}
    (hbegun : e.beginWith c request on = (.waiting pending, next)) (stamps : Nat → Stamp) :
    ∃ answer, e.decideWith c request on stamps = (next.work stamps).finish pending answer ∨
      e.decideWith c request on stamps = next.finish pending answer := by
  unfold decideWith
  rw [hbegun]
  dsimp only
  split
  · exact ⟨_, Or.inl rfl⟩
  · exact ⟨_, Or.inr rfl⟩

/-- The signer's answer adds a token or not, which is counted as such, and changes nothing else. -/
theorem finish_cases (e : Engine) (pending : PendingToken) (answer : Token.Answer) :
    (∃ token, (e.finish pending answer).1 = { pending.response with token := some token } ∧
      (e.finish pending answer).2.counters = e.counters.token true) ∨
    ((e.finish pending answer).1 = pending.response ∧
      (e.finish pending answer).2.counters = e.counters.token false) := by
  unfold finish
  dsimp only
  split
  next token _ => exact Or.inl ⟨token, rfl, rfl⟩
  next => exact Or.inr ⟨rfl, rfl⟩

theorem metrics_performAll (e : Engine) (stamps : Nat → Stamp) (tasks : List BackgroundTask) :
    (e.performAll stamps tasks).metrics = e.metrics := by
  induction tasks generalizing e stamps with
  | nil => rfl
  | cons task rest ih =>
      rw [performAll, ih]
      cases task <;> rfl

/-- Other work counts nothing. -/
theorem metrics_carryOut (e : Engine) (chore : Chore) : (e.carryOut chore).metrics = e.metrics := by
  cases chore with
  | manage operation on => rfl
  | relate batch => cases hinsert : e.graph.insert batch <;> simp only [carryOut, hinsert]
  | agree contract => rfl
  | work stamps => exact metrics_performAll _ _ _

end Engine

/-! ## Runs -/

/-- Who is out of reach from now on. -/
structure Outage where
  repository : List RepositoryCall
  contracts : Bool
  graph : Option String

/-- The engine with its collaborators out of reach as told. -/
def Engine.suffer (e : Engine) (outage : Outage) : Engine :=
  { e with
    lifecycle := { e.lifecycle with failing := outage.repository }
    contractsFail := outage.contracts
    graph := { e.graph with outage := outage.graph } }

/-- What may happen to an engine in service whose collaborators fail and recover. -/
inductive Happening where
  | event (event : Service.Event)
  | outage (outage : Outage)

namespace Service

open Engine

variable {s : Service} {calls : List Call}

/-- Something happens. -/
def undergo (s : Service) : Happening → Service
  | .event event => s.step event
  | .outage outage => { s with engine := s.engine.suffer outage }

/-- Things happen one after the other. -/
def undergoAll (s : Service) (happenings : List Happening) : Service :=
  happenings.foldl undergo s

/-- The call that begins with what happens. -/
def call? (s : Service) : Happening → Option Call
  | .event (.request request on) => some (s.engine.callOf request on)
  | .event (.answer ..) | .event (.chore _) | .outage _ => none

/-- A decision with nobody in between is a run of its own: the call comes, the workers get on while
the signer keeps silent, and the call is ended. -/
theorem exists_undergoAll_decide (hidle : s.waiting = []) (request : Request) (on : Occasion)
    (stamps : Nat → Stamp) : ∃ later, s.undergoAll (.event (.request request on) :: later) =
      { s with
        engine := (s.engine.decide request on stamps).2
        calls := s.calls + 1
        responses := s.responses ++ [(s.calls, (s.engine.decide request on stamps).1)] } := by
  cases hbegun : s.engine.begin request on with
  | mk begun next =>
      cases begun with
      | answered response =>
          refine ⟨[], ?_⟩
          rw [Engine.decide, decideWith_of_answered hbegun]
          exact receive_of_answered hbegun
      | waiting pending =>
          have hsettled (engine : Engine) (answer : Token.Answer) :
              { s with
                engine
                calls := s.calls + 1
                waiting := [(s.calls, pending)] }.settle s.calls answer =
              { s with
                engine := (engine.finish pending answer).2
                calls := s.calls + 1
                responses := s.responses ++ [(s.calls, (engine.finish pending answer).1)] } := by
            simp [settle, hidle]
          have hreceived : s.receive request on =
              { s with
                engine := next
                calls := s.calls + 1
                waiting := [(s.calls, pending)] } := by
            rw [receive_of_waiting hbegun, hidle]
            rfl
          obtain ⟨answer, hworked | hended⟩ := decideWith_of_waiting hbegun stamps
          · refine ⟨[.event (.chore (.work stamps)), .event (.answer s.calls answer)], ?_⟩
            rw [Engine.decide, hworked]
            change ({ s.receive request on with
              engine := (s.receive request on).engine.work stamps } : Service).settle
                s.calls answer = _
            rw [hreceived, hsettled]
          · refine ⟨[.event (.answer s.calls answer)], ?_⟩
            rw [Engine.decide, hended]
            change (s.receive request on).settle s.calls answer = _
            rw [hreceived, hsettled]

/-- The calls that begin in a run, each under its number. -/
def callsOf (s : Service) : List Happening → List Call
  | [] => []
  | happening :: rest => (s.call? happening).toList ++ (s.undergo happening).callsOf rest

/-- The counters fit the calls that have come and the tokens that have been given. -/
structure Tallied (calls : List Call) (s : Service) : Prop where
  counted : s.calls = calls.length
  /-- Every call has been answered once or waits. -/
  numbers : (s.responses.map (·.1) ++ s.waiting.map (·.1)).Perm (List.range calls.length)
  answered : ∀ entry ∈ s.responses, ∃ call, calls[entry.1]? = some call ∧
    entry.2.allow = call.plain.allow ∧ entry.2.reason = call.plain.reason
  waiting : ∀ entry ∈ s.waiting, ∃ call, calls[entry.1]? = some call ∧
    entry.2.response = call.plain ∧ call.plain.token = none
  decisions : s.engine.counters.decisionsByOrg = .tally (calls.filterMap Call.decision?)
  reasons : s.engine.counters.reasons = .tally (calls.filterMap Call.reason?)
  quickRejects : s.engine.counters.quickRejects = calls.countP (!·.admitted)
  minted : s.engine.counters.tokensMinted = s.responses.countP (·.2.token.isSome)
  tokens : s.engine.counters.tokensMinted + s.engine.counters.tokenFailures + s.waiting.length =
    calls.countP (·.tokenDue)

theorem Tallied.start {e : Engine} (hfresh : e.metrics = {}) : Tallied [] (start e) := by
  have hcounters : e.counters = {} := by rw [counters, hfresh, Metrics.withoutDropped]
  exact
    { counted := rfl
      numbers := .nil
      answered := fun _ hentry => absurd hentry List.not_mem_nil
      waiting := fun _ hentry => absurd hentry List.not_mem_nil
      decisions := congrArg Metrics.decisionsByOrg hcounters
      reasons := congrArg Metrics.reasons hcounters
      quickRejects := congrArg Metrics.quickRejects hcounters
      minted := congrArg Metrics.tokensMinted hcounters
      tokens := congrArg (fun m => m.tokensMinted + m.tokenFailures) hcounters }

/-- What touches neither calls nor counters does no harm. -/
theorem Tallied.of_counters (htallied : s.Tallied calls) {engine : Engine}
    (hcounters : engine.counters = s.engine.counters) :
    Tallied calls { s with engine } :=
  { htallied with
    decisions := (congrArg Metrics.decisionsByOrg hcounters).trans htallied.decisions
    reasons := (congrArg Metrics.reasons hcounters).trans htallied.reasons
    quickRejects := (congrArg Metrics.quickRejects hcounters).trans htallied.quickRejects
    minted := (congrArg Metrics.tokensMinted hcounters).trans htallied.minted
    tokens := by rw [hcounters]; exact htallied.tokens }

theorem filterMap_concat {α β : Type} (f : α → Option β) (l : List α) (a : α) :
    (l ++ [a]).filterMap f = l.filterMap f ++ (f a).toList := by
  rw [List.filterMap_append, List.filterMap_eq_flatMap_toList f [a], List.flatMap_singleton]

/-- A call stays under its number when others come. -/
theorem getElem?_concat_of_some {α : Type} {l : List α} {number : Nat} {a : α}
    (hnumber : l[number]? = some a) (last : α) : (l ++ [last])[number]? = some a := by
  rw [List.getElem?_append_left (List.getElem?_eq_some_iff.mp hnumber).1, hnumber]

/-- How the counters stand once a call has begun. -/
theorem Tallied.counters_receive (htallied : s.Tallied calls) {request : Request} {on : Occasion}
    {begun : Begun} {next : Engine} (hbegun : s.engine.begin request on = (begun, next)) :
    next.counters.decisionsByOrg =
        .tally ((calls ++ [s.engine.callOf request on]).filterMap Call.decision?) ∧
      next.counters.reasons =
        .tally ((calls ++ [s.engine.callOf request on]).filterMap Call.reason?) ∧
      next.counters.quickRejects =
        (calls ++ [s.engine.callOf request on]).countP (!·.admitted) ∧
      next.counters.tokensMinted = s.responses.countP (·.2.token.isSome) ∧
      next.counters.tokensMinted + next.counters.tokenFailures +
          (s.waiting.length + begun.permits) =
        (calls ++ [s.engine.callOf request on]).countP (·.tokenDue) := by
  have hcounters := counters_begin s.engine request on
  rw [hbegun] at hcounters
  dsimp only at hcounters
  have hwaits : begun.permits = 1 → (s.engine.callOf request on).tokenDue = true := fun hone => by
    cases begun with
    | answered response => cases hone
    | waiting pending => exact tokenDue_of_waiting hbegun
  have hfailures := Call.tokenFailures_count (m := s.engine.counters) hwaits
  have htokens := htallied.tokens
  simp only [hcounters, filterMap_concat, List.countP_append, List.countP_singleton]
  refine ⟨Call.decisionsByOrg_count htallied.decisions, Call.reasons_count htallied.reasons, ?_,
    Call.tokensMinted_count.trans htallied.minted, ?_⟩
  · rw [Call.quickRejects_count, htallied.quickRejects]
    cases (s.engine.callOf request on).admitted <;> rfl
  · rw [Call.tokensMinted_count]
    omega

theorem Tallied.receive (htallied : s.Tallied calls) (request : Request) (on : Occasion) :
    (s.receive request on).Tallied (calls ++ [s.engine.callOf request on]) := by
  have htoken := plain_token s.engine request on
  have hkept {number : Nat} {property : Call → Prop}
      (hcall : ∃ call, calls[number]? = some call ∧ property call) :
      ∃ call, (calls ++ [s.engine.callOf request on])[number]? = some call ∧ property call := by
    obtain ⟨call, hnumber, hproperty⟩ := hcall
    exact ⟨call, getElem?_concat_of_some hnumber _, hproperty⟩
  have hnew : (calls ++ [s.engine.callOf request on])[s.calls]? =
      some (s.engine.callOf request on) := by
    rw [htallied.counted, List.getElem?_concat_length]
  have hlength : (calls ++ [s.engine.callOf request on]).length = calls.length + 1 :=
    List.length_append
  have hnumbers : (s.calls :: (s.responses.map (·.1) ++ s.waiting.map (·.1))).Perm
      (List.range (calls.length + 1)) := by
    rw [List.range_succ, htallied.counted]
    exact (htallied.numbers.cons _).trans (List.perm_append_singleton _ _).symm
  cases hbegun : s.engine.begin request on with
  | mk begun next =>
      obtain ⟨hdecisions, hreasons, hquickRejects, hminted, htokens⟩ :=
        htallied.counters_receive hbegun
      have hplain : (s.engine.callOf request on).plain = begun.response := by
        rw [callOf, hbegun]
      cases begun with
      | answered response =>
          rw [receive_of_answered hbegun]
          exact
            { counted := by rw [hlength, ← htallied.counted]
              numbers := by
                rw [hlength, List.map_append, List.append_assoc]
                exact List.perm_middle.trans hnumbers
              answered := fun entry hentry => by
                rcases List.mem_append.mp hentry with hold | hlast
                · exact hkept (htallied.answered entry hold)
                · obtain rfl := List.mem_singleton.mp hlast
                  exact ⟨_, hnew, by rw [hplain]; exact ⟨rfl, rfl⟩⟩
              waiting := fun entry hentry => hkept (htallied.waiting entry hentry)
              decisions := hdecisions
              reasons := hreasons
              quickRejects := hquickRejects
              minted := by
                have hnone : response.token = none :=
                  (congrArg Response.token hplain).symm.trans htoken
                rw [List.countP_append, List.countP_singleton, hnone]
                exact hminted
              tokens := htokens }
      | waiting pending =>
          rw [receive_of_waiting hbegun]
          exact
            { counted := by rw [hlength, ← htallied.counted]
              numbers := by
                rw [hlength, List.map_append, ← List.append_assoc]
                exact (List.perm_append_singleton _ _).trans hnumbers
              answered := fun entry hentry => hkept (htallied.answered entry hentry)
              waiting := fun entry hentry => by
                rcases List.mem_append.mp hentry with hold | hlast
                · exact hkept (htallied.waiting entry hold)
                · obtain rfl := List.mem_singleton.mp hlast
                  exact ⟨_, hnew, hplain.symm, htoken⟩
              decisions := hdecisions
              reasons := hreasons
              quickRejects := hquickRejects
              minted := hminted
              tokens := by
                rw [List.length_append]
                exact htokens }

theorem Tallied.settle (htallied : s.Tallied calls) (call : Nat) (answer : Token.Answer) :
    (s.settle call answer).Tallied calls := by
  rcases settle_cases s call answer with ⟨pending, hmem, hsettled⟩ | ⟨-, hsettled⟩
  · obtain ⟨begun, hnumber, hplain, hnone⟩ := htallied.waiting _ hmem
    have hlength : (s.waiting.eraseP (·.1 == call)).length + 1 = s.waiting.length := by
      rw [List.length_eraseP_of_mem hmem (by simp)]
      exact Nat.succ_pred_eq_of_pos (List.length_pos_of_mem hmem)
    have hnumbers : (call :: (s.waiting.eraseP (·.1 == call)).map (·.1)).Perm
        (s.waiting.map (·.1)) := by
      have herase := List.perm_cons_erase (List.mem_map_of_mem (f := (·.1)) hmem)
      have hsame : (fun number => call == number) ∘ Prod.fst =
          fun entry : Nat × PendingToken => entry.1 == call := funext fun _ => BEq.comm
      rw [List.erase_eq_eraseP, List.eraseP_map, hsame] at herase
      exact herase.symm
    -- the response has the allow and the reason of the call, with a token or without
    have hanswered : (s.engine.finish pending answer).1.allow = begun.plain.allow ∧
        (s.engine.finish pending answer).1.reason = begun.plain.reason := by
      obtain ⟨token, hresponse⟩ := finish_response (e := s.engine) pending answer
      rw [hresponse, hplain]
      exact ⟨rfl, rfl⟩
    have hcounted : ∃ minted, (s.engine.finish pending answer).1.token.isSome = minted ∧
        (s.engine.finish pending answer).2.counters = s.engine.counters.token minted := by
      rcases finish_cases s.engine pending answer with ⟨token, hresponse, hcounters⟩ |
        ⟨hresponse, hcounters⟩
      · exact ⟨true, by rw [hresponse]; rfl, hcounters⟩
      · exact ⟨false, by rw [hresponse, hplain, hnone]; rfl, hcounters⟩
    obtain ⟨minted, hminted, hcounters⟩ := hcounted
    have htokens : (s.engine.counters.token minted).tokensMinted +
        (s.engine.counters.token minted).tokenFailures +
          (s.waiting.eraseP (·.1 == call)).length = calls.countP (·.tokenDue) := by
      rw [Metrics.tokens_token, ← htallied.tokens, ← hlength]
      omega
    rw [hsettled]
    exact
      { counted := htallied.counted
        numbers := by
          refine List.Perm.trans ?_ htallied.numbers
          rw [List.map_append, List.append_assoc]
          exact hnumbers.append_left _
        answered := fun entry hentry => by
          rcases List.mem_append.mp hentry with hold | hlast
          · exact htallied.answered entry hold
          · obtain rfl := List.mem_singleton.mp hlast
            exact ⟨begun, hnumber, hanswered⟩
        waiting := fun entry hentry => htallied.waiting entry (List.mem_of_mem_eraseP hentry)
        decisions := by
          rw [hcounters]
          cases minted <;> exact htallied.decisions
        reasons := by
          rw [hcounters]
          cases minted <;> exact htallied.reasons
        quickRejects := by
          rw [hcounters]
          cases minted <;> exact htallied.quickRejects
        minted := by
          rw [hcounters, List.countP_append, List.countP_singleton, hminted, ← htallied.minted]
          cases minted <;> rfl
        tokens := by
          rw [hcounters]
          exact htokens }
  · rwa [hsettled]

theorem Tallied.undergo (htallied : s.Tallied calls) (happening : Happening) :
    (s.undergo happening).Tallied (calls ++ (s.call? happening).toList) := by
  cases happening with
  | outage outage =>
      rw [call?, Option.toList, List.append_nil]
      exact htallied.of_counters rfl
  | event event =>
      cases event with
      | request request on => exact htallied.receive request on
      | answer call answer =>
          rw [call?, Option.toList, List.append_nil]
          exact htallied.settle call answer
      | chore chore =>
          rw [call?, Option.toList, List.append_nil]
          exact htallied.of_counters
            (congrArg Metrics.withoutDropped (metrics_carryOut s.engine chore))

theorem Tallied.undergoAll (htallied : s.Tallied calls) (happenings : List Happening) :
    (s.undergoAll happenings).Tallied (calls ++ s.callsOf happenings) := by
  induction happenings generalizing s calls with
  | nil => rwa [callsOf, List.append_nil]
  | cons happening rest ih =>
      rw [callsOf, ← List.append_assoc]
      exact ih (htallied.undergo happening)

/-! ## When all calls have been answered -/

/-- When no call waits, every call has been answered once, so that responses are counted by counting
calls. -/
theorem Tallied.countP_responses (htallied : s.Tallied calls) (hcompleted : s.waiting = [])
    (ofResponse : Nat × Response → Bool) (ofCall : Call → Bool)
    (hsame : ∀ entry ∈ s.responses, ∀ call, calls[entry.1]? = some call →
      entry.2.allow = call.plain.allow → entry.2.reason = call.plain.reason →
        ofResponse entry = ofCall call) :
    s.responses.countP ofResponse = calls.countP ofCall := by
  have hnumbers := htallied.numbers
  rw [hcompleted, List.map_nil, List.append_nil] at hnumbers
  have hcalls : (s.responses.map fun entry => calls[entry.1]?).Perm (calls.map some) := by
    have hmapped := hnumbers.map (calls[·]?)
    rw [List.map_map] at hmapped
    have hall : (List.range calls.length).map (calls[·]?) = calls.map some :=
      List.ext_getElem (by simp) fun number _ _ => by simp
    rwa [hall] at hmapped
  calc s.responses.countP ofResponse
      = (s.responses.map fun entry => calls[entry.1]?).countP (·.any ofCall) := by
        rw [List.countP_map]
        refine List.countP_congr fun entry hentry => ?_
        obtain ⟨call, hnumber, hallow, hreason⟩ := htallied.answered entry hentry
        rw [Function.comp_apply, hnumber, hsame entry hentry call hnumber hallow hreason]
        rfl
    _ = (calls.map some).countP (·.any ofCall) := hcalls.countP_eq _
    _ = calls.countP ofCall := by
        rw [List.countP_map]
        rfl

/-- The counters of an engine that has begun with none tell the responses once no call waits, in
whatever order calls have come and ended, and whoever has been out of reach meanwhile. Every call
has one response. As many calls are counted as rejected as have been turned away. For every
organisation and outcome there is the number of its responses with this outcome that have not been
turned away, so that all outcomes and the rejected calls together are all calls; for every outcome
and every reason that is not empty there is the number of such responses. As many tokens are counted
as responses have one, and with the failures there are as many as calls that have asked for a token
and have been evaluated. -/
theorem counters_tell_responses (e : Engine) (happenings : List Happening)
    (hfresh : e.metrics = {}) (hcompleted : ((start e).undergoAll happenings).waiting = []) :
    let s := (start e).undergoAll happenings
    let calls := (start e).callsOf happenings
    let m := s.engine.metrics
    s.calls = calls.length ∧ (s.responses.map (·.1)).Perm (List.range s.calls) ∧
    m.quickRejects = calls.countP (!·.admitted) ∧
    (∀ org allow, m.decisionsByOrg.count org.text (outcomeName allow) =
      s.responses.countP fun (number, response) => response.allow == allow &&
        calls[number]?.any fun call => call.admitted && call.request.orgId == org) ∧
    m.total (outcomeName true) + m.total (outcomeName false) + m.quickRejects = s.calls ∧
    (∀ allow reason, reason ≠ "" → m.reasonCount (outcomeName allow) reason =
      s.responses.countP fun (number, response) => response.allow == allow &&
        response.reason == reason && calls[number]?.any fun call => call.admitted) ∧
    m.tokensMinted = s.responses.countP (·.2.token.isSome) ∧
    m.tokensMinted + m.tokenFailures = calls.countP fun call =>
      call.admitted && call.evaluated && call.request.includeTrustToken := by
  intro s calls m
  have htallied : s.Tallied calls := (Tallied.start hfresh).undergoAll happenings
  have hnumbers := htallied.numbers
  have htokens := htallied.tokens
  rw [hcompleted, List.map_nil, List.append_nil] at hnumbers
  rw [hcompleted, List.length_nil, Nat.add_zero] at htokens
  refine ⟨htallied.counted, by rwa [htallied.counted], htallied.quickRejects, fun org allow => ?_,
    ?_, fun allow reason hreason => ?_, htallied.minted, htokens⟩
  · have hdecisions : m.decisionsByOrg = _ := htallied.decisions
    rw [hdecisions, Counts.count_tally, List.count_filterMap]
    refine (htallied.countP_responses hcompleted _ _ ?_).symm
    rintro ⟨number, response⟩ - call hnumber hallow -
    dsimp only at hnumber hallow ⊢
    rw [Bool.eq_iff_iff, beq_iff_eq, Call.decision?_eq_some_iff, hnumber, hallow]
    simp
  · rw [Metrics.total_eq, Metrics.total_eq, show m.decisionsByOrg = _ from htallied.decisions,
      Counts.total_tally, Counts.total_tally, show m.quickRejects = _ from htallied.quickRejects,
      Call.total_decisions]
    exact htallied.counted.symm
  · have hreasons : m.reasons = _ := htallied.reasons
    rw [Metrics.reasonCount_eq, hreasons, Counts.count_tally, List.count_filterMap]
    refine (htallied.countP_responses hcompleted _ _ ?_).symm
    rintro ⟨number, response⟩ - call hnumber hallow hsame
    dsimp only at hnumber hallow hsame ⊢
    rw [Bool.eq_iff_iff, beq_iff_eq, Call.reason?_eq_some_iff hreason, hnumber, hallow, hsame]
    simp

/-- A call is answered with a token while another one is turned away; then nobody tells the
assignments, and a third one is denied. -/
def troubledRun : List Happening :=
  [.event asking, .event (.request { orgId := ⟨9⟩ } default),
    .event (.answer 0 (.signature [1])), .outage ⟨[.activeAssignments], false, none⟩,
    .event asking]

/-- Of the three calls one is counted as rejected, and of the two that have asked for a token one as
having got it and none as a failure, since the other has not been evaluated. -/
theorem troubled_run_counted :
    narrowEngine.metrics = {} ∧
    ((start narrowEngine).undergoAll troubledRun).waiting = [] ∧
    ((start narrowEngine).undergoAll troubledRun).engine.metrics.quickRejects = 1 ∧
    ((start narrowEngine).undergoAll troubledRun).engine.metrics.tokensMinted = 1 ∧
    ((start narrowEngine).undergoAll troubledRun).engine.metrics.tokensMinted +
      ((start narrowEngine).undergoAll troubledRun).engine.metrics.tokenFailures = 1 := by
  have hrun : ((start narrowEngine).undergoAll troubledRun).waiting = [] ∧
      ((start narrowEngine).undergoAll troubledRun).responses.countP (·.2.token.isSome) = 1 ∧
      ((start narrowEngine).callsOf troubledRun).countP (!·.admitted) = 1 ∧
      ((start narrowEngine).callsOf troubledRun).countP (fun call =>
        call.admitted && call.evaluated && call.request.includeTrustToken) = 1 := by
    decide +kernel
  obtain ⟨hcompleted, hgiven, hturned, hasked⟩ := hrun
  obtain ⟨-, -, hrejected, -, -, -, hminted, hdue⟩ :=
    counters_tell_responses narrowEngine troubledRun rfl hcompleted
  exact ⟨rfl, hcompleted, hrejected.trans hturned, hminted.trans hgiven, hdue.trans hasked⟩

end Service

end Mandate
