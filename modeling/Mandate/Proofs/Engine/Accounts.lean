import Mandate.Proofs.Engine.Visits
import Mandate.Proofs.Token.ReadBack

/-! # The accounts of a decision agree

A decision is told of in several places: in the response with its trace, in the trace that is kept,
in the record of the ledger, and in the token. Each of them is put together elsewhere, after the
version may have been replaced by one that is rolled out and after the context has been completed.
All of them tell of one and the same evaluation.
-/

namespace Mandate

open Mandate.Json Evaluation

/-- What every account of a decision tells of it. -/
structure Account where
  traceId : String
  policyId : String
  policyVersion : Nat
  allow : Bool
  reason : String
  deriving DecidableEq, Repr

/-- What a response tells together with its trace. -/
def Response.account (response : Response) (shown : Trace) : Account where
  traceId := response.traceId
  policyId := shown.policyId.text
  policyVersion := shown.policyVersion
  allow := response.allow
  reason := response.reason

/-- What a trace that is kept tells. -/
def TraceRecord.account (record : TraceRecord) : Account where
  traceId := record.traceId
  policyId := record.trace.policyId.text
  policyVersion := record.trace.policyVersion
  allow := record.allow
  reason := record.reason

/-- What the claims of a token tell. -/
def Token.Claims.account (claims : Token.Claims) : Account where
  traceId := claims.traceId
  policyId := claims.policyId
  policyVersion := claims.policyVersion
  allow := claims.allow
  reason := claims.reason

/-- The record is one of a decision, and its payload tells of it. -/
structure AuditRecord.Tells (record : AuditRecord) (account : Account) : Prop where
  action : record.action = .decisionTraceRecorded
  traceId : record.payload.get? "trace_id" = some (.string account.traceId)
  policyId : record.payload.get? "policy_id" = some (.string account.policyId)
  policyVersion : record.payload.get? "version" = some (.nat account.policyVersion)
  allow : record.payload.get? "allow" = some (.bool account.allow)
  reason : record.payload.get? "reason" = some (.string account.reason)

/-- The trace and the record that a task is to write about a decision. -/
def BackgroundTask.kept? : BackgroundTask → Option (TraceRecord × AuditRecord)
  | .recordEvent _ => none
  | .lowerReputation .. => none
  | .keepTrace record event => some (record, event)

/-- Claims that are read from a token tell of a decision on a request and of the context on which
it was made. -/
structure Token.Tells (token : String) (request : Request) (account : Account) (context : Value)
    (claims : Token.Claims) : Prop where
  decoded : Token.decodeClaims token = .ok claims
  orgId : claims.orgId = request.orgId.text
  agentId : claims.agentId = request.agentId.getD ""
  account : claims.account = account
  /-- The digest is that of the bytes of the canonical text. -/
  contextHash : claims.contextHash =
    Text.Base64Url.encode (Crypto.sha256 (Text.utf8 context.canonicalText))

/-! ## What is told along a passage -/

namespace Evaluation.Passage

variable {c : Collaborators} {config : Config} {request : Request} {on : Occasion}
  {start : Progress}

/-- What there is to tell of the evaluation to which a passage leads: the policy that was chosen,
the version that was evaluated, and the decision. -/
def account (passage : Passage c config request on start) : Account where
  traceId := passage.decision.traceId
  policyId := passage.selected.policy.id.text
  policyVersion := passage.version.version
  allow := passage.decision.allow
  reason := passage.decision.reason

/-- The trace of an evaluation, as it is shown and kept. -/
def shown (passage : Passage c config request on start) (trace : Trace) : Trace :=
  trace.filledIn request passage.selected.policy.id passage.version.version

/-- The trace of the evaluation is what its explanation shows. -/
theorem explain_trace {passage : Passage c config request on start} {trace : Trace}
    (htrace : passage.decision.trace = some trace) :
    (Engine.explain request passage.evaluated).trace = some (passage.shown trace) := by
  rw [Engine.explain_trace_eq]
  exact congrArg (Option.map _) htrace

/-- A rule set shows the context on which it was evaluated. -/
theorem inputContext_of_rules {passage : Passage c config request on start} {trace : Trace}
    (htrace : passage.decision.trace = some trace)
    (hrules : passage.evaluator = Rules.evaluator) :
    trace.inputContext = passage.evaluated.context := by
  have hevaluates := passage.evaluates
  rw [hrules] at hevaluates
  cases hartifact : passage.artifact with
  | rules set =>
      rw [hartifact] at hevaluates
      have hdecision : set.evaluate passage.evaluated.context on.timing = passage.decision :=
        Except.ok.inj hevaluates
      rw [← hdecision, Rules.RuleSet.evaluate] at htrace
      dsimp only at htrace
      split at htrace
      all_goals
        obtain rfl := Option.some.inj htrace
        rfl
  | foreign tag content =>
      rw [hartifact] at hevaluates
      cases hevaluates

end Evaluation.Passage

namespace Engine

variable {e : Engine} {c : Collaborators} {request : Request} {on : Occasion}

/-- Along a passage the response shows its evaluation; the token may be added to it. -/
theorem decideWith_response_of_passage (hadmits : e.admits = true)
    (passage : Passage c e.config request on (e.entering request on)) (stamps : Nat → Stamp) :
    ∃ token, (e.decideWith c request on stamps).1 =
      { Response.ofDecision (explain request passage.evaluated) with token } := by
  have hpasses := passes_evaluate_iff.mpr ⟨passage, rfl, rfl⟩
  rw [← verdict_of_passes hadmits hpasses]
  exact decideWith_response e c request on stamps

/-- What is submitted when the decision has a trace: at most some notes and the lowering of a
reputation, and then the task that keeps the trace. -/
theorem filterMap_kept?_followingTasks
    {passage : Passage c e.config request on (e.entering request on)} {trace : Trace}
    (htrace : passage.decision.trace = some trace) :
    (e.followingTasks request (.ok passage.evaluated)).filterMap (·.kept?) =
      if e.traces.isPresent || e.lifecycle.audit.isPresent then
        [({ traceId := passage.decision.traceId, orgId := request.orgId, agentId := request.agent,
            allow := passage.decision.allow, reason := passage.decision.reason,
            trace := passage.shown trace },
          decisionEvent request passage.selected.policy.id passage.version.version
            passage.decision)]
      else [] := by
  have hlowered : ∀ decision signals,
      (e.violationTasks request decision signals).filterMap (·.kept?) = [] := by
    intro decision signals
    unfold violationTasks
    split <;> rfl
  rw [followingTasks, List.filterMap_append, hlowered, List.nil_append, traceTasks,
    Passage.explain_trace htrace]
  dsimp only
  split <;> rfl

/-- Whatever sinks there are, notes of the evaluation are submitted first and then what follows
from its end. -/
theorem submits_following (hadmits : e.admits = true) (c : Collaborators) (request : Request)
    (on : Occasion) (stamps : Nat → Stamp) :
    ∃ notes : List AuditRecord, e.Submits c request on stamps (notes.map .recordEvent ++
      e.followingTasks request (evaluate c e.config request on (e.entering request on)).1) := by
  cases hpresent : e.lifecycle.audit.isPresent with
  | true => exact ⟨_, submits_submissions hadmits hpresent stamps⟩
  | false =>
      refine ⟨[], .of_submitted (fun pool => ?_) stamps⟩
      have habsorbed := submitted_absorb_of_absent { e with background := pool } on.clock
        (evaluate c e.config request on (e.entering request on)).2 hpresent
      have hfollowing : e.followingTasks request
          (evaluate c e.config request on (e.entering request on)).1 =
            ({ e with background := pool } : Engine).followingTasks request
              (evaluate c e.config request on (e.entering request on)).1 := rfl
      rw [beginWith_of_admits (show ({ e with background := pool } : Engine).admits = true from
        hadmits), hfollowing, ← habsorbed.followingTasks_eq]
      exact habsorbed.trans (submitted_conclude _ _)

/-! ## The token -/

/-- The claims that are issued along a passage. -/
def issued (e : Engine) (passage : Passage c e.config request on (e.entering request on)) :
    Token.Claims :=
  Token.Claims.issue
    (tokenSubject request passage.evaluated (.ofDecision (explain request passage.evaluated)))
    (Digest.contextHash passage.evaluated.context) e.config.trustTokenTtlSecs on.time on.id

/-- Along a passage a request for a token leaves the claims with the signer, if there is one. -/
theorem beginWith_of_passage {signer : Token.Signer} (hadmits : e.admits = true)
    (passage : Passage c e.config request on (e.entering request on))
    (hrequested : request.includeTrustToken = true) (hsigner : e.signer = some signer) :
    (e.beginWith c request on).1 =
      .waiting ⟨.ofDecision (explain request passage.evaluated),
        Token.unsigned signer.algorithm signer.keyId (e.issued passage)⟩ := by
  have hpasses := passes_evaluate_iff.mpr ⟨passage, rfl, rfl⟩
  have habsorbed : e.SameSigner (e.absorb on.clock passage.final) :=
    SameSigner.trans ⟨rfl, rfl⟩ (untouched_absorb e on.clock passage.final).sameSigner
  have hremembered := (untouched_remember e request passage.evaluated).sameSigner
  rw [beginWith_of_admits hadmits, hpasses, habsorbed.conclude_eq, conclude]
  rw [hremembered.requestToken_eq, requestToken, hrequested, hsigner]
  rfl

/-- The end of a lifetime is a second that a token can name. -/
theorem issued_fits {passage : Passage c e.config request on (e.entering request on)}
    (hversion : passage.version.version ≤ 0xffffffff) (htime : lowestInt ≤ on.time.seconds) :
    (e.issued passage).Fits where
  version := hversion
  lowest := by
    change lowestInt ≤ Token.expiry on.time e.config.trustTokenTtlSecs
    unfold Token.expiry Token.lastSecond
    unfold lowestInt at *
    unfold highestInt
    omega
  highest := by
    change Token.expiry on.time e.config.trustTokenTtlSecs ≤ highestInt
    unfold Token.expiry Token.lastSecond
    omega

/-- The token that a signature makes tells of the decision. -/
theorem tells_of_signature {passage : Passage c e.config request on (e.entering request on)}
    (hversion : passage.version.version ≤ 0xffffffff) (htime : lowestInt ≤ on.time.seconds)
    (signer : Token.Signer) {bytes : List UInt8} (hbytes : bytes ≠ []) :
    Token.Tells (Token.unsigned signer.algorithm signer.keyId (e.issued passage) ++ "." ++
      Text.Base64Url.encode bytes) request passage.account passage.evaluated.context
        (e.issued passage) where
  decoded := by
    have hcomplete : Token.complete
        (Token.unsigned signer.algorithm signer.keyId (e.issued passage)) e.config.signerTimeoutMs
          (.signature bytes) = .ok _ := rfl
    exact Token.decodeClaims_of_complete (issued_fits hversion htime) hbytes hcomplete
  orgId := rfl
  agentId := rfl
  account := rfl
  contextHash := rfl

/-- The decision of a signer that has been turned to ends with its answer. -/
theorem decideWith_of_signature {signer : Token.Signer} {pending : PendingToken}
    {bytes : List UInt8} (hsigner : e.signer = some signer)
    (hbegun : (e.beginWith c request on).1 = .waiting pending)
    (hsigned : signer.sign (Text.utf8 pending.unsigned) = .signature bytes)
    (stamps : Nat → Stamp) :
    (e.decideWith c request on stamps).1 =
      ((e.beginWith c request on).2.finish pending (.signature bytes)).1 := by
  have hsame : (e.beginWith c request on).2.signer = some signer :=
    (sameSigner_beginWith e c request on).2.trans hsigner
  unfold decideWith
  split
  next heq =>
    rw [heq] at hbegun
    cases hbegun
  next heq =>
    rw [heq] at hbegun hsame
    cases hbegun
    dsimp only
    rw [hsame, heq]
    dsimp only
    rw [hsigned]

/-! ## All accounts -/

/-- The response to a request that comes to an evaluation with a trace, the trace that is kept, the
record in the ledger and the token tell the same of it: which version of which policy was
evaluated, after one that is rolled out has been put in its place, for whom, and what was decided.
The trace and the record are submitted if there is a place for either, and else neither is. The
token says besides on which context the version was evaluated, and it can be read whatever happens
while the signer is at work. A token has 32 bits for a version and 64 for a second. -/
theorem accounts_agree {trace : Trace} (hadmits : e.admits = true)
    (passage : Passage c e.config request on (e.entering request on))
    (htrace : passage.decision.trace = some trace) (stamps : Nat → Stamp) :
    ∃ response, (e.decideWith c request on stamps).1 = response ∧
      response.trace = some (passage.shown trace) ∧
      response.account (passage.shown trace) = passage.account ∧
      (passage.evaluator = Rules.evaluator →
        (passage.shown trace).inputContext = passage.evaluated.context) ∧
      (∃ tasks, e.Submits c request on stamps tasks ∧
        if e.traces.isPresent || e.lifecycle.audit.isPresent then
          ∃ record event, tasks.filterMap (·.kept?) = [(record, event)] ∧
            record.orgId = request.orgId ∧ record.agentId = request.agentId.getD "" ∧
            record.trace = passage.shown trace ∧ record.account = passage.account ∧
            event.orgId = request.orgId ∧ event.Tells passage.account
        else tasks.filterMap (·.kept?) = []) ∧
      (request.includeTrustToken = true → ∀ signer, e.signer = some signer →
        passage.version.version ≤ 0xffffffff → lowestInt ≤ on.time.seconds →
        ∃ pending, (e.beginWith c request on).1 = .waiting pending ∧
          ∀ bytes, bytes ≠ [] → ∃ token claims,
            Token.Tells token request passage.account passage.evaluated.context claims ∧
            (∀ later : Engine, (later.finish pending (.signature bytes)).1 =
              { response with token := some token }) ∧
            (signer.sign (Text.utf8 pending.unsigned) = .signature bytes →
              response.token = some token)) := by
  obtain ⟨token, hresponse⟩ := decideWith_response_of_passage hadmits passage stamps
  have hinput : passage.evaluator = Rules.evaluator →
      trace.inputContext = passage.evaluated.context := Passage.inputContext_of_rules htrace
  refine ⟨_, hresponse, Passage.explain_trace htrace, rfl, hinput, ?_, ?_⟩
  · obtain ⟨notes, hsubmits⟩ := submits_following hadmits c request on stamps
    refine ⟨_, hsubmits, ?_⟩
    have hnotes : (notes.map BackgroundTask.recordEvent).filterMap (·.kept?) = [] := by
      simp [List.filterMap_map, BackgroundTask.kept?]
    have hpasses := passes_evaluate_iff.mpr ⟨passage, rfl, rfl⟩
    rw [hpasses, List.filterMap_append, hnotes, List.nil_append,
      filterMap_kept?_followingTasks htrace]
    split
    · exact ⟨_, _, rfl, rfl, rfl, rfl, rfl, rfl, ⟨rfl, rfl, rfl, rfl, rfl, rfl⟩⟩
    · rfl
  · intro hrequested signer hsigner hversion htime
    have hbegun := beginWith_of_passage hadmits passage hrequested hsigner
    refine ⟨_, hbegun, fun bytes hbytes => ⟨_, e.issued passage,
      tells_of_signature hversion htime signer hbytes, fun later => rfl, fun hsigned => ?_⟩⟩
    have hended := decideWith_of_signature hsigner hbegun hsigned stamps
    rw [hresponse] at hended
    exact congrArg Response.token hended

/-- An engine with a policy of which a second version is rolled out to everybody, with sinks for
traces and for records, and with a signer that answers always the same. -/
def tellingEngine : Engine :=
  let allowing : Value := .object [("rules", .array [.object [("effect", .string "allow")]])]
  { (Engine.start {}
      { repository :=
          { policies := [{ id := ⟨1⟩, orgId := ⟨2⟩, name := "p", engine := Rules.engineName,
                           createdBy := none, createdAt := default }]
            versions := [{ PolicyVersion.draft ⟨1⟩ 1 .null none default with status := .active },
                         PolicyVersion.draft ⟨1⟩ 2 allowing none default]
            assignments := [⟨⟨1⟩, .org, (⟨2⟩ : Uuid).text, default⟩]
            rollouts := [⟨⟨2⟩, ⟨1⟩, 2, 100, true, default⟩] }
        audit := .memory {} }
      {}) with
    signer := some ⟨"EdDSA", "k", fun _ => .signature [1]⟩
    traces := .memory [] }

/-- A request that asks for a token, from a caller with a certificate. -/
def vouched : Request where
  orgId := ⟨2⟩
  agentId := some "a"
  includeTrustToken := true
  principal := { authnKind := some "mtls", certFingerprint := some "f" }

/-- The version that is rolled out is evaluated, and all accounts tell of it and of the caller. -/
theorem rolled_out_version_told :
    tellingEngine.admits = true ∧
    ∃ passage : Passage (tellingEngine.collaborators 0) tellingEngine.config vouched default
        (tellingEngine.entering vouched default),
      passage.version.version = 2 ∧
      ∃ response shown, (tellingEngine.decide vouched default fun _ => default).1 = response ∧
        response.trace = some shown ∧ response.account shown = passage.account ∧
        shown.principal = some
          { orgId := (⟨2⟩ : Uuid).text, agentId := "a", spiffeId := none,
            authnKind := some "mtls", certFingerprint := some "f" } ∧
        (∃ tasks record event,
          tellingEngine.Submits (tellingEngine.collaborators 0) vouched default
            (fun _ => default) tasks ∧
          tasks.filterMap (·.kept?) = [(record, event)] ∧ record.trace = shown ∧
          record.account = passage.account ∧ event.orgId = ⟨2⟩ ∧ event.Tells passage.account) ∧
        ∃ token claims, response.token = some token ∧
          Token.Tells token vouched passage.account passage.evaluated.context claims := by
  have hdecided : (tellingEngine.decide vouched default fun _ => default).1.allow = true ∧
      (tellingEngine.decide vouched default fun _ => default).1.trace.map (·.policyVersion) =
        some 2 := by
    decide +kernel
  rw [Engine.decide, decideWith_allow_iff_passage] at hdecided
  obtain ⟨⟨hadmits, passage, -⟩, hshown⟩ := hdecided
  obtain ⟨token, hresponse⟩ := decideWith_response_of_passage hadmits passage fun _ => default
  rw [hresponse] at hshown
  obtain ⟨shown, hmapped, hversion⟩ := Option.map_eq_some_iff.mp hshown
  obtain ⟨trace, htrace, rfl⟩ := Option.map_eq_some_iff.mp hmapped
  have hversion : passage.version.version = 2 := hversion
  obtain ⟨response, hresponse, hshown, haccount, -, ⟨tasks, hsubmits, hkept⟩, htoken⟩ :=
    accounts_agree hadmits passage htrace fun _ => default
  obtain ⟨record, event, htasks, -, -, htraced, hrecord, horg, htells⟩ := hkept
  obtain ⟨pending, -, hsigned⟩ := htoken rfl _ rfl (by rw [hversion]; decide) (by decide)
  obtain ⟨token, claims, htold, -, htaken⟩ := hsigned [1] (List.cons_ne_nil _ _)
  exact ⟨hadmits, passage, hversion, response, passage.shown trace, hresponse, hshown, haccount,
    rfl, ⟨tasks, record, event, hsubmits, htasks, htraced, hrecord, horg, htells⟩, token, claims,
    htaken rfl, htold⟩

end Engine

end Mandate
