import Mandate.Proofs.Time.Timestamp
import Mandate.Proofs.Token.ReadBack
import Mandate.Records

/-! # Records come back from what is written of them

Every type whose values are stored or exchanged, field by field: what a field is read with undoes
what it is written with, and what may be left out is what the reader puts in its place. A part is
read by the reader of the part's own type, so an empty part that is written, such as a caller of
whom nothing is known, stays apart from a part that is not there.

Values are taken to be such as a record can hold: counts fit the words that hold them, embedded
documents have their members in key order, and times are read back as they are written.
-/

namespace Mandate

open Mandate.Json Mandate.Time

/-- The time is read back as it was written. -/
def Time.Timestamp.ReadsBack (t : Timestamp) : Prop := Timestamp.ofText? t.text = some t

theorem Time.Timestamp.Valid.readsBack {t : Timestamp} (hvalid : t.Valid) : t.ReadsBack :=
  hvalid.ofText?_text

/-! ## Decisions and their traces -/

theorem PrincipalTrace.reads (p : PrincipalTrace) : PrincipalTrace.decode.Reads p.json p :=
  .record <|
    .bind (.text (by simp)) <|
    .bind (.text (by simp)) <|
    .bind (.optionalText (by simp)) <|
    .bind (.optionalText (by simp)) <|
    .bind (.optionalText (by simp)) .pure

theorem PrincipalTrace.legible (p : PrincipalTrace) : p.json.Legible 1 := by
  simp [PrincipalTrace.json]

theorem RuleTrace.reads (r : RuleTrace) : RuleTrace.decode.Reads r.json r :=
  .record <|
    .bind (.required (.string r.ruleId) (by simp)) <|
    .bind (.required (.bool r.matched) (by simp)) <|
    .bind (.required (.string r.effect) (by simp)) <|
    .bind (.optionalText (by simp)) .pure

theorem RuleTrace.legible (r : RuleTrace) : r.json.Legible 1 := by
  simp [RuleTrace.json]

structure Trace.Fits (t : Trace) : Prop where
  policyVersion : t.policyVersion < 2 ^ 32
  inputContext : t.inputContext.sorted = t.inputContext
  durationMs : t.timing.durationMs < 2 ^ 64
  time : t.timing.time.ReadsBack

theorem Trace.Fits.reads {t : Trace} (hfits : t.Fits) : Trace.decode.Reads t.json t :=
  .record <|
    .bind (.required (.uuid t.policyId) (by simp)) <|
    .bind (.required (.unsigned hfits.policyVersion) (by simp)) <|
    .bind (.optional (fun p _ => p.reads) (fun _ => nofun) (by simp)) <|
    .bind (.required (.list fun r _ => r.reads) (by simp)) <|
    .bind (.withDefault (.document hfits.inputContext) (by simp)) <|
    .bind (.required (.unsigned hfits.durationMs) (by simp)) <|
    .bind (.required (.time hfits.time) (by simp)) <|
    .bind (.required (.string t.engine) (by simp)) <|
    .bind (.list (fun s _ => .string s) (by simp)) .pure

theorem Trace.Fits.legible {t : Trace} (hfits : t.Fits) {depth : Nat}
    (hcontext : t.inputContext.Legible depth) (hdepth : 2 ≤ depth) : t.json.Legible (depth + 1) := by
  have hcaller : ∀ p ∈ t.principal, p.json.Legible depth := fun p _ => p.legible.mono (by omega)
  have hrules : ∀ r ∈ t.evaluatedRules, r.json.Legible (depth - 1) :=
    fun r _ => r.legible.mono (by omega)
  have hvalidations : Members.Legible depth (listField "validations" t.validations .string) :=
    Members.legible_listField (by omega) fun s _ => Value.legible_string s
  have hpositive : 0 < depth := by omega
  simpa [Trace.json, hcontext, hvalidations, hpositive,
    Value.legible_nat (by decide) hfits.policyVersion,
    Value.legible_nat (by decide) hfits.durationMs] using ⟨hcaller, hrules⟩

/-- The trace of the decision, if it has one, fits. -/
def Decision.Fits (d : Decision) : Prop := ∀ t ∈ d.trace, t.Fits

theorem Decision.Fits.reads {d : Decision} (hfits : d.Fits) : Decision.decode.Reads d.json d :=
  .record <|
    .bind (.required (.bool d.allow) (by simp)) <|
    .bind (.text (by simp)) <|
    .bind (.text (by simp)) <|
    .bind (.optional (fun t ht => (hfits t ht).reads) (fun _ => nofun) (by simp)) <|
    .bind (.flag (by simp)) <|
    .bind (.list (fun s _ => .string s) (by simp)) .pure

theorem Decision.Fits.legible {d : Decision} (hfits : d.Fits) {depth : Nat}
    (hcontext : ∀ t ∈ d.trace, t.inputContext.Legible depth) (hdepth : 2 ≤ depth) :
    d.json.Legible (depth + 2) := by
  have htrace : ∀ t ∈ d.trace, t.json.Legible (depth + 1) :=
    fun t ht => (hfits t ht).legible (hcontext t ht) hdepth
  have hhints : Members.Legible (depth + 1) (listField "hints" d.hints .string) :=
    Members.legible_listField (by omega) fun s _ => Value.legible_string s
  simpa [Decision.json, hhints] using htrace

/-! ## Policies -/

theorem Policy.reads (p : Policy) (htime : p.createdAt.ReadsBack) :
    Policy.decode.Reads p.json p :=
  .record <|
    .bind (.required (.uuid p.id) (by simp)) <|
    .bind (.required (.uuid p.orgId) (by simp)) <|
    .bind (.required (.string p.name) (by simp)) <|
    .bind (.required (.string p.engine) (by simp)) <|
    .bind (.optionalUuid (by simp)) <|
    .bind (.required (.time htime) (by simp)) .pure

theorem Policy.legible (p : Policy) : p.json.Legible 1 := by
  simp [Policy.json]

theorem VersionStatus.reads (s : VersionStatus) : VersionStatus.decode.Reads s.json s :=
  .name (VersionStatus.ofName?_name s)

structure PolicyVersion.Fits (v : PolicyVersion) : Prop where
  version : v.version < 2 ^ 32
  body : v.body.sorted = v.body
  createdAt : v.createdAt.ReadsBack
  approvedAt : ∀ t ∈ v.approvedAt, t.ReadsBack
  activatedAt : ∀ t ∈ v.activatedAt, t.ReadsBack

theorem PolicyVersion.Fits.reads {v : PolicyVersion} (hfits : v.Fits) :
    PolicyVersion.decode.Reads v.json v :=
  .record <|
    .bind (.required (.uuid v.policyId) (by simp)) <|
    .bind (.required (.unsigned hfits.version) (by simp)) <|
    .bind (.required (.document hfits.body) (by simp)) <|
    .bind (.required (.string v.checksum) (by simp)) <|
    .bind (.required v.status.reads (by simp)) <|
    .bind (.optionalUuid (by simp)) <|
    .bind (.required (.time hfits.createdAt) (by simp)) <|
    .bind (.optionalUuid (by simp)) <|
    .bind (.optional (fun t ht => .time (hfits.approvedAt t ht)) (fun _ => nofun) (by simp)) <|
    .bind (.optional (fun t ht => .time (hfits.activatedAt t ht)) (fun _ => nofun) (by simp)) .pure

theorem PolicyVersion.Fits.legible {v : PolicyVersion} (hfits : v.Fits) {depth : Nat}
    (hbody : v.body.Legible depth) : v.json.Legible (depth + 1) := by
  simp [PolicyVersion.json, VersionStatus.json, hbody,
    Value.legible_nat (by decide) hfits.version]

structure PolicyApproval.Fits (a : PolicyApproval) : Prop where
  version : a.version < 2 ^ 32
  approvedAt : a.approvedAt.ReadsBack

theorem PolicyApproval.Fits.reads {a : PolicyApproval} (hfits : a.Fits) :
    PolicyApproval.decode.Reads a.json a :=
  .record <|
    .bind (.required (.uuid a.policyId) (by simp)) <|
    .bind (.required (.unsigned hfits.version) (by simp)) <|
    .bind (.required (.uuid a.userId) (by simp)) <|
    .bind (.required (.time hfits.approvedAt) (by simp)) .pure

theorem PolicyApproval.Fits.legible {a : PolicyApproval} (hfits : a.Fits) : a.json.Legible 1 := by
  simp [PolicyApproval.json, Value.legible_nat (by decide) hfits.version]

theorem ScopeType.reads (s : ScopeType) : ScopeType.decode.Reads s.json s :=
  .name (ScopeType.ofName?_name s)

theorem PolicyAssignment.reads (a : PolicyAssignment) (htime : a.createdAt.ReadsBack) :
    PolicyAssignment.decode.Reads a.json a :=
  .record <|
    .bind (.required (.uuid a.policyId) (by simp)) <|
    .bind (.required a.scopeType.reads (by simp)) <|
    .bind (.required (.string a.scopeId) (by simp)) <|
    .bind (.required (.time htime) (by simp)) .pure

theorem PolicyAssignment.legible (a : PolicyAssignment) : a.json.Legible 1 := by
  simp [PolicyAssignment.json, ScopeType.json]

structure PolicyRollout.Fits (r : PolicyRollout) : Prop where
  version : r.version < 2 ^ 32
  percent : r.percent < 2 ^ 8
  createdAt : r.createdAt.ReadsBack

theorem PolicyRollout.Fits.reads {r : PolicyRollout} (hfits : r.Fits) :
    PolicyRollout.decode.Reads r.json r :=
  .record <|
    .bind (.required (.uuid r.orgId) (by simp)) <|
    .bind (.required (.uuid r.policyId) (by simp)) <|
    .bind (.required (.unsigned hfits.version) (by simp)) <|
    .bind (.required (.unsigned hfits.percent) (by simp)) <|
    .bind (.required (.bool r.active) (by simp)) <|
    .bind (.required (.time hfits.createdAt) (by simp)) .pure

theorem PolicyRollout.Fits.legible {r : PolicyRollout} (hfits : r.Fits) : r.json.Legible 1 := by
  simp [PolicyRollout.json, Value.legible_nat (by decide) hfits.version,
    Value.legible_nat (by decide) hfits.percent]

structure ApprovalOutcome.Fits (o : ApprovalOutcome) : Prop where
  version : o.version < 2 ^ 32
  approvals : o.approvals < 2 ^ 64

theorem ApprovalOutcome.Fits.reads {o : ApprovalOutcome} (hfits : o.Fits) :
    ApprovalOutcome.decode.Reads o.json o :=
  .record <|
    .bind (.required (.uuid o.policyId) (by simp)) <|
    .bind (.required (.unsigned hfits.version) (by simp)) <|
    .bind (.required (.unsigned hfits.approvals) (by simp)) <|
    .bind (.required (.bool o.approved) (by simp)) .pure

theorem ApprovalOutcome.Fits.legible {o : ApprovalOutcome} (hfits : o.Fits) :
    o.json.Legible 1 := by
  simp [ApprovalOutcome.json, Value.legible_nat (by decide) hfits.version,
    Value.legible_nat (by decide) hfits.approvals]

/-! ## What is recorded -/

theorem AuditAction.reads (a : AuditAction) : AuditAction.decode.Reads a.json a :=
  .name (AuditAction.ofName?_name a)

structure LedgerEntry.Fits (e : LedgerEntry) : Prop where
  seq : e.seq < 2 ^ 64
  timestamp : e.timestamp.ReadsBack
  payload : e.payload.sorted = e.payload

theorem LedgerEntry.Fits.reads {e : LedgerEntry} (hfits : e.Fits) :
    LedgerEntry.decode.Reads e.json e :=
  .record <|
    .bind (.required (.uuid e.entryId) (by simp)) <|
    .bind (.required (.uuid e.orgId) (by simp)) <|
    .bind (.required (.unsigned hfits.seq) (by simp)) <|
    .bind (.required (.time hfits.timestamp) (by simp)) <|
    .bind (.required e.action.reads (by simp)) <|
    .bind (.optionalUuid (by simp)) <|
    .bind (.optionalText (by simp)) <|
    .bind (.withDefault (.document hfits.payload) (by simp)) <|
    .bind (.named (fun s _ => .string s) (fun _ => nofun) (by simp)) .pure

theorem LedgerEntry.Fits.legible {e : LedgerEntry} (hfits : e.Fits) {depth : Nat}
    (hpayload : e.payload.Legible depth) : e.json.Legible (depth + 1) := by
  have hhash : ((e.previousHash.map Value.string).getD .null).Legible depth := by
    cases e.previousHash <;> simp
  simp [LedgerEntry.json, AuditAction.json, hpayload, hhash,
    Value.legible_nat (by decide) hfits.seq]

theorem TraceRecord.reads (r : TraceRecord) (hfits : r.trace.Fits) :
    TraceRecord.decode.Reads r.json r :=
  .record <|
    .bind (.required (.string r.traceId) (by simp)) <|
    .bind (.required (.uuid r.orgId) (by simp)) <|
    .bind (.text (by simp)) <|
    .bind (.required (.bool r.allow) (by simp)) <|
    .bind (.text (by simp)) <|
    .bind (.required hfits.reads (by simp)) .pure

theorem TraceRecord.legible (r : TraceRecord) (hfits : r.trace.Fits) {depth : Nat}
    (hcontext : r.trace.inputContext.Legible depth) (hdepth : 2 ≤ depth) :
    r.json.Legible (depth + 2) := by
  simp [TraceRecord.json, hfits.legible hcontext hdepth]

/-! ## Relations -/

namespace Relation

theorem Node.reads (n : Node) : Node.decode.Reads n.json n :=
  .record <|
    .bind (.required (.string n.space) (by simp)) <|
    .bind (.required (.string n.id) (by simp)) .pure

theorem Node.legible (n : Node) : n.json.Legible 1 := by
  simp [Node.json]

theorem Tuple.reads (t : Tuple) : Tuple.decode.Reads t.json t :=
  .record <|
    .bind (.required (.string t.object.space) (by simp)) <|
    .bind (.required (.string t.object.id) (by simp)) <|
    .bind (.required (.string t.relation) (by simp)) <|
    .bind (.required (.string t.subject.space) (by simp)) <|
    .bind (.required (.string t.subject.id) (by simp)) .pure

theorem Tuple.legible (t : Tuple) : t.json.Legible 1 := by
  simp [Tuple.json]

namespace Expansion

theorem jsonAll_eq_map (l : List Expansion) : jsonAll l = l.map json := by
  induction l with
  | nil => rfl
  | cons head tail ih => rw [jsonAll, ih, List.map_cons]

/-- A tree is a record whose list of further trees is left out when it is empty. -/
theorem json_node (relation : String) (object : Node) (children : List Expansion) :
    (node relation object children).json =
      .object (field "relation" (.string relation) ++ field "object" object.json ++
        listField "children" children json) := by
  cases children with
  | nil => rfl
  | cons head tail =>
      rw [json, jsonAll_eq_map]
      · rfl
      · exact List.cons_ne_nil head tail

/-- The trees below a tree are written two containers further in. -/
theorem nesting_of_mem_children (relation : String) (object : Node)
    {children : List Expansion} {child : Expansion} (hchild : child ∈ children) :
    child.json.nesting + 2 ≤ (node relation object children).json.nesting := by
  have hlist : ("children", Value.array (children.map json)) ∈
      field "relation" (.string relation) ++ field "object" object.json ++
        listField "children" children json := by
    have hfull : children.isEmpty = false :=
      List.isEmpty_eq_false_iff.mpr (List.ne_nil_of_mem hchild)
    simp [listField, hfull]
  have hmembers := Value.membersNesting_le_iff.mp (Nat.le_refl _) _ hlist
  have hitems := Value.itemsNesting_le_iff.mp (Nat.le_refl _) _
    (List.mem_map.mpr ⟨child, hchild, rfl⟩ : child.json ∈ children.map json)
  rw [Value.nesting] at hmembers
  rw [json_node, Value.nesting]
  omega

/-- What holds of a tree if it holds of the trees below holds of every tree. -/
theorem induction_on_children {P : Expansion → Prop}
    (hnode : ∀ relation object children, (∀ child ∈ children, P child) →
      P (node relation object children)) : ∀ e, P e
  | node relation object children =>
      hnode relation object children fun child _ => induction_on_children hnode child

/-- A tree is read within every height that is not less than the nesting of what is written. -/
theorem reads (e : Expansion) : ∀ height, e.json.nesting ≤ height →
    (decodeWithin height).Reads e.json e := by
  induction e using induction_on_children with
  | hnode relation object children ih =>
      intro height hnesting
      cases height with
      | zero =>
          rw [json_node, Value.nesting] at hnesting
          exact absurd hnesting (Nat.not_succ_le_zero _)
      | succ height =>
          have hchildren : ∀ child ∈ children, (decodeWithin height).Reads child.json child := by
            intro child hchild
            have hbelow := nesting_of_mem_children relation object hchild
            exact ih child hchild height (by omega)
          rw [json_node]
          exact .record <|
            .bind (.required (.string relation) (by simp)) <|
            .bind (.required object.reads (by simp)) <|
            .bind (.list hchildren (by simp)) .pure

/-- What is written of a tree has no numbers in it. -/
theorem legible (e : Expansion) : ∀ depth, e.json.nesting ≤ depth → e.json.Legible depth := by
  induction e using induction_on_children with
  | hnode relation object children ih =>
      intro depth hnesting
      -- the object of a tree is written one container further in
      have hdepth : 2 ≤ depth := by
        have hobject : ("object", object.json) ∈ field "relation" (.string relation) ++
            field "object" object.json ++ listField "children" children json := by
          simp [field]
        have hinner : 1 ≤ _ := Value.membersNesting_le_iff.mp (Nat.le_refl _) _ hobject
        rw [json_node, Value.nesting] at hnesting
        omega
      have hchildren : Members.Legible (depth - 1) (listField "children" children json) := by
        refine Members.legible_listField (by omega) fun child hchild => ?_
        have hbelow := nesting_of_mem_children relation object hchild
        exact ih child hchild _ (by omega)
      have hobject : object.json.Legible (depth - 1) := object.legible.mono (by omega)
      have hpositive : 0 < depth := by omega
      simp [json_node, hobject, hchildren, hpositive]

end Expansion

end Relation

/-! ## Federation and risk -/

theorem Federation.Scope.reads (s : Federation.Scope) : Federation.Scope.decode.Reads s.json s :=
  .record <|
    .bind (.withDefault (.strings s.allowedActions) (by simp)) <|
    .bind (.withDefault (.strings s.allowedResources) (by simp)) .pure

theorem Federation.Scope.legible (s : Federation.Scope) : s.json.Legible 2 := by
  simp [Federation.Scope.json]

/-- A contract is read as it is whenever that happens, since its time is written. -/
theorem Federation.Contract.reads (c : Federation.Contract) (htime : c.createdAt.ReadsBack)
    (now : Timestamp) : (Federation.Contract.decode now).Reads c.json c :=
  .record <|
    .bind (.required (.uuid c.orgId) (by simp)) <|
    .bind (.required (.uuid c.counterpartyOrgId) (by simp)) <|
    .bind (.withDefault c.scope.reads (by simp)) <|
    .bind (.withDefault (.bool c.active) (by simp)) <|
    .bind (.withDefault (.time htime) (by simp)) .pure

theorem Federation.Contract.legible (c : Federation.Contract) : c.json.Legible 3 := by
  simp [Federation.Contract.json, c.scope.legible]

theorem Risk.Signals.reads (s : Risk.Signals) (hscore : s.score < 2 ^ 32) :
    Risk.Signals.decode.Reads s.json s :=
  .record <|
    .bind (.required (.unsigned hscore) (by simp)) <|
    .bind (.required (.strings s.flags) (by simp)) .pure

theorem Risk.Signals.legible (s : Risk.Signals) (hscore : s.score < 2 ^ 32) :
    s.json.Legible 2 := by
  simp [Risk.Signals.json, Value.legible_nat (by decide) hscore]

/-! ## Requests, responses and settings -/

theorem Principal.reads (p : Principal) : Principal.decode.Reads p.json p :=
  .record <|
    .bind (.optionalText (by simp)) <|
    .bind (.optionalText (by simp)) <|
    .bind (.optionalText (by simp)) .pure

theorem Principal.legible (p : Principal) : p.json.Legible 1 := by
  simp [Principal.json]

theorem Request.reads (r : Request) (hcontext : r.context.sorted = r.context) :
    Request.decode.Reads r.json r :=
  .record <|
    .bind (.required (.uuid r.orgId) (by simp)) <|
    .bind (.optionalText (by simp)) <|
    .bind (.withDefault (.string r.action) (by simp)) <|
    .bind (.withDefault (.string r.resource) (by simp)) <|
    .bind (.withDefault (.document hcontext) (by simp)) <|
    .bind (.optionalUuid (by simp)) <|
    .bind (.withDefault (.bool r.includeTrustToken) (by simp)) <|
    .bind (.withDefault r.principal.reads (by simp)) .pure

theorem Request.legible (r : Request) {depth : Nat} (hcontext : r.context.Legible depth)
    (hdepth : 1 ≤ depth) : r.json.Legible (depth + 1) := by
  simp [Request.json, hcontext, r.principal.legible.mono hdepth]

/-- A response is read without its trace, which is not written. -/
theorem Response.reads (r : Response) :
    Response.decode.Reads r.json { r with trace := none } :=
  .record <|
    .bind (.required (.bool r.allow) (by simp)) <|
    .bind (.text (by simp)) <|
    .bind (.text (by simp)) <|
    .bind (.flag (by simp)) <|
    .bind (.list (fun s _ => .string s) (by simp)) <|
    .bind (.optionalText (by simp)) .pure

theorem Response.legible (r : Response) : r.json.Legible 2 := by
  have hhints : Members.Legible 1 (listField "hints" r.hints .string) :=
    Members.legible_listField (by decide) fun s _ => Value.legible_string s
  simp [Response.json, hhints]

structure Config.Fits (c : Config) : Prop where
  approvalsRequired : c.approvalsRequired < 2 ^ 64
  trustTokenTtlSecs : c.trustTokenTtlSecs < 2 ^ 64
  signerTimeoutMs : c.signerTimeoutMs < 2 ^ 64
  riskWindowSecs : c.riskWindowSecs < 2 ^ 64
  riskSpikeThreshold : c.riskSpikeThreshold < 2 ^ 64
  graphCacheTtlMs : c.graphCacheTtlMs < 2 ^ 64
  graphCacheNegTtlMs : c.graphCacheNegTtlMs < 2 ^ 64
  backgroundWorkers : c.backgroundWorkers < 2 ^ 64
  backgroundQueue : c.backgroundQueue < 2 ^ 64
  maxInflight : c.maxInflight < 2 ^ 64

theorem Config.Fits.reads {c : Config} (hfits : c.Fits) : Config.decode.Reads c.json c :=
  .record <|
    .bind (.withDefault (.unsigned hfits.approvalsRequired) (by simp)) <|
    .bind (.withDefault (.unsigned hfits.trustTokenTtlSecs) (by simp)) <|
    .bind (.withDefault (.unsigned hfits.signerTimeoutMs) (by simp)) <|
    .bind (.withDefault (.bool c.zeroTrustCrossOrg) (by simp)) <|
    .bind (.withDefault (.unsigned hfits.riskWindowSecs) (by simp)) <|
    .bind (.withDefault (.unsigned hfits.riskSpikeThreshold) (by simp)) <|
    .bind (.withDefault (.unsigned hfits.graphCacheTtlMs) (by simp)) <|
    .bind (.withDefault (.unsigned hfits.graphCacheNegTtlMs) (by simp)) <|
    .bind (.withDefault (.unsigned hfits.backgroundWorkers) (by simp)) <|
    .bind (.withDefault (.unsigned hfits.backgroundQueue) (by simp)) <|
    .bind (.withDefault (.unsigned hfits.maxInflight) (by simp)) .pure

theorem Config.Fits.legible {c : Config} (hfits : c.Fits) : c.json.Legible 1 := by
  have hword {n : Nat} (hn : n < 2 ^ 64) : (Value.nat n).Legible 0 :=
    Value.legible_nat (Nat.le_refl 64) hn
  simp [Config.json, hword hfits.approvalsRequired, hword hfits.trustTokenTtlSecs,
    hword hfits.signerTimeoutMs, hword hfits.riskWindowSecs, hword hfits.riskSpikeThreshold,
    hword hfits.graphCacheTtlMs, hword hfits.graphCacheNegTtlMs, hword hfits.backgroundWorkers,
    hword hfits.backgroundQueue, hword hfits.maxInflight]

/-! ## All of them -/

/-- Every record comes back from what is written of it, and a response comes back without its trace:
from the document, and from the text as well, unless a document that is part of the record nests too
deeply in it or has numbers that are not read back. A tree of relations comes back if it is written
within the nesting limit. -/
theorem records_come_back :
    (∀ d : Decision, d.Fits → Lossless d ∧
      ((∀ t ∈ d.trace, t.inputContext.Legible (maxDepth - 2)) → LosslessText d)) ∧
    (∀ t : Trace, t.Fits → Lossless t ∧
      (t.inputContext.Legible (maxDepth - 1) → LosslessText t)) ∧
    (∀ r : RuleTrace, Lossless r ∧ LosslessText r) ∧
    (∀ p : PrincipalTrace, Lossless p ∧ LosslessText p) ∧
    (∀ p : Policy, p.createdAt.ReadsBack → Lossless p ∧ LosslessText p) ∧
    (∀ v : PolicyVersion, v.Fits → Lossless v ∧
      (v.body.Legible (maxDepth - 1) → LosslessText v)) ∧
    (∀ a : PolicyApproval, a.Fits → Lossless a ∧ LosslessText a) ∧
    (∀ a : PolicyAssignment, a.createdAt.ReadsBack → Lossless a ∧ LosslessText a) ∧
    (∀ r : PolicyRollout, r.Fits → Lossless r ∧ LosslessText r) ∧
    (∀ e : LedgerEntry, e.Fits → Lossless e ∧
      (e.payload.Legible (maxDepth - 1) → LosslessText e)) ∧
    (∀ t : Relation.Tuple, Lossless t ∧ LosslessText t) ∧
    (∀ n : Relation.Node, Lossless n ∧ LosslessText n) ∧
    (∀ e : Relation.Expansion, (json e).nesting ≤ maxDepth → Lossless e ∧ LosslessText e) ∧
    (∀ s : Federation.Scope, Lossless s ∧ LosslessText s) ∧
    (∀ c : Federation.Contract, c.createdAt.ReadsBack → ∀ now,
      Restores (Federation.Contract.decode now) (json c) c ∧
        RestoresText (Federation.Contract.decode now) (json c) c) ∧
    (∀ s : Risk.Signals, s.score < 2 ^ 32 → Lossless s ∧ LosslessText s) ∧
    (∀ c : Token.Claims, c.Fits → Lossless c ∧ LosslessText c) ∧
    (∀ r : TraceRecord, r.trace.Fits → Lossless r ∧
      (r.trace.inputContext.Legible (maxDepth - 2) → LosslessText r)) ∧
    (∀ r : Request, r.context.sorted = r.context → Lossless r ∧
      (r.context.Legible (maxDepth - 1) → LosslessText r)) ∧
    (∀ o : ApprovalOutcome, o.Fits → Lossless o ∧ LosslessText o) ∧
    (∀ c : Config, c.Fits → Lossless c ∧ LosslessText c) ∧
    (∀ r : Response, Restores Response.decode (json r) { r with trace := none } ∧
      RestoresText Response.decode (json r) { r with trace := none }) := by
  refine ⟨?_, ?_, ?_, ?_, ?_, ?_, ?_, ?_, ?_, ?_, ?_, ?_, ?_, ?_, ?_, ?_, ?_, ?_, ?_, ?_, ?_, ?_⟩
  · exact fun d hfits => ⟨hfits.reads.restores, fun hcontext =>
      hfits.reads.restoresText (hfits.legible hcontext (by decide))⟩
  · exact fun t hfits => ⟨hfits.reads.restores, fun hcontext =>
      hfits.reads.restoresText (hfits.legible hcontext (by decide))⟩
  · exact fun r => lossless_of_legible r.reads r.legible (by decide)
  · exact fun p => lossless_of_legible p.reads p.legible (by decide)
  · exact fun p htime => lossless_of_legible (p.reads htime) p.legible (by decide)
  · exact fun v hfits => ⟨hfits.reads.restores, fun hbody =>
      hfits.reads.restoresText (hfits.legible hbody)⟩
  · exact fun a hfits => lossless_of_legible hfits.reads hfits.legible (by decide)
  · exact fun a htime => lossless_of_legible (a.reads htime) a.legible (by decide)
  · exact fun r hfits => lossless_of_legible hfits.reads hfits.legible (by decide)
  · exact fun e hfits => ⟨hfits.reads.restores, fun hpayload =>
      hfits.reads.restoresText (hfits.legible hpayload)⟩
  · exact fun t => lossless_of_legible t.reads t.legible (by decide)
  · exact fun n => lossless_of_legible n.reads n.legible (by decide)
  · exact fun e hnesting => lossless_of_legible (e.reads _ (Nat.le_succ_of_le hnesting))
      (e.legible _ hnesting) (Nat.le_refl _)
  · exact fun s => lossless_of_legible s.reads s.legible (by decide)
  · exact fun c htime now => ⟨(c.reads htime now).restores,
      (c.reads htime now).restoresText (c.legible.mono (by decide))⟩
  · exact fun s hscore => lossless_of_legible (s.reads hscore) (s.legible hscore) (by decide)
  · exact fun c hfits => lossless_of_legible hfits.reads hfits.legible (by decide)
  · exact fun r hfits => ⟨(r.reads hfits).restores, fun hcontext =>
      (r.reads hfits).restoresText (r.legible hfits hcontext (by decide))⟩
  · exact fun r hsorted => ⟨(r.reads hsorted).restores, fun hcontext =>
      (r.reads hsorted).restoresText (r.legible hcontext (by decide))⟩
  · exact fun o hfits => lossless_of_legible hfits.reads hfits.legible (by decide)
  · exact fun c hfits => lossless_of_legible hfits.reads hfits.legible (by decide)
  · exact fun r => ⟨r.reads.restores, r.reads.restoresText (r.legible.mono (by decide))⟩

/-- A decision with hardly anything in it: nothing is known about the caller, no rule was looked at,
and the context is null. -/
def sparse : Decision :=
  { Decision.deny "" with
    trace := some { Trace.start "" .null default with principal := some ⟨"", "", none, none, none⟩ } }

/-- What is empty is left out of the text, but the caller is there, and all of it comes back. -/
theorem sparse_comes_back :
    sparse.Fits ∧ (∀ t ∈ sparse.trace, t.inputContext.Legible (maxDepth - 2)) ∧
    sparse.trace.bind Trace.principal ≠ none ∧ LosslessText sparse := by
  have hvalid : (default : Timestamp).Valid := ⟨by decide, by decide⟩
  have hfits : sparse.Fits := by
    rintro t ⟨⟩
    exact ⟨by decide, rfl, by decide, hvalid.readsBack⟩
  have hcontext : ∀ t ∈ sparse.trace, t.inputContext.Legible (maxDepth - 2) := by
    rintro t ⟨⟩
    exact Value.legible_null
  exact ⟨hfits, hcontext, by decide, (records_come_back.1 sparse hfits).2 hcontext⟩

end Mandate
