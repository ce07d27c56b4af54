import Mandate.Proofs.Lifecycle.Artifacts
import Mandate.Proofs.Lifecycle.ConcurrentApprovals

/-! # Signatures that race activations

Any number of calls that sign versions of a policy and of calls that activate versions of it are
under way at once. Their steps mix in any order, no step makes more than one call to the
repository, and at any step some of these calls may be out of reach.

A call puts its signature down before it knows that the rest will go well. It counts the
signatures, and then it approves the version, going by the status that the version had when it was
looked up. If one of the two calls cannot be made, or if the version has been put in force in
between, then the call is refused; but its signature stays, and the ledger does not hear of it.
Apart from these moments, a call that is refused has not signed, and every new signature is in the
ledger once all calls have returned.
-/

namespace Mandate

open Mandate.Json Mandate.Text Mandate.Time

/-! ## What a ledger has been told -/

namespace AuditSink

/-- Records arrive: they are kept in memory or written to a file. -/
def Takes : AuditSink → Prop
  | .memory _ | .file .. => True
  | .absent | .failing => False

/-- Nothing is gone from the ledger since. -/
def Keeps : AuditSink → AuditSink → Prop
  | .memory old, .memory new => old.entries <+: new.entries
  | .file _ old, .file _ new => old <+: new
  | _, _ => False

/-- The ledger has got an entry of a record since: one of the new entries, or one of the new
lines. -/
def Gains (event : AuditRecord) : AuditSink → AuditSink → Prop
  | .memory old, .memory new => ∃ more seq previous stamp,
      new.entries = old.entries ++ more ∧ .ofRecord event seq previous stamp ∈ more
  | .file _ old, .file _ new => ∃ more seq previous stamp,
      new = old ++ more ∧
        utf8 (LedgerEntry.ofRecord event seq previous stamp).line ++ [10] <:+: more
  | _, _ => False

variable {old now : AuditSink} {hash : String → String} {event other : AuditRecord}
  {stamp : Stamp}

theorem Takes.keeps (htakes : old.Takes) : old.Keeps old := by
  cases old with
  | absent | failing => exact htakes
  | memory ledger => exact List.prefix_rfl
  | file ledger content => exact List.prefix_rfl

theorem Keeps.record (hkeeps : old.Keeps now) : old.Keeps (now.record hash event stamp) := by
  cases old with
  | absent | failing => exact hkeeps
  | memory ledger =>
      cases now with
      | memory new => exact hkeeps.trans (List.prefix_append _ _)
      | absent | failing | file => exact hkeeps
  | file ledger content =>
      cases now with
      | file new written => exact hkeeps.trans (List.prefix_append _ _)
      | absent | failing | memory => exact hkeeps

/-- What is recorded is in the ledger. -/
theorem Keeps.gains_record (hkeeps : old.Keeps now) :
    Gains event old (now.record hash event stamp) := by
  cases old with
  | absent | failing => exact hkeeps
  | memory ledger =>
      cases now with
      | absent | failing | file => exact hkeeps
      | memory new =>
          obtain ⟨more, hmore⟩ := hkeeps
          refine ⟨more ++ [new.chains.entryFor event stamp], _, _, stamp, ?_,
            List.mem_append_right _ List.mem_cons_self⟩
          rw [← List.append_assoc, hmore]
          rfl
  | file ledger content =>
      cases now with
      | absent | failing | memory => exact hkeeps
      | file new written =>
          obtain ⟨more, hmore⟩ := hkeeps
          refine ⟨more ++ (new.pending ++ (utf8 (new.chains.entryFor event stamp).line ++ [10])),
            new.chains.nextSeq event.orgId, new.chains.nextHash event.orgId, stamp, ?_,
            ⟨more ++ new.pending, [], ?_⟩⟩
          · rw [← List.append_assoc content, hmore]
          · rw [List.append_nil, List.append_assoc]
            rfl

/-- What the ledger has got it keeps. -/
theorem Gains.record (hgains : Gains event old now) :
    Gains event old (now.record hash other stamp) := by
  cases old with
  | absent | failing => exact hgains
  | memory ledger =>
      cases now with
      | absent | failing | file => exact hgains
      | memory new =>
          obtain ⟨more, seq, previous, stamped, hmore, hentry⟩ := hgains
          refine ⟨more ++ [new.chains.entryFor other stamp], seq, previous, stamped, ?_,
            List.mem_append_left _ hentry⟩
          rw [← List.append_assoc, ← hmore]
          rfl
  | file ledger content =>
      cases now with
      | absent | failing | memory => exact hgains
      | file new written =>
          obtain ⟨more, seq, previous, stamped, hmore, hline⟩ := hgains
          refine ⟨more ++ (new.pending ++ (utf8 (new.chains.entryFor other stamp).line ++ [10])),
            seq, previous, stamped, ?_, hline.trans (List.prefix_append _ _).isInfix⟩
          rw [← List.append_assoc content, ← hmore]

end AuditSink

namespace Lifecycle

variable {l l' : Lifecycle} {policyId : Uuid} {version : Nat} {user : Uuid} {on : Occasion}

/-! ## What steps do to the policies -/

/-- The signatures that have been added since. -/
def newSignatures (l l' : Lifecycle) : List PolicyApproval :=
  l'.repository.approvals.drop l.repository.approvals.length

/-- The version of a policy can be found. -/
def Stored (l : Lifecycle) (policyId : Uuid) (version : Nat) : Prop :=
  ∃ v, l.repository.getVersion policyId version = .ok v

/-- What anybody's step does to the policies, as far as others notice: what is stored stays,
signatures are added at the end, and at most one event is recorded. -/
structure Proceeds (l l' : Lifecycle) : Prop where
  repository : l.repository.Extends l'.repository
  approvals : l.repository.approvals ++ l.newSignatures l' = l'.repository.approvals
  audit : l'.audit = l.audit ∨
    ∃ event stamp, l'.audit = l.audit.record Digest.hex event stamp

theorem newSignatures_of_eq (happrovals : l'.repository.approvals = l.repository.approvals) :
    l.newSignatures l' = [] := by
  rw [newSignatures, happrovals, List.drop_length]

/-- A change of the repository alone, without a signature. -/
theorem Proceeds.of_extends {repository : Repository} (hextends : l.repository.Extends repository)
    (happrovals : repository.approvals = l.repository.approvals) :
    l.Proceeds { l with repository } where
  repository := hextends
  approvals := by rw [newSignatures_of_eq happrovals, List.append_nil, ← happrovals]
  audit := Or.inl rfl

theorem Proceeds.refl (l : Lifecycle) : l.Proceeds l :=
  .of_extends (.refl _) rfl

/-- Telling others changes the ledger alone. -/
theorem Proceeds.of_record {event : AuditRecord} {stamp : Stamp}
    (hrepository : l'.repository = l.repository)
    (haudit : l'.audit = l.audit.record Digest.hex event stamp) : l.Proceeds l' where
  repository := by
    rw [hrepository]
    exact .refl _
  approvals := by rw [newSignatures_of_eq (by rw [hrepository]), List.append_nil, hrepository]
  audit := Or.inr ⟨event, stamp, haudit⟩

/-- A signature adds at most itself. -/
theorem newSignatures_sign (l : Lifecycle) (policyId : Uuid) (version : Nat) (user : Uuid)
    (now : Timestamp) :
    l.newSignatures { l with repository := l.repository.sign policyId version user now } ⊆
      [⟨policyId, version, user, now⟩] := by
  unfold newSignatures Repository.sign
  split
  · rw [List.drop_length]
    exact List.nil_subset _
  · rw [List.drop_left]
    exact List.Subset.refl _

theorem Proceeds.sign (l : Lifecycle) (policyId : Uuid) (version : Nat) (user : Uuid)
    (now : Timestamp) :
    l.Proceeds { l with repository := l.repository.sign policyId version user now } where
  repository := .sign
  approvals := by
    unfold newSignatures Repository.sign
    split
    · rw [List.drop_length, List.append_nil]
    · rw [List.drop_left]
  audit := Or.inl rfl

theorem Stored.later (hstored : l.Stored policyId version) (hproceeds : l.Proceeds l') :
    l'.Stored policyId version := by
  obtain ⟨v, hv⟩ := hstored
  obtain ⟨w, hw, -⟩ := hproceeds.repository.bodies policyId version v hv
  exact ⟨w, hw⟩

theorem Proceeds.gains {start : AuditSink} {event : AuditRecord} (hproceeds : l.Proceeds l')
    (hgains : AuditSink.Gains event start l.audit) : AuditSink.Gains event start l'.audit := by
  rcases hproceeds.audit with hsame | ⟨other, stamp, hrecord⟩
  · rwa [hsame]
  · rw [hrecord]
    exact hgains.record

theorem Proceeds.keeps {start : AuditSink} (hproceeds : l.Proceeds l')
    (hkeeps : start.Keeps l.audit) : start.Keeps l'.audit := by
  rcases hproceeds.audit with hsame | ⟨event, stamp, hrecord⟩
  · rwa [hsame]
  · rw [hrecord]
    exact hkeeps.record

/-! ## A step of a signature -/

theorem ask_error {α : Type} {call : RepositoryCall} {query : Repository → Except PolicyError α}
    {e : PolicyError} (hask : l.ask call query = .error e) :
    call ∈ l.failing ∨ query l.repository = .error e := by
  unfold Lifecycle.ask at hask
  split at hask
  next hfailing => exact Or.inl (List.contains_iff_mem.mp hfailing)
  next => exact Or.inr hask

theorem not_failing_of_ask {α : Type} {call : RepositoryCall}
    {query : Repository → Except PolicyError α} {a : α} (hask : l.ask call query = .ok a) :
    call ∉ l.failing := by
  unfold Lifecycle.ask at hask
  split at hask
  next => cases hask
  next hanswered => exact fun hmem => hanswered (List.contains_iff_mem.mpr hmem)

namespace Approval

/-- The next step of a signature that has been put down is refused: the repository cannot be asked,
or the version is to be approved and has been put in force in the meantime. -/
def Thwarted (policyId : Uuid) (version : Nat) (l : Lifecycle) : Approval → Prop
  | .signed .. => .countApprovals ∈ l.failing
  | .counted _ current approvals =>
      current.status ≠ .active ∧ l.quorum ≤ approvals ∧
        (.approveVersion ∈ l.failing ∨
          (l.repository.getVersion policyId version).map (·.status) = .ok .active)
  | .begun | .policyFound _ | .bodyCompiled .. | .settled .. => False

instance : (stage : Approval) → Decidable (stage.Thwarted policyId version l)
  | .signed .. => inferInstanceAs (Decidable (_ ∈ _))
  | .counted .. => inferInstanceAs (Decidable (_ ∧ _ ∧ (_ ∨ _)))
  | .begun | .policyFound _ | .bodyCompiled .. | .settled .. => .isFalse id

/-- Whether a stage comes after the signature. -/
def Signed : Approval → Prop
  | .signed .. | .counted .. | .settled .. => True
  | .begun | .policyFound _ | .bodyCompiled .. => False

/-- What a signature in progress goes by: the policy in its hands is the stored one, and once the
version has been looked up it can be found. -/
def Ready (policyId : Uuid) (version : Nat) (l : Lifecycle) : Approval → Prop
  | .begun => True
  | .policyFound policy | .settled policy .. => l.repository.getPolicy policyId = .ok policy
  | .bodyCompiled policy _ | .signed policy _ | .counted policy .. =>
      l.repository.getPolicy policyId = .ok policy ∧ l.Stored policyId version

theorem Ready.later {stage : Approval} (hready : stage.Ready policyId version l)
    (hproceeds : l.Proceeds l') : stage.Ready policyId version l' := by
  have hpolicies := hproceeds.repository.policies policyId
  cases stage with
  | begun => trivial
  | policyFound policy => exact hpolicies policy hready
  | settled policy approvals approved => exact hpolicies policy hready
  | bodyCompiled policy current => exact hready.imp (hpolicies policy) (·.later hproceeds)
  | signed policy current => exact hready.imp (hpolicies policy) (·.later hproceeds)
  | counted policy current approvals => exact hready.imp (hpolicies policy) (·.later hproceeds)

/-- What one step of a signature can do. It is refused and changes nothing; or it signs; or it goes
on without a signature; or it tells others and ends. -/
inductive Turn (policyId : Uuid) (version : Nat) (user : Uuid) (l : Lifecycle) (stage : Approval) :
    Progress Approval ApprovalOutcome → Lifecycle → Prop
  | refused (e : DecisionError) (hrefused : stage.Signed → stage.Thwarted policyId version l) :
      Turn policyId version user l stage (.ended (.error e)) l
  | signed (policy : Policy) (current : PolicyVersion) (now : Timestamp)
      (hunharmed : ¬ stage.Thwarted policyId version l)
      (hready : (Approval.signed policy current).Ready policyId version l) :
      Turn policyId version user l stage (.next (.signed policy current))
        { l with repository := l.repository.sign policyId version user now }
  | went (next : Approval) (repository : Repository)
      (hextends : l.repository.Extends repository)
      (happrovals : repository.approvals = l.repository.approvals)
      (hsigned : stage.Signed → next.Signed)
      (hunharmed : ¬ stage.Thwarted policyId version l)
      (hready : next.Ready policyId version { l with repository }) :
      Turn policyId version user l stage (.next next) { l with repository }
  | told (policy : Policy) (approvals : Nat) (outcome : ApprovalOutcome) (on : Occasion)
      (hunharmed : ¬ stage.Thwarted policyId version l)
      (hpolicy : l.repository.getPolicy policyId = .ok policy) :
      Turn policyId version user l stage (.ended (.ok outcome))
        ((l.invalidate policyId).record (approvalRecord policy version approvals user) on)

theorem Turn.proceeds {stage : Approval} {progress : Progress Approval ApprovalOutcome}
    (hturn : Turn policyId version user l stage progress l') : l.Proceeds l' := by
  cases hturn with
  | refused e hrefused => exact .refl l
  | signed policy current now hunharmed hready => exact .sign l policyId version user now
  | went next repository hextends happrovals hsigned hunharmed hready =>
      exact .of_extends hextends happrovals
  | told policy approvals outcome on hunharmed hpolicy => exact .of_record rfl rfl

/-- A version that can be found is approved, unless the repository is out of reach or the version is
in force. -/
theorem change_approveVersion (hstored : l.Stored policyId version) (approvedBy : Option Uuid)
    (now : Timestamp) :
    (∃ e, l.change .approveVersion (·.approveVersion policyId version approvedBy now) = .error e) ↔
      .approveVersion ∈ l.failing ∨
        (l.repository.getVersion policyId version).map (·.status) = .ok .active := by
  obtain ⟨v, hv⟩ := hstored
  by_cases hfailing : .approveVersion ∈ l.failing
  · simp [change, Lifecycle.ask, hfailing, Except.map]
  · have hask : l.change .approveVersion (·.approveVersion policyId version approvedBy now) =
        (l.repository.approveVersion policyId version approvedBy now).map
          fun result => (result.1, { l with repository := result.2 }) := by
      simp [change, Lifecycle.ask, hfailing]
    rw [hask, hv]
    cases hstatus : v.status with
    | draft => simp [Repository.approveVersion_of_draft hv hstatus, hfailing, hstatus, Except.map]
    | approved =>
        simp [Repository.approveVersion_of_approved hv hstatus, hfailing, hstatus, Except.map]
    | active => simp [Repository.approveVersion_of_active hv hstatus, hstatus, Except.map]

theorem step_turn {stage : Approval} (hready : stage.Ready policyId version l) (user : Uuid)
    (on : Occasion) :
    Turn policyId version user l stage (step policyId version user on l stage).1
      (step policyId version user on l stage).2 := by
  cases stage with
  | begun =>
      simp only [step]
      split
      next => exact .refused _ False.elim
      next policy hpolicy =>
        exact .went _ _ (.refl _) rfl False.elim id (ask_ok hpolicy)
  | policyFound policy =>
      simp only [step]
      split
      next => exact .refused _ False.elim
      next current hcurrent =>
        split
        next => exact .refused _ False.elim
        next => exact .went _ _ (.refl _) rfl False.elim id ⟨hready, current, ask_ok hcurrent⟩
  | bodyCompiled policy current =>
      simp only [step]
      split
      next => exact .refused _ False.elim
      next hchange =>
        obtain ⟨repository, hrecord, rfl⟩ := change_ok hchange
        obtain ⟨_, -, rfl⟩ := Repository.recordApproval_eq_ok hrecord
        exact .signed policy current on.time id hready
  | signed policy current =>
      simp only [step]
      split
      next e hcount =>
        refine .refused _ fun _ => ?_
        rcases ask_error hcount with hfailing | herror
        · exact hfailing
        · cases herror
      next approvals hcount =>
        exact .went _ _ (.refl _) rfl id (not_failing_of_ask hcount) hready
  | counted policy current approvals =>
      simp only [step]
      split
      next hactive => exact .went _ _ (.refl _) rfl id (fun hnot => hnot.1 hactive) hready.1
      next hinactive =>
        split
        next hquorum =>
          -- the status in hand is from before the signature, the one that decides is stored now
          have hrefused := change_approveVersion hready.2 (some user) on.time
          split
          next e hchange => exact .refused _ fun _ => ⟨hinactive, hquorum, hrefused.mp ⟨e, hchange⟩⟩
          next hchange =>
            have hunharmed : ¬ Thwarted policyId version l (.counted policy current approvals) := by
              rintro ⟨-, -, hwhy⟩
              obtain ⟨e, herror⟩ := hrefused.mpr hwhy
              rw [hchange] at herror
              cases herror
            obtain ⟨repository, happrove, rfl⟩ := change_ok hchange
            have hextends := Repository.extends_of_approveVersion happrove
            refine .went _ _ hextends ?_ id hunharmed (hextends.policies _ _ hready.1)
            obtain ⟨_, -, ⟨-, -, rfl⟩ | ⟨-, -, rfl⟩⟩ := Repository.approveVersion_eq_ok happrove
            · rfl
            · rfl
        next hquorum =>
          exact .went _ _ (.refl _) rfl id (fun hnot => hquorum hnot.2.1) hready.1
  | settled policy approvals approved => exact .told policy approvals _ on id hready

end Approval

/-- An activation adds no signature. -/
theorem Activation.step_approvals (policyId : Uuid) (version : Nat) (context : Value)
    (on : Occasion) (l : Lifecycle) (stage : Activation) :
    (step policyId version context on l stage).2.repository.approvals =
      l.repository.approvals := by
  cases stage with
  | begun =>
      simp only [step]
      split <;> rfl
  | policyFound policy =>
      simp only [step]
      repeat' split
      all_goals rfl
  | simulated policy artifact =>
      simp only [step]
      split
      next => rfl
      next hchange =>
        obtain ⟨repository, hactivate, rfl⟩ := change_ok hchange
        obtain ⟨_, -, -, -, rfl⟩ := Repository.activateVersion_eq_ok hactivate
        rfl
  | activated policy artifact result => rfl

theorem Activation.step_proceeds (policyId : Uuid) (version : Nat) (context : Value)
    (on : Occasion) (l : Lifecycle) (stage : Activation) :
    l.Proceeds (step policyId version context on l stage).2 := by
  cases stage with
  | begun =>
      simp only [step]
      split <;> exact .refl l
  | policyFound policy =>
      simp only [step]
      repeat' split
      all_goals exact .refl l
  | simulated policy artifact =>
      have happrovals := step_approvals policyId version context on l (.simulated policy artifact)
      simp only [step] at happrovals ⊢
      split
      next => exact .refl l
      next hchange =>
        obtain ⟨repository, hactivate, rfl⟩ := change_ok hchange
        rw [hchange] at happrovals
        exact .of_extends (Repository.extends_of_activateVersion hactivate) happrovals
  | activated policy artifact result => exact .of_record rfl rfl

/-! ## Calls under way at once -/

/-- A call on a policy, and how far it has come. -/
inductive PolicyCall where
  | approve (version : Nat) (user : Uuid) (progress : Progress Approval ApprovalOutcome)
  | activate (version : Nat) (context : Value) (progress : Progress Activation PolicyVersion)

namespace PolicyCall

/-- The next step of a call. One that has returned takes none. -/
def step (policyId : Uuid) (on : Occasion) (l : Lifecycle) : PolicyCall → PolicyCall × Lifecycle
  | .approve version user (.next stage) =>
      let (progress, l) := Approval.step policyId version user on l stage
      (.approve version user progress, l)
  | .activate version context (.next stage) =>
      let (progress, l) := Activation.step policyId version context on l stage
      (.activate version context progress, l)
  | returned => (returned, l)

/-- The call has returned. -/
def Returned : PolicyCall → Prop
  | .approve _ _ (.ended _) | .activate _ _ (.ended _) => True
  | .approve _ _ (.next _) | .activate _ _ (.next _) => False

/-- The call signs a version and has returned an error. -/
def RefusedToSign : PolicyCall → Prop
  | .approve _ _ (.ended (.error _)) => True
  | .approve _ _ (.ended (.ok _)) | .approve _ _ (.next _) | .activate .. => False

instance : DecidablePred Returned
  | .approve _ _ (.ended _) | .activate _ _ (.ended _) => .isTrue trivial
  | .approve _ _ (.next _) | .activate _ _ (.next _) => .isFalse id

instance : DecidablePred RefusedToSign
  | .approve _ _ (.ended (.error _)) => .isTrue trivial
  | .approve _ _ (.ended (.ok _)) | .approve _ _ (.next _) | .activate .. => .isFalse id

theorem RefusedToSign.returned {call : PolicyCall} (hrefused : call.RefusedToSign) :
    call.Returned := by
  cases call with
  | activate version context progress => exact hrefused.elim
  | approve version user progress =>
      cases progress with
      | next stage => exact hrefused.elim
      | ended result => trivial

theorem Returned.step {call : PolicyCall} (hreturned : call.Returned) (policyId : Uuid)
    (on : Occasion) (l : Lifecycle) : call.step policyId on l = (call, l) := by
  cases call with
  | activate version context progress =>
      cases progress with
      | next stage => exact hreturned.elim
      | ended result => rfl
  | approve version user progress =>
      cases progress with
      | next stage => exact hreturned.elim
      | ended result => rfl

end PolicyCall

/-- A call, and the signatures that it has added so far. -/
structure Caller where
  call : PolicyCall
  signatures : List PolicyApproval := []

namespace Caller

/-- The next step of a call. -/
def step (policyId : Uuid) (on : Occasion) (l : Lifecycle) (caller : Caller) :
    Caller × Lifecycle :=
  let (call, after) := caller.call.step policyId on l
  (⟨call, caller.signatures ++ l.newSignatures after⟩, after)

/-- The call was refused, but it has signed. -/
def LeavesTrace (caller : Caller) : Prop :=
  caller.call.RefusedToSign ∧ caller.signatures ≠ []

/-- The call has signed, and its next step is refused. -/
def Thwarted (policyId : Uuid) (l : Lifecycle) (caller : Caller) : Prop :=
  match caller.call with
  | .approve version _ (.next stage) =>
      caller.signatures ≠ [] ∧ stage.Thwarted policyId version l
  | .approve _ _ (.ended _) | .activate .. => False

instance (policyId : Uuid) (l : Lifecycle) : DecidablePred (Thwarted policyId l)
  | ⟨.approve _ _ (.next _), _⟩ => inferInstanceAs (Decidable (_ ∧ _))
  | ⟨.approve _ _ (.ended _), _⟩ | ⟨.activate .., _⟩ => .isFalse id

/-- What can be said of a call on its way. Its signatures are its own, and none of an activation;
while a signature is under way it has what it needs, and it has not signed before its time; and
once it has returned with an answer, the ledger has been told. -/
def Fair (policyId : Uuid) (start : AuditSink) (l : Lifecycle) (caller : Caller) : Prop :=
  match caller.call with
  | .activate .. => caller.signatures = []
  | .approve version user progress =>
      (∀ a ∈ caller.signatures, a.policyId = policyId ∧ a.version = version ∧ a.userId = user) ∧
      match progress with
      | .next stage => stage.Ready policyId version l ∧ (caller.signatures ≠ [] → stage.Signed)
      | .ended (.ok _) => ∃ policy approvals, l.repository.getPolicy policyId = .ok policy ∧
          AuditSink.Gains (approvalRecord policy version approvals user) start l.audit
      | .ended (.error _) => True

variable {start : AuditSink} {caller : Caller} {stage : Approval} {signatures : List PolicyApproval}

theorem Fair.later (hfair : caller.Fair policyId start l) (hproceeds : l.Proceeds l') :
    caller.Fair policyId start l' := by
  obtain ⟨call, signatures⟩ := caller
  cases call with
  | activate version context progress => exact hfair
  | approve version user progress =>
      obtain ⟨hown, hprogress⟩ := hfair
      refine ⟨hown, ?_⟩
      match progress, hprogress with
      | .next stage, ⟨hready, hsigned⟩ => exact ⟨hready.later hproceeds, hsigned⟩
      | .ended (.ok _), ⟨policy, approvals, hpolicy, hgains⟩ =>
          exact ⟨policy, approvals, hproceeds.repository.policies _ _ hpolicy,
            hproceeds.gains hgains⟩
      | .ended (.error _), _ => trivial

/-- A step of a signature that is under way leaves it fair: it signs in its own name, and it ends
well only by telling the ledger. -/
theorem Fair.turn {progress : Progress Approval ApprovalOutcome}
    (hfair : Fair policyId start l ⟨.approve version user (.next stage), signatures⟩)
    (hkeeps : start.Keeps l.audit)
    (hturn : Approval.Turn policyId version user l stage progress l') :
    Fair policyId start l' ⟨.approve version user progress, signatures ++ l.newSignatures l'⟩ := by
  obtain ⟨hown, hready, hsigned⟩ := hfair
  cases hturn with
  | refused e hrefused =>
      rw [newSignatures_of_eq rfl, List.append_nil]
      exact ⟨hown, trivial⟩
  | signed policy current now hbefore hready' =>
      refine ⟨?_, hready'.later (.sign l policyId version user now), fun _ => trivial⟩
      intro a ha
      rcases List.mem_append.mp ha with hold | hnew
      · exact hown a hold
      · obtain rfl := List.mem_singleton.mp (newSignatures_sign l policyId version user now hnew)
        exact ⟨rfl, rfl, rfl⟩
  | went next repository hextends happrovals hafter hunharmed hready' =>
      rw [newSignatures_of_eq happrovals, List.append_nil]
      exact ⟨hown, hready', fun hne => hafter (hsigned hne)⟩
  | told policy approvals outcome on hunharmed hpolicy =>
      have hnone : l.newSignatures ((l.invalidate policyId).record
          (approvalRecord policy version approvals user) on) = [] := newSignatures_of_eq rfl
      rw [hnone, List.append_nil]
      exact ⟨hown, policy, approvals, hpolicy, hkeeps.gains_record⟩

/-- Only a step that is refused after the signature leaves a trace. -/
theorem Fair.leavesTrace_turn_iff {progress : Progress Approval ApprovalOutcome}
    (hfair : Fair policyId start l ⟨.approve version user (.next stage), signatures⟩)
    (hturn : Approval.Turn policyId version user l stage progress l') :
    LeavesTrace ⟨.approve version user progress, signatures ++ l.newSignatures l'⟩ ↔
      signatures ≠ [] ∧ stage.Thwarted policyId version l := by
  obtain ⟨-, -, hsigned⟩ := hfair
  cases hturn with
  | refused e hrefused =>
      rw [newSignatures_of_eq rfl, List.append_nil]
      exact ⟨fun ⟨_, hne⟩ => ⟨hne, hrefused (hsigned hne)⟩, fun ⟨hne, _⟩ => ⟨trivial, hne⟩⟩
  | signed policy current now hunharmed hready => exact iff_of_false (·.1) (hunharmed ·.2)
  | went next repository hextends happrovals hafter hunharmed hready =>
      exact iff_of_false (·.1) (hunharmed ·.2)
  | told policy approvals outcome on hunharmed hpolicy =>
      exact iff_of_false (·.1) (hunharmed ·.2)

theorem Thwarted.not_returned (hthwarted : caller.Thwarted policyId l) :
    ¬ caller.call.Returned := by
  unfold Thwarted at hthwarted
  split at hthwarted
  next hcall =>
    rw [hcall]
    exact id
  all_goals exact hthwarted.elim

theorem step_approve (policyId : Uuid) (version : Nat) (user : Uuid) (stage : Approval)
    (signatures : List PolicyApproval) (on : Occasion) (l : Lifecycle) :
    step policyId on l ⟨.approve version user (.next stage), signatures⟩ =
      let turn := Approval.step policyId version user on l stage
      (⟨.approve version user turn.1, signatures ++ l.newSignatures turn.2⟩, turn.2) :=
  rfl

/-- An activation adds no signature. -/
theorem step_activate (policyId : Uuid) (version : Nat) (context : Value) (stage : Activation)
    (signatures : List PolicyApproval) (on : Occasion) (l : Lifecycle) :
    step policyId on l ⟨.activate version context (.next stage), signatures⟩ =
      let turn := Activation.step policyId version context on l stage
      (⟨.activate version context turn.1, signatures⟩, turn.2) := by
  have hnone := newSignatures_of_eq
    (Activation.step_approvals policyId version context on l stage)
  simp only [step, PolicyCall.step, hnone, List.append_nil]

theorem step_of_returned (hreturned : caller.call.Returned) (policyId : Uuid) (on : Occasion)
    (l : Lifecycle) : caller.step policyId on l = (caller, l) := by
  simp only [step, hreturned.step, newSignatures_of_eq, List.append_nil]

/-- What a step of a fair call does: it is fair afterwards, others see nothing but progress, and it
leaves a trace exactly if it left one before or its step was refused. -/
theorem Fair.step (hfair : caller.Fair policyId start l) (hkeeps : start.Keeps l.audit)
    (on : Occasion) :
    l.Proceeds (caller.step policyId on l).2 ∧
    (caller.step policyId on l).1.Fair policyId start (caller.step policyId on l).2 ∧
    ((caller.step policyId on l).1.LeavesTrace ↔
      caller.LeavesTrace ∨ caller.Thwarted policyId l) := by
  by_cases hreturned : caller.call.Returned
  · rw [step_of_returned hreturned]
    exact ⟨.refl l, hfair, (or_iff_left fun hthwarted => hthwarted.not_returned hreturned).symm⟩
  · have hnotrace : ¬ caller.LeavesTrace := fun htrace => hreturned htrace.1.returned
    rw [or_iff_right hnotrace]
    obtain ⟨call, signatures⟩ := caller
    match call with
    | .approve version user (.next stage) =>
        rw [step_approve]
        have hturn := Approval.step_turn hfair.2.1 user on
        exact ⟨hturn.proceeds, hfair.turn hkeeps hturn, hfair.leavesTrace_turn_iff hturn⟩
    | .activate version context (.next stage) =>
        rw [step_activate]
        exact ⟨Activation.step_proceeds policyId version context on l stage, hfair,
          iff_of_false (·.1) id⟩
    | .approve _ _ (.ended _) => exact absurd trivial hreturned
    | .activate _ _ (.ended _) => exact absurd trivial hreturned

end Caller

/-- Calls on one policy that are under way at once. -/
structure Race where
  lifecycle : Lifecycle
  callers : List Caller

/-- Which call takes a step next, on which occasion, and which calls to the repository are out of
reach at that moment. -/
structure Move where
  place : Nat
  on : Occasion
  failing : List RepositoryCall := []

namespace Race

/-- Everybody calls: some to sign a version, others to activate one. -/
def start (l : Lifecycle) (signatures : List (Nat × Uuid)) (activations : List (Nat × Value)) :
    Race where
  lifecycle := l
  callers :=
    (signatures.map fun (version, user) => ⟨.approve version user (.next .begun), []⟩) ++
      activations.map fun (version, context) => ⟨.activate version context (.next .begun), []⟩

/-- The policies as a move finds them. -/
def facing (race : Race) (move : Move) : Lifecycle :=
  { race.lifecycle with failing := move.failing }

/-- A move of the call at a place. -/
def step (policyId : Uuid) (race : Race) (move : Move) : Race :=
  match race.callers[move.place]? with
  | some caller =>
      let (caller, lifecycle) := caller.step policyId move.on (race.facing move)
      ⟨lifecycle, race.callers.set move.place caller⟩
  | none => race

/-- The moves of a schedule, one after the other. -/
def run (policyId : Uuid) (race : Race) (schedule : List Move) : Race :=
  schedule.foldl (step policyId) race

/-- The moves of a schedule, each with the race as it finds it. -/
def history (policyId : Uuid) (race : Race) : List Move → List (Race × Move)
  | [] => []
  | move :: rest => (race, move) :: history policyId (race.step policyId move) rest

/-- Every call has returned. -/
def Over (race : Race) : Prop :=
  ∀ caller ∈ race.callers, caller.call.Returned

/-- A move refuses a call that has signed. -/
def Thwarted (policyId : Uuid) (race : Race) (move : Move) : Prop :=
  ∃ caller ∈ race.callers[move.place]?, caller.Thwarted policyId (race.facing move)

instance (policyId : Uuid) (race : Race) (move : Move) : Decidable (race.Thwarted policyId move) :=
  Option.decidableExistsMem _

/-- Calls that are refused have not signed; and once all calls have returned, the ledger has got a
record of every signature that has been added since the start, which says who has signed which
version of which policy. -/
structure Traceless (l : Lifecycle) (race : Race) : Prop where
  unsigned : ∀ caller ∈ race.callers, caller.call.RefusedToSign → caller.signatures = []
  recorded : race.Over → ∀ a ∈ l.newSignatures race.lifecycle, ∃ policy event,
    race.lifecycle.repository.getPolicy a.policyId = .ok policy ∧
      event.action = .policyVersionApproval ∧ event.actorUser = some a.userId ∧
      event.payload.get? "policy_id" = some (.string a.policyId.text) ∧
      event.payload.get? "version" = some (.nat a.version) ∧
      event.payload.get? "org_id" = some (.string policy.orgId.text) ∧
      AuditSink.Gains event l.audit race.lifecycle.audit

/-- What holds after every part of a schedule. -/
structure Orderly (policyId : Uuid) (l : Lifecycle) (race : Race) : Prop where
  fair : ∀ caller ∈ race.callers, caller.Fair policyId l.audit race.lifecycle
  keeps : l.audit.Keeps race.lifecycle.audit
  approvals : l.repository.approvals ++ l.newSignatures race.lifecycle =
    race.lifecycle.repository.approvals
  signed : ∀ a ∈ l.newSignatures race.lifecycle, ∃ caller ∈ race.callers, a ∈ caller.signatures

variable {race : Race}

theorem Orderly.start (htakes : l.audit.Takes) (policyId : Uuid) (signatures : List (Nat × Uuid))
    (activations : List (Nat × Value)) :
    Orderly policyId l (start l signatures activations) := by
  have hnone : l.newSignatures l = [] := newSignatures_of_eq rfl
  refine ⟨?_, htakes.keeps, ?_, ?_⟩
  · intro caller hcaller
    rcases List.mem_append.mp hcaller with hsigns | hactivates
    · obtain ⟨⟨version, user⟩, -, rfl⟩ := List.mem_map.mp hsigns
      exact ⟨nofun, trivial, fun hne => absurd rfl hne⟩
    · obtain ⟨⟨version, context⟩, -, rfl⟩ := List.mem_map.mp hactivates
      exact rfl
  · change l.repository.approvals ++ l.newSignatures l = _
    rw [hnone, List.append_nil]
    rfl
  · change ∀ a ∈ l.newSignatures l, _
    rw [hnone]
    exact nofun

theorem not_leavesTrace_start (l : Lifecycle) (signatures : List (Nat × Uuid))
    (activations : List (Nat × Value)) :
    ¬ ∃ caller ∈ (start l signatures activations).callers, caller.LeavesTrace := by
  rintro ⟨caller, hcaller, hrefused, -⟩
  rcases List.mem_append.mp hcaller with hsigns | hactivates
  · obtain ⟨_, -, rfl⟩ := List.mem_map.mp hsigns
    exact hrefused
  · obtain ⟨_, -, rfl⟩ := List.mem_map.mp hactivates
    exact hrefused

/-- Nothing happens, or the call at a place takes a step. -/
theorem step_cases (race : Race) (policyId : Uuid) (move : Move) :
    (race.callers[move.place]? = none ∧ race.step policyId move = race) ∨
    ∃ caller, race.callers[move.place]? = some caller ∧
      race.step policyId move =
        ⟨(caller.step policyId move.on (race.facing move)).2,
          race.callers.set move.place (caller.step policyId move.on (race.facing move)).1⟩ := by
  unfold step
  split
  next caller hcaller => exact Or.inr ⟨caller, hcaller, rfl⟩
  next hcaller => exact Or.inl ⟨hcaller, rfl⟩

/-- A step of the call at a place, seen from all calls. -/
theorem Orderly.advance (horderly : Orderly policyId l race) {place : Nat} {was now : Caller}
    (hplace : race.callers[place]? = some was) (hproceeds : race.lifecycle.Proceeds l')
    (hfair : now.Fair policyId l.audit l')
    (hsignatures : now.signatures = was.signatures ++ race.lifecycle.newSignatures l') :
    Orderly policyId l ⟨l', race.callers.set place now⟩ := by
  obtain ⟨hlt, -⟩ := List.getElem?_eq_some_iff.mp hplace
  have happrovals : l'.repository.approvals = l.repository.approvals ++
      (l.newSignatures race.lifecycle ++ race.lifecycle.newSignatures l') := by
    rw [← List.append_assoc, horderly.approvals, hproceeds.approvals]
  have hnew : l.newSignatures l' =
      l.newSignatures race.lifecycle ++ race.lifecycle.newSignatures l' := by
    rw [newSignatures, happrovals, List.drop_left]
  refine ⟨?_, hproceeds.keeps horderly.keeps, ?_, ?_⟩
  · intro caller hcaller
    rcases List.mem_or_eq_of_mem_set hcaller with hold | rfl
    · exact (horderly.fair caller hold).later hproceeds
    · exact hfair
  · rw [hnew, happrovals]
  · rw [hnew]
    intro a ha
    rcases List.mem_append.mp ha with hold | hadded
    · obtain ⟨caller, hcaller, hsigned⟩ := horderly.signed a hold
      -- the call that signed may be the one that moves: it keeps what it has added
      by_cases hsame : caller = was
      · subst hsame
        refine ⟨now, List.mem_set hlt _, ?_⟩
        rw [hsignatures]
        exact List.mem_append_left _ hsigned
      · exact ⟨caller, SigningRound.mem_set_of_ne hcaller hplace hsame, hsigned⟩
    · refine ⟨now, List.mem_set hlt _, ?_⟩
      rw [hsignatures]
      exact List.mem_append_right _ hadded

theorem Orderly.step (horderly : Orderly policyId l race) (move : Move) :
    Orderly policyId l (race.step policyId move) ∧
    ((∃ caller ∈ (race.step policyId move).callers, caller.LeavesTrace) ↔
      (∃ caller ∈ race.callers, caller.LeavesTrace) ∨ race.Thwarted policyId move) := by
  rcases race.step_cases policyId move with ⟨hnone, hsame⟩ | ⟨caller, hcaller, hstep⟩
  · rw [hsame]
    refine ⟨horderly, (or_iff_left ?_).symm⟩
    rintro ⟨caller, hcaller, -⟩
    rw [hnone] at hcaller
    cases hcaller
  · have hmem := List.mem_of_getElem? hcaller
    have hfacing : race.lifecycle.Proceeds (race.facing move) :=
      ⟨.refl _, (Proceeds.refl race.lifecycle).approvals, Or.inl rfl⟩
    obtain ⟨hfaced, hfair, htrace⟩ :=
      ((horderly.fair caller hmem).later hfacing).step horderly.keeps move.on
    have hproceeds : race.lifecycle.Proceeds (caller.step policyId move.on (race.facing move)).2 :=
      ⟨hfaced.repository, hfaced.approvals, hfaced.audit⟩
    obtain ⟨hlt, -⟩ := List.getElem?_eq_some_iff.mp hcaller
    rw [hstep]
    refine ⟨horderly.advance hcaller hproceeds hfair ?_, ?_, ?_⟩
    · rfl
    · rintro ⟨other, hother, htraces⟩
      rcases List.mem_or_eq_of_mem_set hother with hold | rfl
      · exact Or.inl ⟨other, hold, htraces⟩
      · exact (htrace.mp htraces).imp (⟨caller, hmem, ·⟩) (⟨caller, hcaller, ·⟩)
    · rintro (⟨other, hother, htraces⟩ | ⟨other, hother, hthwarted⟩)
      · by_cases hsame : other = caller
        · subst hsame
          exact ⟨_, List.mem_set hlt _, htrace.mpr (Or.inl htraces)⟩
        · exact ⟨other, SigningRound.mem_set_of_ne hother hcaller hsame, htraces⟩
      · obtain rfl : caller = other := Option.some.inj (hcaller.symm.trans hother)
        exact ⟨_, List.mem_set hlt _, htrace.mpr (Or.inr hthwarted)⟩

theorem Orderly.run (horderly : Orderly policyId l race) (schedule : List Move) :
    Orderly policyId l (race.run policyId schedule) ∧
    ((∃ caller ∈ (race.run policyId schedule).callers, caller.LeavesTrace) ↔
      (∃ caller ∈ race.callers, caller.LeavesTrace) ∨
        ∃ entry ∈ race.history policyId schedule, entry.1.Thwarted policyId entry.2) := by
  induction schedule generalizing race with
  | nil => exact ⟨horderly, by simp [Race.run, history]⟩
  | cons move rest ih =>
      obtain ⟨hnext, hstep⟩ := horderly.step move
      obtain ⟨hlast, hrest⟩ := ih hnext
      refine ⟨hlast, hrest.trans ?_⟩
      rw [hstep, history, List.exists_mem_cons_iff, or_assoc]

/-- Once all calls have returned and none of them has left a trace, the ledger has been told of
every new signature. -/
theorem Orderly.recorded (horderly : Orderly policyId l race)
    (hnotrace : ¬ ∃ caller ∈ race.callers, caller.LeavesTrace) (hover : race.Over)
    {a : PolicyApproval} (ha : a ∈ l.newSignatures race.lifecycle) :
    ∃ policy event, race.lifecycle.repository.getPolicy a.policyId = .ok policy ∧
      event.action = .policyVersionApproval ∧ event.actorUser = some a.userId ∧
      event.payload.get? "policy_id" = some (.string a.policyId.text) ∧
      event.payload.get? "version" = some (.nat a.version) ∧
      event.payload.get? "org_id" = some (.string policy.orgId.text) ∧
      AuditSink.Gains event l.audit race.lifecycle.audit := by
  obtain ⟨caller, hcaller, hsigned⟩ := horderly.signed a ha
  have hne : caller.signatures ≠ [] := List.ne_nil_of_mem hsigned
  have hfair := horderly.fair caller hcaller
  have hreturned := hover caller hcaller
  have hunmarked : ¬ caller.LeavesTrace := fun htrace => hnotrace ⟨caller, hcaller, htrace⟩
  obtain ⟨call, signatures⟩ := caller
  match call with
  | .activate .. => exact absurd hfair hne
  | .approve _ _ (.next _) => exact hreturned.elim
  | .approve _ _ (.ended (.error _)) => exact absurd ⟨trivial, hne⟩ hunmarked
  | .approve version user (.ended (.ok _)) =>
      obtain ⟨hown, policy, approvals, hpolicy, hgains⟩ := hfair
      obtain ⟨rfl, rfl, rfl⟩ := hown a hsigned
      obtain ⟨-, hid⟩ := Repository.mem_of_getPolicy hpolicy
      have htold : (approvalRecord policy a.version approvals a.userId).payload.get? "policy_id" =
          some (.string policy.id.text) := rfl
      rw [hid] at htold
      exact ⟨policy, _, hpolicy, rfl, rfl, htold, rfl, rfl, hgains⟩

end Race

/-- However the steps of calls mix that sign versions of a policy and activate versions of it, and
whichever calls to the repository are out of reach meanwhile: no call that is refused has signed,
and once all calls have returned the ledger has been told of every new signature, exactly unless
some move refuses a call that has signed. That is so when the signatures then cannot be counted or
the version cannot be approved, and when the version, which was not in force when it was looked up,
has enough signatures and has been put in force by now. -/
theorem traceless_iff_never_thwarted {l : Lifecycle} (htakes : l.audit.Takes) (policyId : Uuid)
    (signatures : List (Nat × Uuid)) (activations : List (Nat × Value))
    (schedule : List Move) :
    let race := Race.start l signatures activations
    (race.run policyId schedule).Traceless l ↔
      ∀ entry ∈ race.history policyId schedule, ¬ entry.1.Thwarted policyId entry.2 := by
  intro race
  obtain ⟨horderly, htraces⟩ :=
    (Race.Orderly.start htakes policyId signatures activations).run schedule
  rw [or_iff_right (Race.not_leavesTrace_start l signatures activations)] at htraces
  constructor
  · intro htraceless entry hentry hthwarted
    obtain ⟨caller, hcaller, hrefused, hsigned⟩ := htraces.mpr ⟨entry, hentry, hthwarted⟩
    exact hsigned (htraceless.unsigned caller hcaller hrefused)
  · intro hunharmed
    have hnotrace : ¬ ∃ caller ∈ (race.run policyId schedule).callers, caller.LeavesTrace := by
      intro htrace
      obtain ⟨entry, hentry, hthwarted⟩ := htraces.mp htrace
      exact hunharmed entry hentry hthwarted
    refine ⟨fun caller hcaller hrefused => ?_, fun hover a => horderly.recorded hnotrace hover⟩
    by_contra hsigned
    exact hnotrace ⟨caller, hcaller, hrefused, hsigned⟩

/-- A policy whose only version allows everything and is approved, which takes one signature. -/
def contested : Lifecycle where
  approvalsRequired := 1
  audit := .memory {}
  repository :=
    { policies := [⟨⟨1⟩, ⟨9⟩, "p", Rules.engineName, none, default⟩]
      versions := [(PolicyVersion.draft ⟨1⟩ 1
        (.object [("rules", .array [.object [("effect", .string "allow")]])]) none
        default).approved (some ⟨7⟩) default]
      approvals := [⟨⟨1⟩, 1, ⟨7⟩, default⟩]
      approvalKeys := [(⟨1⟩, 1, ⟨7⟩)] }

/-- One person signs while another activates, in the order that the places say. -/
def raced (places : List Nat) : List Move :=
  places.map fun place => ⟨place, default, []⟩

/-- The activation waits until the version has been approved once more, and goes before the ledger
is told of the signature. -/
theorem signature_ahead_of_activation :
    let race := Race.start contested [(1, ⟨8⟩)] [(1, .object [])]
    let schedule := raced [0, 1, 0, 0, 1, 0, 0, 1, 1, 0]
    contested.audit.Takes ∧ (race.run ⟨1⟩ schedule).Over ∧
    contested.newSignatures (race.run ⟨1⟩ schedule).lifecycle = [⟨⟨1⟩, 1, ⟨8⟩, default⟩] ∧
    (race.run ⟨1⟩ schedule).Traceless contested := by
  intro race schedule
  have hover : ∀ caller ∈ (race.run ⟨1⟩ schedule).callers, caller.call.Returned := by
    decide +kernel
  have hunharmed : ∀ entry ∈ race.history ⟨1⟩ schedule, ¬ entry.1.Thwarted ⟨1⟩ entry.2 := by
    decide +kernel
  exact ⟨trivial, hover, by decide +kernel,
    (traceless_iff_never_thwarted (l := contested) trivial ⟨1⟩ _ _ schedule).mpr hunharmed⟩

/-- The version is put in force between the count and the approval: the call is refused, and its
signature stays. -/
theorem signature_overtaken_by_activation :
    let race := Race.start contested [(1, ⟨8⟩)] [(1, .object [])]
    let schedule := raced [0, 0, 0, 0, 1, 1, 1, 1, 0]
    contested.audit.Takes ∧ (race.run ⟨1⟩ schedule).Over ∧
    ¬ (race.run ⟨1⟩ schedule).Traceless contested := by
  intro race schedule
  have hover : ∀ caller ∈ (race.run ⟨1⟩ schedule).callers, caller.call.Returned := by
    decide +kernel
  have htrace : ∃ caller ∈ (race.run ⟨1⟩ schedule).callers,
      caller.call.RefusedToSign ∧ caller.signatures ≠ [] := by
    decide +kernel
  obtain ⟨caller, hcaller, hrefused, hsigned⟩ := htrace
  exact ⟨trivial, hover, fun htraceless => hsigned (htraceless.unsigned caller hcaller hrefused)⟩

end Lifecycle

end Mandate
