import Mandate.Proofs.Lifecycle.Artifacts
import Mandate.Proofs.Policy.InPlace

/-! # Managing policies in place

An operation on policies makes several calls, one after the other, and any of them may fail. What
has been done by then stays: nobody takes back what the repository has stored, what the cache has
dropped or what has been published. Here every operation is written out as such work, down to the
reads and writes of the repository.

Whatever the policies look like, in place an operation answers what `LifecycleOperation.run` says
and leaves the same behind. So every failure comes before the first effect, even though a signature
is put down before the version is approved.
-/

namespace Mandate

open Mandate.Json Mandate.Time

namespace Lifecycle

variable {l : Lifecycle} {policyId : Uuid} {version : Nat} {context : Value} {on : Occasion}
  {e : PolicyError}

/-- A version with its policy and what it compiles to. -/
def compiledVersion (l : Lifecycle) (policyId : Uuid) (version : Nat) :
    Except PolicyError (Policy × PolicyVersion × Artifact) := do
  let policy ← l.repository.getPolicy policyId
  let current ← l.repository.getVersion policyId version
  let artifact ← l.compile policy current.body
  return (policy, current, artifact)

theorem compiledVersion_eq_ok {policy : Policy} {current : PolicyVersion} {artifact : Artifact} :
    l.compiledVersion policyId version = .ok (policy, current, artifact) ↔
      l.repository.getPolicy policyId = .ok policy ∧
        l.repository.getVersion policyId version = .ok current ∧
        l.compile policy current.body = .ok artifact := by
  constructor
  · intro hfound
    obtain ⟨policy', hpolicy, hrest⟩ := Fallible.exists_of_bind_eq_ok hfound
    obtain ⟨current', hcurrent, hrest⟩ := Fallible.exists_of_bind_eq_ok hrest
    obtain ⟨artifact', hcompile, hrest⟩ := Fallible.exists_of_bind_eq_ok hrest
    cases hrest
    exact ⟨hpolicy, hcurrent, hcompile⟩
  · rintro ⟨hpolicy, hcurrent, hcompile⟩
    rw [compiledVersion, Fallible.bind_of_ok hpolicy, Fallible.bind_of_ok hcurrent,
      Fallible.bind_of_ok hcompile]
    rfl

theorem Unfailing.simulate_eq_bind (hunfailing : l.Unfailing) (policyId : Uuid) (version : Nat)
    (context : Value) (on : Occasion) :
    l.simulate policyId version context on =
      (l.compiledVersion policyId version >>= fun (policy, _, artifact) =>
        l.evaluate policy artifact context on).mapError .policy := by
  rw [simulate, compiledVersion, hunfailing.ask, hunfailing.ask, bind_assoc]
  simp only [bind_assoc, pure_bind]

/-- Either lookup may fail, or the compilation. -/
theorem compiledVersion_eq_error (hfound : l.compiledVersion policyId version = .error e) :
    l.repository.getPolicy policyId = .error e ∨
      ∃ policy, l.repository.getPolicy policyId = .ok policy ∧
        (l.repository.getVersion policyId version = .error e ∨
          ∃ current, l.repository.getVersion policyId version = .ok current ∧
            l.compile policy current.body = .error e) := by
  rw [compiledVersion] at hfound
  cases hpolicy : l.repository.getPolicy policyId with
  | error e' =>
      rw [Fallible.bind_of_error hpolicy] at hfound
      cases hfound
      exact Or.inl rfl
  | ok policy =>
      rw [Fallible.bind_of_ok hpolicy] at hfound
      refine Or.inr ⟨policy, rfl, ?_⟩
      cases hcurrent : l.repository.getVersion policyId version with
      | error e' =>
          rw [Fallible.bind_of_error hcurrent] at hfound
          cases hfound
          exact Or.inl rfl
      | ok current =>
          rw [Fallible.bind_of_ok hcurrent] at hfound
          refine Or.inr ⟨current, rfl, ?_⟩
          cases hcompile : l.compile policy current.body with
          | error e' =>
              rw [Fallible.bind_of_error hcompile] at hfound
              cases hfound
              rfl
          | ok artifact =>
              rw [Fallible.bind_of_ok hcompile] at hfound
              cases hfound

/-- A signature of what cannot be found or compiled fails. -/
theorem Unfailing.approve_of_error (hunfailing : l.Unfailing)
    (hfound : l.compiledVersion policyId version = .error e) (user : Uuid) (on : Occasion) :
    l.approve policyId version user on = (.error (.policy e), l) := by
  rcases compiledVersion_eq_error hfound with hpolicy | ⟨policy, hpolicy, hrest⟩
  · exact Approval.run_of_ended
      (by simp [Approval.step, hunfailing.ask, hpolicy, Progress.failed])
  · rw [hunfailing.approve_policyFound hpolicy]
    apply Approval.run_of_ended
    rcases hrest with hcurrent | ⟨current, hcurrent, hcompile⟩
    · simp [Approval.step, hunfailing.ask, hcurrent, Progress.failed]
    · simp [Approval.step, hunfailing.ask, hcurrent, hcompile, Progress.failed]

/-- So does an activation. -/
theorem Unfailing.activate_of_error (hunfailing : l.Unfailing)
    (hfound : l.compiledVersion policyId version = .error e) (context : Value) (on : Occasion) :
    l.activate policyId version context on = (.error (.policy e), l) := by
  rcases compiledVersion_eq_error hfound with hpolicy | ⟨policy, hpolicy, hrest⟩
  · exact Activation.run_of_ended
      (by simp [Activation.step, hunfailing.ask, hpolicy, Progress.failed])
  · rw [hunfailing.activate_policyFound hpolicy]
    apply Activation.run_of_ended
    rcases hrest with hcurrent | ⟨current, hcurrent, hcompile⟩
    · simp [Activation.step, hunfailing.ask, hcurrent, Progress.failed]
    · simp [Activation.step, hunfailing.ask, hcurrent, hcompile, Progress.failed]

/-- An activation whose simulation comes to no decision fails. -/
theorem Unfailing.activate_of_evaluate_error (hunfailing : l.Unfailing) {policy : Policy}
    {current : PolicyVersion} {artifact : Artifact}
    (hpolicy : l.repository.getPolicy policyId = .ok policy)
    (hcurrent : l.repository.getVersion policyId version = .ok current)
    (hcompile : l.compile policy current.body = .ok artifact)
    (hevaluate : l.evaluate policy artifact context on = .error e) :
    l.activate policyId version context on = (.error (.policy e), l) := by
  rw [hunfailing.activate_policyFound hpolicy]
  exact Activation.run_of_ended
    (by simp [Activation.step, hunfailing.ask, hcurrent, hcompile, hevaluate, Progress.failed])

end Lifecycle

/-- Work on the policies. What it has done by the time at which it fails stays. -/
abbrev PolicyWork := ExceptT DecisionError (StateM Lifecycle)

namespace RepositoryAnswer

def policy? : RepositoryAnswer → Option Policy
  | .policy p => some p
  | _ => none

def version? : RepositoryAnswer → Option PolicyVersion
  | .version v => some v
  | _ => none

def assignment? : RepositoryAnswer → Option PolicyAssignment
  | .assignment a => some a
  | _ => none

def count? : RepositoryAnswer → Option Nat
  | .count n => some n
  | _ => none

end RepositoryAnswer

namespace PolicyWork

variable {α β : Type}

/-- Look at the policies. -/
def look (query : Lifecycle → Except PolicyError α) : PolicyWork α :=
  fun l => ((query l).mapError .policy, l)

/-- Change something. -/
def write (change : Lifecycle → Lifecycle) : PolicyWork Unit := modify change

/-- Have the repository carry out an operation in place, and take out of its answer what the answer
holds. An answer to another question would be a failure of the storage. -/
def carryOut (operation : RepositoryOperation) (held? : RepositoryAnswer → Option α)
    (now : Timestamp) : PolicyWork α := fun l =>
  match operation.inPlace now l.repository with
  | (.error e, repository) => (.error (.policy e), { l with repository })
  | (.ok answer, repository) =>
      match held? answer with
      | some a => (.ok a, { l with repository })
      | none => (.error (.policy (.storage outOfReach)), { l with repository })

/-- Look a version up, with its policy, and compile it. -/
def compiledVersion (policyId : Uuid) (version : Nat) (now : Timestamp) :
    PolicyWork (Policy × PolicyVersion × Artifact) := do
  let policy ← carryOut (.getPolicy policyId) (·.policy?) now
  let current ← carryOut (.getVersion policyId version) (·.version?) now
  let artifact ← look (·.compile policy current.body)
  return (policy, current, artifact)

/-- Approve a version once enough people have signed, unless it was active when it was looked up. -/
def approveIfDue (policyId : Uuid) (version : Nat) (user : Uuid) (status : VersionStatus)
    (approvals : Nat) (now : Timestamp) : PolicyWork Bool := do
  if status = .active then return true
  if (← get).quorum ≤ approvals then
    carryOut (.approveVersion policyId version (some user)) (fun _ => some ()) now
    return true
  return false

/-- Drop the artifacts of a policy, and then publish that it has changed. -/
def invalidate (policyId : Uuid) : PolicyWork Unit := do
  write fun l => { l with compiled := l.compiled.erasePolicy policyId }
  write (·.publish policyId)

end PolicyWork

open PolicyWork in
/-- An operation on policies as work in place. -/
def LifecycleOperation.inPlace (on : Occasion) : LifecycleOperation → PolicyWork LifecycleAnswer
  | .createPolicy orgId name engine createdBy => do
      return .policy
        (← carryOut (.createPolicy on.id orgId name engine createdBy) (·.policy?) on.time)
  | .addVersion policyId body createdBy => do
      let policy ← carryOut (.getPolicy policyId) (·.policy?) on.time
      let _ ← look (·.compile policy body)
      let added ← carryOut (.addVersion policyId body createdBy) (·.version?) on.time
      invalidate policyId
      return .version added
  | .approve policyId version user => do
      let (policy, current, _) ← compiledVersion policyId version on.time
      carryOut (.recordApproval policyId version user) (fun _ => some ()) on.time
      let approvals ← carryOut (.countApprovals policyId version) (·.count?) on.time
      let approved ← approveIfDue policyId version user current.status approvals on.time
      invalidate policyId
      write (·.record (Lifecycle.approvalRecord policy version approvals user) on)
      return .approval ⟨policyId, version, approvals, approved⟩
  | .simulate policyId version context => do
      let (policy, _, artifact) ← compiledVersion policyId version on.time
      return .decision (← look (·.evaluate policy artifact context on))
  | .activate policyId version context => do
      let (policy, _, artifact) ← compiledVersion policyId version on.time
      let simulated ← look (·.evaluate policy artifact context on)
      if !simulated.allow then throw (.simulationDenied simulated.reason)
      let activated ← carryOut (.activateVersion policyId version) (·.version?) on.time
      write fun l => { l with compiled := l.compiled.erasePolicy policyId }
      write fun l => { l with compiled := l.compiled.put policyId version artifact }
      write (·.publish policyId)
      write (·.record (Lifecycle.activationRecord policy version) on)
      return .version activated
  | .assign policyId scopeType scopeId => do
      let assignment ← carryOut (.assign policyId scopeType scopeId) (·.assignment?) on.time
      invalidate policyId
      return .assignment assignment
  | .setRollout orgId policyId version percent => do
      let percent := min percent 100
      carryOut (.putRollout orgId policyId version percent true) (fun _ => some ()) on.time
      write (·.publish policyId)
      return .rollout ⟨orgId, policyId, version, percent, true, on.time⟩

namespace PolicyWork

variable {α β : Type} {l l' : Lifecycle}

/-! ## Statements -/

theorem bind_of_ok {work : PolicyWork α} {a : α} (hwork : work l = (.ok a, l'))
    (next : α → PolicyWork β) : (work >>= next) l = next a l' := by
  rw [InPlace.bind_apply, hwork]

theorem bind_of_error {work : PolicyWork α} {e : DecisionError} (hwork : work l = (.error e, l'))
    (next : α → PolicyWork β) : (work >>= next) l = (.error e, l') := by
  rw [InPlace.bind_apply, hwork]

theorem carryOut_of_ok {operation : RepositoryOperation} {held? : RepositoryAnswer → Option α}
    {now : Timestamp} {answer : RepositoryAnswer} {repository : Repository} {a : α}
    (hrun : operation.run now l.repository = .ok (answer, repository))
    (hheld : held? answer = some a) :
    carryOut operation held? now l = (.ok a, { l with repository }) := by
  simp only [carryOut, operation.inPlace_eq_outcome, RepositoryEvent.outcome_of_ok hrun, hheld]

theorem carryOut_of_error {operation : RepositoryOperation}
    {held? : RepositoryAnswer → Option α} {now : Timestamp} {e : PolicyError}
    (hrun : operation.run now l.repository = .error e) :
    carryOut operation held? now l = (.error (.policy e), l) := by
  simp only [carryOut, operation.inPlace_eq_outcome, RepositoryEvent.outcome_of_error hrun]

theorem look_of_ok {query : Lifecycle → Except PolicyError α} {a : α} (hquery : query l = .ok a) :
    look query l = (.ok a, l) := by
  rw [look, hquery, Except.mapError]

theorem look_of_error {query : Lifecycle → Except PolicyError α} {e : PolicyError}
    (hquery : query l = .error e) : look query l = (.error (.policy e), l) := by
  rw [look, hquery, Except.mapError]

/-! ## Calls -/

section Calls

variable {now : Timestamp} {policyId : Uuid} {version : Nat}

theorem getPolicy_of_ok {policy : Policy}
    (hpolicy : l.repository.getPolicy policyId = .ok policy) :
    carryOut (.getPolicy policyId) (·.policy?) now l = (.ok policy, l) :=
  carryOut_of_ok (by rw [RepositoryOperation.run, hpolicy]; rfl) rfl

theorem getPolicy_of_error {e : PolicyError}
    (hpolicy : l.repository.getPolicy policyId = .error e) :
    carryOut (.getPolicy policyId) (·.policy?) now l = (.error (.policy e), l) :=
  carryOut_of_error (by rw [RepositoryOperation.run, hpolicy]; rfl)

/-- Looking a version up and compiling it changes nothing, whatever it comes to. -/
theorem compiledVersion_eq (policyId : Uuid) (version : Nat) (now : Timestamp) (l : Lifecycle) :
    compiledVersion policyId version now l =
      ((l.compiledVersion policyId version).mapError .policy, l) := by
  rw [compiledVersion, Lifecycle.compiledVersion]
  cases hpolicy : l.repository.getPolicy policyId with
  | error e => exact bind_of_error (getPolicy_of_error hpolicy) _
  | ok policy =>
      rw [bind_of_ok (getPolicy_of_ok hpolicy), Fallible.bind_of_ok rfl]
      cases hcurrent : l.repository.getVersion policyId version with
      | error e =>
          have hcarried : carryOut (.getVersion policyId version) (·.version?) now l =
              (.error _, l) :=
            carryOut_of_error (by rw [RepositoryOperation.run, hcurrent]; rfl)
          exact bind_of_error hcarried _
      | ok current =>
          have hcarried : carryOut (.getVersion policyId version) (·.version?) now l =
              (.ok _, l) :=
            carryOut_of_ok (by rw [RepositoryOperation.run, hcurrent]; rfl) rfl
          rw [bind_of_ok hcarried, Fallible.bind_of_ok rfl]
          cases hcompile : l.compile policy current.body with
          | error e => exact bind_of_error (look_of_error hcompile) _
          | ok artifact => exact bind_of_ok (look_of_ok hcompile) _

/-- The approval does not fail as long as the version has kept its status. -/
theorem approveIfDue_eq {current : PolicyVersion} {approvals : Nat}
    (hcurrent : l.repository.getVersion policyId version = .ok current) (user : Uuid)
    (now : Timestamp) :
    approveIfDue policyId version user current.status approvals now l =
      (.ok (current.status = .active ∨ l.quorum ≤ approvals),
        { l with repository := if current.status = .draft ∧ l.quorum ≤ approvals then
            l.repository.updateVersion policyId version (·.approved (some user) now)
          else l.repository }) := by
  by_cases hactive : current.status = .active
  · simp only [approveIfDue, hactive, ↓reduceIte, reduceCtorEq, false_and, true_or, decide_true]
    rfl
  · simp only [approveIfDue, hactive, ↓reduceIte, false_or]
    rw [InPlace.bind_apply]
    change (if l.quorum ≤ approvals then _ else _ : PolicyWork Bool) l = _
    by_cases hquorum : l.quorum ≤ approvals
    · simp only [hquorum, ↓reduceIte, and_true, decide_true]
      cases hstatus : current.status with
      | draft =>
          have happroved : l.repository.approveVersion policyId version (some user) now = .ok _ :=
            Repository.approveVersion_of_draft hcurrent hstatus
          have hcarried : carryOut (.approveVersion policyId version (some user))
              (fun _ => some ()) now l = (.ok (), _) :=
            carryOut_of_ok (by rw [RepositoryOperation.run, happroved]; rfl) rfl
          exact bind_of_ok hcarried _
      | approved =>
          have happroved : l.repository.approveVersion policyId version (some user) now = .ok _ :=
            Repository.approveVersion_of_approved hcurrent hstatus
          have hcarried : carryOut (.approveVersion policyId version (some user))
              (fun _ => some ()) now l = (.ok (), _) :=
            carryOut_of_ok (by rw [RepositoryOperation.run, happroved]; rfl) rfl
          exact bind_of_ok hcarried _
      | active => exact absurd hstatus hactive
    · simp only [hquorum, ↓reduceIte, and_false, decide_false]
      rfl

end Calls

end PolicyWork

namespace LifecycleOperation

open PolicyWork

variable {l : Lifecycle} {on : Occasion} {policyId : Uuid} {version : Nat}

/-! ## Every operation -/

theorem createInPlace_eq_run (hunfailing : l.Unfailing) (orgId : Uuid) (name engine : String)
    (createdBy : Option Uuid) :
    (createPolicy orgId name engine createdBy).inPlace on l =
      (createPolicy orgId name engine createdBy).run on l := by
  have hcreated : carryOut (.createPolicy on.id orgId name engine createdBy) (·.policy?)
      on.time l = (.ok _, _) :=
    carryOut_of_ok rfl rfl
  rw [inPlace, bind_of_ok hcreated, run, answered, Lifecycle.createPolicy, hunfailing.change]
  rfl

theorem addVersionInPlace_eq_run (hunfailing : l.Unfailing) (body : Value)
    (createdBy : Option Uuid) :
    (addVersion policyId body createdBy).inPlace on l =
      (addVersion policyId body createdBy).run on l := by
  rw [inPlace, run, answered, Lifecycle.addVersion, hunfailing.ask]
  cases hpolicy : l.repository.getPolicy policyId with
  | error e =>
      rw [bind_of_error (getPolicy_of_error hpolicy)]
      rfl
  | ok policy =>
      rw [bind_of_ok (getPolicy_of_ok hpolicy)]
      dsimp only
      cases hcompile : l.compile policy body with
      | error e =>
          rw [bind_of_error (look_of_error hcompile)]
          rfl
      | ok artifact =>
          have hadded := Repository.addVersion_of_getPolicy hpolicy body createdBy on.time
          have hcarried : carryOut (.addVersion policyId body createdBy) (·.version?) on.time l =
              (.ok _, _) :=
            carryOut_of_ok (by rw [RepositoryOperation.run, hadded]; rfl) rfl
          rw [bind_of_ok (look_of_ok hcompile), bind_of_ok hcarried]
          dsimp only
          rw [hunfailing.change, hadded]
          rfl

theorem assignInPlace_eq_run (hunfailing : l.Unfailing) (scopeType : ScopeType)
    (scopeId : String) :
    (assign policyId scopeType scopeId).inPlace on l =
      (assign policyId scopeType scopeId).run on l := by
  rw [inPlace, run, answered, Lifecycle.assign, hunfailing.change]
  cases hassign : l.repository.assign policyId scopeType scopeId on.time with
  | error e =>
      have hcarried : carryOut (.assign policyId scopeType scopeId) (·.assignment?) on.time l =
          (.error _, l) :=
        carryOut_of_error (by rw [RepositoryOperation.run, hassign]; rfl)
      rw [bind_of_error hcarried]
      rfl
  | ok assigned =>
      have hcarried : carryOut (.assign policyId scopeType scopeId) (·.assignment?) on.time l =
          (.ok _, _) :=
        carryOut_of_ok (by rw [RepositoryOperation.run, hassign]; rfl) rfl
      rw [bind_of_ok hcarried]
      rfl

theorem setRolloutInPlace_eq_run (hunfailing : l.Unfailing) (orgId : Uuid) (percent : Nat) :
    (setRollout orgId policyId version percent).inPlace on l =
      (setRollout orgId policyId version percent).run on l := by
  rw [inPlace, run, answered, Lifecycle.setRollout, hunfailing.change]
  cases hput : l.repository.putRollout
      ⟨orgId, policyId, version, min percent 100, true, on.time⟩ with
  | error e =>
      have hcarried : carryOut (.putRollout orgId policyId version (min percent 100) true)
          (fun _ => some ()) on.time l = (.error _, l) :=
        carryOut_of_error (by rw [RepositoryOperation.run, hput]; rfl)
      rw [bind_of_error hcarried]
      rfl
  | ok next =>
      have hcarried : carryOut (.putRollout orgId policyId version (min percent 100) true)
          (fun _ => some ()) on.time l = (.ok (), _) :=
        carryOut_of_ok (by rw [RepositoryOperation.run, hput]; rfl) rfl
      rw [bind_of_ok hcarried]
      rfl

theorem simulateInPlace_eq_run (hunfailing : l.Unfailing) (context : Value) :
    (simulate policyId version context).inPlace on l =
      (simulate policyId version context).run on l := by
  rw [inPlace, run, hunfailing.simulate_eq_bind]
  have hlooked := compiledVersion_eq policyId version on.time l
  cases hfound : l.compiledVersion policyId version with
  | error e =>
      rw [hfound] at hlooked
      exact bind_of_error hlooked _
  | ok found =>
      obtain ⟨policy, current, artifact⟩ := found
      rw [hfound] at hlooked
      rw [bind_of_ok hlooked, Fallible.bind_of_ok rfl]
      dsimp only
      cases hevaluate : l.evaluate policy artifact context on with
      | error e => exact bind_of_error (look_of_error hevaluate) _
      | ok decision => exact bind_of_ok (look_of_ok hevaluate) _

theorem approveInPlace_eq_run (hunfailing : l.Unfailing) (user : Uuid) :
    (approve policyId version user).inPlace on l = (approve policyId version user).run on l := by
  rw [inPlace, run]
  have hlooked := compiledVersion_eq policyId version on.time l
  cases hfound : l.compiledVersion policyId version with
  | error e =>
      rw [hfound] at hlooked
      rw [hunfailing.approve_of_error hfound]
      exact bind_of_error hlooked _
  | ok found =>
      obtain ⟨policy, current, artifact⟩ := found
      obtain ⟨hpolicy, hcurrent, hcompile⟩ := Lifecycle.compiledVersion_eq_ok.mp hfound
      rw [hfound] at hlooked
      have hrecorded : carryOut (.recordApproval policyId version user) (fun _ => some ())
          on.time l = (.ok (), { l with
            repository := l.repository.sign policyId version user on.time }) :=
        carryOut_of_ok (by
          rw [RepositoryOperation.run, Repository.recordApproval_of_getVersion hcurrent]
          rfl) rfl
      have hcounted : carryOut (.countApprovals policyId version) (·.count?) on.time
          { l with repository := l.repository.sign policyId version user on.time } =
            (.ok _, _) :=
        carryOut_of_ok rfl rfl
      have hstill : (l.repository.sign policyId version user on.time).getVersion policyId
          version = .ok current := by
        rw [Repository.getVersion_sign, hcurrent]
      rw [hunfailing.approve_eq hpolicy hcurrent hcompile, bind_of_ok hlooked]
      dsimp only
      rw [bind_of_ok hrecorded, bind_of_ok hcounted,
        bind_of_ok (approveIfDue_eq hstill user on.time)]
      rfl

theorem activateInPlace_eq_run (hunfailing : l.Unfailing) (context : Value) :
    (activate policyId version context).inPlace on l =
      (activate policyId version context).run on l := by
  rw [inPlace, run]
  have hlooked := compiledVersion_eq policyId version on.time l
  cases hfound : l.compiledVersion policyId version with
  | error e =>
      rw [hfound] at hlooked
      rw [hunfailing.activate_of_error hfound]
      exact bind_of_error hlooked _
  | ok found =>
      obtain ⟨policy, current, artifact⟩ := found
      obtain ⟨hpolicy, hcurrent, hcompile⟩ := Lifecycle.compiledVersion_eq_ok.mp hfound
      rw [hfound] at hlooked
      rw [bind_of_ok hlooked]
      dsimp only
      cases hevaluate : l.evaluate policy artifact context on with
      | error e =>
          rw [hunfailing.activate_of_evaluate_error hpolicy hcurrent hcompile hevaluate]
          exact bind_of_error (look_of_error hevaluate) _
      | ok decision =>
          rw [bind_of_ok (look_of_ok hevaluate)]
          cases hallow : decision.allow with
          | false =>
              rw [hunfailing.activate_denied hpolicy hcurrent hcompile hevaluate hallow]
              rfl
          | true =>
              by_cases happroved : current.status = .approved
              · have hpromoted :=
                  Repository.activateVersion_of_approved hcurrent happroved on.time
                have hcarried : carryOut (.activateVersion policyId version) (·.version?)
                    on.time l = (.ok _, _) :=
                  carryOut_of_ok (by rw [RepositoryOperation.run, hpromoted]; rfl) rfl
                rw [hunfailing.activate_eq hpolicy hcurrent hcompile hevaluate hallow happroved]
                exact bind_of_ok hcarried _
              · have hrefused :=
                  Repository.activateVersion_of_not_approved hcurrent happroved on.time
                have hcarried : carryOut (.activateVersion policyId version) (·.version?)
                    on.time l = (.error _, l) :=
                  carryOut_of_error (by rw [RepositoryOperation.run, hrefused]; rfl)
                rw [hunfailing.activate_not_approved hpolicy hcurrent hcompile hevaluate hallow
                  happroved]
                exact bind_of_error hcarried _

/-- Whatever an operation does, in place it does what it should, and it fails before it has done
anything. -/
theorem inPlace_eq_run (operation : LifecycleOperation) (hunfailing : l.Unfailing)
    (on : Occasion) : operation.inPlace on l = operation.run on l := by
  cases operation with
  | createPolicy orgId name engine createdBy =>
      exact createInPlace_eq_run hunfailing orgId name engine createdBy
  | addVersion policyId body createdBy => exact addVersionInPlace_eq_run hunfailing body createdBy
  | approve policyId version user => exact approveInPlace_eq_run hunfailing user
  | simulate policyId version context => exact simulateInPlace_eq_run hunfailing context
  | activate policyId version context => exact activateInPlace_eq_run hunfailing context
  | assign policyId scopeType scopeId => exact assignInPlace_eq_run hunfailing scopeType scopeId
  | setRollout orgId policyId version percent =>
      exact setRolloutInPlace_eq_run hunfailing orgId percent

/-! ## What is published and kept -/

/-- The policy whose change an operation publishes. -/
def changed? : LifecycleOperation → Option Uuid
  | .createPolicy .. | .simulate .. => none
  | .addVersion policyId .. | .approve policyId .. | .activate policyId .. | .assign policyId ..
  | .setRollout _ policyId .. => some policyId

/-- The policy whose artifacts an operation drops. -/
def dropped? : LifecycleOperation → Option Uuid
  | .createPolicy .. | .simulate .. | .setRollout .. => none
  | .addVersion policyId .. | .approve policyId .. | .activate policyId .. | .assign policyId .. =>
      some policyId

/-- The version whose artifact an operation keeps for the decisions to come. -/
def warmed? : LifecycleOperation → Option (Uuid × Nat)
  | .activate policyId version _ => some (policyId, version)
  | _ => none

end LifecycleOperation

namespace CompiledCache

theorem not_mem_erasePolicy {cache : CompiledCache} {policyId : Uuid} {version : Nat}
    {artifact : Artifact} :
    ((policyId, version), artifact) ∉ (cache.erasePolicy policyId).entries := by
  simp [erasePolicy]

end CompiledCache

namespace Lifecycle

variable {l l' : Lifecycle} {on : Occasion} {operation : LifecycleOperation}
  {answer : LifecycleAnswer}

theorem Outcome.eq_of_error {e : DecisionError}
    (houtcome : Outcome l on operation (.error e) l') : l' = l := by
  cases houtcome with
  | failed => rfl

theorem Outcome.eq_of_simulate {policyId : Uuid} {version : Nat} {context : Value}
    {result : Except DecisionError LifecycleAnswer}
    (houtcome : Outcome l on (.simulate policyId version context) result l') : l' = l := by
  cases houtcome with
  | failed => rfl
  | simulated _ => rfl

theorem Outcome.published_eq (houtcome : Outcome l on operation (.ok answer) l') :
    l'.published = l.published ++ operation.changed?.toList := by
  cases houtcome with
  | created _ => exact (List.append_nil _).symm
  | simulated _ => exact (List.append_nil _).symm
  | _ => rfl

/-- Of a policy whose artifacts are dropped only that one is kept which an activation has made. -/
theorem Outcome.mem_entries (houtcome : Outcome l on operation (.ok answer) l') {policyId : Uuid}
    (hdropped : operation.dropped? = some policyId) (version : Nat) (artifact : Artifact) :
    ((policyId, version), artifact) ∈ l'.compiled.entries ↔
      operation.warmed? = some (policyId, version) ∧ l.Makes policyId version artifact := by
  cases houtcome with
  | created _ | simulated _ | rolledOut _ _ => cases hdropped
  | added _ _ _ | signed _ _ _ _ | assigned _ _ =>
      cases hdropped
      exact iff_of_false CompiledCache.not_mem_erasePolicy nofun
  | @activated _ activeVersion context policy current made decision hpolicy hcurrent hcompile
      hevaluate hallow happroved =>
      cases hdropped
      have hmade : l.Makes policyId activeVersion made :=
        ⟨policy, current, hpolicy, hcurrent, hcompile⟩
      constructor
      · intro hmem
        rcases CompiledCache.mem_put hmem with hnew | hold
        · cases hnew
          exact ⟨rfl, hmade⟩
        · exact absurd hold CompiledCache.not_mem_erasePolicy
      · rintro ⟨hwarmed, hmakes⟩
        cases hwarmed
        rw [hmakes.unique hmade]
        exact List.mem_cons_self

/-- An operation in place answers and leaves what it should. One that fails has changed nothing, and
a simulation changes nothing at all. One that succeeds has published the policy that it has
changed, once, and nothing else; and unless it has set a rollout, of the artifacts of this policy
only that one is kept which an activation has just made. -/
theorem failures_leave_no_trace (hunfailing : l.Unfailing) (operation : LifecycleOperation)
    (on : Occasion) :
    let answer := (operation.inPlace on l).1
    let after := (operation.inPlace on l).2
    (answer, after) = operation.run on l ∧
    (∀ e, answer = .error e → after = l) ∧
    (∀ policyId version context, operation = .simulate policyId version context → after = l) ∧
    (∀ a, answer = .ok a → after.published = l.published ++ operation.changed?.toList ∧
      ∀ policyId, operation.dropped? = some policyId → ∀ version artifact,
        ((policyId, version), artifact) ∈ after.compiled.entries ↔
          operation.warmed? = some (policyId, version) ∧ l.Makes policyId version artifact) := by
  intro answer after
  have hrun : operation.inPlace on l = operation.run on l :=
    operation.inPlace_eq_run hunfailing on
  have houtcome : Outcome l on operation answer after := by
    change Outcome l on operation (operation.inPlace on l).1 (operation.inPlace on l).2
    rw [hrun]
    exact hunfailing.outcome operation on
  refine ⟨hrun, ?_, ?_, ?_⟩
  · intro e herror
    rw [herror] at houtcome
    exact houtcome.eq_of_error
  · rintro policyId version context rfl
    exact houtcome.eq_of_simulate
  · intro a hok
    rw [hok] at houtcome
    exact ⟨houtcome.published_eq, fun policyId hdropped => houtcome.mem_entries hdropped⟩

/-- A policy with an approved version that denies everything. -/
def denying : Lifecycle where
  repository :=
    { policies := [⟨⟨1⟩, ⟨9⟩, "p", Rules.engineName, none, default⟩]
      versions :=
        [(PolicyVersion.draft ⟨1⟩ 1 (.object [("rules", .array [])]) none default).approved
          none default] }

/-- Its activation is refused and leaves no trace. Assigning it publishes it once. -/
theorem refused_activation_leaves_no_trace :
    denying.failing = [] ∧
    (∃ e, ((LifecycleOperation.activate ⟨1⟩ 1 .null).inPlace default denying).1 = .error e) ∧
    ((LifecycleOperation.activate ⟨1⟩ 1 .null).inPlace default denying).2 = denying ∧
    ((LifecycleOperation.assign ⟨1⟩ .org "").inPlace default denying).2.published = [⟨1⟩] := by
  obtain ⟨-, hfailed, -, -⟩ :=
    failures_leave_no_trace (l := denying) rfl (.activate ⟨1⟩ 1 .null) default
  obtain ⟨-, -, -, hassigned⟩ :=
    failures_leave_no_trace (l := denying) rfl (.assign ⟨1⟩ .org "") default
  have hrefused : ∃ e,
      ((LifecycleOperation.activate ⟨1⟩ 1 .null).inPlace default denying).1 = .error e :=
    ⟨_, rfl⟩
  obtain ⟨e, he⟩ := hrefused
  exact ⟨rfl, ⟨e, he⟩, hfailed e he, (hassigned _ rfl).1⟩

end Lifecycle

end Mandate
