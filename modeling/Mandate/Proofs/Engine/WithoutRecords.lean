import Mandate.Proofs.Engine.Verdict

/-! # Engines without their records

What an engine records about its decisions decides nothing: the tasks in its queue, the counts of
decisions, tokens and dropped tasks, and what is kept in the sinks. Counting, queueing and doing
background work leave the engine as it is without these records. Apart from them a decision leaves
behind what its evaluation does, and a permit in use while it waits for the signer.
-/

namespace Mandate

/-- How many permits a begun decision goes on using. -/
def Begun.permits : Begun → Nat
  | .answered _ => 0
  | .waiting _ => 1

namespace Engine

open Evaluation

variable {e : Engine}

/-! ## What is left for later -/

section Submissions

variable {α : Type} {of : Engine → α}
  (hsubmit : ∀ (e : Engine) (task : BackgroundTask), of (e.submit task) = of e)

include hsubmit

/-- What no submission changes is not changed by what is left for the background. -/
theorem recordLater_of_submit (e : Engine) (event : AuditRecord) :
    of (e.recordLater event) = of e := by
  unfold recordLater
  split
  · exact hsubmit e _
  · rfl

theorem foldl_recordLater_of_submit (e : Engine) (events : List AuditRecord) :
    of (events.foldl recordLater e) = of e := by
  induction events generalizing e with
  | nil => rfl
  | cons event rest ih => rw [List.foldl_cons, ih, recordLater_of_submit hsubmit]

theorem lowerReputationLater_of_submit (e : Engine) (request : Request) (decision : Decision)
    (signals : Risk.Signals) : of (e.lowerReputationLater request decision signals) = of e := by
  unfold lowerReputationLater
  split
  · exact hsubmit e _
  · rfl

theorem keepTraceLater_of_submit (e : Engine) (request : Request) (policy : Uuid) (version : Nat)
    (decision : Decision) : of (e.keepTraceLater request policy version decision) = of e := by
  unfold keepTraceLater
  split
  · rfl
  · split
    · exact hsubmit e _
    · rfl

end Submissions

/-! ## Records -/

/-- The engine without what it records about decisions. How many requests were turned away is
left in it. -/
def withoutRecords (e : Engine) : Engine :=
  { e with
    lifecycle := { e.lifecycle with audit := .absent }
    traces := .absent
    reputations := .absent
    metrics := { quickRejects := e.metrics.quickRejects }
    background := .start 1 1 }

theorem inflight_eq {e' : Engine} (hsame : e'.withoutRecords = e.withoutRecords) :
    e'.inflight = e.inflight := by
  have hinflight := congrArg Engine.inflight hsame
  exact hinflight

@[simp] theorem withoutRecords_submit (e : Engine) (task : BackgroundTask) :
    (e.submit task).withoutRecords = e.withoutRecords := by
  unfold submit
  split <;> rfl

theorem withoutRecords_foldl_recordLater (e : Engine) (events : List AuditRecord) :
    (events.foldl recordLater e).withoutRecords = e.withoutRecords :=
  foldl_recordLater_of_submit withoutRecords_submit e events

/-- The engine with what an evaluation leaves behind, but for the records. -/
def keeping (e : Engine) (clock : Nat) (progress : Evaluation.Progress) : Engine :=
  { e with
    graph := match progress.asked with
      | some (subject, object) => (e.graph.check clock subject Evaluation.canActFor object).2
      | none => e.graph
    risk := progress.risk
    lifecycle := { e.lifecycle with compiled := progress.compiled } }

/-- What an evaluation leaves behind is kept first, and then what it notes is recorded. -/
theorem absorb_eq (e : Engine) (clock : Nat) (progress : Evaluation.Progress) :
    e.absorb clock progress = progress.events.foldl recordLater (e.keeping clock progress) := rfl

@[simp] theorem withoutRecords_absorb (e : Engine) (clock : Nat)
    (progress : Evaluation.Progress) :
    (e.absorb clock progress).withoutRecords = (e.keeping clock progress).withoutRecords := by
  rw [absorb_eq, withoutRecords_foldl_recordLater]

@[simp] theorem withoutRecords_countDecision (e : Engine) (request : Request) (allow : Bool)
    (reason : String) :
    (e.countDecision request allow reason).withoutRecords = e.withoutRecords := rfl

@[simp] theorem withoutRecords_lowerReputationLater (e : Engine) (request : Request)
    (decision : Decision) (signals : Risk.Signals) :
    (e.lowerReputationLater request decision signals).withoutRecords = e.withoutRecords :=
  lowerReputationLater_of_submit withoutRecords_submit e request decision signals

@[simp] theorem withoutRecords_keepTraceLater (e : Engine) (request : Request) (policy : Uuid)
    (version : Nat) (decision : Decision) :
    (e.keepTraceLater request policy version decision).withoutRecords = e.withoutRecords :=
  keepTraceLater_of_submit withoutRecords_submit e request policy version decision

@[simp] theorem withoutRecords_perform (e : Engine) (task : BackgroundTask) (stamp : Stamp) :
    (e.perform task stamp).withoutRecords = e.withoutRecords := by
  cases task <;> rfl

@[simp] theorem withoutRecords_performAll (e : Engine) (stamps : Nat → Stamp)
    (tasks : List BackgroundTask) :
    (e.performAll stamps tasks).withoutRecords = e.withoutRecords := by
  induction tasks generalizing e stamps with
  | nil => rfl
  | cons task rest ih => rw [performAll, ih, withoutRecords_perform]

@[simp] theorem withoutRecords_work (e : Engine) (stamps : Nat → Stamp) :
    (e.work stamps).withoutRecords = e.withoutRecords :=
  withoutRecords_performAll _ _ _

/-! ## Whole decisions -/

/-- The engine with a number of permits in use. -/
def withInflight (e : Engine) (inflight : Nat) : Engine := { e with inflight }

theorem withoutRecords_requestToken (e : Engine) (request : Request) (on : Occasion)
    (evaluated : Evaluated) (response : Response) :
    (e.requestToken request evaluated response on).2.withoutRecords =
      e.withoutRecords.withInflight
        (e.inflight + (e.requestToken request evaluated response on).1.permits) := by
  unfold requestToken
  split
  · rfl
  · split <;> rfl

theorem withoutRecords_conclude (e : Engine) (request : Request) (on : Occasion)
    (result : Except Decision Evaluated) :
    (e.conclude request on result).2.withoutRecords =
      e.withoutRecords.withInflight
        (e.inflight + (e.conclude request on result).1.permits) := by
  cases result with
  | error refusal => rfl
  | ok evaluated =>
      let decision := explain request evaluated
      let remembered := ((e.countDecision request decision.allow
        decision.reason).lowerReputationLater request decision evaluated.signals).keepTraceLater
          request evaluated.policy.id evaluated.version decision
      have hremembered : remembered.withoutRecords = e.withoutRecords := by simp [remembered]
      have htoken := withoutRecords_requestToken remembered request on evaluated
        (.ofDecision decision)
      rw [hremembered, inflight_eq hremembered] at htoken
      exact htoken

/-- Apart from records, a decision that begins leaves behind what its evaluation does, and a permit
in use if it waits for the signer. -/
theorem withoutRecords_beginWith (hadmits : e.admits = true) (c : Collaborators)
    (request : Request) (on : Occasion) :
    (e.beginWith c request on).2.withoutRecords =
      (e.keeping on.clock
        (evaluate c e.config request on (e.entering request on)).2).withoutRecords.withInflight
          (e.inflight + (e.beginWith c request on).1.permits) := by
  have habsorbed := withoutRecords_absorb e on.clock
    (evaluate c e.config request on (e.entering request on)).2
  rw [beginWith_of_admits hadmits, withoutRecords_conclude, habsorbed, inflight_eq habsorbed]
  rfl

/-- The end of a decision that waited for the signer returns its permit. -/
theorem withoutRecords_finish (e : Engine) (pending : PendingToken) (answer : Token.Answer) :
    (e.finish pending answer).2.withoutRecords =
      e.withoutRecords.withInflight (e.inflight - 1) := by
  unfold finish
  dsimp only
  split <;> rfl

/-- Apart from records, a decision leaves behind what its evaluation does. -/
theorem withoutRecords_decideWith (hadmits : e.admits = true) (c : Collaborators)
    (request : Request) (on : Occasion) (stamps : Nat → Stamp) :
    (e.decideWith c request on stamps).2.withoutRecords =
      (e.keeping on.clock
        (evaluate c e.config request on (e.entering request on)).2).withoutRecords := by
  have hbegun := withoutRecords_beginWith hadmits c request on
  unfold decideWith
  split
  next response begun heq =>
    rw [heq] at hbegun
    exact hbegun
  next pending begun heq =>
    rw [heq] at hbegun
    have hinflight : begun.inflight = e.inflight + 1 := congrArg Engine.inflight hbegun
    have hworked := inflight_eq (withoutRecords_work begun stamps)
    dsimp only
    split
    · rw [withoutRecords_finish, withoutRecords_work, hbegun, hworked, hinflight]
      rfl
    · rw [withoutRecords_finish, hbegun, hinflight]
      rfl

end Engine

end Mandate
