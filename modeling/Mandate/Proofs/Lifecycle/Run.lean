import Mandate.Proofs.Lifecycle.Outcome

/-! # Runs of operations on policies

A run is a list of calls, one after the other. Its history shows every call together with the
state in which it was made, so what was answered and what was left behind can be read off. What
every call preserves, with the history growing by one event, holds after every run.
-/

namespace Mandate

/-- An operation on policies on an occasion. -/
structure LifecycleCall where
  operation : LifecycleOperation
  on : Occasion

/-- A call together with the state in which it is made. -/
structure LifecycleEvent where
  before : Lifecycle
  call : LifecycleCall

namespace LifecycleEvent

/-- What the call answers. -/
def answer (e : LifecycleEvent) : Except DecisionError LifecycleAnswer :=
  (e.call.operation.run e.call.on e.before).1

/-- What the call leaves behind. -/
def after (e : LifecycleEvent) : Lifecycle :=
  (e.call.operation.run e.call.on e.before).2

end LifecycleEvent

namespace Lifecycle

/-- The state after a run. -/
def afterAll (l : Lifecycle) : List LifecycleCall → Lifecycle
  | [] => l
  | call :: rest => (LifecycleEvent.mk l call).after.afterAll rest

/-- The history of a run. -/
def history (l : Lifecycle) : List LifecycleCall → List LifecycleEvent
  | [] => []
  | call :: rest => ⟨l, call⟩ :: (LifecycleEvent.mk l call).after.history rest

theorem map_call_history (l : Lifecycle) (calls : List LifecycleCall) :
    (l.history calls).map LifecycleEvent.call = calls := by
  induction calls generalizing l with
  | nil => rfl
  | cons call rest ih => rw [history, List.map_cons, ih]

/-- What every call preserves holds after every run. -/
theorem afterAll_invariant (invariant : List LifecycleEvent → Lifecycle → Prop)
    (hstep : ∀ past l call, invariant past l →
      invariant (past ++ [⟨l, call⟩]) (LifecycleEvent.mk l call).after)
    (calls : List LifecycleCall) (past : List LifecycleEvent) (l : Lifecycle)
    (hstart : invariant past l) : invariant (past ++ l.history calls) (l.afterAll calls) := by
  induction calls generalizing past l with
  | nil => simpa [history, afterAll] using hstart
  | cons call rest ih =>
      have hrest := ih _ _ (hstep past l call hstart)
      rwa [List.append_assoc, List.singleton_append] at hrest

/-! ## The frame of a run -/

variable {l l' : Lifecycle} {on : Occasion} {operation : LifecycleOperation}
  {answer : Except DecisionError LifecycleAnswer}

/-- No operation changes the quorum, the registry, or which calls are answered. -/
theorem Outcome.frame (houtcome : Outcome l on operation answer l') :
    l'.approvalsRequired = l.approvalsRequired ∧ l'.registry = l.registry ∧
      l'.failing = l.failing := by
  cases houtcome <;> exact ⟨rfl, rfl, rfl⟩

/-- Well-formed records stay well formed. -/
theorem Outcome.wellFormed (houtcome : Outcome l on operation answer l')
    (hwell : l.repository.WellFormed) : l'.repository.WellFormed := by
  cases houtcome with
  | failed => exact hwell
  | created _ => exact hwell.of_eq rfl rfl rfl
  | added _ _ hadded =>
      subst hadded
      exact hwell.add_draft _ _
  | signed _ _ _ _ =>
      change (l.repository.signedOff ..).WellFormed
      unfold Repository.signedOff
      dsimp only
      split
      · exact hwell.sign.updateVersion fun _ => rfl
      · exact hwell.sign
  | simulated _ => exact hwell
  | activated _ _ _ _ _ _ => exact hwell.promote
  | assigned _ _ => exact hwell.of_eq rfl rfl rfl
  | rolledOut _ _ => exact hwell.of_eq rfl rfl rfl

end Lifecycle

end Mandate
