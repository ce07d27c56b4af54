import Mandate.Proofs.Engine.Service

/-! # Admission

An engine with a limit lets no more requests wait for the signer at once. A request is turned away
exactly when as many wait already, and turning it away leaves no trace but the count of it. Every
other way in which a decision ends gives its permit back.
-/

namespace Mandate

namespace Engine

open Evaluation

variable {e : Engine} {request : Request} {on : Occasion}

/-- The request is refused at once, and nothing is changed by it but the count of such requests. -/
def TurnsAway (e : Engine) (request : Request) (on : Occasion) : Prop :=
  e.begin request on =
    (.answered (.ofDecision (.deny overloaded)), { e with metrics := e.metrics.quickReject })

/-- How many more decisions may wait for the signer. -/
def freePermits (e : Engine) : Nat := e.config.maxInflight - e.inflight

theorem quickRejects_begin_of_admits (hadmits : e.admits = true) (request : Request)
    (on : Occasion) : (e.begin request on).2.metrics.quickRejects = e.metrics.quickRejects := by
  have hkept := withoutRecords_beginWith hadmits (e.collaborators on.clock) request on
  exact congrArg (fun e => e.metrics.quickRejects) hkept

theorem turnsAway_iff : e.TurnsAway request on ↔ e.admits = false := by
  constructor
  · intro hturned
    -- a request that is admitted is not counted as turned away
    rw [← Bool.not_eq_true]
    intro hadmits
    have hcount := quickRejects_begin_of_admits hadmits request on
    rw [hturned] at hcount
    exact Nat.succ_ne_self _ hcount
  · intro hadmits
    exact beginWith_of_not_admits hadmits

theorem inflight_begin (e : Engine) (request : Request) (on : Occasion) :
    (e.begin request on).2.inflight = e.inflight + (e.begin request on).1.permits := by
  cases hadmits : e.admits with
  | false =>
      rw [turnsAway_iff.mpr hadmits]
      rfl
  | true =>
      have hkept := withoutRecords_beginWith hadmits (e.collaborators on.clock) request on
      exact congrArg Engine.inflight hkept

/-- Whichever way a decision ends, it has given its permit back. -/
theorem inflight_decide (e : Engine) (request : Request) (on : Occasion) (stamps : Nat → Stamp) :
    (e.decide request on stamps).2.inflight = e.inflight := by
  cases hadmits : e.admits with
  | false =>
      rw [decide, decideWith, beginWith_of_not_admits hadmits]
  | true =>
      have hkept := withoutRecords_decideWith hadmits (e.collaborators on.clock) request on stamps
      have hinflight := congrArg Engine.inflight hkept
      exact hinflight

/-- The end of a decision that has waited for the signer gives its permit back. -/
theorem inflight_finish (e : Engine) (pending : PendingToken) (answer : Token.Answer) :
    (e.finish pending answer).2.inflight = e.inflight - 1 :=
  congrArg Engine.inflight (withoutRecords_finish e pending answer)

/-- Other work neither uses permits nor turns anybody away. -/
theorem carryOut_keeps (e : Engine) (chore : Chore) :
    (e.carryOut chore).config = e.config ∧ (e.carryOut chore).inflight = e.inflight ∧
      (e.carryOut chore).metrics.quickRejects = e.metrics.quickRejects := by
  cases chore with
  | manage operation on => exact ⟨rfl, rfl, rfl⟩
  | relate batch =>
      cases hinsert : e.graph.insert batch <;> simp only [carryOut, hinsert, and_self]
  | agree contract => exact ⟨rfl, rfl, rfl⟩
  | work stamps =>
      have hworked := withoutRecords_work e stamps
      have hcount := congrArg (fun e => e.metrics.quickRejects) hworked
      exact ⟨(untouched_work e stamps).config, inflight_eq hworked, hcount⟩

end Engine

namespace Service

open Engine

variable {s : Service} {n : Nat}

/-- As many permits are in use as calls wait, and not more than there are. -/
structure WithinLimit (n : Nat) (s : Service) : Prop where
  limit : s.engine.config.maxInflight = n
  inUse : s.engine.inflight = s.waiting.length
  bounded : s.waiting.length ≤ n

theorem WithinLimit.admits_iff (hwithin : WithinLimit n s) (hpos : 0 < n) :
    s.engine.admits = false ↔ s.waiting.length = n := by
  obtain ⟨hlimit, hinUse, hbounded⟩ := hwithin
  rw [admits, hlimit, hinUse]
  simp only [Bool.or_eq_false_iff, decide_eq_false_iff_not]
  omega

theorem WithinLimit.receive (hwithin : WithinLimit n s) (hpos : 0 < n) (request : Request)
    (on : Occasion) : WithinLimit n (s.receive request on) := by
  have hlimit : (s.engine.begin request on).2.config.maxInflight = n := by
    rw [begin, (sameSigner_beginWith s.engine (s.engine.collaborators on.clock) request on).1]
    exact hwithin.limit
  have hinflight := inflight_begin s.engine request on
  have hroom := hwithin.admits_iff hpos
  obtain ⟨-, hinUse, hbounded⟩ := hwithin
  cases hbegun : s.engine.begin request on with
  | mk begun engine =>
      rw [hbegun] at hlimit hinflight
      cases begun with
      | answered response =>
          rw [receive_of_answered hbegun]
          exact ⟨hlimit, hinflight.trans hinUse, hbounded⟩
      | waiting pending =>
          -- a call that waits has been admitted, so there was a permit left for it
          have hadmits : s.engine.admits ≠ false := by
            intro hfull
            have hturned : s.engine.begin request on = _ := turnsAway_iff.mpr hfull
            rw [hbegun] at hturned
            cases hturned
          rw [receive_of_waiting hbegun]
          refine ⟨hlimit, ?_, ?_⟩
          · rw [List.length_append, ← hinUse]
            exact hinflight
          · rw [List.length_append, List.length_singleton]
            have hnotFull := mt hroom.mpr hadmits
            omega

theorem WithinLimit.settle (hwithin : WithinLimit n s) (call : Nat) (answer : Token.Answer) :
    WithinLimit n (s.settle call answer) := by
  rcases settle_cases s call answer with ⟨pending, hmem, hsettled⟩ | ⟨-, hsettled⟩
  · obtain ⟨hlimit, hinUse, hbounded⟩ := hwithin
    have hlength : (s.waiting.eraseP (·.1 == call)).length = s.waiting.length - 1 :=
      List.length_eraseP_of_mem hmem (by simp)
    have hconfig := (untouched_finish s.engine pending answer).config
    have hfinish := inflight_finish s.engine pending answer
    rw [hsettled]
    refine ⟨(congrArg Config.maxInflight hconfig).trans hlimit, ?_, ?_⟩
    · rw [hlength, ← hinUse]
      exact hfinish
    · rw [hlength]
      omega
  · rwa [hsettled]

theorem WithinLimit.step (hwithin : WithinLimit n s) (hpos : 0 < n) (event : Event) :
    WithinLimit n (s.step event) := by
  cases event with
  | request request on => exact hwithin.receive hpos request on
  | answer call answer => exact hwithin.settle call answer
  | chore chore =>
      obtain ⟨hconfig, hinflight, -⟩ := carryOut_keeps s.engine chore
      exact ⟨(congrArg Config.maxInflight hconfig).trans hwithin.limit,
        hinflight.trans hwithin.inUse, hwithin.bounded⟩

/-- However calls begin and end, never more of them wait for the signer than the limit says, and
only those that wait use permits: when none waits, all permits are free. A request is turned away
exactly when as many calls wait as the limit says. Turning it away changes nothing but the count of
such requests, and a request that is not turned away does not change that count. A decision with
nobody in between leaves as many permits free as there were. -/
theorem admission_limit (e : Engine) (hpos : 0 < e.config.maxInflight) (hunused : e.inflight = 0)
    (events : List Event) :
    ∃ s, (Service.start e).run events = s ∧
      s.waiting.length ≤ e.config.maxInflight ∧
      s.engine.freePermits = e.config.maxInflight - s.waiting.length ∧
      (s.waiting = [] → s.engine.freePermits = e.config.maxInflight) ∧
      ∀ request on,
        (s.engine.TurnsAway request on ↔ s.waiting.length = e.config.maxInflight) ∧
        (¬ s.engine.TurnsAway request on →
          (s.engine.begin request on).2.metrics.quickRejects = s.engine.metrics.quickRejects) ∧
        ∀ stamps, (s.engine.decide request on stamps).2.inflight = s.engine.inflight := by
  have hstart : WithinLimit e.config.maxInflight (Service.start e) :=
    ⟨rfl, hunused, Nat.zero_le _⟩
  have hwithin := run_induction (Service.start e) events hstart fun s event hwithin =>
    hwithin.step hpos event
  have hfree : ((Service.start e).run events).engine.freePermits =
      e.config.maxInflight - ((Service.start e).run events).waiting.length := by
    rw [freePermits, hwithin.limit, hwithin.inUse]
  refine ⟨_, rfl, hwithin.bounded, hfree, fun hnone => ?_, fun request on => ⟨?_, ?_, ?_⟩⟩
  · rw [hfree, hnone]
    rfl
  · exact turnsAway_iff.trans (hwithin.admits_iff hpos)
  · intro hnotTurned
    rw [turnsAway_iff, Bool.not_eq_false] at hnotTurned
    exact quickRejects_begin_of_admits hnotTurned request on
  · exact inflight_decide _ request on

/-- An engine with a permit for one decision, and with a signer. -/
def narrowEngine : Engine :=
  { warmed with
    config := { warmed.config with maxInflight := 1 }
    signer := some ⟨"EdDSA", "k", fun _ => .silence⟩ }

/-- A request comes that asks for a token. -/
def asking : Event := .request { orgId := ⟨9⟩, includeTrustToken := true } default

/-- While one call waits the next one is turned away, and its permit comes back when it ends. -/
theorem second_call_turned_away :
    narrowEngine.config.maxInflight = 1 ∧ narrowEngine.inflight = 0 ∧
    ((Service.start narrowEngine).run [asking]).waiting.length = 1 ∧
    ((Service.start narrowEngine).run [asking]).engine.TurnsAway { orgId := ⟨9⟩ } default ∧
    ((Service.start narrowEngine).run [asking, .answer 0 .silence]).engine.freePermits = 1 := by
  have hwaiting : ((Service.start narrowEngine).run [asking]).waiting.length = 1 := by
    decide +kernel
  have hended : ((Service.start narrowEngine).run [asking, .answer 0 .silence]).waiting = [] := by
    decide +kernel
  obtain ⟨_, rfl, -, -, -, hturns⟩ := admission_limit narrowEngine Nat.one_pos rfl [asking]
  obtain ⟨_, rfl, -, -, hfree, -⟩ :=
    admission_limit narrowEngine Nat.one_pos rfl [asking, .answer 0 .silence]
  exact ⟨rfl, rfl, hwaiting, (hturns _ _).1.mpr hwaiting, hfree hended⟩

end Service

end Mandate
