import Mandate.Proofs.Engine.Counters
import Mandate.Proofs.Engine.Telemetry

/-! # Decisions and then a shutdown

When requests are decided one after the other with nobody in between, the workers are only seen at
work while the signer keeps silent and at the shutdown, and then they do all that is queued. This
is one of the orders in which an engine and its workers may go about it, so telemetry is conserved.
-/

namespace Mandate

open Evaluation

/-- Where there is nothing to do, nothing is done. -/
theorem Pool.drain_of_idle {Task : Type} {pool : Pool Task} (hrunning : pool.running = [])
    (hqueue : pool.queue = []) : pool.drain = pool := by
  obtain ⟨workers, capacity, queue, running, finished, closed⟩ := pool
  obtain rfl : running = [] := hrunning
  obtain rfl : queue = [] := hqueue
  simp [drain]

namespace Engine

/-- The visits of requests that are decided one after the other, each on an occasion of its own. -/
def visitsOf (e : Engine) (on : Nat → Occasion) (stamps : Nat → Stamp) : List Request → List Visit
  | [] => []
  | request :: rest =>
      ⟨e, request, on 0⟩ ::
        (e.decide request (on 0) stamps).2.visitsOf (fun n => on (n + 1)) stamps rest

/-- An answer of the signer leaves the background as it is. -/
theorem finish_background (e : Engine) (pending : PendingToken) (answer : Token.Answer) :
    (e.finish pending answer).2.background = e.background := by
  unfold finish
  dsimp only
  split <;> rfl

theorem perform_background (e : Engine) (task : BackgroundTask) (stamp : Stamp) :
    (e.perform task stamp).background = e.background := by
  cases task <;> rfl

theorem performAll_background (e : Engine) (stamps : Nat → Stamp) (tasks : List BackgroundTask) :
    (e.performAll stamps tasks).background = e.background := by
  induction tasks generalizing e stamps with
  | nil => rfl
  | cons task rest ih => exact (ih _ _).trans (perform_background e task (stamps 0))

theorem work_background (e : Engine) (stamps : Nat → Stamp) :
    (e.work stamps).background = e.background.drain := performAll_background ..

end Engine

namespace Office

variable {o : Office}

/-- There are workers, and none of them has a task in hand. -/
structure AtRest (o : Office) : Prop where
  unwritten : o.unwritten = []
  running : o.engine.background.running = []
  workers : 0 < o.engine.background.workers

theorem run_append (o : Office) (moves more : List Move) :
    o.run (moves ++ more) = (o.run moves).run more := List.foldl_append

/-! ## Work -/

/-- The one worker with a task does all its writes. -/
theorem run_writes (o : Office) {writes : List SinkWrite} (stamp : Stamp)
    (hunwritten : o.unwritten = [writes]) :
    o.run (List.replicate writes.length (.write 0 stamp)) =
      { o.withEngine (writes.foldl (·.write stamp ·) o.engine) with unwritten := [[]] } := by
  induction writes generalizing o with
  | nil =>
      obtain ⟨service, unwritten, visits⟩ := o
      obtain rfl : unwritten = [[]] := hunwritten
      rfl
  | cons w rest ih =>
      have hstep : o.step (.write 0 stamp) =
          { o.withEngine (o.engine.write stamp w) with unwritten := [rest] } := by
        simp [step, hunwritten]
      rw [List.length_cons, List.replicate_succ]
      change (o.step (.write 0 stamp)).run _ = _
      rw [hstep, ih _ rfl]
      rfl

/-- The moves of a worker that takes a task, writes and is done. -/
def workMoves (task : BackgroundTask) (stamp : Stamp) : List Move :=
  .take :: List.replicate task.writes.length (.write 0 stamp) ++ [.finish 0]

/-- The sinks and the background are apart from each other. -/
theorem perform_withBackground (e : Engine) (background : Pool BackgroundTask)
    (task : BackgroundTask) (stamp : Stamp) :
    { e with background }.perform task stamp = { e.perform task stamp with background } := by
  cases task <;> rfl

/-- The oldest task is done. -/
theorem run_workMoves (hrest : o.AtRest) {task : BackgroundTask} {queue : List BackgroundTask}
    (hqueue : o.engine.background.queue = task :: queue) (stamp : Stamp) :
    o.run (workMoves task stamp) =
      o.withEngine { o.engine.perform task stamp with
        background := { o.engine.background with
          queue, finished := o.engine.background.finished ++ [task] } } := by
  have hfree : o.engine.background.running.length < o.engine.background.workers := by
    rw [hrest.running]
    exact hrest.workers
  have htaken : o.engine.background.taken? = some task := by
    rw [Pool.taken?, if_pos hfree, hqueue]
    rfl
  have htake : o.engine.background.take =
      { o.engine.background with queue, running := [task] } := by
    rw [Pool.take, hqueue, hrest.running]
    exact if_pos hrest.workers
  let begun : Office :=
    { o.withBackground { o.engine.background with queue, running := [task] } with
      unwritten := [task.writes] }
  have hbegun : o.step .take = begun := by
    simp only [step, htaken, htake, hrest.unwritten]
    rfl
  rw [workMoves, List.cons_append]
  change (o.step .take).run _ = _
  rw [hbegun, run_append, run_writes begun stamp rfl, ← Engine.perform_eq_foldl]
  have hperformed : begun.engine.perform task stamp = { o.engine.perform task stamp with
      background := { o.engine.background with queue, running := [task] } } :=
    perform_withBackground ..
  rw [hperformed]
  obtain ⟨service, unwritten, visits⟩ := o
  obtain rfl : unwritten = [] := hrest.unwritten
  have hrunning : service.engine.background.running = [] := hrest.running
  simp only [run, List.foldl_cons, List.foldl_nil, step, begun, withEngine, withBackground, engine,
    List.getElem?_cons_zero, Pool.finishAt, List.eraseIdx_cons_zero, hrunning]

/-- The workers do all that is queued. -/
theorem exists_run_work (hrest : o.AtRest) (stamps : Nat → Stamp) :
    ∃ moves, o.run moves = o.withEngine (o.engine.work stamps) := by
  rw [Engine.work, hrest.running, List.nil_append]
  obtain ⟨queue, hqueue⟩ : ∃ queue, o.engine.background.queue = queue := ⟨_, rfl⟩
  rw [hqueue]
  induction queue generalizing o stamps with
  | nil =>
      rw [Pool.drain_of_idle hrest.running hqueue]
      exact ⟨[], rfl⟩
  | cons task queue ih =>
      have hdone := run_workMoves hrest hqueue (stamps 0)
      obtain ⟨moves, hmoves⟩ :=
        ih (o := o.run (workMoves task (stamps 0)))
          (by rw [hdone]; exact ⟨hrest.unwritten, hrest.running, hrest.workers⟩)
          (fun n => stamps (n + 1)) (by rw [hdone]; rfl)
      refine ⟨workMoves task (stamps 0) ++ moves, ?_⟩
      have hdrained : ({ o.engine.background with
          queue, finished := o.engine.background.finished ++ [task] } : Pool _).drain =
            o.engine.background.drain := by
        simp [Pool.drain, hrest.running, hqueue]
      have hperformed : ({ o.engine with background := o.engine.background.drain } :
          Engine).performAll stamps (task :: queue) =
            ({ o.engine.perform task (stamps 0) with
              background := o.engine.background.drain } : Engine).performAll
                (fun n => stamps (n + 1)) queue :=
        congrArg (Engine.performAll · _ queue) (perform_withBackground ..)
      rw [run_append, hmoves, hdone, hperformed, ← hdrained]
      rfl

/-! ## Decisions -/

/-- A request comes and is answered at once, or waits for the signer. -/
theorem run_request (hrest : o.AtRest) (hwaiting : o.service.waiting = []) (request : Request)
    (on : Occasion) :
    let asked := o.run [.request request on]
    asked.engine = (o.engine.begin request on).2 ∧
      asked.visits = o.visits ++ [⟨o.engine, request, on⟩] ∧ asked.AtRest ∧
      ((∃ response, (o.engine.begin request on).1 = .answered response ∧
          asked.service.waiting = []) ∨
        ∃ pending, (o.engine.begin request on).1 = .waiting pending ∧
          asked.service.waiting = [(o.service.calls, pending)]) := by
  intro asked
  have hengine : asked.engine = (o.engine.begin request on).2 := engine_receive o.service ..
  have hatWork := Engine.atWork_begin o.engine request on
  rw [← hengine] at hatWork
  simp only [Engine.atWork, Prod.mk.injEq] at hatWork
  obtain ⟨hworkers, -, hrunning⟩ := hatWork
  refine ⟨hengine, rfl, ⟨hrest.unwritten, hrunning.trans hrest.running,
    hworkers.symm ▸ hrest.workers⟩, ?_⟩
  obtain ⟨begun, hbegun⟩ : ∃ begun, o.engine.begin request on = begun := ⟨_, rfl⟩
  obtain ⟨answered | pending, next⟩ := begun
  · refine .inl ⟨answered, by rw [hbegun], ?_⟩
    exact (congrArg Service.waiting (Service.receive_of_answered hbegun)).trans hwaiting
  · refine .inr ⟨pending, by rw [hbegun], ?_⟩
    refine (congrArg Service.waiting (Service.receive_of_waiting hbegun)).trans ?_
    exact congrArg (· ++ _) hwaiting

/-- The signer answers the only call that waits. -/
theorem run_answer (hrest : o.AtRest) {call : Nat} {pending : PendingToken}
    (hwaiting : o.service.waiting = [(call, pending)]) (answer : Token.Answer) :
    let answered := o.run [.answer call answer]
    answered.engine = (o.engine.finish pending answer).2 ∧ answered.visits = o.visits ∧
      answered.AtRest ∧ answered.service.waiting = [] := by
  intro answered
  have hsettled : answered.service = o.service.settle call answer := rfl
  unfold Service.settle at hsettled
  simp only [hwaiting, List.find?_cons, beq_self_eq_true, List.eraseP_cons, cond_true] at hsettled
  have hengine : answered.engine = (o.engine.finish pending answer).2 :=
    congrArg Service.engine hsettled
  have hbackground : answered.engine.background = o.engine.background := by
    rw [hengine, Engine.finish_background]
  exact ⟨hengine, rfl, ⟨hrest.unwritten, hbackground ▸ hrest.running, hbackground ▸ hrest.workers⟩,
    congrArg Service.waiting hsettled⟩

/-- Deciding a request with nobody in between is one of the orders in which it can be decided. -/
theorem exists_run_decide (hrest : o.AtRest) (hwaiting : o.service.waiting = [])
    (request : Request) (on : Occasion) (stamps : Nat → Stamp) :
    ∃ moves, (o.run moves).engine = (o.engine.decide request on stamps).2 ∧
      (o.run moves).visits = o.visits ++ [⟨o.engine, request, on⟩] ∧ (o.run moves).AtRest ∧
      (o.run moves).service.waiting = [] := by
  obtain ⟨hengine, hvisits, hasked, hbegun⟩ := run_request hrest hwaiting request on
  obtain ⟨asked, hnamed⟩ : ∃ asked, o.run [.request request on] = asked := ⟨_, rfl⟩
  rw [hnamed] at hengine hvisits hasked hbegun
  rcases hbegun with ⟨response, hresponse, hnone⟩ | ⟨pending, hpending, hone⟩
  · have hdecide : (o.engine.decide request on stamps).2 = asked.engine := by
      rw [hengine]
      exact congrArg Prod.snd (Engine.decideWith_of_answered (Prod.ext hresponse rfl) stamps)
    exact ⟨[.request request on], by rw [hnamed, hdecide], hnamed ▸ hvisits, hnamed ▸ hasked,
      hnamed ▸ hnone⟩
  · have hwaits : o.engine.beginWith (o.engine.collaborators on.clock) request on =
        (.waiting pending, asked.engine) := Prod.ext hpending hengine.symm
    obtain ⟨answer, hworked | hready⟩ := Engine.decideWith_of_waiting hwaits stamps
    · -- while the signer keeps silent the workers do what is queued
      obtain ⟨moves, hmoves⟩ := exists_run_work hasked stamps
      have hworking : (o.run ([.request request on] ++ moves)) =
          asked.withEngine (asked.engine.work stamps) := by
        rw [run_append, hnamed, hmoves]
      have hstill : (asked.withEngine (asked.engine.work stamps)).AtRest :=
        ⟨hasked.unwritten, congrArg Pool.running (Engine.work_background ..),
          (congrArg Pool.workers (Engine.work_background ..)).symm ▸ hasked.workers⟩
      obtain ⟨hended, hsame, hrested, hsettled⟩ := run_answer hstill hone answer
      refine ⟨[.request request on] ++ moves ++ [.answer o.service.calls answer], ?_⟩
      rw [run_append, hworking]
      refine ⟨hended.trans ?_, hsame.trans hvisits, hrested, hsettled⟩
      rw [Engine.decide, hworked]
      rfl
    · obtain ⟨hended, hsame, hrested, hsettled⟩ := run_answer hasked hone answer
      refine ⟨[.request request on] ++ [.answer o.service.calls answer], ?_⟩
      rw [run_append, hnamed]
      refine ⟨hended.trans ?_, hsame.trans hvisits, hrested, hsettled⟩
      rw [Engine.decide, hready]

/-- So is deciding requests one after the other. -/
theorem exists_run_decideAll (hrest : o.AtRest) (hwaiting : o.service.waiting = [])
    (on : Nat → Occasion) (stamps : Nat → Stamp) (requests : List Request) :
    ∃ moves, (o.run moves).engine = (o.engine.decideAll on stamps requests).2 ∧
      (o.run moves).visits = o.visits ++ o.engine.visitsOf on stamps requests ∧
      (o.run moves).AtRest := by
  induction requests generalizing o on with
  | nil => exact ⟨[], rfl, (List.append_nil _).symm, hrest⟩
  | cons request rest ih =>
      obtain ⟨first, hengine, hvisits, hrested, hnone⟩ :=
        exists_run_decide hrest hwaiting request (on 0) stamps
      obtain ⟨moves, hothers, hmore, hend⟩ := ih hrested hnone (fun n => on (n + 1))
      refine ⟨first ++ moves, ?_⟩
      rw [run_append]
      refine ⟨hothers.trans (by rw [hengine]; rfl), hmore.trans ?_, hend⟩
      rw [hvisits, hengine, List.append_assoc]
      rfl

/-- And so is the shutdown. -/
theorem exists_run_shutdown (hrest : o.AtRest) (stamps : Nat → Stamp) :
    ∃ moves, (o.run moves).engine = o.engine.shutdown stamps ∧ (o.run moves).visits = o.visits ∧
      (o.run moves).Ended := by
  have hclosed : (o.step .shutdown).AtRest := ⟨hrest.unwritten, hrest.running, hrest.workers⟩
  obtain ⟨moves, hmoves⟩ := exists_run_work hclosed stamps
  have hrun : o.run (.shutdown :: moves) = o.withEngine (o.engine.shutdown stamps) := hmoves
  have hbackground : (o.engine.shutdown stamps).background = o.engine.background.close.drain :=
    Engine.work_background ..
  refine ⟨.shutdown :: moves, by rw [hrun]; rfl, by rw [hrun]; rfl, ?_⟩
  rw [hrun]
  exact ⟨congrArg Pool.closed hbackground, congrArg Pool.queue hbackground,
    congrArg Pool.running hbackground⟩

end Office

/-- Requests are decided one after the other, and then the engine is shut down. If no task has been
dropped, the sinks hold exactly what the requests are to leave behind. -/
theorem Engine.recounts_shutdown_decideAll {e : Engine} (htraces : e.traces = .memory [])
    (haudit : e.lifecycle.audit = .memory {}) (hreputations : e.reputations = .memory {})
    (hidle : e.background.known = []) (hworkers : 0 < e.background.workers)
    (on : Nat → Occasion) (stamps laterStamps : Nat → Stamp) (requests : List Request)
    (hdropped : (e.decideAll on stamps requests).2.metrics.droppedTasks =
      e.metrics.droppedTasks) :
    ((e.decideAll on stamps requests).2.shutdown laterStamps).Recounts
      (e.visitsOf on stamps requests) := by
  obtain ⟨-, hrunning, -⟩ : e.background.finished = [] ∧ e.background.running = [] ∧
      e.background.queue = [] := by
    simpa [Pool.known] using hidle
  obtain ⟨moves, hdecided, hvisits, hrest⟩ := Office.exists_run_decideAll
    (o := .start e) ⟨rfl, hrunning, hworkers⟩ rfl on stamps requests
  have hdecided : ((Office.start e).run moves).engine = (e.decideAll on stamps requests).2 :=
    hdecided
  have hvisits : ((Office.start e).run moves).visits = e.visitsOf on stamps requests := hvisits
  obtain ⟨more, hshut, hsame, hended⟩ := Office.exists_run_shutdown hrest laterStamps
  have haccounted : ((Office.start e).run moves |>.run more).Accounted e.metrics.droppedTasks :=
    ((Office.Accounted.start (.start htraces haudit hreputations) hidle).run moves).run more
  have hkept : ((Office.start e).run moves |>.run more).engine.metrics.droppedTasks =
      e.metrics.droppedTasks := by
    rw [hshut, hdecided]
    exact (Engine.sameTasks_work _ _).dropped.trans hdropped
  obtain ⟨written, hholds, hperm⟩ := haccounted.of_ended hended hkept
  have hrecounts := hholds.recounts haccounted.equipped hperm
  rwa [hshut, hdecided, hsame.trans hvisits] at hrecounts

end Mandate
