import Mandate.Proofs.Engine.Service
import Mandate.Proofs.Engine.Visits
import Mandate.Proofs.Engine.Workers

/-! # Telemetry is conserved

What is to be kept about decisions is left to the workers, who take it from the queue while other
requests come, and who write it bit by bit, several of them at once. If nothing has been dropped,
then after the shutdown the sinks hold exactly what the visits are to leave behind: nothing is lost
on the way and nothing is written twice.
-/

namespace Mandate

open Evaluation

/-! ## An engine with its workers at work -/

namespace Engine

/-- The engine when something about the world has changed: policies, tuples, contracts, whatever is
not about telemetry. -/
def elsewhere (e world : Engine) : Engine :=
  { world with
    config := e.config
    lifecycle := { world.lifecycle with audit := e.lifecycle.audit }
    traces := e.traces
    reputations := e.reputations
    metrics := e.metrics
    background := e.background
    inflight := e.inflight }

/-- How many workers there are, what they are done with, and what they hold in their hands. -/
def atWork (e : Engine) : Nat × List BackgroundTask × List BackgroundTask :=
  (e.background.workers, e.background.finished, e.background.running)

theorem atWork_submit (e : Engine) (task : BackgroundTask) :
    (e.submit task).atWork = e.atWork := by
  unfold submit Pool.submit atWork
  by_cases haccepts : e.background.accepts = true
  · rw [if_pos haccepts]
  · rw [if_neg haccepts]

theorem atWork_requestToken (e : Engine) (request : Request) (evaluated : Evaluated)
    (response : Response) (on : Occasion) :
    (e.requestToken request evaluated response on).2.atWork = e.atWork := by
  unfold requestToken
  split
  · rfl
  · split <;> rfl

theorem atWork_absorb (e : Engine) (clock : Nat) (progress : Progress) :
    (e.absorb clock progress).atWork = e.atWork := by
  rw [absorb_eq, foldl_recordLater_of_submit atWork_submit]
  rfl

theorem atWork_conclude (e : Engine) (request : Request) (on : Occasion)
    (result : Except Decision Evaluated) :
    (e.conclude request on result).2.atWork = e.atWork := by
  cases result with
  | error refusal => rfl
  | ok evaluated =>
      rw [conclude, atWork_requestToken, keepTraceLater_of_submit atWork_submit,
        lowerReputationLater_of_submit atWork_submit]
      rfl

/-- A decision that begins takes nothing out of the hands of the workers. -/
theorem atWork_begin (e : Engine) (request : Request) (on : Occasion) :
    (e.begin request on).2.atWork = e.atWork := by
  cases hadmits : e.admits with
  | true => rw [begin, beginWith_of_admits hadmits, atWork_conclude, atWork_absorb]
  | false =>
      rw [begin, beginWith_of_not_admits hadmits]
      rfl

/-- A visit submits its tasks. -/
theorem submitted_begin {e : Engine} (hequipped : e.Equipped) (request : Request)
    (on : Occasion) : e.Submitted (e.begin request on).2 (Visit.tasks ⟨e, request, on⟩) := by
  cases hadmits : e.admits with
  | true =>
      rw [Visit.tasks, if_pos hadmits]
      exact submitted_beginWith hadmits hequipped.audit
  | false =>
      rw [Visit.tasks, if_neg (by rw [hadmits]; exact Bool.false_ne_true), begin,
        beginWith_of_not_admits hadmits]
      exact .nothing rfl rfl rfl rfl rfl

end Engine

/-- A service with the workers of its background. -/
structure Office where
  service : Service
  /-- What is left to write of each task in the hands of a worker. -/
  unwritten : List (List SinkWrite) := []
  /-- The requests that have come, the first one first. -/
  visits : List Visit := []

namespace Office

/-- What may happen next. -/
inductive Move where
  | request (request : Request) (on : Occasion)
  /-- The signer answers a call. -/
  | answer (call : Nat) (answer : Token.Answer)
  /-- The world changes. -/
  | elsewhere (world : Engine)
  /-- A free worker takes the oldest task. -/
  | take
  /-- The worker with the task at a place does the next write. -/
  | write (place : Nat) (stamp : Stamp)
  /-- The worker with the task at a place is done with it. -/
  | finish (place : Nat)
  /-- Somebody calls for the shutdown. -/
  | shutdown

/-- The request that comes with a move. -/
def Move.visit? : Move → Option (Request × Occasion)
  | .request r on => some (r, on)
  | _ => none

/-- An engine to which no request has come yet. -/
def start (e : Engine) : Office := { service := .start e }

/-- The engine of the office. -/
def engine (o : Office) : Engine := o.service.engine

/-- The office with another engine. -/
def withEngine (o : Office) (engine : Engine) : Office :=
  { o with service := { o.service with engine } }

/-- The office with another background. -/
def withBackground (o : Office) (background : Pool BackgroundTask) : Office :=
  o.withEngine { o.engine with background }

/-- One move. What is not possible changes nothing. -/
def step (o : Office) : Move → Office
  | .request request on =>
      { o with
        service := o.service.receive request on
        visits := o.visits ++ [⟨o.engine, request, on⟩] }
  | .answer call answer => { o with service := o.service.settle call answer }
  | .elsewhere world => o.withEngine (o.engine.elsewhere world)
  | .take =>
      match o.engine.background.taken? with
      | some task =>
          { o.withBackground o.engine.background.take with
            unwritten := o.unwritten ++ [task.writes] }
      | none => o
  | .write place stamp =>
      match o.unwritten[place]? with
      | some (w :: rest) =>
          { o.withEngine (o.engine.write stamp w) with unwritten := o.unwritten.set place rest }
      | some [] | none => o
  | .finish place =>
      match o.unwritten[place]? with
      | some [] =>
          { o.withBackground (o.engine.background.finishAt place) with
            unwritten := o.unwritten.eraseIdx place }
      | some (_ :: _) | none => o
  | .shutdown => o.withBackground o.engine.background.close

/-- Moves one after the other. -/
def run (o : Office) (moves : List Move) : Office := moves.foldl step o

/-- The shutdown has returned: the queue is closed, and all tasks have been taken and ended. -/
structure Ended (o : Office) : Prop where
  closed : o.engine.background.closed = true
  queue : o.engine.background.queue = []
  running : o.engine.background.running = []

/-! ## Every run -/

/-- What holds after every run. What has been written, with what the workers have left to write, is
what the tasks in their hands and those that have ended had to write; and if nothing has been
dropped since the start, the pool knows of the tasks of all visits. -/
structure Accounted (dropped : Nat) (o : Office) : Prop where
  written : ∃ written, o.engine.Holds written ∧
    (written ++ o.unwritten.flatten).Perm
      ((o.engine.background.finished ++ o.engine.background.running).flatMap
        BackgroundTask.writes)
  inHand : o.unwritten.length = o.engine.background.running.length
  equipped : ∀ v ∈ o.visits, v.engine.Equipped
  monotone : dropped ≤ o.engine.metrics.droppedTasks
  known : o.engine.metrics.droppedTasks = dropped →
    o.engine.background.known.Perm (o.visits.flatMap Visit.tasks)

variable {o : Office} {dropped : Nat}

theorem Accounted.start {e : Engine} (hholds : e.Holds []) (hidle : e.background.known = []) :
    (start e).Accounted e.metrics.droppedTasks := by
  obtain ⟨hfinished, hrunning, -⟩ : e.background.finished = [] ∧ e.background.running = [] ∧
      e.background.queue = [] := by
    simpa [Pool.known] using hidle
  exact
    { written := by
        refine ⟨[], hholds, ?_⟩
        change [].Perm ((e.background.finished ++ e.background.running).flatMap _)
        rw [hfinished, hrunning]
        exact .nil
      inHand := by
        change 0 = e.background.running.length
        rw [hrunning]
        rfl
      equipped := fun v hv => absurd hv List.not_mem_nil
      monotone := Nat.le_refl _
      known := fun _ => by
        change e.background.known.Perm []
        rw [hidle] }

/-- Between two moves nothing happens to the tasks and the sinks. -/
theorem Accounted.of_eq {o' : Office} (haccounted : o.Accounted dropped)
    (hbackground : o'.engine.background = o.engine.background)
    (hdropped : o'.engine.metrics.droppedTasks = o.engine.metrics.droppedTasks)
    (hsinks : ∀ written, o.engine.Holds written → o'.engine.Holds written)
    (hunwritten : o'.unwritten = o.unwritten) (hvisits : o'.visits = o.visits) :
    o'.Accounted dropped := by
  obtain ⟨⟨written, hholds, hperm⟩, hinHand, hequipped, hmonotone, hknown⟩ := haccounted
  exact
    { written := ⟨written, hsinks written hholds, by rwa [hunwritten, hbackground]⟩
      inHand := by rwa [hunwritten, hbackground]
      equipped := by rwa [hvisits]
      monotone := by rwa [hdropped]
      known := by rwa [hdropped, hbackground, hvisits] }

theorem engine_receive (s : Service) (request : Request) (on : Occasion) :
    (s.receive request on).engine = (s.engine.begin request on).2 := by
  unfold Service.receive
  split
  next heq => rw [heq]
  next heq => rw [heq]

theorem Accounted.request (haccounted : o.Accounted dropped) (request : Request)
    (on : Occasion) : (o.step (.request request on)).Accounted dropped := by
  obtain ⟨⟨written, hholds, hperm⟩, hinHand, hequipped, hmonotone, hknown⟩ := haccounted
  have hengine : (o.step (.request request on)).engine = (o.engine.begin request on).2 :=
    engine_receive o.service request on
  have hsubmitted := Engine.submitted_begin hholds.equipped request on
  have hatWork := Engine.atWork_begin o.engine request on
  simp only [Engine.atWork, Prod.mk.injEq] at hatWork
  obtain ⟨-, hfinished, hrunning⟩ := hatWork
  exact
    { written := by
        rw [hengine, hfinished, hrunning]
        exact ⟨written,
          hholds.of_eq hsubmitted.traces hsubmitted.audit hsubmitted.reputations, hperm⟩
      inHand := by
        rw [hengine, hrunning]
        exact hinHand
      equipped := by
        intro v hv
        rcases List.mem_append.mp hv with hold | hnew
        · exact hequipped v hold
        · obtain rfl := List.mem_singleton.mp hnew
          exact hholds.equipped
      monotone := by
        rw [hengine, hsubmitted.dropped]
        exact Nat.le_trans hmonotone (Nat.le_add_right _ _)
      known := by
        rw [hengine, hsubmitted.dropped, hsubmitted.known]
        intro hnone
        -- nothing was dropped before, and there was a place for every task of this visit
        have hbefore : o.engine.metrics.droppedTasks = dropped := by omega
        rw [List.take_of_length_le (by omega)]
        change (o.engine.background.known ++ _).Perm ((o.visits ++ [_]).flatMap Visit.tasks)
        rw [List.flatMap_append, List.flatMap_singleton]
        exact (hknown hbefore).append_right _ }

theorem Accounted.answer (haccounted : o.Accounted dropped) (call : Nat)
    (answer : Token.Answer) : (o.step (.answer call answer)).Accounted dropped := by
  rcases o.service.settle_cases call answer with ⟨pending, -, hsettle⟩ | ⟨-, hsettle⟩
  · have hfinish : ∀ e : Engine, (e.finish pending answer).2.background = e.background ∧
        (e.finish pending answer).2.metrics.droppedTasks = e.metrics.droppedTasks ∧
        ∀ written, e.Holds written → (e.finish pending answer).2.Holds written := by
      intro e
      unfold Engine.finish
      dsimp only
      split
      · exact ⟨rfl, rfl, fun written hholds => hholds.of_eq rfl rfl rfl⟩
      · exact ⟨rfl, rfl, fun written hholds => hholds.of_eq rfl rfl rfl⟩
    have hengine : (o.step (.answer call answer)).engine =
        (o.engine.finish pending answer).2 := congrArg Service.engine hsettle
    obtain ⟨hbackground, hdropped, hsinks⟩ := hfinish o.engine
    exact haccounted.of_eq (by rw [hengine, hbackground]) (by rw [hengine, hdropped])
      (by rw [hengine]; exact hsinks) rfl rfl
  · have hengine : (o.step (.answer call answer)).engine = o.engine :=
      congrArg Service.engine hsettle
    exact haccounted.of_eq (by rw [hengine]) (by rw [hengine]) (by rw [hengine]; exact fun _ => id)
      rfl rfl

theorem Accounted.elsewhere (haccounted : o.Accounted dropped) (world : Engine) :
    (o.step (.elsewhere world)).Accounted dropped :=
  haccounted.of_eq rfl rfl (fun _ hholds => hholds.of_eq rfl rfl rfl) rfl rfl

theorem Accounted.shutdown (haccounted : o.Accounted dropped) :
    (o.step .shutdown).Accounted dropped := by
  obtain ⟨⟨written, hholds, hperm⟩, hinHand, hequipped, hmonotone, hknown⟩ := haccounted
  exact ⟨⟨written, hholds.of_eq rfl rfl rfl, hperm⟩, hinHand, hequipped, hmonotone, hknown⟩

theorem Accounted.take (haccounted : o.Accounted dropped) :
    (o.step .take).Accounted dropped := by
  rcases o.engine.background.take_cases with
    ⟨hnone, -, -⟩ | ⟨task, rest, htask, hqueue, -, htake⟩
  · rw [show o.step .take = o by simp [step, hnone]]
    exact haccounted
  · obtain ⟨⟨written, hholds, hperm⟩, hinHand, hequipped, hmonotone, hknown⟩ := haccounted
    rw [show o.step .take = { o.withBackground { o.engine.background with
        queue := rest, running := o.engine.background.running ++ [task] } with
        unwritten := o.unwritten ++ [task.writes] } by simp [step, htask, htake]]
    exact
      { written := by
          refine ⟨written, hholds.of_eq rfl rfl rfl, ?_⟩
          change (written ++ (o.unwritten ++ [task.writes]).flatten).Perm
            ((o.engine.background.finished ++ (o.engine.background.running ++ [task])).flatMap _)
          rw [List.flatten_append, List.flatten_singleton, ← List.append_assoc,
            ← List.append_assoc, List.flatMap_append, List.flatMap_singleton]
          exact hperm.append_right _
        inHand := by
          change (o.unwritten ++ [task.writes]).length =
            (o.engine.background.running ++ [task]).length
          rw [List.length_append, List.length_append, hinHand]
          rfl
        equipped := hequipped
        monotone := hmonotone
        known := by
          intro hnone
          have hsame := hknown hnone
          rw [Pool.known, hqueue] at hsame
          change (o.engine.background.finished ++ (o.engine.background.running ++ [task]) ++
            rest).Perm (o.visits.flatMap Visit.tasks)
          simpa using hsame }

/-- The first element of one of the lists is put in front of all of them. -/
theorem flatten_set_perm {α : Type} {lists : List (List α)} {place : Nat} {a : α}
    {rest : List α} (hplace : lists[place]? = some (a :: rest)) :
    (a :: (lists.set place rest).flatten).Perm lists.flatten := by
  obtain ⟨hlt, hget⟩ := List.getElem?_eq_some_iff.mp hplace
  have hlists : lists = lists.take place ++ (a :: rest) :: lists.drop (place + 1) := by
    rw [← hget, List.getElem_cons_drop, List.take_append_drop]
  rw [List.set_eq_take_append_cons_drop, if_pos hlt]
  conv_rhs => rw [hlists]
  rw [List.flatten_append, List.flatten_append, List.flatten_cons, List.flatten_cons,
    List.cons_append]
  exact List.perm_middle.symm

/-- An empty one of the lists may be left out. -/
theorem flatten_eraseIdx {α : Type} {lists : List (List α)} {place : Nat}
    (hplace : lists[place]? = some []) : (lists.eraseIdx place).flatten = lists.flatten := by
  obtain ⟨hlt, hget⟩ := List.getElem?_eq_some_iff.mp hplace
  have hlists : lists = lists.take place ++ [] :: lists.drop (place + 1) := by
    rw [← hget, List.getElem_cons_drop, List.take_append_drop]
  rw [List.eraseIdx_eq_take_drop_succ]
  conv_rhs => rw [hlists]
  rw [List.flatten_append, List.flatten_append, List.flatten_cons, List.nil_append]

theorem Accounted.write (haccounted : o.Accounted dropped) (place : Nat) (stamp : Stamp) :
    (o.step (.write place stamp)).Accounted dropped := by
  unfold step
  dsimp only
  split
  next w rest hplace =>
    obtain ⟨⟨written, hholds, hperm⟩, hinHand, hequipped, hmonotone, hknown⟩ := haccounted
    have hbackground : (o.engine.write stamp w).background = o.engine.background ∧
        (o.engine.write stamp w).metrics = o.engine.metrics := by
      cases w <;> exact ⟨rfl, rfl⟩
    obtain ⟨hbackground, hmetrics⟩ := hbackground
    exact
      { written := by
          refine ⟨written ++ [w], hholds.write stamp w, ?_⟩
          change (written ++ [w] ++ (o.unwritten.set place rest).flatten).Perm
            (((o.engine.write stamp w).background.finished ++
              (o.engine.write stamp w).background.running).flatMap _)
          rw [hbackground, List.append_assoc, List.singleton_append]
          exact ((flatten_set_perm hplace).append_left written).trans hperm
        inHand := by
          change (o.unwritten.set place rest).length =
            (o.engine.write stamp w).background.running.length
          rw [List.length_set, hbackground, hinHand]
        equipped := hequipped
        monotone := by
          change dropped ≤ (o.engine.write stamp w).metrics.droppedTasks
          rwa [hmetrics]
        known := by
          change (o.engine.write stamp w).metrics.droppedTasks = dropped →
            (o.engine.write stamp w).background.known.Perm (o.visits.flatMap Visit.tasks)
          rwa [hmetrics, hbackground] }
  next => exact haccounted
  next => exact haccounted

theorem Accounted.finish (haccounted : o.Accounted dropped) (place : Nat) :
    (o.step (.finish place)).Accounted dropped := by
  unfold step
  dsimp only
  split
  next hplace =>
    obtain ⟨⟨written, hholds, hperm⟩, hinHand, hequipped, hmonotone, hknown⟩ := haccounted
    obtain ⟨hunwritten, -⟩ := List.getElem?_eq_some_iff.mp hplace
    have hrunning : place < o.engine.background.running.length := hinHand ▸ hunwritten
    have hpool : o.engine.background.finishAt place =
        { o.engine.background with
          running := o.engine.background.running.eraseIdx place
          finished := o.engine.background.finished ++ [o.engine.background.running[place]] } := by
      rw [Pool.finishAt, List.getElem?_eq_getElem hrunning]
    -- the task goes over from those in hand to those that have ended
    have hmoved : (o.engine.background.finished ++ [o.engine.background.running[place]] ++
        o.engine.background.running.eraseIdx place).Perm
          (o.engine.background.finished ++ o.engine.background.running) := by
      rw [List.append_assoc, List.singleton_append]
      exact (List.getElem_cons_eraseIdx_perm hrunning).append_left _
    rw [hpool]
    exact
      { written := by
          refine ⟨written, hholds.of_eq rfl rfl rfl, ?_⟩
          change (written ++ (o.unwritten.eraseIdx place).flatten).Perm
            ((o.engine.background.finished ++ [o.engine.background.running[place]] ++
              o.engine.background.running.eraseIdx place).flatMap _)
          rw [flatten_eraseIdx hplace]
          exact hperm.trans (hmoved.symm.flatMap_right _)
        inHand := by
          change (o.unwritten.eraseIdx place).length =
            (o.engine.background.running.eraseIdx place).length
          rw [List.length_eraseIdx_of_lt hunwritten, List.length_eraseIdx_of_lt hrunning, hinHand]
        equipped := hequipped
        monotone := hmonotone
        known := fun hnone => (hmoved.append_right _).trans (hknown hnone) }
  next => exact haccounted
  next => exact haccounted

theorem Accounted.step (haccounted : o.Accounted dropped) (move : Move) :
    (o.step move).Accounted dropped := by
  cases move with
  | request request on => exact haccounted.request request on
  | answer call answer => exact haccounted.answer call answer
  | elsewhere world => exact haccounted.elsewhere world
  | take => exact haccounted.take
  | write place stamp => exact haccounted.write place stamp
  | finish place => exact haccounted.finish place
  | shutdown => exact haccounted.shutdown

theorem Accounted.run (haccounted : o.Accounted dropped) (moves : List Move) :
    (o.run moves).Accounted dropped := by
  induction moves generalizing o with
  | nil => exact haccounted
  | cons move rest ih => exact ih (haccounted.step move)

/-- When the shutdown has returned, exactly what the visits have to write has been written. -/
theorem Accounted.of_ended (haccounted : o.Accounted dropped) (hended : o.Ended)
    (hdropped : o.engine.metrics.droppedTasks = dropped) :
    ∃ written, o.engine.Holds written ∧ written.Perm (o.visits.flatMap Visit.writes) := by
  obtain ⟨⟨written, hholds, hperm⟩, hinHand, -, -, hknown⟩ := haccounted
  have hknown := hknown hdropped
  rw [Pool.known, hended.queue, List.append_nil] at hknown
  have hunwritten : o.unwritten = [] := by
    apply List.eq_nil_of_length_eq_zero
    rw [hinHand, hended.running]
    rfl
  rw [hunwritten, List.flatten_nil, List.append_nil] at hperm
  refine ⟨written, hholds, hperm.trans ((hknown.flatMap_right _).trans ?_)⟩
  rw [List.flatMap_assoc]
  exact .refl _

/-- A request is a visit, and nothing else is. -/
theorem visits_step (o : Office) (move : Move) :
    ((o.step move).visits.map fun v => (v.request, v.on)) =
      (o.visits.map fun v => (v.request, v.on)) ++ move.visit?.toList := by
  cases move with
  | request r on => exact List.map_append
  | take =>
      unfold step
      dsimp only
      split <;> exact (List.append_nil _).symm
  | write place stamp =>
      unfold step
      dsimp only
      split <;> exact (List.append_nil _).symm
  | finish place =>
      unfold step
      dsimp only
      split <;> exact (List.append_nil _).symm
  | _ => exact (List.append_nil _).symm

theorem visits_run (o : Office) (moves : List Move) :
    ((o.run moves).visits.map fun v => (v.request, v.on)) =
      (o.visits.map fun v => (v.request, v.on)) ++ moves.filterMap Move.visit? := by
  induction moves generalizing o with
  | nil => exact (List.append_nil _).symm
  | cons move rest ih =>
      refine (ih (o.step move)).trans ?_
      rw [visits_step, List.append_assoc, List.filterMap_cons]
      cases move.visit? <;> rfl

end Office

/-! ## What the sinks recount -/

/-- The sinks hold exactly what the visits are to leave behind: the trace of each decision that has
one; in the chain of each organisation, numbered from one on, a record for each trace that is kept
of a request of that organisation and one for each of its requests that has come to the check
between the organisations; and for every agent the reputation that its denials at a spiked rate come
to, but none for the empty agent. -/
structure Engine.Recounts (e : Engine) (visits : List Visit) : Prop where
  traces : ∃ traces, e.traces = .memory traces ∧ traces.Perm (visits.filterMap Visit.kept?)
  ledger : ∃ ledger, e.lifecycle.audit = .memory ledger ∧ ∀ org,
    (ledger.chain org).map (·.seq) = List.range' 1 (ledger.chain org).length ∧
    ((ledger.chain org).map LedgerEntry.record).Perm
      (((visits.filter (·.request.orgId = org)).filterMap Visit.kept?).map TraceRecord.event ++
        (visits.filter (·.request.orgId = org)).filterMap Visit.crossing?)
  reputations : ∃ reputations, e.reputations = .memory reputations ∧ ∀ org agent,
    reputations.get? org agent =
      if agent.isEmpty then none
      else Reputation.after? (visits.countP (·.deniesAtSpike org agent))

theorem Engine.Holds.recounts {e : Engine} {written : List SinkWrite} {visits : List Visit}
    (hholds : e.Holds written) (hequipped : ∀ v ∈ visits, v.engine.Equipped)
    (hperm : written.Perm (visits.flatMap Visit.writes)) : e.Recounts visits := by
  obtain ⟨htraces, ⟨ledger, haudit, hledger⟩, reputations, hreputations, hhold⟩ := hholds
  refine ⟨⟨_, htraces, ?_⟩, ⟨ledger, haudit, fun org => ⟨hledger.seqs_eq org, ?_⟩⟩,
    reputations, hreputations, fun org agent => ?_⟩
  · rw [← filterMap_trace?_visits hequipped]
    exact hperm.filterMap _
  · have hrecords := (hperm.filterMap SinkWrite.event?).filter (·.orgId = org)
    rw [filterMap_event?_visits hequipped, filter_records_visits] at hrecords
    rw [hledger.chain_records]
    exact hrecords.trans (records_visits_perm _)
  · have hviolations : SinkWrite.violations written org agent =
        SinkWrite.violations (visits.flatMap Visit.writes) org agent := hperm.count_eq _
    rw [hhold org agent, hviolations, violations_visits hequipped]
    split <;> rfl

/-- Requests come and are decided, the signer answers, the world changes and the workers write, in
whatever order, until a shutdown returns. If no task has been dropped on the way, then the sinks,
which were empty at the start, hold exactly what the requests that came are to leave behind. -/
theorem telemetry_is_conserved {e : Engine} (htraces : e.traces = .memory [])
    (haudit : e.lifecycle.audit = .memory {}) (hreputations : e.reputations = .memory {})
    (hidle : e.background.known = []) (moves : List Office.Move)
    (hended : ((Office.start e).run moves).Ended)
    (hdropped : ((Office.start e).run moves).engine.metrics.droppedTasks =
      e.metrics.droppedTasks) :
    let o := (Office.start e).run moves
    (o.visits.map fun v => (v.request, v.on)) = moves.filterMap Office.Move.visit? ∧
      o.engine.Recounts o.visits := by
  intro o
  have haccounted : o.Accounted e.metrics.droppedTasks :=
    (Office.Accounted.start (.start htraces haudit hreputations) hidle).run moves
  obtain ⟨written, hholds, hperm⟩ := haccounted.of_ended hended hdropped
  exact ⟨Office.visits_run (Office.start e) moves,
    hholds.recounts haccounted.equipped hperm⟩

namespace Office

/-- An engine that denies everything, at a rate that is always too high. -/
def watchfulEngine : Engine :=
  { (Engine.start { riskSpikeThreshold := 1 }
      { repository :=
          { policies := [{ id := ⟨1⟩, orgId := ⟨2⟩, name := "p", engine := Rules.engineName,
                           createdBy := none, createdAt := default }]
            versions := [{ PolicyVersion.draft ⟨1⟩ 1 (.object [("rules", .array [])]) none default
                           with status := .active }]
            assignments := [⟨⟨1⟩, .org, (⟨2⟩ : Uuid).text, default⟩] }
        audit := .memory {} }
      {}) with
    traces := .memory []
    reputations := .memory {} }

/-- A request into another organisation is refused and noted; then an agent asks, and it asks a
second time while its first trace has been kept and the record of it has not. -/
def twoDenials : List Move :=
  let asking : Move := .request { orgId := ⟨2⟩, agentId := some "a" } default
  [.request { orgId := ⟨2⟩, targetOrgId := some ⟨3⟩ } default, .take, .write 0 default, .finish 0,
    asking, .take, .take, .write 1 default, asking, .write 1 default, .write 0 default, .finish 1,
    .take, .finish 0, .write 0 default, .take, .shutdown, .write 1 default, .finish 0,
    .write 0 default, .finish 0]

/-- The kind of a record, its agent, and the policy and the other organisation of which it tells. -/
def outline (record : AuditRecord) :
    AuditAction × Option String × Option Json.Value × Option Json.Value :=
  (record.action, record.actorAgent, record.payload.get? "policy_id",
    record.payload.get? "to_org_id")

/-- Both denials are found in the sinks: their traces, their records in the chain of the
organisation beside the one of the crossing, and the reputation of the agent. -/
theorem two_denials_recounted :
    ((start watchfulEngine).run twoDenials).Ended ∧
    ((start watchfulEngine).run twoDenials).engine.metrics.droppedTasks = 0 ∧
    ∃ traces ledger reputations,
      ((start watchfulEngine).run twoDenials).engine.traces = .memory traces ∧
      ((start watchfulEngine).run twoDenials).engine.lifecycle.audit = .memory ledger ∧
      ((start watchfulEngine).run twoDenials).engine.reputations = .memory reputations ∧
      (traces.map fun record => (record.orgId, record.agentId, record.allow)).Perm
        [(⟨2⟩, "a", false), (⟨2⟩, "a", false)] ∧
      (ledger.chain ⟨2⟩).map (·.seq) = [1, 2, 3] ∧
      ((ledger.chain ⟨2⟩).map fun entry => outline entry.record).Perm
        [(.decisionTraceRecorded, some "a", some (.string (⟨1⟩ : Uuid).text), none),
          (.decisionTraceRecorded, some "a", some (.string (⟨1⟩ : Uuid).text), none),
          (.federationBoundaryCrossing, none, none, some (.string (⟨3⟩ : Uuid).text))] ∧
      reputations.get? ⟨2⟩ "a" = Reputation.after? 2 := by
  have hstate : let o := (start watchfulEngine).run twoDenials
      let own := o.visits.filter (·.request.orgId = ⟨2⟩);
      (o.engine.background.closed = true ∧ o.engine.background.queue = [] ∧
        o.engine.background.running = []) ∧ o.engine.metrics.droppedTasks = 0 ∧
      o.visits.countP (·.deniesAtSpike ⟨2⟩ "a") = 2 ∧
      ((o.visits.filterMap Visit.kept?).map fun record =>
        (record.orgId, record.agentId, record.allow)) =
          [(⟨2⟩, "a", false), (⟨2⟩, "a", false)] ∧
      ((own.filterMap Visit.kept?).map TraceRecord.event ++ own.filterMap Visit.crossing?).map
        outline =
        [(.decisionTraceRecorded, some "a", some (.string (⟨1⟩ : Uuid).text), none),
          (.decisionTraceRecorded, some "a", some (.string (⟨1⟩ : Uuid).text), none),
          (.federationBoundaryCrossing, none, none, some (.string (⟨3⟩ : Uuid).text))] := by
    decide +kernel
  obtain ⟨⟨hclosed, hqueue, hrunning⟩, hdropped, hdenied, hkept, htold⟩ := hstate
  have hended : ((start watchfulEngine).run twoDenials).Ended := ⟨hclosed, hqueue, hrunning⟩
  obtain ⟨-, ⟨traces, htraces, hperm⟩, ⟨ledger, haudit, hledger⟩, reputations, hreputations,
    hafter⟩ := telemetry_is_conserved (e := watchfulEngine) rfl rfl rfl rfl twoDenials hended
      hdropped
  obtain ⟨hseqs, hrecords⟩ := hledger ⟨2⟩
  have hshown := hperm.map fun record : TraceRecord =>
    (record.orgId, record.agentId, record.allow)
  have hchain := hrecords.map outline
  rw [hkept] at hshown
  rw [htold, List.map_map] at hchain
  have hlength : (ledger.chain ⟨2⟩).length = 3 := List.length_map (outline ∘ _) ▸ hchain.length_eq
  refine ⟨hended, hdropped, traces, ledger, reputations, htraces, haudit, hreputations, hshown, ?_,
    hchain, ?_⟩
  · rw [hseqs, hlength]
    rfl
  · rw [hafter, if_neg (by decide)]
    exact congrArg Reputation.after? hdenied

end Office

end Mandate
