import Mandate.Proofs.Relation.CachedChecks

/-! # Calls under way at once

Many threads check and write through one cache. A check that is not answered from the cache is
three steps, with no lock held between them: it looks up and reads the generation, it asks the
graph behind the cache, and it keeps the answer if the generation is still the same. A write is two
steps: it changes the graph, and then it clears the cache, which starts a new generation. The steps
of different threads mix in any order.

Between the two steps of a write, kept answers may be out of date. Whenever no write is between
them, every kept answer is what the graph says now, so no check that begins then is given an answer
from before a write that has returned.
-/

namespace Mandate.Relation

/-- A graph behind a cache: what it answers in a state, and what a batch makes of the state. A
refused batch leaves the state as it is. -/
structure Backend (State : Type) where
  ask : State → Query → Except GraphError CheckResult
  insert : State → List Tuple → Except GraphError State

/-- A searched graph over its tuples. -/
def Graph.backend (graph : Graph) : Backend TupleStore where
  ask store q := graph.check (.ofStore store) q.subject q.relation q.object
  insert store batch := store.insert batch

/-- How far the call of a thread has come. -/
inductive Stage where
  | idle
  /-- Nothing was kept; the graph is to be asked. -/
  | missed (query : Query) (generation : Nat)
  /-- The graph has answered; the answer is to be kept. -/
  | answered (query : Query) (generation : Nat) (result : Except GraphError CheckResult)
  /-- The graph has been changed; the cache is to be cleared. -/
  | written

/-- A step of a thread, or the clearing of the cache on behalf of another process. -/
inductive Move (Thread : Type) where
  | look (thread : Thread) (query : Query) (now : Nat)
  | ask (thread : Thread)
  | keep (thread : Thread) (now : Nat)
  | write (thread : Thread) (batch : List Tuple)
  | clear (thread : Thread)
  | invalidate

/-- The thread whose next call begins with a move. -/
def Move.begins? {Thread : Type} : Move Thread → Option Thread
  | .look thread _ _ => some thread
  | .write thread _ => some thread
  | _ => none

/-- All queries that a schedule looks up are among the given ones. -/
def Looks {Thread : Type} (queries : Set Query) (schedule : List (Move Thread)) : Prop :=
  ∀ thread query now, .look thread query now ∈ schedule → query ∈ queries

/-- A graph behind a cache, and the calls under way. -/
structure Traffic (State Thread : Type) where
  inner : State
  cache : CheckCache
  stage : Thread → Stage

namespace Traffic

variable {State Thread : Type}

/-- Nothing is kept and no call is under way. -/
def start (inner : State) (ttl negativeTtl : Nat) : Traffic State Thread :=
  ⟨inner, { ttl, negativeTtl }, fun _ => .idle⟩

/-- What the graph behind the cache says about a query now. -/
def tells (backend : Backend State) (t : Traffic State Thread) (q : Query) :
    Except GraphError Bool :=
  (backend.ask t.inner q).map CheckResult.allowed

/-- No write is between its two steps. -/
def Settled (t : Traffic State Thread) : Prop :=
  ∀ thread, t.stage thread ≠ .written

variable {backend : Backend State} {queries : Set Query} {t t' : Traffic State Thread}
  {thread : Thread} {q : Query}

/-! ## What is known while calls are under way -/

/-- A kept answer belongs to one of the queries. Unless a write is between its steps, it is what
the graph says. -/
def Keeps (backend : Backend State) (queries : Set Query) (t : Traffic State Thread)
    (entry : String × KeptAnswer) : Prop :=
  ∃ q ∈ queries, q.key = entry.1 ∧ (t.Settled → t.tells backend q = .ok entry.2.allowed)

/-- A check asks in a generation that has begun. Unless that generation is over or a write is
between its steps, what it has been answered is what the graph says. -/
def Sound (backend : Backend State) (queries : Set Query) (t : Traffic State Thread) :
    Stage → Prop
  | .missed q generation => q ∈ queries ∧ generation ≤ t.cache.generation
  | .answered q generation result => q ∈ queries ∧ generation ≤ t.cache.generation ∧
      (generation = t.cache.generation → t.Settled →
        t.tells backend q = result.map CheckResult.allowed)
  | _ => True

/-- What holds after every part of a schedule. -/
structure Coherent (backend : Backend State) (queries : Set Query) (t : Traffic State Thread) :
    Prop where
  kept : ∀ entry ∈ t.cache.entries, t.Keeps backend queries entry
  stages : ∀ thread, t.Sound backend queries (t.stage thread)

theorem Coherent.start (backend : Backend State) (queries : Set Query) (inner : State)
    (ttl negativeTtl : Nat) :
    (start inner ttl negativeTtl : Traffic State Thread).Coherent backend queries where
  kept := fun _ hentry => absurd hentry List.not_mem_nil
  stages := fun _ => trivial

/-- As long as the generation lasts, what is said about an answer stays right if a settled state
comes from a settled one with the same graph. -/
theorem Sound.later {stage : Stage} (hsound : t.Sound backend queries stage)
    (hgeneration : t.cache.generation ≤ t'.cache.generation)
    (hsettled : t'.cache.generation = t.cache.generation → t'.Settled →
      t.Settled ∧ t'.inner = t.inner) : t'.Sound backend queries stage := by
  cases stage with
  | idle => trivial
  | written => trivial
  | missed q generation => exact ⟨hsound.1, Nat.le_trans hsound.2 hgeneration⟩
  | answered q generation result =>
      obtain ⟨hq, hle, hright⟩ := hsound
      refine ⟨hq, Nat.le_trans hle hgeneration, fun hcurrent hnow => ?_⟩
      have hsame : t'.cache.generation = t.cache.generation := by omega
      obtain ⟨hbefore, hinner⟩ := hsettled hsame hnow
      rw [tells, hinner]
      exact hright (hcurrent.trans hsame) hbefore

theorem Keeps.later {entry : String × KeptAnswer} (hkeeps : t.Keeps backend queries entry)
    (hsettled : t'.Settled → t.Settled ∧ t'.inner = t.inner) :
    t'.Keeps backend queries entry := by
  obtain ⟨q, hq, hkey, hright⟩ := hkeeps
  refine ⟨q, hq, hkey, fun hnow => ?_⟩
  obtain ⟨hbefore, hinner⟩ := hsettled hnow
  rw [tells, hinner]
  exact hright hbefore

/-- A sound answer may be kept. -/
theorem Coherent.keep {generation : Nat} {result : CheckResult}
    (hcoherent : t.Coherent backend queries)
    (hsound : t.Sound backend queries (.answered q generation (.ok result))) (now : Nat) :
    ({ t with cache := t.cache.keep generation q.key result.allowed now } :
      Traffic State Thread).Coherent backend queries := by
  unfold CheckCache.keep
  split
  next hcurrent =>
    refine ⟨fun entry hentry => ?_, hcoherent.stages⟩
    rcases List.mem_cons.mp hentry with rfl | hold
    · exact ⟨q, hsound.1, rfl, hsound.2.2 hcurrent.symm⟩
    · exact hcoherent.kept entry (List.mem_filter.mp hold).1
  next => exact hcoherent

/-- When the cache is cleared, nothing is kept, and no answer belongs to the new generation. -/
theorem Coherent.clear {cache : CheckCache} {stage : Thread → Stage}
    (hcoherent : t.Coherent backend queries) (hentries : cache.entries = [])
    (hgeneration : cache.generation = t.cache.generation + 1)
    (hstages : ∀ thread, stage thread = t.stage thread ∨ stage thread = .idle) :
    ({ t with cache, stage } : Traffic State Thread).Coherent backend queries where
  kept := by simp [hentries]
  stages thread := by
    change Sound _ _ _ (stage thread)
    rcases hstages thread with hsame | hidle
    · rw [hsame]
      exact (hcoherent.stages thread).later (by simp [hgeneration])
        fun hnew => absurd hnew (by simp [hgeneration])
    · rw [hidle]
      trivial

/-! ## Steps -/

variable [DecidableEq Thread]

/-- Put a thread at a stage. -/
def place (t : Traffic State Thread) (thread : Thread) (stage : Stage) : Traffic State Thread :=
  { t with stage := Function.update t.stage thread stage }

/-- Make a move. A thread that is not at the stage where the move belongs stays where it is. -/
def step (backend : Backend State) (t : Traffic State Thread) : Move Thread → Traffic State Thread
  | .look thread query now =>
      match t.stage thread, t.cache.start query.key now with
      | .idle, .miss generation => t.place thread (.missed query generation)
      | _, _ => t
  | .ask thread =>
      match t.stage thread with
      | .missed query generation =>
          t.place thread (.answered query generation (backend.ask t.inner query))
      | _ => t
  | .keep thread now =>
      match t.stage thread with
      | .answered query generation (.ok result) =>
          { t.place thread .idle with
            cache := t.cache.keep generation query.key result.allowed now }
      | .answered _ _ (.error _) => t.place thread .idle
      | _ => t
  | .write thread batch =>
      match t.stage thread, backend.insert t.inner batch with
      | .idle, .ok inner => { t.place thread .written with inner }
      | _, _ => t
  | .clear thread =>
      match t.stage thread with
      | .written => { t.place thread .idle with cache := t.cache.afterWrite }
      | _ => t
  | .invalidate => { t with cache := t.cache.clear }

/-- Make the moves of a schedule. -/
def run (backend : Backend State) (t : Traffic State Thread) :
    List (Move Thread) → Traffic State Thread
  | [] => t
  | move :: rest => (t.step backend move).run backend rest

/-- What a move answers, and to which thread: a look that finds a kept answer gives it, and
otherwise the last step of a check gives what the graph has answered. -/
def answer? (t : Traffic State Thread) :
    Move Thread → Option (Thread × Except GraphError CheckResult)
  | .look thread query now =>
      match t.stage thread, t.cache.start query.key now with
      | .idle, .hit allowed => some (thread, .ok ⟨allowed, cacheSource⟩)
      | _, _ => none
  | .keep thread _ =>
      match t.stage thread with
      | .answered _ _ result => some (thread, result)
      | _ => none
  | _ => none

/-- The answers that threads get during a schedule. -/
def answers (backend : Backend State) (t : Traffic State Thread) :
    List (Move Thread) → List (Thread × Except GraphError CheckResult)
  | [] => []
  | move :: rest => (t.answer? move).toList ++ (t.step backend move).answers backend rest

/-! ## What every step preserves -/

omit [DecidableEq Thread] in
theorem generation_of_start {key : String} {now generation : Nat}
    (hstart : t.cache.start key now = .miss generation) : generation = t.cache.generation := by
  unfold CheckCache.start at hstart
  split at hstart
  · cases hstart
  · exact (CheckCache.Start.miss.inj hstart).symm

theorem stage_place (t : Traffic State Thread) (thread other : Thread) (stage : Stage) :
    (t.place thread stage).stage other = if other = thread then stage else t.stage other :=
  Function.update_apply ..

theorem Settled.of_place {stage : Stage} (hstage : t.stage thread ≠ .written)
    (hsettled : (t.place thread stage).Settled) : t.Settled := by
  intro other hother
  have hplaced := hsettled other
  rw [stage_place] at hplaced
  split at hplaced
  next heq => exact hstage (heq ▸ hother)
  next => exact hplaced hother

theorem not_settled_place_written : ¬ (t.place thread .written).Settled :=
  fun hsettled => hsettled thread (by rw [stage_place, if_pos rfl])

/-- A check may go on to any sound stage. -/
theorem Coherent.place {stage : Stage} (hcoherent : t.Coherent backend queries)
    (hstage : t.stage thread ≠ .written) (hsound : t.Sound backend queries stage) :
    (t.place thread stage).Coherent backend queries where
  kept entry hentry := (hcoherent.kept entry hentry).later fun hsettled =>
    ⟨hsettled.of_place hstage, rfl⟩
  stages other := by
    have hlater : ∀ stage', t.Sound backend queries stage' →
        (t.place thread stage).Sound backend queries stage' :=
      fun _ hsound' => hsound'.later (Nat.le_refl _) fun _ hsettled =>
        ⟨hsettled.of_place hstage, rfl⟩
    rw [stage_place]
    split
    · exact hlater stage hsound
    · exact hlater _ (hcoherent.stages other)

/-- Every step preserves what is known. -/
theorem Coherent.step (hcoherent : t.Coherent backend queries) (move : Move Thread)
    (hlook : ∀ thread q now, move = .look thread q now → q ∈ queries) :
    (t.step backend move).Coherent backend queries := by
  cases move with
  | look thread q now =>
      unfold Traffic.step
      dsimp only
      split
      next generation hstage hstart =>
        refine hcoherent.place (by simp [hstage]) ⟨hlook thread q now rfl, ?_⟩
        exact Nat.le_of_eq (generation_of_start hstart)
      next => exact hcoherent
  | ask thread =>
      have hsound := hcoherent.stages thread
      unfold Traffic.step
      dsimp only
      split
      next q generation hstage =>
        rw [hstage] at hsound
        exact hcoherent.place (by simp [hstage]) ⟨hsound.1, hsound.2, fun _ _ => rfl⟩
      next => exact hcoherent
  | keep thread now =>
      have hsound := hcoherent.stages thread
      unfold Traffic.step
      dsimp only
      split
      next q generation result hstage =>
        rw [hstage] at hsound
        exact (hcoherent.keep hsound now).place (by simp [hstage]) trivial
      next hstage => exact hcoherent.place (by simp [hstage]) trivial
      next => exact hcoherent
  | write thread batch =>
      unfold Traffic.step
      dsimp only
      split
      -- until the second step of the write, nothing is claimed about any answer
      next inner hstage hinsert =>
        have hpending : ¬ Settled { t.place thread .written with inner } :=
          not_settled_place_written
        refine ⟨fun entry hentry => (hcoherent.kept entry hentry).later fun hsettled =>
          absurd hsettled hpending, fun other => ?_⟩
        change Sound _ _ _ ((t.place thread .written).stage other)
        rw [stage_place]
        split
        · trivial
        · exact (hcoherent.stages other).later (Nat.le_refl _) fun _ hsettled =>
            absurd hsettled hpending
      next => exact hcoherent
  | clear thread =>
      unfold Traffic.step
      dsimp only
      split
      next =>
        refine hcoherent.clear rfl rfl fun other => ?_
        rw [stage_place]
        split
        · exact Or.inr rfl
        · exact Or.inl rfl
      next => exact hcoherent
  | invalidate => exact hcoherent.clear rfl rfl fun _ => Or.inl rfl

theorem Coherent.run (hcoherent : t.Coherent backend queries) {schedule : List (Move Thread)}
    (hlooks : Looks queries schedule) : (t.run backend schedule).Coherent backend queries := by
  induction schedule generalizing t with
  | nil => exact hcoherent
  | cons move rest ih =>
      refine ih (hcoherent.step move fun thread q now hmove => ?_) fun thread q now hmem => ?_
      · exact hlooks thread q now (hmove ▸ List.mem_cons_self)
      · exact hlooks thread q now (List.mem_cons_of_mem _ hmem)

/-! ## What a check is answered -/

/-- A move of another thread, and one that does not belong to the stage of the thread, leaves the
thread where it is and answers it nothing. -/
theorem step_other (backend : Backend State) {move : Move Thread}
    (hbegins : move.begins? ≠ some thread) (hask : move ≠ .ask thread)
    (hkeep : ∀ now, move ≠ .keep thread now)
    (hclear : move ≠ .clear thread) :
    (t.step backend move).stage thread = t.stage thread ∧
      ∀ result, t.answer? move ≠ some (thread, result) := by
  have hplace : ∀ other stage, other ≠ thread →
      (t.place other stage).stage thread = t.stage thread := by
    intro other stage hne
    rw [stage_place, if_neg hne.symm]
  cases move with
  | look other q now =>
      have hne : other ≠ thread := fun heq => hbegins (congrArg some heq)
      unfold Traffic.step answer?
      dsimp only
      constructor
      · split
        · exact hplace _ _ hne
        · rfl
      · intro result
        split
        · simp [hne]
        · simp
  | ask other =>
      have hne : other ≠ thread := fun heq => hask (congrArg _ heq)
      unfold Traffic.step
      dsimp only
      refine ⟨?_, nofun⟩
      split
      · exact hplace _ _ hne
      · rfl
  | keep other now =>
      have hne : other ≠ thread := fun heq => hkeep now (by rw [heq])
      unfold Traffic.step answer?
      dsimp only
      constructor
      · split
        · exact hplace _ _ hne
        · exact hplace _ _ hne
        · rfl
      · intro result
        split
        · simp [hne]
        · simp
  | write other batch =>
      have hne : other ≠ thread := fun heq => hbegins (congrArg some heq)
      unfold Traffic.step
      dsimp only
      refine ⟨?_, nofun⟩
      split
      · exact hplace _ _ hne
      · rfl
  | clear other =>
      have hne : other ≠ thread := fun heq => hclear (congrArg _ heq)
      unfold Traffic.step
      dsimp only
      refine ⟨?_, nofun⟩
      split
      · exact hplace _ _ hne
      · rfl
  | invalidate => exact ⟨rfl, nofun⟩

/-- How a call that is under way comes on. -/
inductive Advance (backend : Backend State) (t : Traffic State Thread) (move : Move Thread)
    (thread : Thread) : Prop where
  | stays (hstage : (t.step backend move).stage thread = t.stage thread)
      (hanswer : ∀ result, t.answer? move ≠ some (thread, result))
  | asks {q : Query} {generation : Nat} (hbefore : t.stage thread = .missed q generation)
      (hafter : (t.step backend move).stage thread =
        .answered q generation (backend.ask t.inner q))
      (hanswer : ∀ result, t.answer? move ≠ some (thread, result))
  | returns {q : Query} {generation : Nat} {result : Except GraphError CheckResult}
      (hbefore : t.stage thread = .answered q generation result)
      (hafter : (t.step backend move).stage thread = .idle)
      (hanswer : t.answer? move = some (thread, result))
  | clears (hbefore : t.stage thread = .written)
      (hafter : (t.step backend move).stage thread = .idle)
      (hanswer : ∀ result, t.answer? move ≠ some (thread, result))

/-- Every move that does not begin a call of a thread lets its call come on, or leaves it where it
is. -/
theorem advance (backend : Backend State) (t : Traffic State Thread) {move : Move Thread}
    (hbegins : move.begins? ≠ some thread) : t.Advance backend move thread := by
  by_cases hask : move = .ask thread
  · subst hask
    cases hstage : t.stage thread with
    | missed q generation =>
        exact .asks hstage (by simp [Traffic.step, hstage, stage_place]) nofun
    | _ => exact .stays (by simp [Traffic.step, hstage]) nofun
  by_cases hkeep : ∃ now, move = .keep thread now
  · obtain ⟨now, rfl⟩ := hkeep
    cases hstage : t.stage thread with
    | answered q generation result =>
        refine .returns hstage ?_ (by simp [answer?, hstage])
        cases result <;> simp [Traffic.step, hstage, place]
    | _ => exact .stays (by simp [Traffic.step, hstage]) (by simp [answer?, hstage])
  by_cases hclear : move = .clear thread
  · subst hclear
    cases hstage : t.stage thread with
    | written => exact .clears hstage (by simp [Traffic.step, hstage, place]) nofun
    | _ => exact .stays (by simp [Traffic.step, hstage]) nofun
  obtain ⟨hstays, hanswer⟩ := step_other (t := t) backend hbegins hask
    (fun now heq => hkeep ⟨now, heq⟩) hclear
  exact .stays hstays hanswer

/-- Where the answer to a call comes from. A check that is to ask the graph gets what the graph
says at some later moment, and one that has asked gets what it was told. -/
def Source (backend : Backend State) (t : Traffic State Thread) (rest : List (Move Thread))
    (result : Except GraphError CheckResult) : Stage → Prop
  | .missed q _ =>
      ∃ moment, moment <+: rest ∧ backend.ask (t.run backend moment).inner q = result
  | .answered _ _ known => result = known
  | _ => False

theorem Source.cons {move : Move Thread} {rest : List (Move Thread)}
    {result : Except GraphError CheckResult} {stage : Stage}
    (hsource : (t.step backend move).Source backend rest result stage) :
    t.Source backend (move :: rest) result stage := by
  cases stage with
  | idle => exact hsource
  | written => exact hsource
  | answered q generation known => exact hsource
  | missed q generation =>
      obtain ⟨moment, hmoment, hresult⟩ := hsource
      exact ⟨move :: moment, (List.prefix_cons_inj move).mpr hmoment, hresult⟩

/-- As long as a thread begins no further call, it gets no other answer than the one of its
current call. -/
theorem source_of_mem_answers {rest : List (Move Thread)}
    {result : Except GraphError CheckResult}
    (hbegins : ∀ move ∈ rest, move.begins? ≠ some thread)
    (hanswer : (thread, result) ∈ t.answers backend rest) :
    t.Source backend rest result (t.stage thread) := by
  induction rest generalizing t with
  | nil => exact absurd hanswer List.not_mem_nil
  | cons move rest ih =>
      have hlater : (thread, result) ∈ (t.step backend move).answers backend rest →
          (t.step backend move).Source backend rest result
            ((t.step backend move).stage thread) :=
        ih fun later hlater => hbegins later (List.mem_cons_of_mem _ hlater)
      have hnow : t.answer? move = some (thread, result) ∨
          (thread, result) ∈ (t.step backend move).answers backend rest := by
        simpa [answers, Option.mem_toList] using hanswer
      cases advance backend t (hbegins move List.mem_cons_self) with
      | stays hstage hnone =>
          have hsource := hlater (hnow.resolve_left (hnone result))
          rw [hstage] at hsource
          exact hsource.cons
      | asks hbefore hafter hnone =>
          have hsource := hlater (hnow.resolve_left (hnone result))
          rw [hafter] at hsource
          rw [hbefore]
          exact ⟨[], List.nil_prefix, hsource.symm⟩
      | returns hbefore hafter hreturn =>
          rw [hbefore]
          rcases hnow with hnow | hnow
          · rw [hreturn] at hnow
            exact (congrArg Prod.snd (Option.some.inj hnow)).symm
          · have hsource := hlater hnow
            rw [hafter] at hsource
            exact hsource.elim
      | clears hbefore hafter hnone =>
          have hsource := hlater (hnow.resolve_left (hnone result))
          rw [hafter] at hsource
          exact hsource.elim

/-! ## Calls with nothing else going on -/

/-- A client whose tuples can be reached, and the same graph with no call under way. -/
structure Quiet (client : Client) (t : Traffic TupleStore Thread) : Prop where
  outage : client.outage = none
  store : client.store = t.inner
  cache : client.cache = some t.cache
  idle : ∀ thread, t.stage thread = .idle

/-- The steps of a call of a thread. -/
def movesOf (thread : Thread) : GraphCall → List (Move Thread)
  | .insert batch => [.write thread batch, .clear thread]
  | .check q asked answered => [.look thread q asked, .ask thread, .keep thread answered]

omit [DecidableEq Thread] in
theorem Quiet.ask {client : Client} {t : Traffic TupleStore Thread} (hquiet : t.Quiet client)
    (q : Query) :
    client.graph.backend.ask t.inner q = client.ask q.subject q.relation q.object := by
  rw [Client.ask, Client.source, hquiet.outage, hquiet.store]
  rfl

theorem update_idle (hidle : t.stage thread = .idle) :
    Function.update t.stage thread .idle = t.stage := by
  rw [← hidle, Function.update_eq_self]

/-- The steps of a check, one right after the other, do what the check of a client does. -/
theorem Quiet.check {client : Client} {t : Traffic TupleStore Thread} (hquiet : t.Quiet client)
    (thread : Thread) (q : Query) (asked answered : Nat) :
    t.answers client.graph.backend (movesOf thread (.check q asked answered)) =
      [(thread, (client.checkQuery q asked answered).1)] ∧
    (t.run client.graph.backend (movesOf thread (.check q asked answered))).Quiet
      (client.checkQuery q asked answered).2 := by
  have hidle := hquiet.idle thread
  cases hlookup : t.cache.lookup? q.key asked with
  | some allowed =>
      have hstart := Client.start_of_lookup?_some hlookup
      rw [Client.checkQuery_of_hit hquiet.cache hlookup]
      refine ⟨by simp [movesOf, answers, answer?, Traffic.step, hidle, hstart], ?_⟩
      simpa [movesOf, Traffic.run, Traffic.step, hidle, hstart] using hquiet
  | none =>
      have hstart := Client.start_of_lookup?_none hlookup
      rw [Client.checkQuery_of_miss hquiet.cache hlookup, ← hquiet.ask]
      refine ⟨by simp [movesOf, answers, answer?, Traffic.step, hidle, hstart, place], ?_⟩
      cases hask : client.graph.backend.ask t.inner q with
      | error e =>
          simpa [movesOf, Traffic.run, Traffic.step, hidle, hstart, place, hask, Client.keep,
            update_idle hidle] using hquiet
      | ok result =>
          simp only [movesOf, Traffic.run, Traffic.step, hidle, hstart, place, hask,
            Function.update_self, Function.update_idem, update_idle hidle]
          exact ⟨hquiet.outage, hquiet.store, by simp [Client.keep, hquiet.cache], hquiet.idle⟩

/-- The steps of a write, one right after the other, do what the write of a client does. -/
theorem Quiet.insert {client : Client} {t : Traffic TupleStore Thread} (hquiet : t.Quiet client)
    (thread : Thread) (batch : List Tuple) :
    (t.run client.graph.backend (movesOf thread (.insert batch))).Quiet
      (client.afterCall (.insert batch)) := by
  have hidle := hquiet.idle thread
  have hcall : client.afterCall (.insert batch) = match t.inner.insert batch with
      | .ok store => { client with store, cache := some t.cache.afterWrite }
      | .error _ => client := by
    unfold Client.afterCall
    dsimp only
    unfold Client.insert
    rw [hquiet.outage, hquiet.store, hquiet.cache]
    dsimp only
    cases t.inner.insert batch <;> rfl
  rw [hcall]
  cases hinsert : t.inner.insert batch with
  | error e =>
      simpa [movesOf, Traffic.run, Traffic.step, hidle, Graph.backend, hinsert] using hquiet
  | ok store =>
      simp only [movesOf, Traffic.run, Traffic.step, hidle, Graph.backend, hinsert, place,
        Function.update_self, Function.update_idem, update_idle hidle]
      exact ⟨hquiet.outage, rfl, rfl, hquiet.idle⟩

/-! ## Answers when no write is under way -/

omit [DecidableEq Thread] in
/-- A kept answer that is found in a settled state is what the graph says now. -/
theorem Coherent.hit (hcoherent : t.Coherent backend queries)
    (hkeys : Set.InjOn Query.key queries) (hsettled : t.Settled) (hq : q ∈ queries) {now : Nat}
    {allowed : Bool} (hhit : t.cache.start q.key now = .hit allowed) :
    t.tells backend q = .ok allowed := by
  have hlookup : t.cache.lookup? q.key now = some allowed := by
    unfold CheckCache.start at hhit
    split at hhit
    next hlookup => rw [hlookup, CheckCache.Start.hit.inj hhit]
    next => cases hhit
  obtain ⟨entry, hentry, -, rfl⟩ := Client.mem_of_lookup? hlookup
  obtain ⟨p, hp, hkey, hright⟩ := hcoherent.kept _ hentry
  obtain rfl := hkeys hp hq hkey
  exact hright hsettled

/-- The answer to a check that begins in a settled state is what the graph says at the beginning
of the check or at a later moment. -/
theorem Coherent.fresh (hcoherent : t.Coherent backend queries)
    (hkeys : Set.InjOn Query.key queries) (hsettled : t.Settled) (hq : q ∈ queries)
    (hidle : t.stage thread = .idle) {asked : Nat} {rest : List (Move Thread)}
    {result : Except GraphError CheckResult}
    (hbegins : ∀ move ∈ rest, move.begins? ≠ some thread)
    (hanswer : (thread, result) ∈ t.answers backend (.look thread q asked :: rest)) :
    ∃ moment, moment <+: .look thread q asked :: rest ∧
      (t.run backend moment).tells backend q = result.map CheckResult.allowed := by
  have hlater : (thread, result) ∈ (t.step backend (.look thread q asked)).answers backend rest →
      (t.step backend (.look thread q asked)).Source backend rest result
        ((t.step backend (.look thread q asked)).stage thread) :=
    source_of_mem_answers hbegins
  cases hstart : t.cache.start q.key asked with
  | hit allowed =>
      have hstays : t.step backend (.look thread q asked) = t := by
        simp [Traffic.step, hidle, hstart]
      have hnow : t.answer? (.look thread q asked) = some (thread, .ok ⟨allowed, cacheSource⟩) := by
        simp [answer?, hidle, hstart]
      rw [hstays, hidle] at hlater
      simp only [answers, hnow, hstays, Option.toList_some, List.singleton_append,
        List.mem_cons, Prod.mk.injEq, true_and] at hanswer
      rcases hanswer with rfl | hanswer
      · exact ⟨[], List.nil_prefix, hcoherent.hit hkeys hsettled hq hstart⟩
      · exact (hlater hanswer).elim
  | miss generation =>
      have hstage : (t.step backend (.look thread q asked)).stage thread =
          .missed q generation := by
        simp [Traffic.step, hidle, hstart, stage_place]
      have hnone : t.answer? (.look thread q asked) = none := by
        simp [answer?, hidle, hstart]
      simp only [answers, hnone, Option.toList_none, List.nil_append] at hanswer
      rw [hstage] at hlater
      obtain ⟨moment, hmoment, hresult⟩ := hlater hanswer
      refine ⟨.look thread q asked :: moment, (List.prefix_cons_inj _).mpr hmoment, ?_⟩
      rw [← hresult]
      rfl

/-- If the queries have different keys, then in every state that is reached by any mixture of
checks and writes, and in which no write is between its two steps, every kept answer is what the
graph says now about the only query to which it belongs; and a check that begins then is answered
what the graph says at its beginning or later, never what it said before. -/
theorem settled_answers_fresh (backend : Backend State) (hkeys : Set.InjOn Query.key queries)
    (inner : State) (ttl negativeTtl : Nat) {schedule : List (Move Thread)}
    (hlooks : Looks queries schedule) {now : Traffic State Thread}
    (hnow : (start inner ttl negativeTtl).run backend schedule = now) (hsettled : now.Settled) :
    (∀ entry ∈ now.cache.entries, ∃ q ∈ queries, q.key = entry.1 ∧
      (∀ p ∈ queries, p.key = entry.1 → p = q) ∧ now.tells backend q = .ok entry.2.allowed) ∧
    (∀ thread q asked rest result, q ∈ queries → now.stage thread = .idle →
      (∀ move ∈ rest, move.begins? ≠ some thread) →
      (thread, result) ∈ now.answers backend (.look thread q asked :: rest) →
      ∃ moment, moment <+: .look thread q asked :: rest ∧
        (now.run backend moment).tells backend q = result.map CheckResult.allowed) := by
  have hcoherent : now.Coherent backend queries := by
    rw [← hnow]
    exact (Coherent.start backend queries inner ttl negativeTtl).run hlooks
  constructor
  · intro entry hentry
    obtain ⟨q, hq, hkey, hright⟩ := hcoherent.kept entry hentry
    exact ⟨q, hq, hkey, fun p hp hpkey => hkeys hp hq (hpkey.trans hkey.symm), hright hsettled⟩
  · intro thread q asked rest result hq hidle hbegins hanswer
    exact hcoherent.fresh hkeys hsettled hq hidle hbegins hanswer

/-- A query, and a schedule in which two writes of its tuple overlap each other and a check. -/
def membership : Query := ⟨⟨"user", "ann"⟩, "member", ⟨"team", "red"⟩⟩

def overlapping : List (Move (Fin 3)) :=
  [.look 0 membership 0, .write 1 [membership.tuple], .ask 0, .write 2 [membership.tuple],
    .clear 1, .keep 0 0, .look 0 membership 1, .ask 0, .clear 2, .keep 0 1,
    .look 0 membership 2, .ask 0, .keep 0 2]

/-- Only the answer that was asked for after both writes is kept, and the next check is given
it. -/
theorem overlapping_answers_fresh :
    Set.InjOn Query.key {membership} ∧ Looks {membership} overlapping ∧
    ((start {} 1000 1000).run (Graph.backend {}) overlapping).cache.entries =
      [(membership.key, ⟨true, 1002⟩)] ∧
    ((start {} 1000 1000).run (Graph.backend {}) overlapping).tells (Graph.backend {}) membership =
      .ok true ∧
    ((start {} 1000 1000).run (Graph.backend {}) overlapping).answers (Graph.backend {})
      [.look 1 membership 3] = [(1, .ok ⟨true, cacheSource⟩)] ∧
    ∃ moment, moment <+: [.look 1 membership 3] ∧
      (((start {} 1000 1000).run (Graph.backend {}) overlapping).run (Graph.backend {})
        moment).tells (Graph.backend {}) membership = .ok true := by
  have hlooks : Looks {membership} overlapping := by
    intro thread q now hmem
    simp only [overlapping, List.mem_cons, Move.look.injEq, reduceCtorEq, false_or,
      List.not_mem_nil, or_false] at hmem
    rcases hmem with ⟨-, rfl, -⟩ | ⟨-, rfl, -⟩ | ⟨-, rfl, -⟩ <;> rfl
  have hidle : ∀ thread,
      ((start {} 1000 1000).run (Graph.backend {}) overlapping).stage thread = .idle
    | 0 => rfl
    | 1 => rfl
    | 2 => rfl
  have hentries : ((start {} 1000 1000).run (Graph.backend {}) overlapping).cache.entries =
      [(membership.key, ⟨true, 1002⟩)] := by decide
  have hanswers : ((start {} 1000 1000).run (Graph.backend {}) overlapping).answers
      (Graph.backend {}) [.look 1 membership 3] = [(1, .ok ⟨true, cacheSource⟩)] := by rfl
  obtain ⟨hkept, hfresh⟩ := settled_answers_fresh (Graph.backend {})
    (Set.injOn_singleton _ membership) {} 1000 1000 hlooks rfl
    fun thread => by simp [hidle thread]
  obtain ⟨q, hq, -, -, hright⟩ := hkept (membership.key, ⟨true, 1002⟩) (by simp [hentries])
  obtain rfl := hq
  exact ⟨Set.injOn_singleton _ _, hlooks, hentries, hright, hanswers,
    hfresh 1 membership 3 [] (.ok ⟨true, cacheSource⟩) rfl (hidle 1) (by simp)
      (by simp [hanswers])⟩

end Traffic

end Mandate.Relation
