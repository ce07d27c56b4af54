import Mandate.Engine.Decide
import Mandate.Proofs.Ledger.Sessions

/-! # What the sinks hold

A task of the background writes to the sinks once or twice, and the workers do so in no fixed
order. What the sinks hold after any writes is said here for each of them: the traces and the
records in the order in which they were written, the records of each organisation numbered from one
on, and for every agent the reputation that its number of violations comes to.
-/

namespace Mandate

/-! ## Writes -/

/-- A write to one of the sinks. -/
inductive SinkWrite where
  | event (record : AuditRecord)
  | violation (org : Uuid) (agent : String)
  | trace (record : TraceRecord)
  deriving DecidableEq

namespace SinkWrite

/-- The record that is written to the ledger. -/
def event? : SinkWrite → Option AuditRecord
  | .event record => some record
  | .violation .. | .trace _ => none

/-- The trace that is kept. -/
def trace? : SinkWrite → Option TraceRecord
  | .trace record => some record
  | .event _ | .violation .. => none

/-- How many violations of an agent are among some writes. -/
def violations (written : List SinkWrite) (org : Uuid) (agent : String) : Nat :=
  written.count (.violation org agent)

theorem violations_concat (written : List SinkWrite) (w : SinkWrite) (org : Uuid)
    (agent : String) :
    violations (written ++ [w]) org agent =
      violations written org agent + if w = .violation org agent then 1 else 0 := by
  rw [violations, List.count_append, List.count_singleton]
  simp only [beq_iff_eq]
  rfl

end SinkWrite

/-- The writes of a task, in their order. -/
def BackgroundTask.writes : BackgroundTask → List SinkWrite
  | .recordEvent event => [.event event]
  | .lowerReputation org agent => [.violation org agent]
  | .keepTrace record event => [.trace record, .event event]

/-- Write to a sink. What fails is lost. -/
def Engine.write (e : Engine) (stamp : Stamp) : SinkWrite → Engine
  | .event record =>
      { e with lifecycle := { e.lifecycle with
          audit := e.lifecycle.audit.record Digest.hex record stamp } }
  | .violation org agent =>
      { e with reputations := e.reputations.write (·.recordViolation org agent) }
  | .trace record => { e with traces := e.traces.write (· ++ [record]) }

/-- A task is done by its writes. -/
theorem Engine.perform_eq_foldl (e : Engine) (task : BackgroundTask) (stamp : Stamp) :
    e.perform task stamp = task.writes.foldl (·.write stamp ·) e := by
  cases task <;> rfl

/-! ## The ledger in memory -/

namespace LedgerEntry

/-- The record of an entry. -/
def record (entry : LedgerEntry) : AuditRecord :=
  ⟨entry.orgId, entry.action, entry.payload, entry.actorUser, entry.actorAgent⟩

end LedgerEntry

/-- The numbers of linked links count from one on. -/
theorem Linked.seqs_eq {hash : String → String} {links : List Link}
    (hlinked : Linked hash none links) :
    links.map (·.entry.seq) = List.range' 1 links.length := by
  induction links using List.reverseRecOn with
  | nil => rfl
  | append_singleton links last ih =>
      have hlast : last.entry.seq = links.length + 1 := hlinked.place.1
      rw [List.map_append, ih (linked_append_iff.mp hlinked).1, List.length_append,
        List.length_singleton, List.range'_concat, List.map_singleton, hlast, Nat.add_comm]
      simp

namespace MemoryLedger

/-- The entries of an organisation. -/
def chain (ledger : MemoryLedger) (org : Uuid) : List LedgerEntry :=
  ledger.entries.filter (·.orgId = org)

/-- The ledger holds the records, in their order and each in its chain. -/
structure Holds (ledger : MemoryLedger) (records : List AuditRecord) : Prop where
  chained : Chained Digest.hex ledger.chains ledger.entries
  records_eq : ledger.entries.map LedgerEntry.record = records

variable {ledger : MemoryLedger} {records : List AuditRecord}

theorem Holds.empty : Holds {} [] := ⟨Chained.start, rfl⟩

theorem Holds.record (hholds : ledger.Holds records) (record : AuditRecord) (stamp : Stamp) :
    (ledger.record Digest.hex record stamp).Holds (records ++ [record]) where
  chained := (chainedFrom_start_iff.mpr hholds.chained).advance
    (continues_entryFor ledger.chains record stamp)
  records_eq := by
    rw [← hholds.records_eq]
    exact List.map_append

/-- The entries of an organisation are numbered from one on. -/
theorem Holds.seqs_eq (hholds : ledger.Holds records) (org : Uuid) :
    (ledger.chain org).map (·.seq) = List.range' 1 (ledger.chain org).length := by
  have hlinks : linksFor org ledger.entries = (ledger.chain org).map LedgerEntry.link := by
    rw [linksFor, List.filter_map]
    rfl
  have hseqs := (hholds.chained org).2.seqs_eq
  rwa [hlinks, List.length_map, List.map_map] at hseqs

theorem Holds.chain_records (hholds : ledger.Holds records) (org : Uuid) :
    (ledger.chain org).map LedgerEntry.record = records.filter (·.orgId = org) := by
  rw [← hholds.records_eq, List.filter_map]
  rfl

end MemoryLedger

/-! ## Reputations -/

/-- The reputation that a number of violations comes to. -/
def Reputation.after? (violations : Nat) : Option Reputation :=
  if violations = 0 then none else some ⟨violations, 100 - 5 * violations⟩

namespace Reputations

/-- For every agent the reputations hold what the violations come to. -/
def Hold (reputations : Reputations) (violations : Uuid → String → Nat) : Prop :=
  ∀ org agent, reputations.get? org agent = Reputation.after? (violations org agent)

variable {reputations : Reputations} {violations : Uuid → String → Nat} {org : Uuid}
  {agent : String}

theorem get?_recordViolation (reputations : Reputations) (org : Uuid) (agent : String)
    (org' : Uuid) (agent' : String) :
    (reputations.recordViolation org agent).get? org' agent' =
      if (org', agent') = (org, agent) then some (reputations.afterViolation org agent)
      else reputations.get? org' agent' := by
  unfold recordViolation get?
  rw [lookup_cons_eq_ite]
  split
  · rfl
  next hne => exact lookup_filter_ne hne

theorem afterViolation_eq {n : Nat} (hget : reputations.get? org agent = Reputation.after? n) :
    some (reputations.afterViolation org agent) = Reputation.after? (n + 1) := by
  rw [afterViolation, hget]
  unfold Reputation.after?
  by_cases hnone : n = 0
  · subst hnone
    rfl
  · simp only [hnone, ↓reduceIte, Reputation.lowered, Nat.add_eq_zero_iff, one_ne_zero, and_false,
      Option.some.injEq, Reputation.mk.injEq, true_and]
    omega

end Reputations

/-! ## All sinks -/

namespace Engine

/-- The sinks are in memory, and they hold what has been written to them. -/
structure Holds (e : Engine) (written : List SinkWrite) : Prop where
  traces : e.traces = .memory (written.filterMap SinkWrite.trace?)
  ledger : ∃ ledger, e.lifecycle.audit = .memory ledger ∧
    ledger.Holds (written.filterMap SinkWrite.event?)
  reputations : ∃ reputations, e.reputations = .memory reputations ∧
    reputations.Hold (SinkWrite.violations written)

variable {e : Engine} {written : List SinkWrite}

theorem Holds.start (htraces : e.traces = .memory []) (haudit : e.lifecycle.audit = .memory {})
    (hreputations : e.reputations = .memory {}) : e.Holds [] where
  traces := htraces
  ledger := ⟨{}, haudit, .empty⟩
  reputations := ⟨{}, hreputations, fun _ _ => rfl⟩

theorem Holds.write (hholds : e.Holds written) (stamp : Stamp) (w : SinkWrite) :
    (e.write stamp w).Holds (written ++ [w]) := by
  obtain ⟨htraces, ⟨ledger, haudit, hledger⟩, reputations, hreputations, hhold⟩ := hholds
  cases w with
  | event record =>
      exact
        { traces := by simpa [Engine.write, SinkWrite.trace?, List.filterMap_cons] using htraces
          ledger := by
            refine ⟨_, by rw [Engine.write, haudit]; rfl, ?_⟩
            simpa [SinkWrite.event?, List.filterMap_cons] using hledger.record record stamp
          reputations := by
            refine ⟨reputations, hreputations, fun org agent => ?_⟩
            rw [SinkWrite.violations_concat, if_neg nofun, Nat.add_zero, hhold org agent] }
  | violation org agent =>
      exact
        { traces := by simpa [Engine.write, SinkWrite.trace?, List.filterMap_cons] using htraces
          ledger := by
            refine ⟨ledger, haudit, ?_⟩
            simpa [SinkWrite.event?, List.filterMap_cons] using hledger
          reputations := by
            refine ⟨_, by rw [Engine.write, hreputations]; rfl, fun org' agent' => ?_⟩
            rw [Reputations.get?_recordViolation, SinkWrite.violations_concat]
            by_cases hsame : (org', agent') = (org, agent)
            · obtain ⟨rfl, rfl⟩ := Prod.mk.inj hsame
              rw [if_pos rfl, if_pos rfl, Reputations.afterViolation_eq (hhold org' agent')]
            · have hother : SinkWrite.violation org agent ≠ .violation org' agent' := by
                rintro ⟨⟩
                exact hsame rfl
              rw [if_neg hsame, if_neg hother, hhold org' agent', Nat.add_zero] }
  | trace record =>
      exact
        { traces := by
            simp [Engine.write, htraces, Sink.write, SinkWrite.trace?]
          ledger := by
            refine ⟨ledger, haudit, ?_⟩
            simpa [SinkWrite.event?, List.filterMap_cons] using hledger
          reputations := by
            refine ⟨reputations, hreputations, fun org agent => ?_⟩
            rw [SinkWrite.violations_concat, if_neg nofun, Nat.add_zero, hhold org agent] }

/-- The sinks do not change with the rest of the engine. -/
theorem Holds.of_eq {e' : Engine} (hholds : e.Holds written) (htraces : e'.traces = e.traces)
    (haudit : e'.lifecycle.audit = e.lifecycle.audit)
    (hreputations : e'.reputations = e.reputations) : e'.Holds written where
  traces := htraces.trans hholds.traces
  ledger := haudit ▸ hholds.ledger
  reputations := hreputations ▸ hholds.reputations

end Engine

end Mandate
