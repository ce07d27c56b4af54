import Mandate.Ledger.File

/-!
# Where audit records go

A record may go to a ledger in memory, to a ledger file, to a sink that fails, or nowhere. The
ledger in memory chains its entries exactly as a file does.
-/

namespace Mandate

/-- A ledger in memory, its entries in the order in which they were recorded. -/
structure MemoryLedger where
  chains : Chains := {}
  entries : List LedgerEntry := []
  deriving DecidableEq, Repr, Inhabited

/-- Record an event in memory. -/
def MemoryLedger.record (hash : String → String) (ledger : MemoryLedger) (record : AuditRecord)
    (stamp : Stamp) : MemoryLedger :=
  let entry := ledger.chains.entryFor record stamp
  ⟨ledger.chains.advance hash entry entry.line, ledger.entries ++ [entry]⟩

/-- A destination of audit records. -/
inductive AuditSink where
  | absent
  | failing
  | memory (ledger : MemoryLedger)
  | file (ledger : Ledger) (content : Bytes)
  deriving DecidableEq, Repr, Inhabited

namespace AuditSink

/-- Whether there is a sink at all. -/
def isPresent : AuditSink → Bool
  | .absent => false
  | _ => true

/-- Record an event. A failure is not reported to anyone; the record is lost. -/
def record (hash : String → String) (sink : AuditSink) (event : AuditRecord) (stamp : Stamp) :
    AuditSink :=
  match sink with
  | .absent => .absent
  | .failing => .failing
  | .memory ledger => .memory (ledger.record hash event stamp)
  | .file ledger content =>
      let (_, ledger, content) := ledger.append hash content event stamp none
      .file ledger content

end AuditSink

end Mandate
