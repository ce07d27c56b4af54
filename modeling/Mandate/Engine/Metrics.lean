import Mandate.Json.Record
import Mandate.Table

/-!
# Decision counters

Counts of decisions by organisation and outcome, of reasons by outcome, and of what happened
beside the decisions.
-/

namespace Mandate

open Mandate.Json

/-- The name of an outcome. -/
def outcomeName (allow : Bool) : String :=
  if allow then "ALLOWED" else "DENIED"

/-- Counts under two keys. -/
abbrev Counts := Table (Table Nat)

/-- Count one more under two keys. -/
def Counts.bump (counts : Counts) (outer inner : String) : Counts :=
  counts.modify outer {} (·.modify inner 0 (· + 1))

/-- Counts as a document. -/
def Counts.json (counts : Counts) : Value :=
  .object <| counts.rows.map fun (outer, row) =>
    (outer, .object <| row.rows.map fun (inner, n) => (inner, .nat n))

/-- All counters of an engine. -/
structure Metrics where
  decisionsByOrg : Counts := {}
  reasons : Counts := {}
  tokensMinted : Nat := 0
  tokenFailures : Nat := 0
  droppedTasks : Nat := 0
  quickRejects : Nat := 0
  deriving DecidableEq, Repr, Inhabited

namespace Metrics

/-- Count a decision. A decision without a reason counts for no reason. -/
def decision (m : Metrics) (org : String) (allow : Bool) (reason : String) : Metrics :=
  let outcome := outcomeName allow
  { m with
    decisionsByOrg := m.decisionsByOrg.bump org outcome
    reasons := if reason.isEmpty then m.reasons else m.reasons.bump outcome reason }

/-- Count a token that was asked for. -/
def token (m : Metrics) (minted : Bool) : Metrics :=
  if minted then { m with tokensMinted := m.tokensMinted + 1 }
  else { m with tokenFailures := m.tokenFailures + 1 }

/-- Count a task that was dropped. -/
def dropped (m : Metrics) : Metrics :=
  { m with droppedTasks := m.droppedTasks + 1 }

/-- Count a request that was turned away. -/
def quickReject (m : Metrics) : Metrics :=
  { m with quickRejects := m.quickRejects + 1 }

/-- The number of decisions with an outcome. -/
def total (m : Metrics) (outcome : String) : Nat :=
  m.decisionsByOrg.rows.foldl (fun count row => count + (row.2.get? outcome).getD 0) 0

/-- The number of decisions with an outcome and a reason. -/
def reasonCount (m : Metrics) (outcome reason : String) : Nat :=
  ((m.reasons.get? outcome).bind (·.get? reason)).getD 0

def json (m : Metrics) : Value :=
  .object <| field "decisions_by_org" m.decisionsByOrg.json ++ field "reasons" m.reasons.json ++
    field "tokens_minted" (.nat m.tokensMinted) ++ field "token_failures" (.nat m.tokenFailures) ++
    field "dropped_tasks" (.nat m.droppedTasks) ++ field "quick_rejects" (.nat m.quickRejects)

end Metrics

end Mandate
