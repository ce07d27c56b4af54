import Mandate.Command.Failure
import Mandate.Digest

/-!
# Ledger checks

The hash chains of a ledger file are recomputed. A broken chain is printed as a finding.
-/

namespace Mandate.Command

open Mandate.Json

/-- The content of a ledger file, if there is one. -/
def readLedger (path : String) : Session (Except AuditError (Option Bytes)) := do
  match ← readFile path with
  | .ok content => return .ok (some content)
  | .error .notFound => return .ok none
  | .error .isDirectory => return .error (.writeFailed .isDirectory)
  | .error fault => return .error (.openFailed path fault)

/-- Print a finding about a chain. Other errors are no findings. -/
def printFinding : AuditError → Action Unit
  | .integrityViolation line org expected actual => do
      printLine (s!"INTEGRITY VIOLATION at line {line} (org " ++ org.text ++ "):")
      printLine ("  Expected previous_hash: " ++ hashText expected)
      printLine ("  Actual previous_hash:   " ++ hashText actual)
      throw .brokenLedger
  | .sequenceGap line org expected actual => do
      printLine (s!"SEQUENCE GAP at line {line} (org " ++ org.text ++
        s!"): expected {expected}, got {actual}")
      throw .brokenLedger
  | error => throw (.engine (.audit error))

/-- Check the ledger in a file. -/
def checkLedger (path : String) : Action Unit := do
  match ← readLedger path with
  | .error e => throw (.engine (.audit e))
  | .ok none => printLine ("No audit ledger found at " ++ path)
  | .ok (some content) =>
      match LedgerFile.scan Digest.hex content with
      | .ok scan =>
          printLine s!"Audit ledger verified: {scan.count} entr(ies), hash chains intact."
      | .error e => printFinding e

end Mandate.Command
