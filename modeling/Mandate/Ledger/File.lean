import Mandate.Ledger.Chain
import Mandate.Text.Bytes

/-!
# Ledger files

A ledger file holds one entry a line. Opening it verifies what is there and recovers the heads of
the chains. Appending writes one line through a buffer and flushes it; a chain advances only when
the flush has succeeded. What the buffer has accepted and could not write stays in it, and goes
out before later bytes with the next flush that succeeds.
-/

namespace Mandate

open Mandate.Json Mandate.Text

/-- The content of a file. -/
abbrev Bytes := List UInt8

/-- The text of a line of a file. -/
def lineText (line : Bytes) : Except AuditError String :=
  match ofUtf8? line with
  | some s => .ok s
  | none => .error (.writeFailed .notText)

namespace LedgerFile

/-- Scan the lines of a file, counting from the given number. -/
def scanFrom (hash : String → String) (scan : Chains.Scan) (number : Nat) :
    List Bytes → Except AuditError Chains.Scan
  | [] => .ok scan
  | line :: rest => do
      let text ← lineText line
      let scan ← scan.line hash number text
      scanFrom hash scan (number + 1) rest

/-- Verify all chains of a file. -/
def scan (hash : String → String) (content : Bytes) : Except AuditError Chains.Scan :=
  scanFrom hash {} 1 (lines content)

/-- The entries of some lines. Blank lines are skipped. -/
def entriesOf : List Bytes → Except AuditError (List LedgerEntry)
  | [] => .ok []
  | line :: rest => do
      let text ← lineText line
      if isBlankText text then entriesOf rest
      else
        let entry ← Chains.readEntry text
        let more ← entriesOf rest
        return entry :: more

/-- All entries of a file, without verifying the chains. -/
def readAll (content : Bytes) : Except AuditError (List LedgerEntry) :=
  entriesOf (lines content)

end LedgerFile

/-- An open ledger: the heads of its chains, and bytes that were accepted but not written. -/
structure Ledger where
  chains : Chains := {}
  pending : Bytes := []
  deriving DecidableEq, Repr, Inhabited

/-- A failing write: how many bytes of the new line, its newline among them, the writer had accepted
by then, and how many of the bytes that were waiting reached the file. A line that is longer than
the buffer goes straight to the file, so the writer may have accepted any part of it. -/
structure WriteFault where
  accepted : Nat
  written : Nat
  deriving DecidableEq, Repr

namespace Ledger

/-- Open a ledger. A file that does not exist yet is an empty ledger. -/
def openFile (hash : String → String) (content : Option Bytes) : Except AuditError Ledger :=
  match content with
  | none => .ok {}
  | some bytes => (LedgerFile.scan hash bytes).map fun scan => { chains := scan.chains }

/-- The bytes that wait when so many bytes of a line are accepted. -/
def waiting (pending line : Bytes) (accepted : Nat) : Bytes :=
  pending ++ (line ++ [10]).take accepted

/-- Append a record to a file. Gives the entry or the failure, the ledger and the file after. -/
def append (hash : String → String) (ledger : Ledger) (content : Bytes) (record : AuditRecord)
    (stamp : Stamp) (fault : Option WriteFault) :
    Except AuditError LedgerEntry × Ledger × Bytes :=
  let entry := ledger.chains.entryFor record stamp
  let line := utf8 entry.line
  match fault with
  | none =>
      (.ok entry, ⟨ledger.chains.advance hash entry entry.line, []⟩,
        content ++ (ledger.pending ++ (line ++ [10])))
  | some fault =>
      let bytes := waiting ledger.pending line fault.accepted
      (.error (.writeFailed (.other "write failed")),
        { ledger with pending := bytes.drop fault.written },
        content ++ bytes.take fault.written)

end Ledger

end Mandate
