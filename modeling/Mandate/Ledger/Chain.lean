import Mandate.Json.Parser
import Mandate.Ledger.Entry

/-!
# Chains of entries

Every organisation has a chain of its own. Its head is the last sequence number and the hash of
the last line; a new entry continues from there, and a stored line is accepted only if it does.
The hash of a line is taken of the text as it stands, not of what it means. The hash function is
a parameter throughout.
-/

namespace Mandate

open Mandate.Json

/-- The end of a chain. -/
structure Head where
  seq : Nat
  hash : String
  deriving DecidableEq, Repr, Inhabited

/-- The heads of all chains. -/
structure Chains where
  heads : List (Uuid × Head) := []
  deriving DecidableEq, Repr, Inhabited

namespace Chains

/-- The head of an organisation's chain, if it has begun. -/
def head? (chains : Chains) (org : Uuid) : Option Head :=
  chains.heads.lookup org

/-- Put a new head in place. -/
def setHead (chains : Chains) (org : Uuid) (head : Head) : Chains :=
  ⟨(org, head) :: chains.heads.filter (·.1 != org)⟩

/-- The sequence number that comes next in a chain. -/
def nextSeq (chains : Chains) (org : Uuid) : Nat :=
  match chains.head? org with
  | some head => head.seq + 1
  | none => 1

/-- The hash that the next entry of a chain has to name. -/
def nextHash (chains : Chains) (org : Uuid) : Option String :=
  (chains.head? org).map (·.hash)

/-- The next entry for a record. The chain does not advance yet. -/
def entryFor (chains : Chains) (record : AuditRecord) (stamp : Stamp) : LedgerEntry :=
  .ofRecord record (chains.nextSeq record.orgId) (chains.nextHash record.orgId) stamp

/-- Make an entry with its line the head of its chain. -/
def advance (hash : String → String) (chains : Chains) (entry : LedgerEntry) (line : String) :
    Chains :=
  chains.setHead entry.orgId ⟨entry.seq, hash line⟩

/-- Read one line as an entry. -/
def readEntry (line : String) : Except AuditError LedgerEntry :=
  match (Tree.ofText? line).bind LedgerEntry.decode with
  | some entry => .ok entry
  | none => .error .malformedEntry

/-- Check a stored line against its chain and advance the chain. The previous hash is checked
before the sequence number. -/
def accept (hash : String → String) (chains : Chains) (number : Nat) (line : String) :
    Except AuditError Chains := do
  let entry ← readEntry line
  let expected := chains.nextHash entry.orgId
  if entry.previousHash ≠ expected then
    throw (.integrityViolation number entry.orgId expected entry.previousHash)
  if entry.seq ≠ chains.nextSeq entry.orgId then
    throw (.sequenceGap number entry.orgId (chains.nextSeq entry.orgId) entry.seq)
  return chains.advance hash entry line

/-- What a scan has found so far: the number of entries and the heads. -/
structure Scan where
  count : Nat := 0
  chains : Chains := {}
  deriving DecidableEq, Repr, Inhabited

/-- Scan one line. A blank line is skipped. -/
def Scan.line (hash : String → String) (scan : Scan) (number : Nat) (line : String) :
    Except AuditError Scan :=
  if Text.isBlankText line then .ok scan
  else (scan.chains.accept hash number line).map fun chains => ⟨scan.count + 1, chains⟩

end Chains

end Mandate
