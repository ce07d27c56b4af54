import Mandate.Command.Fixture
import Mandate.Command.LedgerCheck
import Mandate.Command.SigningKey

/-!
# Verifications

The requests of a fixture are decided in the world of the fixture, and every response is printed
on a line of its own. What is recorded on the way can be kept in a ledger file, and tokens can be
signed with a key from a file.
-/

namespace Mandate.Command

open Mandate.Json

/-- What is verified, where records are kept, and with which key tokens are signed. -/
structure Verification where
  fixture : String
  ledger : Option String
  signingKey : Option String
  keyId : String
  deriving DecidableEq, Repr, Inhabited

/-- Open a ledger file. It is created if it does not exist. -/
def openLedger (path : String) : Action AuditSink := do
  match ← readLedger path with
  | .error e => throw (.openingLedger path e)
  | .ok content =>
      match Ledger.openFile Digest.hex content with
      | .error e => throw (.openingLedger path e)
      | .ok ledger =>
          match ← appendFile path [] with
          | .error fault => throw (.openingLedger path (.openFailed path fault))
          | .ok () => return .file ledger (content.getD [])

/-- Open a ledger file, if one is wanted. -/
def openSink : Option String → Action AuditSink
  | some path => openLedger path
  | none => return .absent

/-- Write to a ledger file what was recorded since a sink was in an earlier state. Nothing can be
done about a failure. -/
def keepRecords (path : Option String) (earlier later : AuditSink) : Action Unit := do
  match path, earlier, later with
  | some path, .file _ written, .file _ content =>
      let _ ← appendFile path (content.drop written.length)
  | _, _, _ => return ()

/-- An engine for a fixture, whose policies are installed already. -/
def engineFor (config : Config) (lifecycle : Lifecycle) : Engine :=
  .start config lifecycle
    { cache := some { ttl := config.graphCacheTtlMs, negativeTtl := config.graphCacheNegTtlMs } }

/-- Decide the requests of a fixture. -/
def Verification.execute (v : Verification) (config : Config) : Action Unit := do
  let time ← currentTime
  let fixture ← readRecord v.fixture (Fixture.decode time)
  let audit ← openSink v.ledger
  let bytes ← drawBytes
  let supply := Occasion.drawn bytes time
  let lifecycle : Lifecycle := { approvalsRequired := config.approvalsRequired, audit }
  let (refused, installation) :=
    Fixture.installPolicies fixture.policies { lifecycle, supply := fun n => supply (3 * n) }
  let lifecycle := installation.lifecycle
  keepRecords v.ledger audit lifecycle.audit
  if let some (policy, error) := refused then throw (.installing policy error)
  match fixture.connect (engineFor config lifecycle) with
  | .error e => throw (.engine (.graph e))
  | .ok engine =>
      let signer ← v.signingKey.mapM (readSigner · v.keyId)
      let (responses, engine) :=
        { engine with signer }.decideAll (fun n => supply (3 * n + 1))
          (fun n => (supply (3 * n + 2)).stamp) fixture.requests
      for response in responses do
        printLine response.json.text
      let engine := engine.shutdown fun n => (supply (3 * n + 2)).stamp
      keepRecords v.ledger lifecycle.audit engine.lifecycle.audit

end Mandate.Command
