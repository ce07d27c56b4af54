import Mandate.Engine.Error
import Mandate.Json.Record
import Mandate.Toml.Document

/-!
# The configuration of an engine

Every field has a default. A configuration is read from a TOML document, of which only the fields
are looked at, and is refused when a field that has to be positive is zero.
-/

namespace Mandate

open Mandate.Json

/-- The settings of an engine. -/
structure Config where
  /-- How many people have to sign a version. -/
  approvalsRequired : Nat := 2
  trustTokenTtlSecs : Nat := 120
  signerTimeoutMs : Nat := 2000
  /-- Whether requests across organisations need attestation. -/
  zeroTrustCrossOrg : Bool := false
  riskWindowSecs : Nat := 30
  riskSpikeThreshold : Nat := 50
  graphCacheTtlMs : Nat := 5000
  graphCacheNegTtlMs : Nat := 1000
  backgroundWorkers : Nat := 2
  backgroundQueue : Nat := 256
  /-- How many requests may be under way at once; zero for any number. -/
  maxInflight : Nat := 0
  deriving DecidableEq, Repr, Inhabited

namespace Config

def json (c : Config) : Value :=
  .object <| field "approvals_required" (.nat c.approvalsRequired) ++
    field "trust_token_ttl_secs" (.nat c.trustTokenTtlSecs) ++
    field "signer_timeout_ms" (.nat c.signerTimeoutMs) ++
    field "zero_trust_cross_org" (.bool c.zeroTrustCrossOrg) ++
    field "risk_window_secs" (.nat c.riskWindowSecs) ++
    field "risk_spike_threshold" (.nat c.riskSpikeThreshold) ++
    field "graph_cache_ttl_ms" (.nat c.graphCacheTtlMs) ++
    field "graph_cache_neg_ttl_ms" (.nat c.graphCacheNegTtlMs) ++
    field "background_workers" (.nat c.backgroundWorkers) ++
    field "background_queue" (.nat c.backgroundQueue) ++
    field "max_inflight" (.nat c.maxInflight)

/-- Read a configuration whose missing fields are taken from a given one. -/
def decodeOver (base : Config) : Decoder Config := Decoder.record do
  let word := Decoder.unsigned 64
  let approvalsRequired ← Fields.withDefault "approvals_required" word base.approvalsRequired
  let trustTokenTtlSecs ← Fields.withDefault "trust_token_ttl_secs" word base.trustTokenTtlSecs
  let signerTimeoutMs ← Fields.withDefault "signer_timeout_ms" word base.signerTimeoutMs
  let zeroTrustCrossOrg ←
    Fields.withDefault "zero_trust_cross_org" Decoder.bool base.zeroTrustCrossOrg
  let riskWindowSecs ← Fields.withDefault "risk_window_secs" word base.riskWindowSecs
  let riskSpikeThreshold ← Fields.withDefault "risk_spike_threshold" word base.riskSpikeThreshold
  let graphCacheTtlMs ← Fields.withDefault "graph_cache_ttl_ms" word base.graphCacheTtlMs
  let graphCacheNegTtlMs ← Fields.withDefault "graph_cache_neg_ttl_ms" word base.graphCacheNegTtlMs
  let backgroundWorkers ← Fields.withDefault "background_workers" word base.backgroundWorkers
  let backgroundQueue ← Fields.withDefault "background_queue" word base.backgroundQueue
  let maxInflight ← Fields.withDefault "max_inflight" word base.maxInflight
  return { approvalsRequired, trustTokenTtlSecs, signerTimeoutMs, zeroTrustCrossOrg,
           riskWindowSecs, riskSpikeThreshold, graphCacheTtlMs, graphCacheNegTtlMs,
           backgroundWorkers, backgroundQueue, maxInflight }

/-- Read a configuration whose missing fields have their defaults. -/
def decode : Decoder Config := decodeOver {}

/-- A count in a TOML table. -/
def count? (members : Toml.Members) (name : String) (default : Nat) : Option Nat :=
  match members.lookup name with
  | none => some default
  | some (.integer n) => if 0 ≤ n then some n.toNat else none
  | some _ => none

/-- A switch in a TOML table. -/
def switch? (members : Toml.Members) (name : String) (default : Bool) : Option Bool :=
  match members.lookup name with
  | none => some default
  | some (.boolean b) => some b
  | some _ => none

/-- The configuration in a TOML table. -/
def ofTable? (members : Toml.Members) : Option Config := do
  let base : Config := {}
  return {
    approvalsRequired := ← count? members "approvals_required" base.approvalsRequired
    trustTokenTtlSecs := ← count? members "trust_token_ttl_secs" base.trustTokenTtlSecs
    signerTimeoutMs := ← count? members "signer_timeout_ms" base.signerTimeoutMs
    zeroTrustCrossOrg := ← switch? members "zero_trust_cross_org" base.zeroTrustCrossOrg
    riskWindowSecs := ← count? members "risk_window_secs" base.riskWindowSecs
    riskSpikeThreshold := ← count? members "risk_spike_threshold" base.riskSpikeThreshold
    graphCacheTtlMs := ← count? members "graph_cache_ttl_ms" base.graphCacheTtlMs
    graphCacheNegTtlMs := ← count? members "graph_cache_neg_ttl_ms" base.graphCacheNegTtlMs
    backgroundWorkers := ← count? members "background_workers" base.backgroundWorkers
    backgroundQueue := ← count? members "background_queue" base.backgroundQueue
    maxInflight := ← count? members "max_inflight" base.maxInflight }

/-- The fields that have to be positive, in the order in which they are checked. -/
def positiveFields (c : Config) : List (String × Nat) :=
  [("approvals_required", c.approvalsRequired), ("risk_spike_threshold", c.riskSpikeThreshold),
    ("background_workers", c.backgroundWorkers), ("background_queue", c.backgroundQueue),
    ("risk_window_secs", c.riskWindowSecs), ("trust_token_ttl_secs", c.trustTokenTtlSecs)]

/-- Refuse a configuration with which an engine could not work. -/
def validate (c : Config) : Except DecisionError Unit :=
  match c.positiveFields.find? (·.2 == 0) with
  | some (name, _) => .error (.config (.notPositive name))
  | none => .ok ()

/-- The valid configuration that a TOML text denotes. -/
def ofToml (text : String) : Except DecisionError Config := do
  match (Toml.ofText? text).bind ofTable? with
  | none => throw .configParse
  | some config =>
      config.validate
      return config

end Config

end Mandate
