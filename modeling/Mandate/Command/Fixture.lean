import Mandate.Engine.Decide

/-!
# Fixtures

A fixture describes a small world in one document: policies with their versions, relations
between nodes, contracts, and requests to be decided in that world. Its policies take the way that
any policy takes. Every version is compiled, the active one is signed by as many people as are
required, and it is activated only if a simulation allows.
-/

namespace Mandate

open Mandate.Json

/-- A rollout in a fixture. -/
structure FixtureRollout where
  version : Nat
  percent : Nat
  deriving DecidableEq, Repr, Inhabited

/-- A policy in a fixture. -/
structure FixturePolicy where
  orgId : Uuid
  name : String
  engine : String
  /-- The bodies of the versions, the first one first. -/
  versions : List Value
  activeVersion : Option Nat
  /-- The context of the simulation before the activation. -/
  simulateWith : Value
  rollout : Option FixtureRollout
  deriving DecidableEq, Repr, Inhabited

/-- A relation in a fixture. Its nodes are texts that need not be references. -/
structure FixtureTuple where
  object : String
  relation : String
  subject : String
  deriving DecidableEq, Repr, Inhabited

/-- A world in one document. -/
structure Fixture where
  policies : List FixturePolicy
  tuples : List FixtureTuple
  contracts : List Federation.Contract
  requests : List Request
  deriving DecidableEq, Repr, Inhabited

def FixtureRollout.decode : Decoder FixtureRollout := Decoder.record do
  let version ← Fields.required "version" (Decoder.unsigned 32)
  let percent ← Fields.required "percent" (Decoder.unsigned 32)
  return ⟨version, percent⟩

def FixturePolicy.decode : Decoder FixturePolicy := Decoder.record do
  let orgId ← Fields.required "org_id" Decoder.uuid
  let name ← Fields.required "name" Decoder.string
  let engine ← Fields.withDefault "engine_type" Decoder.string Rules.engineName
  let versions ← Fields.required "versions" (Decoder.list Decoder.document)
  let activeVersion ← Fields.optional "active_version" (Decoder.unsigned 32)
  let simulateWith ← Fields.withDefault "simulate_with" Decoder.document .null
  let rollout ← Fields.optional "rollout" FixtureRollout.decode
  return { orgId, name, engine, versions, activeVersion, simulateWith, rollout }

def FixtureTuple.decode : Decoder FixtureTuple := Decoder.record do
  let object ← Fields.required "object" Decoder.string
  let relation ← Fields.required "relation" Decoder.string
  let subject ← Fields.required "subject" Decoder.string
  return ⟨object, relation, subject⟩

/-- The relation itself. The object is read before the subject. -/
def FixtureTuple.tuple (t : FixtureTuple) : Except GraphError Relation.Tuple := do
  let object ← Relation.Node.parse t.object
  let subject ← Relation.Node.parse t.subject
  return ⟨object, t.relation, subject⟩

/-- What an installation works on: the policies so far, and occasions of which some are used. -/
structure Installation where
  lifecycle : Lifecycle
  supply : Nat → Occasion
  used : Nat := 0

/-- A part of an installation. What it did before it failed is not undone. -/
abbrev Installing := ExceptT DecisionError (StateM Installation)

namespace Installing

/-- A fresh occasion. -/
def occasion : Installing Occasion := do
  let s ← getThe Installation
  set { s with used := s.used + 1 }
  return s.supply s.used

/-- Carry out one operation on the policies. -/
def carryOut {α : Type}
    (operation : Lifecycle → Occasion → Except DecisionError α × Lifecycle) : Installing α := do
  let on ← occasion
  let s ← getThe Installation
  let (result, lifecycle) := operation s.lifecycle on
  set { s with lifecycle }
  MonadExcept.ofExcept result

/-- Have a version signed by several people. -/
def approveTimes (policy : Uuid) (version : Nat) : (people : Nat) → Installing Unit
  | 0 => return ()
  | people + 1 => do
      let user := (← occasion).id
      let _ ← carryOut (·.approve policy version user ·)
      approveTimes policy version people

/-- Sign, activate and assign a version. -/
def activate (p : FixturePolicy) (policy : Uuid) (version : Nat) : Installing Unit := do
  approveTimes policy version (← getThe Installation).lifecycle.approvalsRequired
  let _ ← carryOut (·.activate policy version p.simulateWith ·)
  let _ ← carryOut (·.assign policy .org p.orgId.text ·)

end Installing

open Installing in
/-- Install a policy. -/
def FixturePolicy.install (p : FixturePolicy) : Installing Unit := do
  let policy ← carryOut (·.createPolicy p.orgId p.name p.engine none ·)
  for body in p.versions do
    let _ ← carryOut (·.addVersion policy.id body none ·)
  if let some version := p.activeVersion then
    activate p policy.id version
  if let some rollout := p.rollout then
    let _ ← carryOut (·.setRollout p.orgId policy.id rollout.version rollout.percent ·)

namespace Fixture

/-- Read a fixture. Contracts without a time are made now. -/
def decode (now : Time.Timestamp) : Decoder Fixture := Decoder.record do
  let policies ← Fields.withDefault "policies" (Decoder.list FixturePolicy.decode) []
  let tuples ← Fields.withDefault "tuples" (Decoder.list FixtureTuple.decode) []
  let contracts ←
    Fields.withDefault "contracts" (Decoder.list (Federation.Contract.decode now)) []
  let requests ← Fields.withDefault "requests" (Decoder.list Request.decode) []
  return { policies, tuples, contracts, requests }

/-- Install policies in order. Gives the first failure with the name of its policy, if there is
one, and what has been reached. -/
def installPolicies :
    List FixturePolicy → Installation → Option (String × DecisionError) × Installation
  | [], s => (none, s)
  | p :: rest, s =>
      match p.install.run s with
      | (.error e, s) => (some (p.name, e), s)
      | (.ok (), s) => installPolicies rest s

/-- Add the relations and the contracts of a fixture to an engine. -/
def connect (fixture : Fixture) (e : Engine) : Except GraphError Engine := do
  let tuples ← fixture.tuples.mapM FixtureTuple.tuple
  let graph ← if tuples.isEmpty then pure e.graph else e.graph.insert tuples
  return { e with graph, contracts := fixture.contracts.foldl (·.insert ·) e.contracts }

end Fixture

end Mandate
