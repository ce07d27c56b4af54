import Mandate.Relation.CheckCache

/-!
# The graph as its users see it

A client holds the tuples, knows how checks are made, and may keep answers in front of them. A
write goes to the tuples first; kept answers are dropped after it. The tuples may be out of reach,
and then every question that is not answered from the cache fails.
-/

namespace Mandate.Relation

/-- A graph with its tuples and its kept answers. -/
structure Client where
  graph : Graph := {}
  store : TupleStore := {}
  cache : Option CheckCache := none
  /-- Why the tuples are out of reach, if they are. -/
  outage : Option String := none
  deriving DecidableEq, Repr

namespace Client

/-- Who answers questions about tuples. -/
def source (client : Client) : TupleSource :=
  match client.outage with
  | some why => .unavailable why
  | none => .ofStore client.store

/-- Ask the graph itself, past all kept answers. -/
def ask (client : Client) (subject : Node) (relation : String) (object : Node) :
    Except GraphError CheckResult :=
  client.graph.check client.source subject relation object

/-- Store a batch of tuples, then drop the kept answers. A refused batch changes nothing. -/
def insert (client : Client) (batch : List Tuple) : Except GraphError Client :=
  match client.outage with
  | some why => .error (.storeUnavailable why)
  | none => do
      let store ← client.store.insert batch
      return { client with store, cache := client.cache.map CheckCache.afterWrite }

/-- Drop the kept answers. -/
def clear (client : Client) : Client :=
  { client with cache := client.cache.map CheckCache.clear }

/-- Keep an answer that was asked for in a generation. -/
def keep (client : Client) (generation : Nat) (key : String) (now : Nat) :
    Except GraphError CheckResult → Client
  | .ok result =>
      { client with cache := client.cache.map (·.keep generation key result.allowed now) }
  | .error _ => client

/-- Check, while something else happens between the graph's answer and its keeping. The clock is
read twice: when kept answers are looked up, and when the answer of the graph is kept. -/
def checkTimed (between : Client → Client) (client : Client) (asked answered : Nat)
    (subject : Node) (relation : String) (object : Node) :
    Except GraphError CheckResult × Client :=
  match client.cache with
  | none => (client.ask subject relation object, client)
  | some cache =>
      let key := CheckCache.key subject relation object
      match cache.start key asked with
      | .hit allowed => (.ok ⟨allowed, cacheSource⟩, client)
      | .miss generation =>
          let result := client.ask subject relation object
          (result, (between client).keep generation key answered result)

/-- Check, while something else happens between the graph's answer and its keeping, all of it at
one moment. -/
def checkWhile (between : Client → Client) (client : Client) (now : Nat) (subject : Node)
    (relation : String) (object : Node) : Except GraphError CheckResult × Client :=
  client.checkTimed between now now subject relation object

/-- Check with nothing else going on. -/
def check (client : Client) (now : Nat) (subject : Node) (relation : String) (object : Node) :
    Except GraphError CheckResult × Client :=
  client.checkWhile id now subject relation object

end Client

end Mandate.Relation
