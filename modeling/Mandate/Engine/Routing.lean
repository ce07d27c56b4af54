import Mandate.Crypto.Sha2
import Mandate.Text.Bytes

/-!
# Stable routing

A key falls into one of a hundred buckets by the first sixteen bits of its digest, so the same
key always falls into the same bucket. Buckets choose among several assignments, and decide who
takes part in a rollout.
-/

namespace Mandate.Routing

open Mandate.Crypto Mandate.Text

/-- The number of buckets. -/
def bucketCount : Nat := 100

/-- The bucket of a digest, taken from its first two bytes. -/
def bucketOfDigest (digest : List UInt8) : Nat :=
  Sha2.ofBytes (digest.take 2) % bucketCount

/-- The bucket of a key. -/
def bucket (key : String) : Nat :=
  bucketOfDigest (sha256 (utf8 key))

/-- The key of a request that chooses among assignments. -/
def selectionKey (org agent action resource : String) : String :=
  "|".intercalate [org, agent, action, resource]

/-- The position that a bucket chooses in a list of some length. -/
def indexOfBucket (bucket length : Nat) : Nat :=
  if length = 0 then 0 else bucket % length

/-- The position that a key chooses in a list of some length. -/
def selectIndex (key : String) (length : Nat) : Nat :=
  indexOfBucket (bucket key) length

/-- The key that decides about a rollout. A caller without a name is left out. -/
def canaryKey (org agent policy : String) : String :=
  if agent.isEmpty then org ++ ":" ++ policy else org ++ ":" ++ agent ++ ":" ++ policy

/-- The bucket of a caller for rollouts of a policy. -/
def canaryBucket (org agent policy : String) : Nat :=
  bucket (canaryKey org agent policy)

end Mandate.Routing
