import Mandate.Policy.Evaluator

/-!
# The cache of compiled policies

Artifacts by policy and version. An entry stays until it is replaced or dropped.
-/

namespace Mandate

/-- Compiled artifacts, each key once. -/
structure CompiledCache where
  entries : List ((Uuid × Nat) × Artifact) := []
  deriving Repr

namespace CompiledCache

/-- The artifact of a version. -/
def get? (cache : CompiledCache) (policy : Uuid) (version : Nat) : Option Artifact :=
  cache.entries.lookup (policy, version)

/-- Drop the artifact of a version. -/
def erase (cache : CompiledCache) (policy : Uuid) (version : Nat) : CompiledCache :=
  ⟨cache.entries.filter fun e => e.1 != (policy, version)⟩

/-- Drop the artifacts of all versions of a policy. -/
def erasePolicy (cache : CompiledCache) (policy : Uuid) : CompiledCache :=
  ⟨cache.entries.filter fun e => e.1.1 != policy⟩

/-- Keep an artifact in place of any earlier one for the version. -/
def put (cache : CompiledCache) (policy : Uuid) (version : Nat) (artifact : Artifact) :
    CompiledCache :=
  ⟨((policy, version), artifact) :: (cache.erase policy version).entries⟩

/-- The number of artifacts. -/
def size (cache : CompiledCache) : Nat :=
  cache.entries.length

end CompiledCache

end Mandate
