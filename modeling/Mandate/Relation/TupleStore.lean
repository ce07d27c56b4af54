import Mandate.Relation.Tuple

/-!
# The tuple store

Tuples in the order in which they came, each once. A batch is stored as a whole or not at all.
Whoever asks about tuples goes through `TupleSource`, whose answers may also be failures, because
a store can be out of reach.
-/

namespace Mandate.Relation

/-- The stored tuples. -/
structure TupleStore where
  tuples : List Tuple := []
  deriving DecidableEq, Repr, Inhabited

namespace TupleStore

/-- Check every tuple of a batch. -/
def validateAll : List Tuple → Except GraphError Unit
  | [] => .ok ()
  | t :: rest => do
      t.validate
      validateAll rest

/-- Add the tuples of a batch that are not stored yet. -/
def addMissing (stored : List Tuple) : List Tuple → List Tuple
  | [] => stored
  | t :: rest => addMissing (if stored.contains t then stored else stored ++ [t]) rest

/-- Store a batch. One invalid tuple refuses all of it. -/
def insert (store : TupleStore) (batch : List Tuple) : Except GraphError TupleStore := do
  validateAll batch
  return ⟨addMissing store.tuples batch⟩

/-- The relations that a subject holds directly on an object. -/
def relationsBetween (store : TupleStore) (subject object : Node) : List String :=
  (store.tuples.filter fun t => t.subject == subject && t.object == object).map (·.relation)

/-- The tuples of a subject. -/
def outgoing (store : TupleStore) (subject : Node) : List Tuple :=
  store.tuples.filter (·.subject == subject)

/-- The subjects that hold exactly a relation on an object. -/
def subjectsOf (store : TupleStore) (relation : String) (object : Node) : List Node :=
  (store.tuples.filter fun t => t.relation == relation && t.object == object).map (·.subject)

end TupleStore

/-- Answers about tuples, each of which may fail. -/
structure TupleSource where
  relationsBetween : (subject object : Node) → Except GraphError (List String)
  outgoing : (subject : Node) → Except GraphError (List Tuple)
  subjectsOf : (relation : String) → (object : Node) → Except GraphError (List Node)

namespace TupleSource

/-- The answers of a store that can be reached. -/
def ofStore (store : TupleStore) : TupleSource where
  relationsBetween subject object := .ok (store.relationsBetween subject object)
  outgoing subject := .ok (store.outgoing subject)
  subjectsOf relation object := .ok (store.subjectsOf relation object)

/-- The answers of a store that cannot be reached. -/
def unavailable (why : String) : TupleSource where
  relationsBetween _ _ := .error (.storeUnavailable why)
  outgoing _ := .error (.storeUnavailable why)
  subjectsOf _ _ := .error (.storeUnavailable why)

end TupleSource

end Mandate.Relation
