/-!
# Tables keyed by texts

A table holds each key once and lists its rows in the order of the keys. It is the form of every
collection whose listing is part of an answer.
-/

namespace Mandate

/-- Rows in key order. -/
structure Table (α : Type) where
  rows : List (String × α) := []
  deriving DecidableEq, Repr, Inhabited

namespace Table

variable {α : Type}

/-- The value under a key. -/
def get? (t : Table α) (key : String) : Option α :=
  t.rows.lookup key

/-- The keys in order. -/
def keys (t : Table α) : List String :=
  t.rows.map (·.1)

/-- Put a row into its place among ordered rows. A row with the same key is replaced. -/
def insertRow (key : String) (value : α) : List (String × α) → List (String × α)
  | [] => [(key, value)]
  | (k, v) :: rest =>
      if key = k then (key, value) :: rest
      else if key < k then (key, value) :: (k, v) :: rest
      else (k, v) :: insertRow key value rest

/-- Store a value under a key. -/
def insert (t : Table α) (key : String) (value : α) : Table α :=
  ⟨insertRow key value t.rows⟩

/-- Drop the row of a key. -/
def erase (t : Table α) (key : String) : Table α :=
  ⟨t.rows.filter (·.1 != key)⟩

/-- Keep the rows whose value has a property. -/
def filter (t : Table α) (keep : α → Bool) : Table α :=
  ⟨t.rows.filter fun row => keep row.2⟩

/-- Change every value. -/
def mapValues {β : Type} (t : Table α) (change : α → β) : Table β :=
  ⟨t.rows.map fun row => (row.1, change row.2)⟩

/-- Change the value under a key, which is the given one if there was none. -/
def modify (t : Table α) (key : String) (default : α) (change : α → α) : Table α :=
  t.insert key (change ((t.get? key).getD default))

/-- Whether there is no row. -/
def isEmpty (t : Table α) : Bool :=
  t.rows.isEmpty

end Table

end Mandate
