import Mandate.Relation.Tuple

/-!
# Hierarchies of relations

A relation may imply others: an owner is an editor, and an editor is a viewer. A hierarchy is
given by direct implications and kept transitively closed. Blank names and cycles are refused.
Every relation implies itself.
-/

namespace Mandate.Relation

/-- Put a name into a sorted list without repetition. -/
def insertName (name : String) : List String → List String
  | [] => [name]
  | n :: rest =>
      if name = n then n :: rest
      else if name < n then name :: n :: rest
      else n :: insertName name rest

/-- The union of two sorted lists of names. -/
def unionNames (a b : List String) : List String :=
  a.foldl (fun acc n => insertName n acc) b

/-- Direct implications: relations in order, each with the relations that it implies. -/
abbrev Implications := List (String × List String)

/-- Add what a relation implies. -/
def addImplications (relation : String) (targets : List String) : Implications → Implications
  | [] => [(relation, targets)]
  | (r, ts) :: rest =>
      if relation = r then (r, unionNames targets ts) :: rest
      else if relation < r then (relation, targets) :: (r, ts) :: rest
      else (r, ts) :: addImplications relation targets rest

/-- What a relation implies directly. -/
def directTargets (table : Implications) (relation : String) : List String :=
  (table.lookup relation).getD []

/-- Add to a set of relations what they imply directly. -/
def widen (table : Implications) (relations : List String) : List String :=
  relations.foldl (fun acc r => unionNames (directTargets table r) acc) relations

/-- Widen a number of times. -/
def widenTimes (table : Implications) : (times : Nat) → List String → List String
  | 0, relations => relations
  | times + 1, relations => widenTimes table times (widen table relations)

/-- Everything that a relation implies through one or more direct steps. A path through distinct
relations has no more steps than the table has rows. -/
def closureOf (table : Implications) (relation : String) : List String :=
  widenTimes table table.length (directTargets table relation)

/-- A transitively closed table of implications. -/
structure Hierarchy where
  closure : Implications
  deriving DecidableEq, Repr

namespace Hierarchy

/-- The targets of one row, none of which may be blank or the relation itself. -/
def checkTargets (relation : String) : List String → Except HierarchyFault (List String)
  | [] => .ok []
  | target :: rest => do
      if Text.isBlankText target then throw (.emptyTarget relation)
      if target = relation then throw (.selfTarget relation)
      let targets ← checkTargets relation rest
      return insertName target targets

/-- The table of all rows. -/
def buildTable (rows : List (String × List String)) (table : Implications) :
    Except HierarchyFault Implications :=
  match rows with
  | [] => .ok table
  | (relation, targets) :: rest => do
      if Text.isBlankText relation then throw .emptyName
      let targets ← checkTargets relation targets
      buildTable rest (addImplications relation targets table)

/-- Close every row of a table. A relation that implies itself through others is a cycle. -/
def closeRows (table : Implications) : Implications → Except HierarchyFault Implications
  | [] => .ok []
  | (relation, _) :: rest => do
      let closure := closureOf table relation
      if closure.contains relation then throw (.cycle relation)
      let rows ← closeRows table rest
      return (relation, closure) :: rows

/-- The hierarchy with the given direct implications. -/
def build (rows : List (String × List String)) : Except GraphError Hierarchy :=
  match buildTable rows [] >>= fun table => closeRows table table with
  | .ok closure => .ok ⟨closure⟩
  | .error fault => .error (.invalidHierarchy fault)

/-- Owners are editors and editors are viewers. -/
def standard : Hierarchy :=
  ⟨[("editor", ["viewer"]), ("owner", ["editor", "viewer"])]⟩

/-- Whether holding one relation satisfies a request for another. -/
def implies (h : Hierarchy) (held wanted : String) : Bool :=
  held == wanted || ((h.closure.lookup held).getD []).contains wanted

end Hierarchy

end Mandate.Relation
