import Mandate.Number.Binary64

/-!
# TOML tables

What a TOML document denotes: a table of items. How a table came about decides what may still be
added to it. A header may open a table only once, though a table that was merely passed through
by another header may be opened later; a dotted key may extend what other dotted keys or passing
headers made, but no table that was opened; an inline table is closed once it is written.
-/

namespace Mandate.Toml

/-- How a table came about. -/
inductive Origin where
  /-- It was opened by a header, or it is the whole document. -/
  | header
  /-- A header passed through it. -/
  | implied
  /-- A dotted key passed through it. -/
  | dotted
  /-- It was written in braces. -/
  | inline
  deriving DecidableEq, Repr, Inhabited

/-- A value, a table, or a list of tables that headers opened. -/
inductive Item where
  | text (s : String)
  | integer (n : Int)
  | float (literal : String)
  | boolean (b : Bool)
  | moment (literal : String)
  | array (items : List Item)
  | table (origin : Origin) (members : List (String × Item))
  | tables (elements : List (List (String × Item)))
  deriving Repr, Inhabited

/-- The members of a table in the order in which they were written. -/
abbrev Members := List (String × Item)

/-- Who walks along a path of keys. -/
inductive Walker where
  | header
  | dottedKey
  | inlineKey
  deriving DecidableEq, Repr

namespace Walker

/-- Which tables a walker may pass through. -/
def enters : Walker → Origin → Bool
  | .header, .inline => false
  | .header, _ => true
  | .dottedKey, .implied => true
  | .dottedKey, .dotted => true
  | .dottedKey, _ => false
  | .inlineKey, .inline => true
  | .inlineKey, .dotted => true
  | .inlineKey, _ => false

/-- What a walker makes where there is nothing. -/
def makes : Walker → Origin
  | .header => .implied
  | .dottedKey => .dotted
  | .inlineKey => .dotted

end Walker

/-- Replace the item under a key that is present. -/
def replace (members : Members) (key : String) (item : Item) : Members :=
  members.map fun (k, old) => if k = key then (k, item) else (k, old)

/-- Change the table at the end of a path. Missing tables on the way are made; of a list of
tables the last one is meant. -/
def changeAt (walker : Walker) (change : Origin → Members → Option Members) :
    (path : List String) → Origin → Members → Option Members
  | [], origin, members => change origin members
  | key :: path, _, members =>
      match members.lookup key with
      | none => do
          let made ← changeAt walker change path walker.makes []
          return members ++ [(key, .table walker.makes made)]
      | some (.table origin inner) =>
          if walker.enters origin then do
            let changed ← changeAt walker change path origin inner
            return replace members key (.table origin changed)
          else none
      | some (.tables elements) => do
          let last ← elements.getLast?
          let changed ← changeAt walker change path .header last
          return replace members key (.tables (elements.dropLast ++ [changed]))
      | some _ => none

/-- Add an item under a key that is not present. -/
def addNew (key : String) (item : Item) (members : Members) : Option Members :=
  if (members.lookup key).isSome then none else some (members ++ [(key, item)])

/-- Add an item under a dotted key to a table. A key of several parts has to end in a table that
dotted keys made. -/
def addKey (walker : Walker) (path : List String) (key : String) (item : Item) (origin : Origin)
    (members : Members) : Option Members :=
  changeAt walker
    (fun reached found =>
      if (reached = .dotted) = (path ≠ []) then addNew key item found else none)
    path origin members

/-- Open the table under a key: there is none yet, or headers have only passed through it. -/
def openTable (key : String) (members : Members) : Option Members :=
  match members.lookup key with
  | none => some (members ++ [(key, .table .header [])])
  | some (.table .implied inner) =>
      some (members.filter (·.1 != key) ++ [(key, .table .header inner)])
  | some _ => none

/-- Begin one more table in the list under a key. -/
def openElement (key : String) (members : Members) : Option Members :=
  match members.lookup key with
  | none => some (members ++ [(key, .tables [[]])])
  | some (.tables elements) => some (replace members key (.tables (elements ++ [[]])))
  | some _ => none

end Mandate.Toml
