import Mandate.Json.Value

/-!
# Parsed JSON texts

A tree is what a JSON text spells, before it becomes a document: members stand in written order
and repeated keys are all there. A piece that is well formed but denotes nothing, such as a
number beyond the largest double, half of a surrogate pair or a container nested too deeply, is
`unreadable`. A reader that skips a piece never notices; a reader that needs it fails.
-/

namespace Mandate.Json

/-- What a JSON text spells. -/
inductive Tree where
  | null
  | bool (b : Bool)
  | number (n : Number)
  | string (s : String)
  | array (items : List Tree)
  | object (members : List (String × Tree))
  | unreadable
  deriving Repr, Inhabited

namespace Tree

mutual

/-- The document that a tree denotes, if all of it is readable: sorted by key, the last of
repeated keys kept. -/
def value? : Tree → Option Value
  | .null => some .null
  | .bool b => some (.bool b)
  | .number n => some (.number n)
  | .string s => some (.string s)
  | .array items => (itemValues? items).map .array
  | .object members => (memberValues? members).map fun m => .object (Members.ofList m)
  | .unreadable => none

def itemValues? : List Tree → Option (List Value)
  | [] => some []
  | t :: rest => do
      let v ← value? t
      let vs ← itemValues? rest
      return v :: vs

def memberValues? : List (String × Tree) → Option Members
  | [] => some []
  | (k, t) :: rest => do
      let v ← value? t
      let vs ← memberValues? rest
      return (k, v) :: vs

end

end Tree

namespace Value

mutual

/-- The tree that the compact text of a document spells. -/
def tree : Value → Tree
  | .null => .null
  | .bool b => .bool b
  | .number n => .number n
  | .string s => .string s
  | .array items => .array (itemTrees items)
  | .object members => .object (memberTrees members)

def itemTrees : List Value → List Tree
  | [] => []
  | v :: rest => tree v :: itemTrees rest

def memberTrees : Members → List (String × Tree)
  | [] => []
  | (k, v) :: rest => (k, tree v) :: memberTrees rest

end

end Value

end Mandate.Json
