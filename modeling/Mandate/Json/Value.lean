import Mandate.Number.Binary64
import Mandate.Number.Words

/-!
# JSON documents

A document keeps the distinction between integer and floating literals: `7` and `7.0` are
different values. The members of an object are listed in the order in which they are written;
documents that come from outside are sorted by key with the last of repeated keys kept, and
`Value.sorted` brings any document into that form.
-/

namespace Mandate.Json

/-- A number literal: an integer of at most 64 bits, or a double. -/
inductive Number where
  | int (n : Int)
  | float (x : Binary64)
  deriving DecidableEq, Repr, Inhabited

/-- A JSON document. -/
inductive Value where
  | null
  | bool (b : Bool)
  | number (n : Number)
  | string (s : String)
  | array (items : List Value)
  | object (members : List (String × Value))
  deriving Repr, Inhabited

/-- The members of an object. -/
abbrev Members := List (String × Value)

namespace Value

mutual

/-- Structural equality of documents. -/
def same : Value → Value → Bool
  | .null, .null => true
  | .bool a, .bool b => a == b
  | .number a, .number b => a == b
  | .string a, .string b => a == b
  | .array a, .array b => sameItems a b
  | .object a, .object b => sameMembers a b
  | _, _ => false

def sameItems : List Value → List Value → Bool
  | [], [] => true
  | a :: r, b :: s => same a b && sameItems r s
  | _, _ => false

def sameMembers : Members → Members → Bool
  | [], [] => true
  | (k, a) :: r, (l, b) :: s => k == l && same a b && sameMembers r s
  | _, _ => false

end

mutual

theorem same_iff : (a b : Value) → (same a b = true ↔ a = b)
  | .null, b => by cases b <;> simp [same]
  | .bool _, b => by cases b <;> simp [same]
  | .number _, b => by cases b <;> simp [same]
  | .string _, b => by cases b <;> simp [same]
  | .array l, b => by cases b <;> simp [same, sameItems_iff l]
  | .object l, b => by cases b <;> simp [same, sameMembers_iff l]

theorem sameItems_iff : (a b : List Value) → (sameItems a b = true ↔ a = b)
  | [], b => by cases b <;> simp [sameItems]
  | a :: r, b => by cases b <;> simp [sameItems, same_iff a, sameItems_iff r]

theorem sameMembers_iff : (a b : Members) → (sameMembers a b = true ↔ a = b)
  | [], b => by cases b <;> simp [sameMembers]
  | (k, a) :: r, b => by
      cases b with
      | nil => simp [sameMembers]
      | cons m s =>
          obtain ⟨l, c⟩ := m
          simp [sameMembers, same_iff a, sameMembers_iff r, and_assoc]

end

instance : DecidableEq Value := fun a b => decidable_of_iff _ (same_iff a b)

/-- A natural number as a document. -/
def nat (n : Nat) : Value := .number (.int n)

/-- A list of texts as a document. -/
def strings (l : List String) : Value := .array (l.map .string)

/-- The members, if the document is an object. -/
def members? : Value → Option Members
  | .object m => some m
  | _ => none

/-- The items, if the document is an array. -/
def items? : Value → Option (List Value)
  | .array l => some l
  | _ => none

/-- The text, if the document is a string. -/
def string? : Value → Option String
  | .string s => some s
  | _ => none

end Value

namespace Members

/-- The value under a key. -/
def get? (m : Members) (key : String) : Option Value :=
  m.lookup key

/-- Whether a key is present. -/
def has (m : Members) (key : String) : Bool :=
  m.any (·.1 == key)

/-- Put a member into its place among members sorted by key. A member with the same key is
replaced. Keys are ordered by code points. -/
def insert (key : String) (value : Value) : Members → Members
  | [] => [(key, value)]
  | (k, v) :: rest =>
      if key = k then (key, value) :: rest
      else if key < k then (key, value) :: (k, v) :: rest
      else (k, v) :: insert key value rest

/-- The members in key order; of repeated keys the last is kept. -/
def ofList (m : Members) : Members :=
  m.foldl (fun sorted (key, value) => insert key value sorted) []

/-- Drop the member under a key. -/
def erase (m : Members) (key : String) : Members :=
  m.filter (·.1 != key)

end Members

namespace Value

/-- The value under a key of an object. -/
def get? (v : Value) (key : String) : Option Value :=
  v.members?.bind (Members.get? · key)

mutual

/-- The same document with the members of every object in key order. -/
def sorted : Value → Value
  | .array items => .array (sortedItems items)
  | .object members => .object (Members.ofList (sortedMembers members))
  | scalar => scalar

def sortedItems : List Value → List Value
  | [] => []
  | v :: rest => sorted v :: sortedItems rest

def sortedMembers : Members → Members
  | [] => []
  | (k, v) :: rest => (k, sorted v) :: sortedMembers rest

end

end Value

end Mandate.Json
