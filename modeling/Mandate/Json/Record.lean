import Mandate.Json.Tree

/-!
# Records in JSON

A record is read from an object by the names of its fields, or from an array by their order. An
unknown member of an object is skipped, a known one may not be repeated, and an array may stop
early only where every remaining field has a default. Integers must be integer literals in
range: `2.0` is none.

Writing goes field by field in declaration order, and a field may be left out.
-/

namespace Mandate.Json

/-- Reads a value of some type from a tree. -/
abbrev Decoder (α : Type) := Tree → Option α

namespace Decoder

def bool : Decoder Bool
  | .bool b => some b
  | _ => none

def string : Decoder String
  | .string s => some s
  | _ => none

/-- An integer literal between two bounds. -/
def intIn (low high : Int) : Decoder Int
  | .number (.int n) => if low ≤ n ∧ n ≤ high then some n else none
  | _ => none

/-- An unsigned integer of the given number of bits. -/
def unsigned (bits : Nat) : Decoder Nat := fun t =>
  (intIn 0 ((1 <<< bits : Nat) - 1) t).map Int.toNat

/-- A signed integer of 64 bits. -/
def signed64 : Decoder Int :=
  intIn lowestInt highestInt

/-- Null or a value. -/
def nullable {α : Type} (read : Decoder α) : Decoder (Option α)
  | .null => some none
  | t => (read t).map some

/-- Every item of an array. -/
def list {α : Type} (read : Decoder α) : Decoder (List α)
  | .array items => items.mapM read
  | _ => none

/-- A list of texts. -/
def strings : Decoder (List String) := list string

/-- A free-form document. -/
def document : Decoder Value := Tree.value?

/-- One of several names, written as a string or as an object with the name as its only key and
null under it. -/
def name {α : Type} (read? : String → Option α) : Decoder α
  | .string s => read? s
  | .object [(s, .null)] => read? s
  | _ => none

end Decoder

/-- Where the fields of a record are taken from. -/
inductive Source where
  | members (m : List (String × Tree))
  | items (l : List Tree)

/-- Reads fields one after the other from a source. -/
abbrev Fields (α : Type) := StateT Source Option α

namespace Fields

/-- The next field, given its name: by name from members, which must not repeat it, and by
position from items. -/
def next (name : String) : Fields (Option Tree) := fun source =>
  match source with
  | .members m =>
      match m.filter (·.1 == name) with
      | [] => some (none, source)
      | [(_, t)] => some (some t, source)
      | _ => none
  | .items [] => some (none, source)
  | .items (t :: rest) => some (some t, .items rest)

/-- A field that has to be there. -/
def required {α : Type} (name : String) (read : Decoder α) : Fields α := do
  match ← next name with
  | some t => StateT.lift (read t)
  | none => failure

/-- A field that has a default. -/
def withDefault {α : Type} (name : String) (read : Decoder α) (default : α) : Fields α := do
  match ← next name with
  | some t => StateT.lift (read t)
  | none => return default

/-- A field that may be absent or null. -/
def optional {α : Type} (name : String) (read : Decoder α) : Fields (Option α) :=
  withDefault name (Decoder.nullable read) none

/-- A field that may be null, and may be absent from an object but not from an array. -/
def named {α : Type} (name : String) (read : Decoder α) : Fields (Option α) := fun source =>
  match source with
  | .members _ => optional name read source
  | .items _ => required name (Decoder.nullable read) source

end Fields

/-- Read a record from a tree by reading its fields. -/
def Decoder.record {α : Type} (fields : Fields α) : Decoder α
  | .object m => (fields (.members m)).map (·.1)
  | .array l =>
      match fields (.items l) with
      | some (a, .items []) => some a
      | _ => none
  | _ => none

/-- A type whose values are written in JSON. -/
class Written (α : Type) where
  json : α → Value

/-- A type whose values are stored or exchanged in JSON. -/
class Record (α : Type) extends Written α where
  /-- Read a value. -/
  decode : Decoder α

export Written (json)

instance : Written Value := ⟨id⟩

instance : Written String := ⟨.string⟩

instance : Written Bool := ⟨.bool⟩

instance : Written Nat := ⟨.nat⟩

instance {α : Type} [Written α] : Written (List α) := ⟨fun l => .array (l.map json)⟩

instance {α : Type} [Written α] : Written (Option α) := ⟨fun a => (a.map json).getD .null⟩

/-- A result is written as what it is, or as why it is not there. -/
instance {ε α : Type} [Written ε] [Written α] : Written (Except ε α) where
  json
    | .ok a => json a
    | .error e => json e

/-- A field that is always written. -/
def field (name : String) (value : Value) : Members := [(name, value)]

/-- A field that is written when there is a value. -/
def optionalField {α : Type} (name : String) (value : Option α) (write : α → Value) : Members :=
  match value with
  | some a => [(name, write a)]
  | none => []

/-- A text that is written when it is not empty. -/
def textField (name : String) (s : String) : Members :=
  if s.isEmpty then [] else [(name, .string s)]

/-- A flag that is written when it is set. -/
def flagField (name : String) (b : Bool) : Members :=
  if b then [(name, .bool true)] else []

/-- A list that is written when it is not empty. -/
def listField {α : Type} (name : String) (l : List α) (write : α → Value) : Members :=
  if l.isEmpty then [] else [(name, .array (l.map write))]

end Mandate.Json
