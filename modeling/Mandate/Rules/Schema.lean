import Mandate.Policy.Error

/-!
# Input schemas

A rule set may ask for members of the input document and for the kinds of some of them. All
violations are collected, so that a trace lists every problem at once.
-/

namespace Mandate.Rules

open Mandate.Json

/-- The kinds of values that a schema can ask for. -/
inductive Kind where
  | string
  | number
  | boolean
  | object
  | array
  deriving DecidableEq, Repr

namespace Kind

/-- The kind with a given name. Other names ask for nothing. -/
def ofName? : String → Option Kind
  | "string" => some .string
  | "number" => some .number
  | "boolean" => some .boolean
  | "object" => some .object
  | "array" => some .array
  | _ => none

def name : Kind → String
  | .string => "string"
  | .number => "number"
  | .boolean => "boolean"
  | .object => "object"
  | .array => "array"

/-- Whether a value is of a kind. -/
def accepts : Kind → Value → Bool
  | .string, .string _ => true
  | .number, .number _ => true
  | .boolean, .bool _ => true
  | .object, .object _ => true
  | .array, .array _ => true
  | _, _ => false

end Kind

/-- The members that have to be there, and the kinds of members that may be there. -/
structure Schema where
  required : List String
  properties : List (String × Kind)
  deriving DecidableEq, Repr

namespace Schema

/-- The required names: the non-empty strings of an array, or none. -/
def parseRequired : Option Value → Except BodyFault (List String)
  | none => .ok []
  | some (.array items) => .ok ((items.filterMap Value.string?).filter (!·.isEmpty))
  | some _ => .error .requiredNotArray

/-- The kinds of properties. A property without a known kind is left out. -/
def parseProperties : Option Value → Except BodyFault (List (String × Kind))
  | none => .ok []
  | some (.object members) => .ok <| members.filterMap fun (name, property) => do
      let kind ← (property.get? "type").bind Value.string?
      return (name, ← Kind.ofName? kind)
  | some _ => .error .propertiesNotObject

/-- Parse the schema of a body. It may be absent, null or empty, which is no schema. -/
def parse : Option Value → Except BodyFault (Option Schema)
  | none => .ok none
  | some .null => .ok none
  | some (.object []) => .ok none
  | some (.object members) => do
      let required ← parseRequired (Members.get? members "required")
      let properties ← parseProperties (Members.get? members "properties")
      return some ⟨required, properties⟩
  | some _ => .error .schemaNotObject

/-- Every violation that an input document commits, in the order of the schema. -/
def violations (schema : Schema) (input : Value) : List String :=
  match input with
  | .object members =>
      let missing := (schema.required.filter fun name => !Members.has members name).map
        fun name => s!"missing required field '{name}'"
      let mistyped := schema.properties.filterMap fun (name, kind) => do
        let value ← Members.get? members name
        if kind.accepts value then none
        else some ("field '" ++ name ++ "' expected type " ++ kind.name)
      missing ++ mistyped
  | _ => ["input is not valid JSON object"]

end Schema

end Mandate.Rules
