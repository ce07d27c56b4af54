import Mandate.Json.Record
import Mandate.Text.Characters

/-!
# Relation tuples

A tuple says that a subject holds a relation on an object: `team:devs#member@user:alice` makes
alice a member of devs. Subjects and objects are nodes, written as a name space and an
identifier with a colon between them.
-/

namespace Mandate

open Mandate.Json

/-- What is wrong with a table of relations. -/
inductive HierarchyFault where
  | emptyName
  | emptyTarget (relation : String)
  | selfTarget (relation : String)
  | cycle (relation : String)
  /-- An objection that comes with words of its own. -/
  | other (text : String)
  deriving DecidableEq, Repr

/-- Why an operation on relations failed. -/
inductive GraphError where
  | invalidRelation (relation : String)
  | invalidRef (text : String)
  | storeUnavailable (text : String)
  | invalidHierarchy (fault : HierarchyFault)
  deriving DecidableEq, Repr

def HierarchyFault.message : HierarchyFault → String
  | .emptyName => "relation names must not be empty"
  | .emptyTarget relation => s!"'{relation}' implies an empty relation name"
  | .selfTarget relation => s!"'{relation}' implies itself"
  | .cycle relation => s!"cycle through '{relation}'"
  | .other text => text

/-- The wording of an error. -/
def GraphError.message : GraphError → String
  | .invalidRelation relation => s!"invalid relation '{relation}'"
  | .invalidRef text => s!"invalid node reference '{text}': expected namespace:id"
  | .storeUnavailable text => "tuple store unavailable: " ++ text
  | .invalidHierarchy fault => "invalid relation hierarchy: " ++ fault.message

namespace Relation

/-- A node: somebody or something that relations are about. -/
structure Node where
  space : String
  id : String
  deriving DecidableEq, Repr, Inhabited

namespace Node

/-- The text of a node. -/
def text (n : Node) : String := n.space ++ ":" ++ n.id

/-- Read a node. The name space ends at the first colon, and neither part may be empty. -/
def parse (s : String) : Except GraphError Node :=
  match Text.splitOnce ':' s.toList with
  | some (space, id) =>
      if space.isEmpty || id.isEmpty then .error (.invalidRef s)
      else .ok ⟨String.ofList space, String.ofList id⟩
  | none => .error (.invalidRef s)

def json (n : Node) : Value :=
  .object <| field "namespace" (.string n.space) ++ field "object_id" (.string n.id)

def decode : Decoder Node := Decoder.record do
  let space ← Fields.required "namespace" Decoder.string
  let id ← Fields.required "object_id" Decoder.string
  return ⟨space, id⟩

end Node

/-- `subject` holds `relation` on `object`. -/
structure Tuple where
  object : Node
  relation : String
  subject : Node
  deriving DecidableEq, Repr, Inhabited

namespace Tuple

/-- The text of a tuple. -/
def text (t : Tuple) : String :=
  t.object.text ++ "#" ++ t.relation ++ "@" ++ t.subject.text

/-- Refuse a node with an empty part. -/
def checkNode (role : String) (n : Node) : Except GraphError Unit :=
  if n.space.isEmpty || n.id.isEmpty then .error (.invalidRef (role ++ " " ++ n.text))
  else .ok ()

/-- Refuse a tuple with a blank relation or an empty part. -/
def validate (t : Tuple) : Except GraphError Unit := do
  if Text.isBlankText t.relation then throw (.invalidRelation t.relation)
  checkNode "object" t.object
  checkNode "subject" t.subject

def json (t : Tuple) : Value :=
  .object <| field "object_type" (.string t.object.space) ++
    field "object_id" (.string t.object.id) ++ field "relation" (.string t.relation) ++
    field "subject_type" (.string t.subject.space) ++ field "subject_id" (.string t.subject.id)

def decode : Decoder Tuple := Decoder.record do
  let objectSpace ← Fields.required "object_type" Decoder.string
  let objectId ← Fields.required "object_id" Decoder.string
  let relation ← Fields.required "relation" Decoder.string
  let subjectSpace ← Fields.required "subject_type" Decoder.string
  let subjectId ← Fields.required "subject_id" Decoder.string
  return ⟨⟨objectSpace, objectId⟩, relation, ⟨subjectSpace, subjectId⟩⟩

end Tuple

/-- A tree that shows who holds a relation on an object. -/
inductive Expansion where
  | node (relation : String) (object : Node) (children : List Expansion)
  deriving Repr, Inhabited

namespace Expansion

mutual

def json : Expansion → Value
  | .node relation object children =>
      .object <| field "relation" (.string relation) ++ field "object" object.json ++
        (match children with
          | [] => []
          | _ => field "children" (.array (jsonAll children)))

def jsonAll : List Expansion → List Value
  | [] => []
  | e :: rest => json e :: jsonAll rest

end

/-- Read a tree of at most the given height. -/
def decodeWithin : (height : Nat) → Decoder Expansion
  | 0 => fun _ => none
  | height + 1 => Decoder.record do
      let relation ← Fields.required "relation" Decoder.string
      let object ← Fields.required "object" Node.decode
      let children ← Fields.withDefault "children" (Decoder.list (decodeWithin height)) []
      return .node relation object children

/-- Read a tree. Every level takes two levels of nesting, so the nesting limit bounds it. -/
def decode : Decoder Expansion := decodeWithin 128

end Expansion

end Relation

end Mandate
