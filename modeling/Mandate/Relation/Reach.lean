import Mandate.Relation.Hierarchy
import Mandate.Relation.TupleStore

/-!
# Who holds a relation

A subject holds a relation on an object directly, by a stored relation that implies it, or
through a bounded chain of memberships and delegations: the search goes outward from the subject
along hop relations only, one level after the other, and looks at every node for a tuple that
grants what is wanted.
-/

namespace Mandate.Relation

/-- How checks are made. -/
structure Graph where
  hierarchy : Hierarchy := .standard
  /-- The number of levels that are searched. -/
  maxDepth : Nat := 3
  /-- The relations along which the search goes on. -/
  hops : List String := ["member", "can_act_for"]
  deriving DecidableEq, Repr

/-- The answer to a check, and who gave it. -/
structure CheckResult where
  allowed : Bool
  source : String
  deriving DecidableEq, Repr, Inhabited

/-- The source of answers that come from a search. -/
def localSource : String := "local"

/-- The source of answers that were kept. -/
def cacheSource : String := "cache"

namespace Graph

/-- Whether a tuple grants a relation on an object. -/
def grants (g : Graph) (wanted : String) (object : Node) (edge : Tuple) : Bool :=
  edge.object == object && g.hierarchy.implies edge.relation wanted

/-- The nodes of the next level, and all nodes seen so far. -/
structure Level where
  next : List Node
  seen : List Node
  deriving DecidableEq, Repr

/-- Follow a tuple if it is a hop to a node that was not seen before. -/
def Level.follow (g : Graph) (level : Level) (edge : Tuple) : Level :=
  if g.hops.contains edge.relation && !level.seen.contains edge.object then
    ⟨level.next ++ [edge.object], level.seen ++ [edge.object]⟩
  else level

/-- Look at the tuples of a node. There is no next level if one of them grants. -/
def scanEdges (g : Graph) (wanted : String) (object : Node) :
    List Tuple → Level → Option Level
  | [], level => some level
  | edge :: rest, level =>
      if g.grants wanted object edge then none
      else scanEdges g wanted object rest (level.follow g edge)

/-- Look at the nodes of a level. -/
def scanLevel (g : Graph) (source : TupleSource) (wanted : String) (object : Node) :
    List Node → Level → Except GraphError (Option Level)
  | [], level => .ok (some level)
  | node :: rest, level => do
      let edges ← source.outgoing node
      match scanEdges g wanted object edges level with
      | none => return none
      | some level => scanLevel g source wanted object rest level

/-- Search the given number of levels. -/
def search (g : Graph) (source : TupleSource) (wanted : String) (object : Node) :
    (depth : Nat) → (level seen : List Node) → Except GraphError Bool
  | 0, _, _ => .ok false
  | depth + 1, level, seen => do
      match ← scanLevel g source wanted object level ⟨[], seen⟩ with
      | none => return true
      | some found => search g source wanted object depth found.next found.seen

/-- Whether a subject holds a relation on an object. -/
def check (g : Graph) (source : TupleSource) (subject : Node) (wanted : String) (object : Node) :
    Except GraphError CheckResult := do
  if Text.isBlankText wanted then throw (.invalidRelation wanted)
  let direct ← source.relationsBetween subject object
  if direct.any (g.hierarchy.implies · wanted) then return ⟨true, localSource⟩
  let allowed ← g.search source wanted object g.maxDepth [subject] [subject]
  return ⟨allowed, localSource⟩

/-- The name of the relation in the children of an expansion. -/
def childRelation : String := "subject"

/-- The subjects that directly hold a relation on an object, if any depth is asked for. -/
def expand (source : TupleSource) (relation : String) (object : Node) (depth : Int) :
    Except GraphError Expansion :=
  if depth ≤ 0 then .ok (.node relation object [])
  else do
    let subjects ← source.subjectsOf relation object
    return .node relation object (subjects.map fun s => .node childRelation s [])

end Graph

end Mandate.Relation
