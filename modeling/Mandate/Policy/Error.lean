import Mandate.Json.Printer
import Mandate.Text.Quoted
import Mandate.Uuid

/-!
# What can go wrong with policies

Errors are kept as causes; `message` words them. A conflict means that the addressed version is
in the wrong state, which more approvals may change; not found means that the caller addressed
the wrong policy or version.
-/

namespace Mandate

open Mandate.Json

/-- What is wrong with a token of a field path. -/
inductive PathFault where
  | emptySegment
  | unclosed
  | trailing
  | badIndex
  deriving DecidableEq, Repr

/-- What is wrong with a policy body. -/
inductive BodyFault where
  | notObject
  | schemaNotObject
  | requiredNotArray
  | propertiesNotObject
  | rulesNotArray
  | ruleNotObject (index : Nat)
  | invalidEffect (rule : String) (effect : Option String)
  | precedenceNotObject
  | overridesNotBool
  | expressionNotObject (got : Value)
  | mixedCombinator (key : String)
  | combinatorNotArray (key : String)
  | fieldNotObject (path : String)
  | unknownOperator (name path : String)
  | emptyPath
  | badPath (path : String) (fault : PathFault)
  /-- An engine's own objection. -/
  | refused (text : String)
  deriving DecidableEq, Repr

/-- Why a policy operation failed. -/
inductive PolicyError where
  | notFound (policy : Uuid)
  | versionNotFound (policy : Uuid) (version : Nat)
  | notApproved (version : Nat) (status : String)
  | invalidTransition (policy : Uuid) (version : Nat) (origin target : String)
  | invalidBody (fault : BodyFault)
  | unsupportedEngine (engine : String)
  | badCompiledPolicy (engine : String)
  | storage (text : String)
  deriving DecidableEq, Repr

/-- The wording of a fault in a path. -/
def PathFault.message : PathFault → String
  | .emptySegment => "empty segment"
  | .unclosed => "unclosed '['"
  | .trailing => "unexpected characters after ']'"
  | .badIndex => "index must be a non-negative integer"

/-- The text of an optional text: its name, or the quoted text in the name of its presence. -/
def optionalText : Option String → String
  | none => "None"
  | some s => "Some(" ++ Text.Quoted.encode s ++ ")"

/-- The wording of a fault in a body. -/
def BodyFault.message : BodyFault → String
  | .notObject => "policy body must be a JSON object"
  | .schemaNotObject => "'schema' must be an object"
  | .requiredNotArray => "'schema.required' must be an array"
  | .propertiesNotObject => "'schema.properties' must be an object"
  | .rulesNotArray => "'rules' must be an array"
  | .ruleNotObject index => s!"rule #{index} must be an object"
  | .invalidEffect rule effect =>
      "rule '" ++ rule ++ "' has invalid effect " ++ optionalText effect
  | .precedenceNotObject => "'precedence' must be an object"
  | .overridesNotBool => "'precedence.deny_overrides' must be a boolean"
  | .expressionNotObject got => "expression must be an object, got " ++ got.text
  | .mixedCombinator key => s!"'{key}' cannot be mixed with other keys in one expression"
  | .combinatorNotArray key => s!"'{key}' expects an array"
  | .fieldNotObject path => s!"field '{path}' expects an object of operators"
  | .unknownOperator name path => s!"unknown operator '{name}' on '{path}'"
  | .emptyPath => "empty field path"
  | .badPath path fault => "field path '" ++ path ++ "': " ++ fault.message
  | .refused text => text

namespace PolicyError

/-- The wording of an error. -/
def message : PolicyError → String
  | .notFound policy => "policy not found: " ++ policy.text
  | .versionNotFound policy version =>
      "policy " ++ policy.text ++ s!" has no version {version}"
  | .notApproved version status =>
      s!"cannot activate version {version}: status must be 'approved' (got '{status}')"
  | .invalidTransition policy version origin target =>
      s!"invalid transition from {origin} to {target} for policy " ++ policy.text ++
        s!" version {version}"
  | .invalidBody fault => "invalid policy body: " ++ fault.message
  | .unsupportedEngine engine => s!"unsupported engine '{engine}'"
  | .badCompiledPolicy engine => s!"bad compiled policy type for engine '{engine}'"
  | .storage text => "policy storage error: " ++ text

/-- Whether the addressed version is in the wrong state. -/
def isConflict : PolicyError → Bool
  | .notApproved .. => true
  | .invalidTransition .. => true
  | _ => false

/-- Whether the addressed policy or version does not exist. -/
def isNotFound : PolicyError → Bool
  | .notFound _ => true
  | .versionNotFound .. => true
  | _ => false

end PolicyError

end Mandate
