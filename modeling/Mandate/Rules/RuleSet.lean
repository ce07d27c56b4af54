import Mandate.Decision
import Mandate.Digest
import Mandate.Rules.Condition
import Mandate.Rules.Schema

/-!
# Rule sets

The built-in policy language. A body lists rules, each with an effect and a condition, and may
ask for a schema and choose the precedence. If the input violates the schema, it is refused and
no rule is looked at. Otherwise the rules run in order: a matching rule decides, and a later
matching rule decides again, except that with `deny_overrides`, the default, the first matching
deny rule is final. If no rule matches, the input is refused.
-/

namespace Mandate.Rules

open Mandate.Json

/-- The name under which the language is known. -/
def engineName : String := "aurajson"

/-- What a matching rule does. -/
inductive Effect where
  | allow
  | deny
  deriving DecidableEq, Repr

def Effect.name : Effect → String
  | .allow => "allow"
  | .deny => "deny"

/-- The effect with a given name, in any case. -/
def Effect.ofName? (name : String) : Option Effect :=
  match Text.lowerAscii name with
  | "allow" => some .allow
  | "deny" => some .deny
  | _ => none

/-- A rule. -/
structure Rule where
  id : String
  effect : Effect
  condition : Condition
  deriving Repr

/-- A compiled body. The body itself is kept because trace identifiers depend on it. -/
structure RuleSet where
  rules : List Rule
  denyOverrides : Bool
  schema : Option Schema
  body : Value
  deriving Repr

/-- Why a rule set decided as it did. -/
inductive Reason where
  | allowed
  | denied
  | noMatch
  | violations
  deriving DecidableEq, Repr

def Reason.message : Reason → String
  | .allowed => "Matched allow rule"
  | .denied => "Matched deny rule"
  | .noMatch => "No matching allow rule"
  | .violations => "Schema validation failed"

namespace Rule

/-- The identifier of a rule: its own, or one made from its position. -/
def idOf (index : Nat) (members : Members) : String :=
  match members.get? "id" with
  | some (.string s) => if s.isEmpty then s!"rule-{index}" else s
  | some (.number n) => String.ofList n.chars
  | _ => s!"rule-{index}"

/-- Parse the rule at a position. -/
def parse (index : Nat) : Value → Except BodyFault Rule
  | .object members => do
      let id := idOf index members
      let effect := (Members.get? members "effect").bind Value.string?
      match effect.bind Effect.ofName? with
      | none => .error (.invalidEffect id (effect.map Text.lowerAscii))
      | some effect => do
          let condition ← Condition.parseWhen (Members.get? members "when")
          return ⟨id, effect, condition⟩
  | _ => .error (.ruleNotObject index)

/-- Parse rules, counting from a position. -/
def parseAll (index : Nat) : List Value → Except BodyFault (List Rule)
  | [] => .ok []
  | v :: rest => do
      let rule ← parse index v
      let rules ← parseAll (index + 1) rest
      return rule :: rules

end Rule

namespace RuleSet

/-- The rules of a body. -/
def parseRules : Option Value → Except BodyFault (List Rule)
  | none => .ok []
  | some .null => .ok []
  | some (.array items) => Rule.parseAll 0 items
  | some _ => .error .rulesNotArray

/-- Whether deny rules are final. -/
def parsePrecedence : Option Value → Except BodyFault Bool
  | none => .ok true
  | some .null => .ok true
  | some (.object members) =>
      match Members.get? members "deny_overrides" with
      | none => .ok true
      | some .null => .ok true
      | some (.bool b) => .ok b
      | some _ => .error .overridesNotBool
  | some _ => .error .precedenceNotObject

/-- Compile a body. -/
def parse (body : Value) : Except BodyFault RuleSet :=
  match body with
  | .object members => do
      let schema ← Schema.parse (Members.get? members "schema")
      let rules ← parseRules (Members.get? members "rules")
      let denyOverrides ← parsePrecedence (Members.get? members "precedence")
      return { rules, denyOverrides, schema, body }
  | _ => .error .notObject

/-- The state of a run over the rules. -/
structure Verdict where
  allow : Bool
  reason : Reason
  visited : List RuleTrace
  deriving DecidableEq, Repr

/-- Run rules from a verdict on. -/
def run (denyOverrides : Bool) (input : Value) (verdict : Verdict) : List Rule → Verdict
  | [] => verdict
  | rule :: rest =>
      let matched := rule.condition.holds input
      let visited := verdict.visited ++ [⟨rule.id, matched, rule.effect.name, none⟩]
      if matched then
        match rule.effect with
        | .deny =>
            let next := ⟨false, .denied, visited⟩
            if denyOverrides then next else run denyOverrides input next rest
        | .allow => run denyOverrides input ⟨true, .allowed, visited⟩ rest
      else run denyOverrides input { verdict with visited } rest

/-- The violations of the schema, if there is one. -/
def violations (set : RuleSet) (input : Value) : List String :=
  match set.schema with
  | some schema => schema.violations input
  | none => []

/-- Evaluate a rule set on an input document. -/
def evaluate (set : RuleSet) (input : Value) (timing : Timing) : Decision :=
  let trace := Trace.start engineName input timing
  let traceId := Digest.traceId input set.body
  let validations := set.violations input
  if validations.isEmpty then
    let verdict := run set.denyOverrides input ⟨false, .noMatch, []⟩ set.rules
    { allow := verdict.allow, reason := verdict.reason.message, traceId,
      trace := some { trace with evaluatedRules := verdict.visited },
      requireApproval := false, hints := [] }
  else
    { allow := false, reason := Reason.violations.message, traceId,
      trace := some { trace with validations }, requireApproval := false, hints := [] }

end RuleSet

end Mandate.Rules
