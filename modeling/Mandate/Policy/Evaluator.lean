import Mandate.Rules.RuleSet

/-!
# Evaluators

An engine compiles policy bodies into artifacts and evaluates inputs against them. The two are
separate so that an artifact can be kept. An artifact remembers which kind of engine made it, and
an engine refuses an artifact that is not its own.
-/

namespace Mandate

open Mandate.Json

/-- A compiled body: a rule set, or the content of some other engine under a tag. -/
inductive Artifact where
  | rules (set : Rules.RuleSet)
  | foreign (tag : String) (content : Value)
  deriving Repr

/-- A policy engine. -/
structure Evaluator where
  name : String
  compile : Value → Except PolicyError Artifact
  evaluate : Artifact → Value → Timing → Except PolicyError Decision

/-- An evaluator in words. -/
def Evaluator.describe (e : Evaluator) : String :=
  "Evaluator \x7b name: " ++ Text.Quoted.encode e.name ++ " \x7d"

namespace Rules

/-- The engine of rule sets. -/
def evaluator : Evaluator where
  name := engineName
  compile body :=
    match RuleSet.parse body with
    | .ok set => .ok (.rules set)
    | .error fault => .error (.invalidBody fault)
  evaluate artifact input timing :=
    match artifact with
    | .rules set => .ok (set.evaluate input timing)
    | .foreign .. => .error (.badCompiledPolicy engineName)

end Rules

/-- Evaluators by name. -/
structure Registry where
  evaluators : List Evaluator := []

namespace Registry

/-- Register an evaluator under its name. An earlier one of that name is dropped. -/
def register (r : Registry) (e : Evaluator) : Registry :=
  ⟨r.evaluators.filter (·.name != e.name) ++ [e]⟩

/-- The registry that holds only the engine of rule sets. -/
def builtin : Registry :=
  ({} : Registry).register Rules.evaluator

/-- The evaluator of an engine. -/
def get (r : Registry) (engine : String) : Except PolicyError Evaluator :=
  match r.evaluators.find? (·.name == engine) with
  | some e => .ok e
  | none => .error (.unsupportedEngine engine)

/-- The names of the registered engines in order. -/
def engines (r : Registry) : List String :=
  (r.evaluators.map (·.name)).mergeSort (· ≤ ·)

/-- A registry in words. -/
def describe (r : Registry) : String :=
  "EvaluatorRegistry \x7b engines: " ++ Text.Quoted.encodeList r.engines ++ " \x7d"

end Registry

end Mandate
