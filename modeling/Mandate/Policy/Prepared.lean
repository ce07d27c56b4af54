import Mandate.Policy.Evaluator

/-!
# Prepared decisions

An engine for trying out what surrounds a policy. A body holds the decision to which it leads, or
says that it does not compile or that it cannot be evaluated. The input plays no part.
-/

namespace Mandate

open Mandate.Json

/-- The tag of prepared bodies among artifacts. -/
def preparedTag : String := "prepared"

/-- The engine of prepared decisions under some name. -/
def Evaluator.prepared (name : String) : Evaluator where
  name := name
  compile body :=
    match body.get? "compile_error" with
    | some (.string text) => .error (.invalidBody (.refused text))
    | _ => .ok (.foreign preparedTag body)
  evaluate artifact _ _ :=
    match artifact with
    | .rules _ => .error (.badCompiledPolicy name)
    | .foreign tag body =>
        match body.get? "eval_error",
          (body.get? "decision").bind fun decision => Decision.decode decision.tree with
        | none, some decision =>
            if tag = preparedTag then .ok decision else .error (.badCompiledPolicy name)
        | _, _ => .error (.badCompiledPolicy name)

end Mandate
