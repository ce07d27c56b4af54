import Mandate.Federation
import Mandate.Risk

/-!
# The evaluation context

Policies are evaluated on the context that the caller sends, with members that the engine writes
itself: `risk` always and, across organisations, `federation`. A member that the engine writes
replaces what the caller sent under it. A context that is not an object stands under `_`.
-/

namespace Mandate.Context

open Mandate.Json

/-- The members of a caller's context. -/
def members : Value → Members
  | .object m => m
  | .null => []
  | other => [("_", other)]

/-- Write the risk signals into a context. -/
def withSignals (context : Value) (signals : Risk.Signals) : Value :=
  .object <| Members.insert "risk" (.object <|
    field "flags" (.strings signals.flags) ++ field "score" (.nat signals.score))
    (members context)

/-- Write the counterparty and the scope of its contract into a context. -/
def withFederation (context : Value) (counterparty : Uuid) (scope : Federation.Scope) : Value :=
  .object <| Members.insert "federation" (.object <|
    field "counterparty_org_id" (.uuid counterparty) ++ field "scope" scope.json)
    (members context)

end Mandate.Context
