import Mandate.Command.Failure
import Mandate.Occasion
import Mandate.Policy.Evaluator

/-!
# Simulations

One policy body is evaluated on one input, with no repository behind it, and the decision is
printed for people.
-/

namespace Mandate.Command

open Mandate.Json

/-- What is simulated. -/
structure Simulation where
  policy : String
  input : String
  engine : String
  deriving DecidableEq, Repr, Inhabited

/-- The JSON document in a file. -/
def readDocument (path : String) : Action Value := readRecord path Decoder.document

/-- Turn a failed policy operation into a failure of a command. -/
def orFail {α : Type} : Except PolicyError α → Action α
  | .ok a => return a
  | .error e => throw (.engine (.policy e))

/-- Simulate. Both files are read before the engine is looked up. -/
def Simulation.execute (s : Simulation) : Action Unit := do
  let body ← readDocument s.policy
  let input ← readDocument s.input
  let evaluator ← orFail (Registry.builtin.get s.engine)
  match evaluator.compile body with
  | .error e => throw (.compiling s.policy e)
  | .ok artifact =>
      let on := Occasion.drawn [] (← currentTime) 0
      let decision ← orFail (evaluator.evaluate artifact input.sorted on.timing)
      printLine decision.json.indented

end Mandate.Command
