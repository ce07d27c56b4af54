import Mandate.Command.Simulation
import Mandate.Command.Verification

/-!
# Invocations

A command together with the configuration file under which it runs.
-/

namespace Mandate.Command

/-- What can be done from the command line. -/
inductive Task where
  | simulate (simulation : Simulation)
  | verify (verification : Verification)
  | verifyLedger (ledger : String)
  | keygen (key : NewKey)
  deriving DecidableEq, Repr, Inhabited

/-- A task and the file of its configuration. Without a file the defaults apply. -/
structure Invocation where
  config : Option String
  task : Task
  deriving DecidableEq, Repr, Inhabited

/-- The valid configuration in a file. -/
def loadConfig (path : String) : Session (Except DecisionError Config) := do
  match ← readFile path with
  | .error fault => return .error (.configRead path fault)
  | .ok bytes =>
      match Text.ofUtf8? bytes with
      | none => return .error (.configRead path .notText)
      | some text => return Config.ofToml text

/-- The configuration of an invocation. -/
def configuration : Option String → Action Config
  | none => return {}
  | some path => do
      match ← loadConfig path with
      | .ok config => return config
      | .error e => throw (.loadingConfig path e)

/-- Carry out a task under a configuration. -/
def Task.execute (config : Config) : Task → Action Unit
  | .simulate simulation => simulation.execute
  | .verify verification => verification.execute config
  | .verifyLedger ledger => checkLedger ledger
  | .keygen key => key.execute

/-- Carry out an invocation. The configuration is read first, whatever the task. -/
def Invocation.execute (i : Invocation) : Action Unit := do
  i.task.execute (← configuration i.config)

end Mandate.Command
