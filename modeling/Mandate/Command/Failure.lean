import Mandate.Command.Session
import Mandate.Engine.Error

/-!
# Failures of commands

Why a command failed, as a chain of texts: what was tried comes first, and what stood in the way
after it.
-/

namespace Mandate.Command

/-- Why a command failed. -/
inductive Failure where
  | loadingConfig (path : String) (error : DecisionError)
  | reading (path : String) (fault : FileFault)
  | parsing (path : String)
  | writing (path : String) (fault : FileFault)
  | keyExists (path : String)
  | compiling (path : String) (error : PolicyError)
  | installing (policy : String) (error : DecisionError)
  | openingLedger (path : String) (error : AuditError)
  | brokenLedger
  /-- Something went wrong that needs no further words. -/
  | engine (error : DecisionError)
  deriving DecidableEq, Repr

/-- The wording for a text that is no document of the expected form. -/
def malformed : String := "malformed document"

/-- The texts of an audit error. -/
def auditChain : AuditError → List String
  | .openFailed path fault => [(AuditError.openFailed path fault).message, fault.message]
  | .writeFailed fault => [(AuditError.writeFailed fault).message, fault.message]
  | .malformedEntry => [AuditError.malformedEntry.message, malformed]
  | error => [error.message]

/-- The texts of an error of the engine. -/
def errorChain : DecisionError → List String
  | .audit error => auditChain error
  | .configRead path fault => [(DecisionError.configRead path fault).message, fault.message]
  | .configParse => [DecisionError.configParse.message, malformed]
  | error => [error.message]

/-- The texts of a failure. -/
def Failure.chain : Failure → List String
  | .loadingConfig path error => ("loading " ++ path) :: errorChain error
  | .reading path fault => ["reading " ++ path, fault.message]
  | .parsing path => ["parsing " ++ path, malformed]
  | .writing path fault => ["writing " ++ path, fault.message]
  | .keyExists path => [path ++ " already exists; refusing to overwrite a key"]
  | .compiling path error => ["compiling " ++ path, error.message]
  | .installing policy error => ("installing policy '" ++ policy ++ "'") :: errorChain error
  | .openingLedger path error => ("opening " ++ path) :: auditChain error
  | .brokenLedger => ["audit ledger integrity check failed"]
  | .engine error => errorChain error

/-- A session that may fail. -/
abbrev Action := ExceptT Failure Session

/-- The text of a file. -/
def readText (path : String) : Action String := do
  match ← readFile path with
  | .error fault => throw (.reading path fault)
  | .ok bytes =>
      match Text.ofUtf8? bytes with
      | some text => return text
      | none => throw (.reading path .notText)

/-- The record in a JSON file. -/
def readRecord {α : Type} (path : String) (decoder : Json.Decoder α) : Action α := do
  match (Json.Tree.ofText? (← readText path)).bind decoder with
  | some a => return a
  | none => throw (.parsing path)

end Mandate.Command
