import Mandate.Command.Arguments
import Std.Time.DateTime.Timestamp

/-!
# The program

Carries sessions out on the real files, the real clock and the standard streams. All decisions are
made in the sessions.
-/

namespace Mandate

/-- What kept a file from being used. -/
def faultOf (error : IO.Error) : FileFault :=
  match error with
  | .noFileOrDirectory .. => .notFound
  | .inappropriateType .. => .isDirectory
  | other => .other (toString other)

/-- Do something with a file. -/
def attempt {α : Type} (action : IO α) : IO (Except FileFault α) := do
  match ← action.toBaseIO with
  | .ok a => return .ok a
  | .error e => return .error (faultOf e)

/-- The time on the clock of the machine. -/
def wallClock : IO Time.Timestamp := do
  let time ← Std.Time.Timestamp.now
  return ⟨time.val.second.val, time.val.nano.val.toNat⟩

/-- Carry out a session. -/
def carryOut {α : Type} : Command.Session α → IO α
  | .done a => return a
  | .read path next => do
      let answer ← attempt (IO.FS.readBinFile path)
      carryOut (next (answer.map ByteArray.toList))
  | .append path content next => do
      let answer ← attempt <| IO.FS.withFile path .append fun file =>
        file.write content.toByteArray
      carryOut (next answer)
  | .print line next => do
      IO.println line
      carryOut next
  | .now next => do carryOut (next (← wallClock))
  | .draw next => do carryOut (next (← IO.getRandomBytes 32).toList)

/-- Print what went wrong, if anything did. -/
def complain (outcome : Command.Outcome) : IO Unit := do
  match outcome with
  | .finished => return ()
  | .misused text => IO.eprintln ("error: " ++ text)
  | .failed failure =>
      match failure.chain with
      | [] => return ()
      | outermost :: causes => do
          IO.eprintln ("Error: " ++ outermost)
          causes.forM fun cause => IO.eprintln ("  caused by: " ++ cause)

end Mandate

/-- Run a command line. -/
def main (arguments : List String) : IO UInt32 := do
  let outcome ← Mandate.carryOut (Mandate.Command.run arguments)
  Mandate.complain outcome
  return UInt32.ofNat outcome.code
