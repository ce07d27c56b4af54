import Mandate.Command.Simulation
import Mandate.Proofs.Json.RoundTrip
import Mandate.Proofs.Text.Bytes

/-! # What the simulation of a file prints

The command reads a body and an input, compiles the one and evaluates it on the other. What it
prints is the decision of the evaluator, and if the evaluator objects, the command fails with the
objection.
-/

namespace Mandate

open Mandate.Json

namespace Command

/-- The surroundings after a session, with its result, go on into the next one. -/
theorem Session.run_andThen {α β : Type} (session : Session α) (next : α → Session β)
    (s : Surroundings) :
    (session.andThen next).run s = (next (session.run s).1).run (session.run s).2 := by
  induction session generalizing s with
  | done result => rfl
  | read path answer ih => exact ih _ s
  | append path content answer ih =>
      simp only [andThen, Session.run]
      split
      · exact ih _ _
      · exact ih _ _
  | print line rest ih => exact ih _
  | now answer ih => exact ih _ s
  | draw answer ih => exact ih _ _

/-- A command goes on with what was read. -/
theorem Action.run_bind {α β : Type} {action : Action α} {a : α} {s after : Surroundings}
    (haction : action.run.run s = (.ok a, after)) (next : α → Action β) :
    (action >>= next).run.run s = (next a).run.run after := by
  change (Session.andThen action.run _).run s = _
  rw [Session.run_andThen, haction]
  rfl

/-- A file that holds the text of a document is read as the document in canonical form. -/
theorem readDocument_of_text {path : String} {s : Surroundings} {v : Value}
    (hfile : s.folder.read path = .ok (Text.utf8 v.text)) (hnesting : v.nesting ≤ maxDepth)
    (hnumbers : ∀ n ∈ v.numbers, n.ReadsBack) :
    (readDocument path).run.run s = (.ok v.sorted, s) := by
  have hread : (readFile path : Action _).run.run s = (.ok (s.folder.read path), s) := rfl
  have htext : (readText path).run.run s = (.ok v.text, s) := by
    rw [readText, Action.run_bind hread, hfile]
    dsimp only
    rw [Text.ofUtf8?_utf8]
    rfl
  rw [readDocument, readRecord, Action.run_bind htext, ofText?_text hnesting hnumbers,
    Option.bind_some, Decoder.document, value?_tree]
  rfl

/-- The files of a simulation hold a body and an input, and its engine is built in. -/
structure Simulation.Finds (command : Simulation) (s : Surroundings) (evaluator : Evaluator)
    (body input : Value) : Prop where
  engine : Registry.builtin.get command.engine = .ok evaluator
  policy : (readDocument command.policy).run.run s = (.ok body, s)
  input : (readDocument command.input).run.run s = (.ok input, s)

/-- How a simulation ends that comes to a decision or not: it prints the decision, or fails. -/
def Simulation.ended (s : Surroundings) :
    Except PolicyError Decision → Except Failure Unit × Surroundings
  | .ok decision => (.ok (), { s with printed := decision.json.indented :: s.printed })
  | .error e => (.error (.engine (.policy e)), s)

theorem Simulation.Finds.run_execute {command : Simulation} {s : Surroundings}
    {evaluator : Evaluator} {body input : Value} {artifact : Artifact}
    (hfinds : command.Finds s evaluator body input)
    (hcompile : evaluator.compile body = .ok artifact) :
    command.execute.run.run s = Simulation.ended s
      (evaluator.evaluate artifact input.sorted (Occasion.drawn [] s.time 0).timing) := by
  have hengine : (orFail (Registry.builtin.get command.engine)).run.run s =
      (.ok evaluator, s) := by
    rw [hfinds.engine]
    rfl
  unfold Simulation.execute
  rw [Action.run_bind hfinds.policy, Action.run_bind hfinds.input, Action.run_bind hengine]
  dsimp only
  rw [hcompile]
  change (orFail (evaluator.evaluate artifact input.sorted _) >>= _ : Action Unit).run.run s = _
  cases evaluator.evaluate artifact input.sorted (Occasion.drawn [] s.time 0).timing with
  | error e => rfl
  | ok decision => rfl

end Command

end Mandate
