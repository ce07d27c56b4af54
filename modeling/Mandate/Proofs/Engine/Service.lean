import Mandate.Proofs.Engine.KeptArtifacts

/-! # An engine in service

Requests come to an engine one after the other, each a call with a number. A call is answered at
once or waits for the signer, and the answers of the signer come in whatever order. Meanwhile
policies are managed, tuples and contracts are stored, and background work is done. No call is
lost: each waits or has been answered.
-/

namespace Mandate

/-- What is done with an engine besides deciding. -/
inductive Chore where
  | manage (operation : LifecycleOperation) (on : Occasion)
  | relate (batch : List Relation.Tuple)
  | agree (contract : Federation.Contract)
  | work (stamps : Nat → Stamp)

namespace Engine

/-- Do something with an engine besides deciding. A batch of tuples that is refused changes
nothing. -/
def carryOut (e : Engine) : Chore → Engine
  | .manage operation on => e.manage operation on
  | .relate batch =>
      match e.graph.insert batch with
      | .ok graph => { e with graph }
      | .error _ => e
  | .agree contract => { e with contracts := e.contracts.insert contract }
  | .work stamps => e.work stamps

end Engine

/-- An engine together with the calls that have come to it. -/
structure Service where
  engine : Engine
  /-- How many calls have come. Each call has as its number how many came before it. -/
  calls : Nat := 0
  /-- The calls that wait for the signer. -/
  waiting : List (Nat × PendingToken) := []
  /-- The responses that have been given, each to a call. -/
  responses : List (Nat × Response) := []

namespace Service

/-- What may happen next. -/
inductive Event where
  | request (request : Request) (on : Occasion)
  | answer (call : Nat) (answer : Token.Answer)
  | chore (chore : Chore)

/-- An engine to which no call has come yet. -/
def start (engine : Engine) : Service := { engine }

/-- A request comes. -/
def receive (s : Service) (request : Request) (on : Occasion) : Service :=
  match s.engine.begin request on with
  | (.answered response, engine) =>
      { s with engine, calls := s.calls + 1, responses := s.responses ++ [(s.calls, response)] }
  | (.waiting pending, engine) =>
      { s with engine, calls := s.calls + 1, waiting := s.waiting ++ [(s.calls, pending)] }

/-- The signer answers a call, or keeps silent for too long. An answer to a call that does not wait
is nobody's. -/
def settle (s : Service) (call : Nat) (answer : Token.Answer) : Service :=
  match s.waiting.find? (·.1 == call) with
  | some (_, pending) =>
      let (response, engine) := s.engine.finish pending answer
      { s with
        engine
        waiting := s.waiting.eraseP (·.1 == call)
        responses := s.responses ++ [(call, response)] }
  | none => s

/-- Something happens. -/
def step (s : Service) : Event → Service
  | .request request on => s.receive request on
  | .answer call answer => s.settle call answer
  | .chore chore => { s with engine := s.engine.carryOut chore }

/-- Things happen one after the other. -/
def run (s : Service) (events : List Event) : Service := events.foldl step s

/-- What every step keeps holds after a run. -/
theorem run_induction {motive : Service → Prop} (s : Service) (events : List Event)
    (hs : motive s) (hstep : ∀ s event, motive s → motive (s.step event)) :
    motive (s.run events) := by
  induction events generalizing s with
  | nil => exact hs
  | cons event rest ih => exact ih (s.step event) (hstep s event hs)

variable {s : Service} {request : Request} {on : Occasion} {call : Nat} {answer : Token.Answer}

theorem receive_of_answered {response : Response} {engine : Engine}
    (hbegun : s.engine.begin request on = (.answered response, engine)) :
    s.receive request on =
      { s with engine, calls := s.calls + 1,
               responses := s.responses ++ [(s.calls, response)] } := by
  rw [receive, hbegun]

theorem receive_of_waiting {pending : PendingToken} {engine : Engine}
    (hbegun : s.engine.begin request on = (.waiting pending, engine)) :
    s.receive request on =
      { s with engine, calls := s.calls + 1,
               waiting := s.waiting ++ [(s.calls, pending)] } := by
  rw [receive, hbegun]

/-- The signer's answer to a call that waits ends it; any other is nobody's. -/
theorem settle_cases (s : Service) (call : Nat) (answer : Token.Answer) :
    (∃ pending, (call, pending) ∈ s.waiting ∧ s.settle call answer =
      { s with
        engine := (s.engine.finish pending answer).2
        waiting := s.waiting.eraseP (·.1 == call)
        responses := s.responses ++ [(call, (s.engine.finish pending answer).1)] }) ∨
    ((∀ pending, (call, pending) ∉ s.waiting) ∧ s.settle call answer = s) := by
  unfold settle
  split
  next number pending hfound =>
    have hnumber : number = call := by simpa using List.find?_some hfound
    subst hnumber
    exact .inl ⟨pending, List.mem_of_find?_eq_some hfound, rfl⟩
  next hnone =>
    refine .inr ⟨fun pending hmem => ?_, rfl⟩
    simpa using List.find?_eq_none.mp hnone _ hmem

end Service

end Mandate
