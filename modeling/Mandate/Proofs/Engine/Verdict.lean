import Mandate.Proofs.Engine.Gates

/-! # The verdict on a request

The response to a request shows the verdict of its evaluation; only the token may be added to it
afterwards. A request is allowed exactly when it is admitted, passes every gate, and the evaluated
version allows.
-/

namespace Mandate

open Evaluation

/-- What a caller learns from a response, but for the token and hints. -/
def Response.SameOutcome (a b : Response) : Prop :=
  a.allow = b.allow ∧ a.reason = b.reason ∧ a.traceId = b.traceId

theorem Response.SameOutcome.symm {a b : Response} (hsame : a.SameOutcome b) :
    b.SameOutcome a :=
  ⟨hsame.1.symm, hsame.2.1.symm, hsame.2.2.symm⟩

theorem Response.SameOutcome.trans {a b c : Response} (hone : a.SameOutcome b)
    (hother : b.SameOutcome c) : a.SameOutcome c :=
  ⟨hone.1.trans hother.1, hone.2.1.trans hother.2.1, hone.2.2.trans hother.2.2⟩

/-- The response that a begun decision holds. -/
def Begun.response : Begun → Response
  | .answered response => response
  | .waiting pending => pending.response

namespace Engine

/-- The decision that a request meets with. -/
def verdict (e : Engine) (c : Collaborators) (request : Request) (on : Occasion) : Decision :=
  if e.admits then
    match evaluate c e.config request on (e.entering request on) with
    | (.error refusal, _) => refusal
    | (.ok evaluated, _) => explain request evaluated
  else .deny overloaded

variable {e : Engine} {c : Collaborators} {request : Request} {on : Occasion}

theorem verdict_of_stops {refusal : Decision} {after : Progress} (hadmits : e.admits = true)
    (hstops : Stops (evaluate c e.config request on) (e.entering request on) refusal after) :
    e.verdict c request on = refusal := by
  unfold verdict
  rw [if_pos hadmits, hstops]

theorem verdict_of_passes {evaluated : Evaluated} {after : Progress} (hadmits : e.admits = true)
    (hpasses : Passes (evaluate c e.config request on) (e.entering request on) evaluated after) :
    e.verdict c request on = explain request evaluated := by
  unfold verdict
  rw [if_pos hadmits, hpasses]

theorem verdict_of_not_admits (hadmits : e.admits = false) :
    e.verdict c request on = .deny overloaded := by
  simp [verdict, hadmits]

theorem requestToken_response (evaluated : Evaluated) (response : Response) :
    (e.requestToken request evaluated response on).1.response = response := by
  unfold requestToken
  split
  · rfl
  · split <;> rfl

theorem beginWith_of_admits {c : Collaborators} (hadmits : e.admits = true) :
    e.beginWith c request on =
      (e.absorb on.clock (evaluate c e.config request on (e.entering request on)).2).conclude
        request on (evaluate c e.config request on (e.entering request on)).1 := by
  unfold beginWith
  simp only [hadmits, Bool.not_true, Bool.false_eq_true, ↓reduceIte]
  rfl

theorem beginWith_of_not_admits {c : Collaborators} (hadmits : e.admits = false) :
    e.beginWith c request on =
      (.answered (.ofDecision (.deny overloaded)),
        { e with metrics := e.metrics.quickReject }) := by
  unfold beginWith
  simp only [hadmits, Bool.not_false, ↓reduceIte]

theorem beginWith_response (e : Engine) (c : Collaborators) (request : Request)
    (on : Occasion) :
    (e.beginWith c request on).1.response = .ofDecision (e.verdict c request on) := by
  cases hadmits : e.admits with
  | false =>
      rw [verdict_of_not_admits hadmits, beginWith_of_not_admits hadmits]
      rfl
  | true =>
      rw [beginWith_of_admits hadmits]
      rcases passes_or_stops (evaluate c e.config request on) (e.entering request on) with
        ⟨evaluated, after, hpasses⟩ | ⟨refusal, after, hstops⟩
      · rw [verdict_of_passes hadmits hpasses, hpasses]
        exact requestToken_response _ _
      · rw [verdict_of_stops hadmits hstops, hstops]
        rfl

theorem finish_response (pending : PendingToken) (answer : Token.Answer) :
    ∃ token, (e.finish pending answer).1 = { pending.response with token } := by
  unfold finish
  dsimp only
  split
  next token _ => exact ⟨some token, rfl⟩
  next => exact ⟨pending.response.token, rfl⟩

/-- Whatever the signer answers, the response shows the verdict. -/
theorem decideWith_response (e : Engine) (c : Collaborators) (request : Request)
    (on : Occasion) (stamps : Nat → Stamp) :
    ∃ token, (e.decideWith c request on stamps).1 =
      { Response.ofDecision (e.verdict c request on) with token } := by
  have hbegin := beginWith_response e c request on
  unfold decideWith
  split
  next response e' heq =>
    rw [heq] at hbegin
    exact ⟨none, hbegin⟩
  next pending e' heq =>
    -- from here on only the token can change
    rw [heq] at hbegin
    change pending.response = _ at hbegin
    rw [← hbegin]
    cases e'.signer with
    | none => exact finish_response pending _
    | some signer =>
        dsimp only
        split <;> exact finish_response pending _

theorem decideWith_outcome (e : Engine) (c : Collaborators) (request : Request)
    (on : Occasion) (stamps : Nat → Stamp) :
    (e.decideWith c request on stamps).1.SameOutcome
      (.ofDecision (e.verdict c request on)) := by
  obtain ⟨token, hresponse⟩ := decideWith_response e c request on stamps
  rw [hresponse]
  exact ⟨rfl, rfl, rfl⟩

theorem decideWith_allow (stamps : Nat → Stamp) :
    (e.decideWith c request on stamps).1.allow = (e.verdict c request on).allow :=
  (decideWith_outcome e c request on stamps).1

/-- The verdict allows exactly along a passage whose evaluation allows. -/
theorem verdict_allow_iff : (e.verdict c request on).allow = true ↔
    e.admits = true ∧ ∃ passage : Passage c e.config request on (e.entering request on),
      passage.decision.allow = true := by
  cases hadmits : e.admits with
  | false => simp [verdict_of_not_admits hadmits, Decision.deny]
  | true =>
      simp only [true_and]
      rcases passes_or_stops (evaluate c e.config request on) (e.entering request on) with
        ⟨evaluated, after, hpasses⟩ | ⟨refusal, after, hstops⟩
      · rw [verdict_of_passes hadmits hpasses]
        obtain ⟨passage, rfl, rfl⟩ := passes_evaluate_iff.mp hpasses
        constructor
        · exact fun hallow => ⟨passage, hallow⟩
        -- any other passage leads to the same evaluation
        · rintro ⟨other, hallow⟩
          have hsame := hpasses.unique (passes_evaluate_iff.mpr ⟨other, rfl, rfl⟩)
          have hdecision : passage.decision = other.decision :=
            congrArg Evaluated.decision hsame.1
          change passage.decision.allow = true
          rw [hdecision]
          exact hallow
      · rw [verdict_of_stops hadmits hstops, denies_evaluate _ _ _ hstops]
        simp only [Bool.false_eq_true, false_iff, not_exists]
        rintro passage -
        exact (passes_evaluate_iff.mpr ⟨passage, rfl, rfl⟩).not_stops hstops

/-- A request is allowed exactly if it is admitted and there is a passage for it: the organisation
has assignments of which one is chosen, a contract covers a request into another organisation, the
caller may act for the organisation if a resource is named, the engine of the policy is known, the
version to evaluate has an artifact, and its evaluation comes to an end and allows. Whatever a
collaborator fails to answer on the way denies, and so does whatever it denies. The engine's own
decision is the case in which its own collaborators are asked. -/
theorem decideWith_allow_iff_passage (e : Engine) (c : Collaborators) (request : Request)
    (on : Occasion) (stamps : Nat → Stamp) :
    (e.decideWith c request on stamps).1.allow = true ↔
      e.admits = true ∧ ∃ passage : Passage c e.config request on (e.entering request on),
        passage.decision.allow = true := by
  rw [decideWith_allow, verdict_allow_iff]

end Engine

end Mandate
