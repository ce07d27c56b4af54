import Mandate.Proofs.Engine.Service

/-! # Signing does not influence decisions

What a call is answered is settled before the signer is turned to. So whatever the signer does, and
whatever happens to the engine while it takes its time, the response is the one that the same
request gets when it asks for no token; only the token can be added to it.
-/

namespace Mandate

/-- The same request without asking for a token. -/
def Request.withoutToken (request : Request) : Request :=
  { request with includeTrustToken := false }

/-- The response but for its token. -/
def Response.withoutToken (response : Response) : Response := { response with token := none }

namespace Engine

open Evaluation

variable {e : Engine} {c : Collaborators} {request : Request} {on : Occasion}

/-- The response to a request that asks for no token. -/
def plainResponse (e : Engine) (request : Request) (on : Occasion) : Response :=
  .ofDecision (e.verdict (e.collaborators on.clock) request on)

/-- The response does not depend on whether a token is asked for. -/
theorem plainResponse_withoutToken :
    e.plainResponse request.withoutToken on = e.plainResponse request on := rfl

/-- What a begun decision holds is the plain response. -/
theorem response_begin (e : Engine) (request : Request) (on : Occasion) :
    (e.begin request on).1.response = e.plainResponse request on :=
  beginWith_response e (e.collaborators on.clock) request on

theorem conclude_withoutToken (result : Except Decision Evaluated) :
    ∃ response, (e.conclude request.withoutToken on result).1 = .answered response := by
  cases result with
  | error refusal => exact ⟨_, rfl⟩
  | ok evaluated => exact ⟨_, rfl⟩

/-- A request that asks for no token is answered at once. -/
theorem begin_withoutToken (e : Engine) (request : Request) (on : Occasion) :
    (e.begin request.withoutToken on).1 = .answered (e.plainResponse request on) := by
  obtain ⟨response, hanswered⟩ : ∃ response,
      (e.begin request.withoutToken on).1 = .answered response := by
    unfold begin
    cases hadmits : e.admits with
    | false =>
        rw [beginWith_of_not_admits hadmits]
        exact ⟨_, rfl⟩
    | true =>
        rw [beginWith_of_admits hadmits]
        exact conclude_withoutToken _
  have hresponse := response_begin e request.withoutToken on
  rw [hanswered, plainResponse_withoutToken] at hresponse
  rw [hanswered]
  exact congrArg Begun.answered hresponse

/-- A request for which there is no passage is answered at once, and nobody is asked to sign. -/
theorem begin_of_refused (hrefused : e.admits = true →
      IsEmpty (Passage (e.collaborators on.clock) e.config request on (e.entering request on))) :
    (e.begin request on).1 = .answered (e.plainResponse request on) := by
  unfold begin plainResponse
  cases hadmits : e.admits with
  | false => rw [beginWith_of_not_admits hadmits, verdict_of_not_admits hadmits]
  | true =>
      rcases passes_or_stops (evaluate (e.collaborators on.clock) e.config request on)
        (e.entering request on) with ⟨evaluated, after, hpasses⟩ | ⟨refusal, after, hstops⟩
      · obtain ⟨passage, -⟩ := passes_evaluate_iff.mp hpasses
        exact (hrefused hadmits).elim passage
      · rw [beginWith_of_admits hadmits, verdict_of_stops hadmits hstops, hstops]
        rfl

theorem finish_withoutToken (e : Engine) (pending : PendingToken) (answer : Token.Answer) :
    (e.finish pending answer).1.withoutToken = pending.response.withoutToken := by
  obtain ⟨token, hresponse⟩ := finish_response (e := e) pending answer
  rw [hresponse]
  rfl

theorem decide_withoutToken (e : Engine) (request : Request) (on : Occasion)
    (stamps : Nat → Stamp) :
    (e.decide request on stamps).1.withoutToken = e.plainResponse request on := by
  obtain ⟨token, hresponse⟩ := decideWith_response e (e.collaborators on.clock) request on stamps
  rw [decide, hresponse]
  rfl

end Engine

namespace Service

open Engine Evaluation

variable {s : Service} {call : Nat} {right : Response → Prop}

/-- The numbers of all calls have been given. -/
structure Numbered (s : Service) : Prop where
  waiting : ∀ entry ∈ s.waiting, entry.1 < s.calls
  responses : ∀ entry ∈ s.responses, entry.1 < s.calls

/-- A call has come, and it waits or has been answered. Its response, as it was given or as it will
be in whatever engine, is as it should be. -/
structure Settled (call : Nat) (right : Response → Prop) (s : Service) : Prop where
  counted : call < s.calls
  kept : (∃ pending, (call, pending) ∈ s.waiting) ∨ ∃ response, (call, response) ∈ s.responses
  waiting : ∀ pending, (call, pending) ∈ s.waiting →
    ∀ (engine : Engine) answer, right (engine.finish pending answer).1
  responses : ∀ response, (call, response) ∈ s.responses → right response

theorem Numbered.start (engine : Engine) : (Service.start engine).Numbered where
  waiting _ hentry := absurd hentry List.not_mem_nil
  responses _ hentry := absurd hentry List.not_mem_nil

theorem Numbered.receive (hnumbered : s.Numbered) (request : Request) (on : Occasion) :
    (s.receive request on).Numbered := by
  obtain ⟨hwaiting, hresponses⟩ := hnumbered
  have hgrown {α : Type} {l : List (Nat × α)} (hl : ∀ entry ∈ l, entry.1 < s.calls) :
      ∀ entry ∈ l, entry.1 < s.calls + 1 := fun entry hentry =>
    Nat.lt_succ_of_lt (hl entry hentry)
  have hadded {α : Type} {l : List (Nat × α)} (hl : ∀ entry ∈ l, entry.1 < s.calls) (a : α) :
      ∀ entry ∈ l ++ [(s.calls, a)], entry.1 < s.calls + 1 := by
    intro entry hentry
    rcases List.mem_append.mp hentry with hold | hnew
    · exact hgrown hl entry hold
    · rw [List.mem_singleton.mp hnew]
      exact Nat.lt_succ_self _
  cases hbegun : s.engine.begin request on with
  | mk begun engine =>
      cases begun with
      | answered response =>
          rw [receive_of_answered hbegun]
          exact ⟨hgrown hwaiting, hadded hresponses response⟩
      | waiting pending =>
          rw [receive_of_waiting hbegun]
          exact ⟨hadded hwaiting pending, hgrown hresponses⟩

theorem Numbered.settle (hnumbered : s.Numbered) (call : Nat) (answer : Token.Answer) :
    (s.settle call answer).Numbered := by
  obtain ⟨hwaiting, hresponses⟩ := hnumbered
  rcases settle_cases s call answer with ⟨pending, hmem, hsettle⟩ | ⟨-, hsettle⟩
  · rw [hsettle]
    refine ⟨fun entry hentry => hwaiting entry (List.mem_of_mem_eraseP hentry), ?_⟩
    intro entry hentry
    rcases List.mem_append.mp hentry with hold | hnew
    · exact hresponses entry hold
    · rw [List.mem_singleton.mp hnew]
      exact hwaiting _ hmem
  · rw [hsettle]
    exact ⟨hwaiting, hresponses⟩

theorem Numbered.step (hnumbered : s.Numbered) (event : Event) : (s.step event).Numbered := by
  cases event with
  | request request on => exact hnumbered.receive request on
  | answer call answer => exact hnumbered.settle call answer
  | chore chore => exact ⟨hnumbered.waiting, hnumbered.responses⟩

/-- A new call is settled from the moment at which it comes. -/
theorem Numbered.settled_receive (hnumbered : s.Numbered) {request : Request} {on : Occasion}
    (hanswered : ∀ response, (s.engine.begin request on).1 = .answered response → right response)
    (hwaits : ∀ pending, (s.engine.begin request on).1 = .waiting pending →
      ∀ (engine : Engine) answer, right (engine.finish pending answer).1) :
    Settled s.calls right (s.receive request on) := by
  have hnotWaiting : ∀ pending, (s.calls, pending) ∉ s.waiting := fun pending hmem =>
    Nat.lt_irrefl _ (hnumbered.waiting _ hmem)
  have hnotAnswered : ∀ response, (s.calls, response) ∉ s.responses := fun response hmem =>
    Nat.lt_irrefl _ (hnumbered.responses _ hmem)
  cases hbegun : s.engine.begin request on with
  | mk begun engine =>
      rw [hbegun] at hanswered hwaits
      cases begun with
      | answered response =>
          rw [receive_of_answered hbegun]
          refine ⟨Nat.lt_succ_self _, .inr ⟨response, by simp⟩, fun pending hmem =>
            absurd hmem (hnotWaiting pending), fun other hother => ?_⟩
          obtain rfl : other = response := by simpa [hnotAnswered] using hother
          exact hanswered other rfl
      | waiting pending =>
          rw [receive_of_waiting hbegun]
          refine ⟨Nat.lt_succ_self _, .inl ⟨pending, by simp⟩, fun other hother => ?_,
            fun response hmem => absurd hmem (hnotAnswered response)⟩
          obtain rfl : other = pending := by simpa [hnotWaiting] using hother
          exact hwaits other rfl

/-- Another call does not touch a call that has come before. -/
theorem Settled.receive (hsettled : Settled call right s) (request : Request) (on : Occasion) :
    Settled call right (s.receive request on) := by
  obtain ⟨hcounted, hkept, hwaiting, hresponses⟩ := hsettled
  have hother : call ≠ s.calls := hcounted.ne
  cases hbegun : s.engine.begin request on with
  | mk begun engine =>
      cases begun with
      | answered response =>
          rw [receive_of_answered hbegun]
          refine ⟨Nat.lt_succ_of_lt hcounted, ?_, hwaiting, ?_⟩
          · exact hkept.imp_right fun ⟨r, hr⟩ => ⟨r, List.mem_append_left _ hr⟩
          · intro r hr
            exact hresponses r (by simpa [hother] using hr)
      | waiting pending =>
          rw [receive_of_waiting hbegun]
          refine ⟨Nat.lt_succ_of_lt hcounted, ?_, ?_, hresponses⟩
          · exact hkept.imp_left fun ⟨p, hp⟩ => ⟨p, List.mem_append_left _ hp⟩
          · intro p hp
            exact hwaiting p (by simpa [hother] using hp)

/-- An answer of the signer ends the call that it is for, and no other. -/
theorem Settled.settle (hsettled : Settled call right s) (number : Nat) (answer : Token.Answer) :
    Settled call right (s.settle number answer) := by
  rcases settle_cases s number answer with ⟨pending, hmem, hsettle⟩ | ⟨-, hsettle⟩
  · obtain ⟨hcounted, hkept, hwaiting, hresponses⟩ := hsettled
    rw [hsettle]
    refine ⟨hcounted, ?_, fun p hp => hwaiting p (List.mem_of_mem_eraseP hp), ?_⟩
    · by_cases hnumber : number = call
      · subst hnumber
        exact .inr ⟨_, List.mem_append_right _ (List.mem_singleton_self _)⟩
      · refine hkept.imp (fun ⟨p, hp⟩ => ⟨p, ?_⟩) fun ⟨r, hr⟩ => ⟨r, List.mem_append_left _ hr⟩
        exact (List.mem_eraseP_of_neg (by simpa using Ne.symm hnumber)).mpr hp
    · intro r hr
      rcases List.mem_append.mp hr with hold | hnew
      · exact hresponses r hold
      · obtain ⟨rfl, rfl⟩ := Prod.mk.inj (List.mem_singleton.mp hnew)
        exact hwaiting pending hmem s.engine answer
  · rwa [hsettle]

theorem Settled.step (hsettled : Settled call right s) (event : Event) :
    Settled call right (s.step event) := by
  cases event with
  | request request on => exact hsettled.receive request on
  | answer number answer => exact hsettled.settle number answer
  | chore chore =>
      exact ⟨hsettled.counted, hsettled.kept, hsettled.waiting, hsettled.responses⟩

/-- Responses that have been given stay. -/
theorem responses_subset_step (s : Service) (event : Event) :
    s.responses ⊆ (s.step event).responses := by
  cases event with
  | request request on =>
      change s.responses ⊆ (s.receive request on).responses
      unfold Service.receive
      split
      · exact List.subset_append_left _ _
      · exact List.Subset.refl _
  | answer call answer =>
      change s.responses ⊆ (s.settle call answer).responses
      rcases settle_cases s call answer with ⟨pending, -, hsettle⟩ | ⟨-, hsettle⟩
      · rw [hsettle]
        exact List.subset_append_left _ _
      · rw [hsettle]
        exact List.Subset.refl _
  | chore chore => exact List.Subset.refl _

/-- When the signer has answered for a call, or its time is over, the call has its response. -/
theorem Settled.answered (hsettled : Settled call right s) (answer : Token.Answer) :
    ∃ response, (call, response) ∈ (s.settle call answer).responses := by
  rcases settle_cases s call answer with ⟨pending, -, hsettle⟩ | ⟨hnone, hsettle⟩
  · rw [hsettle]
    exact ⟨_, List.mem_append_right _ (List.mem_singleton_self _)⟩
  · rw [hsettle]
    exact hsettled.kept.resolve_left fun ⟨pending, hpending⟩ => hnone pending hpending

theorem Settled.run (hsettled : Settled call right s) (events : List Event) :
    Settled call right (s.run events) :=
  run_induction s events hsettled fun _ event hsettled => hsettled.step event

theorem Settled.answered_run (hsettled : Settled call right s) {events : List Event}
    {answer : Token.Answer} (hanswer : .answer call answer ∈ events) :
    ∃ response, (call, response) ∈ (s.run events).responses := by
  obtain ⟨before, after, rfl⟩ := List.append_of_mem hanswer
  have hrun : s.run (before ++ .answer call answer :: after) =
      ((s.run before).settle call answer).run after := List.foldl_append
  obtain ⟨response, hresponse⟩ := (hsettled.run before).answered answer
  rw [hrun]
  refine ⟨response, run_induction (motive := fun later => (call, response) ∈ later.responses)
    _ after hresponse fun s event hmem => responses_subset_step s event hmem⟩

/-- However an engine has been used, and whatever happens while a call waits for the signer: the
response to the call is, but for its token, the one to the same request when it asks for no token.
The call is answered as soon as the signer has answered, failed or let its time pass. A request for
which there is no passage gets this response at once and no token, and nobody is asked to sign. -/
theorem signing_does_not_influence (e : Engine) (past later : List Event) (request : Request)
    (on : Occasion) :
    ∃ s plain, (Service.start e).run past = s ∧
      (s.engine.begin request.withoutToken on).1 = .answered plain ∧
      (∀ response, (s.calls, response) ∈ ((s.receive request on).run later).responses →
        response.withoutToken = plain) ∧
      (∀ answer, .answer s.calls answer ∈ later →
        ∃ response, (s.calls, response) ∈ ((s.receive request on).run later).responses) ∧
      (∀ stamps, (s.engine.decide request on stamps).1.withoutToken = plain) ∧
      ((s.engine.admits = true → IsEmpty (Passage (s.engine.collaborators on.clock)
          s.engine.config request on (s.engine.entering request on))) →
        plain.token = none ∧ (s.engine.begin request on).1 = .answered plain ∧
          ∀ response, (s.calls, response) ∈ ((s.receive request on).run later).responses →
            response = plain) := by
  have hnumbered : ((Service.start e).run past).Numbered :=
    run_induction (Service.start e) past (.start e) fun _ event hs => hs.step event
  obtain ⟨s, hs⟩ : ∃ s, (Service.start e).run past = s := ⟨_, rfl⟩
  rw [hs] at hnumbered
  have hresponse := response_begin s.engine request on
  have hsettled : Settled s.calls (·.withoutToken = s.engine.plainResponse request on)
      (s.receive request on) := by
    apply hnumbered.settled_receive
    · intro response hanswered
      rw [hanswered] at hresponse
      exact congrArg Response.withoutToken hresponse
    · intro pending hwaits engine answer
      rw [hwaits] at hresponse
      rw [finish_withoutToken]
      exact congrArg Response.withoutToken hresponse
  refine ⟨s, s.engine.plainResponse request on, hs, ?_, ?_, ?_, ?_, ?_⟩
  · exact begin_withoutToken s.engine request on
  · exact (hsettled.run later).responses
  · exact fun answer hanswer => hsettled.answered_run hanswer
  · exact decide_withoutToken s.engine request on
  · intro hrefused
    have hbegin := begin_of_refused hrefused
    have hanswered : Settled s.calls (· = s.engine.plainResponse request on)
        (s.receive request on) := by
      apply hnumbered.settled_receive
      · intro response hanswered
        exact Begun.answered.inj (hanswered.symm.trans hbegin)
      · intro pending hwaits
        cases hwaits.symm.trans hbegin
    exact ⟨rfl, hbegin, (hanswered.run later).responses⟩

end Service

end Mandate
