import Mandate.Proofs.Engine.ReservedMembers
import Mandate.Proofs.Relation.Reachability

/-! # Callers without a name

A store never takes a tuple whose subject has an empty identifier, however it came and whatever
else was in its batch. So nothing leads away from the node of a caller without a name: no search
finds a way for it to act for an organisation, and it is refused wherever a resource is named.
-/

namespace Mandate.Engine

open Evaluation Mandate.Relation

variable {e : Engine} {c : Collaborators} {request : Request} {on : Occasion}
  {batches : List (List Tuple)}

/-- Whoever may not act for the organisation is refused. -/
theorem decideWith_of_not_delegated (hdelegated : ¬ Delegated c request) (stamps : Nat → Stamp) :
    (e.decideWith c request on stamps).1.allow = false := by
  rw [decideWith_allow, Bool.eq_false_iff]
  intro hallow
  obtain ⟨-, passage, -⟩ := verdict_allow_iff.mp hallow
  exact hdelegated passage.delegated

theorem agent_of_anonymous (hanonymous : request.agentId = none ∨ request.agentId = some "") :
    request.agent = "" := by
  rcases hanonymous with hnone | hempty
  · simp [Request.agent, hnone]
  · simp [Request.agent, hempty]

/-- No tuple of a store has a subject without an identifier. -/
theorem subject_ne_of_mem_takeAll {t : Tuple}
    (ht : t ∈ (TupleStore.takeAll {} batches).tuples) (space : String) :
    t.subject ≠ ⟨space, ""⟩ := by
  intro hsubject
  obtain ⟨-, hid⟩ := Tuple.subject_of_validate (TupleStore.validate_of_mem_takeAll ht)
  exact hid (congrArg Node.id hsubject)

/-- A graph without kept answers never allows a node without an identifier. -/
theorem check_without_identifier {client : Client} (hcache : client.cache = none)
    (hstore : client.store = TupleStore.takeAll {} batches) (clock : Nat) (space : String)
    (relation : String) (object : Node) {result : CheckResult}
    (hcheck : (client.check clock ⟨space, ""⟩ relation object).1 = .ok result) :
    result.allowed = false := by
  have hask : client.ask ⟨space, ""⟩ relation object = .ok result := by
    rw [← hcheck, Client.check, Client.checkWhile, Client.checkTimed, hcache]
  rw [Client.ask, Client.source] at hask
  cases hblank : Text.isBlankText relation with
  | true =>
      simp [Graph.check, hblank, throw, throwThe, MonadExceptOf.throw, bind, Except.bind] at hask
  | false =>
      cases houtage : client.outage with
      | some why =>
          simp [Graph.check, hblank, houtage, TupleSource.unavailable, bind, Except.bind] at hask
      | none =>
          obtain ⟨allowed, hsearched, hreaches⟩ :=
            Graph.check_spec client.graph client.store ⟨space, ""⟩ object hblank
          rw [houtage] at hask
          obtain rfl : ⟨allowed, localSource⟩ = result :=
            Except.ok.inj (hsearched.symm.trans hask)
          rw [Bool.eq_false_iff]
          intro hallowed
          refine Graph.not_reaches_of_isolated ?_ (hreaches.mp hallowed)
          rw [hstore]
          exact fun t ht => subject_ne_of_mem_takeAll ht space

/-- A request that names a resource is refused if its caller has no name or an empty one. That holds
for every graph over a store that was filled batch by batch from the empty one, whatever the
collaborators beside the graph answer and whatever else the engine holds. -/
theorem anonymous_callers_refused (hresource : request.resource ≠ "")
    (hanonymous : request.agentId = none ∨ request.agentId = some "")
    (hcache : e.graph.cache = none)
    (hstore : e.graph.store = TupleStore.takeAll {} batches) (stamps : Nat → Stamp) :
    (e.decide request on stamps).1.allow = false ∧
    ∀ c : Collaborators,
      (∀ subject relation object,
        c.check subject relation object = (e.graph.check on.clock subject relation object).1) →
      (e.decideWith c request on stamps).1.allow = false := by
  have hany : ∀ c : Collaborators,
      (∀ subject relation object,
        c.check subject relation object = (e.graph.check on.clock subject relation object).1) →
      (e.decideWith c request on stamps).1.allow = false := by
    intro c hcheck
    refine decideWith_of_not_delegated (fun hdelegated => ?_) stamps
    obtain ⟨result, hresult, hallowed⟩ := hdelegated hresource
    have hagent : request.agentId.getD "" = "" := agent_of_anonymous hanonymous
    rw [hagent, hcheck] at hresult
    rw [check_without_identifier hcache hstore _ _ _ _ hresult] at hallowed
    cases hallowed
  exact ⟨hany (e.collaborators on.clock) fun _ _ _ => rfl, hany⟩

/-- A caller without a name asks for a resource. -/
def stranger : Request := { orgId := ⟨9⟩, resource := "doc" }

/-- An engine that allows the stranger as soon as its empty name may act for the organisation, but
whose store was filled by batches. -/
def guardedByStore (batches : List (List Tuple)) : Engine :=
  { gatekeeper stranger (gatekeeperContext stranger default) with
    graph := { store := .takeAll {} batches } }

/-- The tuple that lets the empty name act is refused together with its batch, and so is the
stranger. If the store held it, the stranger would be allowed. -/
theorem stranger_refused :
    ((guardedByStore [[⟨⟨"org", stranger.orgId.text⟩, canActFor, ⟨"agent", ""⟩⟩,
      ⟨⟨"org", stranger.orgId.text⟩, canActFor, ⟨"agent", "bot"⟩⟩]]).decide stranger default
        fun _ => default).1.allow = false ∧
    ((gatekeeper stranger (gatekeeperContext stranger default)).decide stranger default
      fun _ => default).1.allow = true := by
  have hresource : stranger.resource ≠ "" := by decide
  refine ⟨(anonymous_callers_refused hresource (Or.inl rfl) rfl rfl _).1, ?_⟩
  rw [decide, decideWith_allow, gatekeeper_allow stranger _ default rfl]
  exact beq_self_eq_true _

end Mandate.Engine
