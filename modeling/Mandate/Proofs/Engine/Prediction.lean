import Mandate.Policy.Prepared
import Mandate.Proofs.Command.Simulation
import Mandate.Proofs.Engine.Counters
import Mandate.Proofs.Engine.KeptArtifacts
import Mandate.Proofs.Json.Members
import Mandate.Proofs.Lifecycle.InPlace

/-! # Simulations foretell decisions

Before a version is put in force people try it out. A simulation looks the version up, compiles its
body anew and evaluates it on a context, and the command does so for a body in a file. A decision
comes another way: along a choice of policies and rollouts, and with an artifact that may have been
kept since the version was activated.

Where a request comes to the evaluation of a version on a context, a simulation of that version on
that context comes to the same: it shows the decision, or else the objection of the evaluator for
which the request is denied.
-/

namespace Mandate

open Mandate.Json

/-! ## Evaluations apart from the time -/

/-- The decision without when it was made. -/
def Decision.untimed (d : Decision) : Decision :=
  { d with trace := d.trace.map fun t => { t with timing := default } }

/-- The evaluator pays no heed to the time, but for the timing in its traces. -/
def Evaluator.Timeless (evaluator : Evaluator) : Prop :=
  ∀ artifact context timing other,
    (evaluator.evaluate artifact context other).map Decision.untimed =
      (evaluator.evaluate artifact context timing).map Decision.untimed

theorem timeless_rules : Rules.evaluator.Timeless := by
  intro artifact context timing other
  cases artifact with
  | foreign tag content => rfl
  | rules set =>
      change Except.ok _ = Except.ok _
      refine congrArg Except.ok ?_
      unfold Rules.RuleSet.evaluate
      dsimp only
      split <;> rfl

theorem timeless_prepared (name : String) : (Evaluator.prepared name).Timeless :=
  fun _ _ _ _ => rfl

/-- What a trace says about the evaluation itself. -/
def Trace.findings (t : Trace) : List RuleTrace × List String × Value × String :=
  (t.evaluatedRules, t.validations, t.inputContext, t.engine)

/-- The response shows the decision. A token may come with it, and its trace names the policy and
the caller too. -/
structure Response.Shows (response : Response) (decision : Decision) : Prop where
  allow : response.allow = decision.allow
  reason : response.reason = decision.reason
  traceId : response.traceId = decision.traceId
  requireApproval : response.requireApproval = decision.requireApproval
  hints : response.hints = decision.hints
  trace : response.trace.map Trace.findings = decision.trace.map Trace.findings

/-- A response that shows a decision shows one that was made at another time, too. -/
theorem Response.Shows.of_untimed {response : Response} {decision other : Decision}
    (hshows : response.Shows decision) (hsame : other.untimed = decision.untimed) :
    response.Shows other := by
  have hfindings : ∀ d : Decision,
      d.trace.map Trace.findings = d.untimed.trace.map Trace.findings := fun d => by
    rw [Decision.untimed, Option.map_map]
    rfl
  have hallow := congrArg Decision.allow hsame
  have hreason := congrArg Decision.reason hsame
  have htraceId := congrArg Decision.traceId hsame
  have happroval := congrArg Decision.requireApproval hsame
  have hhints := congrArg Decision.hints hsame
  exact ⟨hshows.allow.trans hallow.symm, hshows.reason.trans hreason.symm,
    hshows.traceId.trans htraceId.symm, hshows.requireApproval.trans happroval.symm,
    hshows.hints.trans hhints.symm,
    by rw [hshows.trace, hfindings, hfindings other, hsame]⟩

/-- What an evaluation comes to foretells a response: the response shows the decision, or denies
with the objection of the evaluator as its reason. -/
def Foretells (response : Response) : Except PolicyError Decision → Prop
  | .ok decision => response.Shows decision
  | .error objection => response = .ofDecision (.deny objection.message)

theorem Foretells.of_untimed {response : Response} {result other : Except PolicyError Decision}
    (hforetells : Foretells response result)
    (hsame : other.map Decision.untimed = result.map Decision.untimed) :
    Foretells response other := by
  cases result with
  | error objection =>
      cases other with
      | error _ => cases hsame; exact hforetells
      | ok _ => cases hsame
  | ok decision =>
      cases other with
      | error _ => cases hsame
      | ok other =>
          have hsame : Except.ok other.untimed = Except.ok decision.untimed := hsame
          exact Response.Shows.of_untimed hforetells (Except.ok.inj hsame)

/-- What foretells a response that allows is a decision. -/
theorem Foretells.exists_shows {response : Response} {result : Except PolicyError Decision}
    (hforetells : Foretells response result) (hallow : response.allow = true) :
    ∃ decision, result = .ok decision ∧ response.Shows decision := by
  cases result with
  | ok decision => exact ⟨decision, rfl, hforetells⟩
  | error objection =>
      have hdenied : response.allow = false := congrArg Response.allow hforetells
      rw [hallow] at hdenied
      cases hdenied

/-! ## Requests that come to an evaluation -/

namespace Evaluation

variable {c : Collaborators} {config : Config} {request : Request} {on : Occasion}
  {start : Progress}

/-- What comes after a gate that is passed may stop the request. -/
theorem stops_bind {α β : Type} {gate : Gate α} {next : α → Gate β} {a : α} {middle : Progress}
    {refusal : Decision} (hpass : Passes gate start a middle)
    (hstops : ∃ after, Stops (next a) middle refusal after) :
    ∃ after, Stops (gate >>= next) start refusal after := by
  unfold Stops
  rw [bind_apply, hpass]
  exact hstops

/-- A way to the evaluation of a version: what the collaborators answered at each gate up to the
evaluator, which is asked. Whether it answers with a decision is open; a call that counts as
`evaluated` has one. -/
structure Consultation (c : Collaborators) (config : Config) (request : Request) (on : Occasion)
    (start : Progress) where
  assignments : List ActiveAssignment
  selected : ActiveAssignment
  federation : Option (Uuid × Federation.Scope)
  version : PolicyVersion
  evaluator : Evaluator
  artifact : Artifact
  /-- The organisation has active assignments, and one of them is chosen. -/
  assigned : c.assignments request.orgId = .ok assignments
  chosen : assignments[Routing.selectIndex (selectionKey request) assignments.length]? =
    some selected
  federated : Federated c config request federation
  delegated : Delegated c request
  /-- The engine of the chosen policy is known. -/
  registered : c.evaluator selected.policy.engine = .ok evaluator
  routed : Routed c request selected version
  prepared : Prepared start.compiled evaluator selected.policy.id version artifact

namespace Consultation

variable (consulted : Consultation c config request on start)

/-- The canonical context on which the version is evaluated. -/
def context : Value :=
  (evaluationContext request (start.signals request on.signalsClock) consulted.federation).sorted

/-- The version that a request comes to is the one that the engine chooses for it. -/
theorem selected?_eq : selected? c request = some consulted.selected := by
  rw [selected?, consulted.assigned]
  exact consulted.chosen

/-- What the evaluation comes to. -/
def outcome : Except PolicyError Decision :=
  consulted.evaluator.evaluate consulted.artifact consulted.context on.timing

/-- If the evaluation comes to a decision, the request has passed. -/
def passage {decision : Decision} (hdecided : consulted.outcome = .ok decision) :
    Passage c config request on start :=
  { consulted with
    decision
    nonempty := by
      rintro hnone
      have hchosen := consulted.chosen
      rw [hnone] at hchosen
      cases hchosen
    evaluates := hdecided }

/-- If the evaluator objects, the request is denied with the wording of the objection. -/
theorem stops {objection : PolicyError} (hobjects : consulted.outcome = .error objection) :
    ∃ after, Stops (evaluate c config request on) start (.deny objection.message) after := by
  refine stops_bind (passes_selectAssignment_iff.mpr
    ⟨⟨_, consulted.assigned, consulted.chosen⟩, rfl⟩) ?_
  refine stops_bind (passes_federate_iff.mpr ⟨consulted.federated, rfl⟩) ?_
  refine stops_bind (a := ()) (passes_checkDelegation_iff.mpr ⟨consulted.delegated, rfl⟩) ?_
  refine stops_bind (passes_readSignals_iff.mpr ⟨rfl, rfl⟩) ?_
  simp only [consulted.registered, routed_iff.mp consulted.routed]
  refine stops_bind (passes_artifactOf_iff.mpr ⟨by simpa using consulted.prepared, rfl⟩) ?_
  have hobjects : consulted.evaluator.evaluate consulted.artifact (evaluationContext request
      (start.signals request on.signalsClock) consulted.federation).sorted on.timing =
        .error objection := hobjects
  simp only [Progress.signals_gated, hobjects]
  exact ⟨_, rfl⟩

end Consultation

end Evaluation

/-! ## The three ways -/

namespace Engine

open Evaluation

variable {e : Engine} {request : Request} {on : Occasion}

/-- The response to a request that comes to an evaluation is foretold by what this comes to. -/
theorem foretells_outcome (hadmits : e.admits = true)
    (consulted : Consultation (e.collaborators on.clock) e.config request on
      (e.entering request on)) (stamps : Nat → Stamp) :
    Foretells (e.decide request on stamps).1 consulted.outcome := by
  cases houtcome : consulted.outcome with
  | ok decision =>
      obtain ⟨token, hresponse⟩ :=
        decideWith_response e (e.collaborators on.clock) request on stamps
      have hpasses := passes_evaluate_iff.mpr ⟨consulted.passage houtcome, rfl, rfl⟩
      rw [verdict_of_passes hadmits hpasses] at hresponse
      change Response.Shows (e.decideWith _ request on stamps).1 decision
      rw [hresponse]
      refine ⟨rfl, rfl, rfl, rfl, rfl, ?_⟩
      change (decision.trace.map _).map Trace.findings = _
      rw [Option.map_map]
      rfl
  | error objection =>
      obtain ⟨after, hstops⟩ := consulted.stops houtcome
      have hbegun : e.beginWith (e.collaborators on.clock) request on = _ :=
        beginWith_of_admits hadmits
      rw [hstops] at hbegun
      exact congrArg Prod.fst (decideWith_of_answered hbegun stamps)

/-- In a consistent engine the version to evaluate is stored, and what is evaluated is what its
body compiles to. -/
theorem Consistent.stored_of_consultation (hconsistent : e.Consistent)
    (consulted : Consultation (e.collaborators on.clock) e.config request on
      (e.entering request on)) :
    Stored e.lifecycle consulted.selected.policy.id consulted.evaluator consulted.version ∧
      consulted.evaluator.compile consulted.version.body = .ok consulted.artifact := by
  have hstored := (faithful_collaborators hconsistent.wellFormed on.clock).stored
    consulted.selected?_eq consulted.registered
  rw [routed_iff.mp consulted.routed] at hstored
  exact ⟨hstored, hstored.compile_of_prepared hconsistent.keepsMade consulted.prepared⟩

end Engine

/-- As long as a version is stored with its body, it is simulated by compiling the body and
evaluating the artifact. -/
theorem Evaluation.Stored.simulate_eq {l later : Lifecycle} {policyId : Uuid}
    {evaluator : Evaluator} {version : PolicyVersion} {artifact : Artifact}
    (hstored : Stored l policyId evaluator version)
    (hcompile : evaluator.compile version.body = .ok artifact)
    (hextends : l.repository.Extends later.repository) (hregistry : later.registry = l.registry)
    (hunfailing : later.Unfailing) (context : Value) (on : Occasion) :
    later.simulate policyId version.version context on =
      (evaluator.evaluate artifact context.sorted on.timing).mapError .policy := by
  obtain ⟨⟨policy, hpolicy, hengine⟩, hversion⟩ := hstored
  obtain ⟨current, hcurrent, hbody⟩ := hextends.bodies _ _ _ hversion
  rw [← hregistry] at hengine
  have hfound : later.compiledVersion policyId version.version = .ok (policy, current, artifact) :=
    Lifecycle.compiledVersion_eq_ok.mpr ⟨hextends.policies _ _ hpolicy, hcurrent, by
      rw [Lifecycle.compile, hengine, hbody]
      exact hcompile⟩
  rw [hunfailing.simulate_eq_bind, Fallible.bind_of_ok hfound]
  dsimp only
  rw [Lifecycle.evaluate, hengine]
  rfl

namespace Engine

open Evaluation

variable {e : Engine} {request : Request} {on : Occasion}

/-- The way of a request that stays inside its organisation and names no resource: nothing has to be
asked about it. -/
def consultationInside (hunfailing : e.lifecycle.Unfailing) {selected : ActiveAssignment}
    {evaluator : Evaluator} {artifact : Artifact} (hinside : request.counterparty? = none)
    (hunnamed : request.resource = "")
    (hselected : selected? (e.collaborators on.clock) request = some selected)
    (hregistered : e.lifecycle.registry.get selected.policy.engine = .ok evaluator)
    (hprepared : Prepared e.lifecycle.compiled evaluator selected.policy.id
      (routedVersion (e.collaborators on.clock) request selected) artifact) :
    Consultation (e.collaborators on.clock) e.config request on (e.entering request on) :=
  have hassigned : (e.collaborators on.clock).assignments request.orgId =
      .ok (e.lifecycle.repository.activeAssignments request.orgId) :=
    hunfailing.ask .activeAssignments fun repo => .ok (repo.activeAssignments request.orgId)
  { assignments := e.lifecycle.repository.activeAssignments request.orgId
    selected
    federation := none
    version := routedVersion (e.collaborators on.clock) request selected
    evaluator
    artifact
    assigned := hassigned
    chosen := by rwa [selected?, hassigned] at hselected
    federated := .inside (counterparty?_eq_none_iff.mp hinside)
    delegated := fun hnamed => absurd hunnamed hnamed
    registered := hregistered
    routed := routed_iff.mpr rfl
    prepared := hprepared }

/-- Where an admitted request comes to the evaluation of a version on a canonical context, all ways
of trying the version out on that context come to the same, at that time or later: the simulation
by the lifecycle, the body compiled anew and evaluated, and the command that is given the body and
the context in files. What they come to foretells the response: a decision is the one that the
response shows, with the same findings in its trace, and an objection of the evaluator is the
reason for which the request is denied. They come to a decision exactly if the evaluation of the
request does. -/
theorem simulation_foretells_decision {start e : Engine}
    (hempty : start.lifecycle.compiled.entries = [])
    (hwell : start.lifecycle.repository.WellFormed) (hreached : Reached start e)
    (hadmits : e.admits = true)
    (consulted : Consultation (e.collaborators on.clock) e.config request on
      (e.entering request on))
    (htimeless : consulted.evaluator.Timeless) {later : Lifecycle}
    (hregistry : later.registry = e.lifecycle.registry)
    (hextends : e.lifecycle.repository.Extends later.repository) (hunfailing : later.Unfailing)
    (stamps : Nat → Stamp) :
    (∀ occasion, ∃ result,
      later.simulate consulted.selected.policy.id consulted.version.version consulted.context
          occasion = result.mapError .policy ∧
        (consulted.evaluator.compile consulted.version.body >>= fun artifact =>
          consulted.evaluator.evaluate artifact consulted.context.sorted occasion.timing) =
            result ∧
        result.map Decision.untimed = consulted.outcome.map Decision.untimed ∧
        Foretells (e.decide request on stamps).1 result) ∧
    ∀ (command : Command.Simulation) (s : Command.Surroundings) (input : Value),
      command.Finds s consulted.evaluator consulted.version.body input →
      input.sorted = consulted.context →
      ∃ result, command.execute.run.run s = Command.Simulation.ended s result ∧
        result.map Decision.untimed = consulted.outcome.map Decision.untimed ∧
        Foretells (e.decide request on stamps).1 result := by
  obtain ⟨hstored, hcompile⟩ :=
    (Consistent.of_reached hempty hwell hreached).stored_of_consultation consulted
  have hcanonical : consulted.context.sorted = consulted.context := Value.sorted_sorted _
  -- at whatever time the version is evaluated, it comes to the same
  have hsame : ∀ timing, (consulted.evaluator.evaluate consulted.artifact consulted.context
      timing).map Decision.untimed = consulted.outcome.map Decision.untimed :=
    htimeless _ _ on.timing
  have hforetells := foretells_outcome hadmits consulted stamps
  refine ⟨fun occasion => ?_, fun command s input hfinds hinput => ?_⟩
  · refine ⟨consulted.evaluator.evaluate consulted.artifact consulted.context occasion.timing,
      ?_, ?_, hsame _, hforetells.of_untimed (hsame _)⟩
    · rw [hstored.simulate_eq hcompile hextends hregistry hunfailing, hcanonical]
    · rw [hcompile, hcanonical]
      rfl
  · have hexecuted := hfinds.run_execute hcompile
    rw [hinput] at hexecuted
    exact ⟨_, hexecuted, hsame _, hforetells.of_untimed (hsame _)⟩

/-- The body of the policy of `warmed`. -/
def allowingBody : Value :=
  .object [("rules", .array [.object [("effect", .string "allow")]])]

/-- A folder that holds the body and an input. -/
def folderWith (input : Value) : Command.Surroundings where
  folder := ⟨⟨[("input.json", Text.utf8 input.text),
    ("policy.json", Text.utf8 allowingBody.text)]⟩⟩
  time := default
  bytes := fun _ => []

theorem finds_folderWith {input : Value} (hnesting : input.nesting ≤ maxDepth)
    (hnumbers : ∀ n ∈ input.numbers, n.ReadsBack) :
    (⟨"policy.json", "input.json", Rules.engineName⟩ : Command.Simulation).Finds
      (folderWith input) Rules.evaluator allowingBody input.sorted where
  engine := rfl
  policy := Command.readDocument_of_text (v := allowingBody) rfl (by decide)
    fun _ hn => absurd hn List.not_mem_nil
  input := Command.readDocument_of_text rfl hnesting hnumbers

/-- What an engine allows is simulated as allowed, and the command prints it. -/
theorem warmed_simulation_foretells :
    let on : Occasion := default
    let command : Command.Simulation := ⟨"policy.json", "input.json", Rules.engineName⟩
    keeper.lifecycle.compiled.entries = [] ∧ Reached keeper warmed ∧ warmed.admits = true ∧
    warmed.lifecycle.Unfailing ∧
    ∃ consulted : Consultation (warmed.collaborators on.clock) warmed.config { orgId := ⟨9⟩ } on
        (warmed.entering { orgId := ⟨9⟩ } on),
      consulted.evaluator.Timeless ∧
      (∃ decision, decision.allow = true ∧
        warmed.lifecycle.simulate ⟨1⟩ 1 consulted.context default = .ok decision ∧
        (warmed.decide { orgId := ⟨9⟩ } on fun _ => default).1.Shows decision) ∧
      ∃ decision, (command.execute.run.run (folderWith consulted.context)).2.printed =
          [decision.json.indented] ∧
        (warmed.decide { orgId := ⟨9⟩ } on fun _ => default).1.Shows decision := by
  intro on command
  have hchosen : (selected? (warmed.collaborators on.clock) { orgId := ⟨9⟩ }).map
      (fun selected => (selected.policy.engine, selected.policy.id,
        (routedVersion (warmed.collaborators on.clock) { orgId := ⟨9⟩ } selected).version,
        (routedVersion (warmed.collaborators on.clock) { orgId := ⟨9⟩ } selected).body)) =
        some (Rules.engineName, ⟨1⟩, 1, allowingBody) := by
    decide +kernel
  obtain ⟨selected, hselected, hchosen⟩ := Option.map_eq_some_iff.mp hchosen
  injection hchosen with hengine hchosen
  injection hchosen with hpolicy hchosen
  injection hchosen with hversion hbody
  have hunfailing : warmed.lifecycle.Unfailing := List.isEmpty_iff.mp (by decide +kernel)
  have hadmits : warmed.admits = true := by decide +kernel
  have hregistered : warmed.lifecycle.registry.get selected.policy.engine =
      .ok Rules.evaluator := by
    rw [hengine, reached_warmed.registry]
    rfl
  have hkept : (warmed.lifecycle.compiled.get? ⟨1⟩ 1).isSome = true := by decide +kernel
  obtain ⟨artifact, hkept⟩ := Option.isSome_iff_exists.mp hkept
  rw [← hpolicy, ← hversion] at hkept
  let consulted : Consultation (warmed.collaborators on.clock) warmed.config { orgId := ⟨9⟩ } on
      (warmed.entering { orgId := ⟨9⟩ } on) :=
    consultationInside hunfailing rfl rfl hselected hregistered (.kept hkept)
  obtain ⟨hsimulated, hprinted⟩ := simulation_foretells_decision rfl Repository.WellFormed.empty
    reached_warmed hadmits consulted timeless_rules rfl (.refl _) hunfailing fun _ => default
  have hallowed : (warmed.decide { orgId := ⟨9⟩ } on fun _ => default).1.allow = true := by
    decide +kernel
  have hcontext : (evaluationContext { orgId := ⟨9⟩ } ((warmed.entering { orgId := ⟨9⟩ }
      on).signals { orgId := ⟨9⟩ } on.signalsClock) none).sorted =
        .object [("risk", .object [("flags", .array []), ("score", .nat 2)])] := by
    decide +kernel
  have hnumbers : ∀ n ∈ consulted.context.numbers, n.ReadsBack := by
    rw [show consulted.context = _ from hcontext]
    intro n hn
    obtain rfl := List.mem_singleton.mp hn
    exact Number.int_readsBack (by decide) (by decide)
  have hnesting : consulted.context.nesting ≤ maxDepth := by
    rw [show consulted.context = _ from hcontext]
    decide
  have hfinds := finds_folderWith hnesting hnumbers
  rw [show allowingBody = consulted.version.body from hbody.symm] at hfinds
  refine ⟨rfl, reached_warmed, hadmits, hunfailing, consulted, timeless_rules, ?_, ?_⟩
  · obtain ⟨result, hsimulate, -, -, hforetells⟩ := hsimulated default
    obtain ⟨decision, rfl, hshows⟩ := hforetells.exists_shows hallowed
    refine ⟨decision, hshows.allow.symm.trans hallowed, ?_, hshows⟩
    rw [← hpolicy, ← hversion]
    exact hsimulate
  · obtain ⟨result, hexecute, -, hforetells⟩ :=
      hprinted command _ _ hfinds
        ((Value.sorted_sorted _).trans (Value.sorted_sorted _))
    obtain ⟨decision, rfl, hshows⟩ := hforetells.exists_shows hallowed
    exact ⟨decision, by rw [hexecute]; rfl, hshows⟩

/-- An engine with an evaluator of prepared decisions, for which one signature is enough. -/
def stubKeeper : Engine :=
  .start {} { approvalsRequired := 1, registry := Registry.builtin.register (.prepared "stub") } {}

/-- A body whose evaluation comes to no decision. -/
def objectingBody : Value := .object [("eval_error", .string "broken")]

/-- The engine once a policy is in force that allows, and all requests are sent to a version whose
evaluation comes to no decision. -/
def objecting : Engine :=
  let allowing : Value := .object [("decision", .object [("allow", .bool true)])]
  let on (n : Nat) : Occasion := { (default : Occasion) with id := ⟨n⟩ }
  ((((((stubKeeper.manage (.createPolicy ⟨9⟩ "p" "stub" none) (on 1)).manage
    (.addVersion ⟨1⟩ allowing none) (on 2)).manage (.approve ⟨1⟩ 1 ⟨8⟩) (on 3)).manage
    (.assign ⟨1⟩ .org (⟨9⟩ : Uuid).text) (on 4)).manage (.activate ⟨1⟩ 1 .null) (on 5)).manage
    (.addVersion ⟨1⟩ objectingBody none) (on 6)).manage (.setRollout ⟨9⟩ ⟨1⟩ 2 100) (on 7)

theorem reached_objecting : Reached stubKeeper objecting := by
  refine .managed _ _ (.managed _ _ (.managed _ _ (.managed _ _ (.managed _ _ (.managed _ _
    (.managed _ _ .start ?_) ?_) ?_) ?_) ?_) ?_) ?_
  · intro p hp
    exact absurd hp List.not_mem_nil
  all_goals exact fun _ _ => nofun

/-- A request may be denied for an objection of the evaluator, and then no simulation of the version
on its context succeeds. -/
theorem objection_denies_and_simulation_fails :
    let on : Occasion := default
    stubKeeper.lifecycle.compiled.entries = [] ∧ Reached stubKeeper objecting ∧
    objecting.lifecycle.Unfailing ∧ objecting.admits = true ∧
    ∃ consulted : Consultation (objecting.collaborators on.clock) objecting.config
        { orgId := ⟨9⟩ } on (objecting.entering { orgId := ⟨9⟩ } on),
      consulted.evaluator.Timeless ∧
      (objecting.decide { orgId := ⟨9⟩ } on fun _ => default).1.allow = false ∧
      ∀ occasion decision, objecting.lifecycle.simulate consulted.selected.policy.id
        consulted.version.version consulted.context occasion ≠ .ok decision := by
  intro on
  have hchosen : (selected? (objecting.collaborators on.clock) { orgId := ⟨9⟩ }).map
      (fun selected => (selected.policy.engine, selected.policy.id,
        (routedVersion (objecting.collaborators on.clock) { orgId := ⟨9⟩ } selected).version,
        (routedVersion (objecting.collaborators on.clock) { orgId := ⟨9⟩ } selected).body)) =
        some ("stub", ⟨1⟩, 2, objectingBody) := by
    decide +kernel
  obtain ⟨selected, hselected, hchosen⟩ := Option.map_eq_some_iff.mp hchosen
  have hunfailing : objecting.lifecycle.Unfailing :=
    List.isEmpty_iff.mp (by decide +kernel)
  injection hchosen with hengine hchosen
  injection hchosen with hpolicy hchosen
  injection hchosen with hversion hbody
  have hmissing : objecting.lifecycle.compiled.get? ⟨1⟩ 2 = none :=
    Option.isNone_iff_eq_none.mp (by decide +kernel)
  have hadmits : objecting.admits = true := by decide +kernel
  have hregistered : objecting.lifecycle.registry.get selected.policy.engine =
      .ok (.prepared "stub") := by
    rw [hengine, reached_objecting.registry]
    rfl
  have hprepared : Prepared objecting.lifecycle.compiled (.prepared "stub") selected.policy.id
      (routedVersion (objecting.collaborators on.clock) { orgId := ⟨9⟩ } selected)
      (.foreign preparedTag objectingBody) := by
    refine .compiled ?_ ?_
    · rwa [hpolicy, hversion]
    · rw [hbody]
      rfl
  let consulted : Consultation (objecting.collaborators on.clock) objecting.config
      { orgId := ⟨9⟩ } on (objecting.entering { orgId := ⟨9⟩ } on) :=
    consultationInside hunfailing rfl rfl hselected hregistered hprepared
  have houtcome : consulted.outcome = .error (.badCompiledPolicy "stub") := rfl
  have hforetells := foretells_outcome hadmits consulted fun _ => default
  rw [houtcome] at hforetells
  have hempty : stubKeeper.lifecycle.compiled.entries = [] := rfl
  obtain ⟨hstored, hcompile⟩ := (Consistent.of_reached hempty Repository.WellFormed.empty
    reached_objecting).stored_of_consultation consulted
  refine ⟨hempty, reached_objecting, hunfailing, hadmits, consulted,
    timeless_prepared "stub", congrArg Response.allow hforetells, fun occasion decision => ?_⟩
  rw [hstored.simulate_eq hcompile (.refl _) rfl hunfailing]
  exact nofun

end Engine

end Mandate
