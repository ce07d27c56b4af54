import Mandate.Proofs.Engine.KeptArtifacts
import Mandate.Proofs.Risk.Tracker

/-! # Agents do not influence each other

Callers share the artifacts that are kept, the tracker of their requests, the counters and the
queue of background work. None of it carries anything from one caller to another: an artifact is
what its version makes, whoever asked first; a tracker tells of each caller on its own; and the
rest decides nothing. So a caller is answered as if nobody else had ever asked.
-/

namespace Mandate

open Risk.Tracker

/-! ## Kept artifacts -/

namespace CompiledCache

variable {cache middle other : CompiledCache} {policy : Uuid} {version : Nat} {artifact : Artifact}

theorem get?_put (cache : CompiledCache) (policy policy' : Uuid) (version version' : Nat)
    (artifact : Artifact) : (cache.put policy version artifact).get? policy' version' =
      if (policy', version') = (policy, version) then some artifact
      else cache.get? policy' version' := by
  have hlookup := lookup_cons_eq_ite (policy, version) (policy', version') artifact
    (cache.erase policy version).entries
  refine hlookup.trans ?_
  split
  · rfl
  next hne => exact lookup_filter_ne hne

/-- A cache keeps all that another one keeps, and besides only what its versions make. -/
structure Covers (l : Lifecycle) (cache other : CompiledCache) : Prop where
  kept : ∀ policy version artifact, other.get? policy version = some artifact →
    cache.get? policy version = some artifact
  made : ∀ policy version artifact, cache.get? policy version = some artifact →
    other.get? policy version = none → l.Makes policy version artifact

variable {l : Lifecycle}

theorem Covers.refl (l : Lifecycle) (cache : CompiledCache) : Covers l cache cache where
  kept _ _ _ hget := hget
  made _ _ _ hget hnone := by
    rw [hnone] at hget
    cases hget

theorem Covers.trans (hone : Covers l cache middle) (hother : Covers l middle other) :
    Covers l cache other where
  kept policy version artifact hget := hone.kept _ _ _ (hother.kept _ _ _ hget)
  made policy version artifact hget hnone := by
    cases hmiddle : middle.get? policy version with
    | none => exact hone.made _ _ _ hget hmiddle
    | some found =>
        obtain rfl : found = artifact :=
          Option.some.inj ((hone.kept _ _ _ hmiddle).symm.trans hget)
        exact hother.made _ _ _ hmiddle hnone

/-- An artifact that its version makes may be added. -/
theorem covers_put (hmakes : l.Makes policy version artifact)
    (hnone : cache.get? policy version = none) :
    Covers l (cache.put policy version artifact) cache where
  kept policy' version' artifact' hget := by
    rw [get?_put]
    split
    next heq =>
      obtain ⟨rfl, rfl⟩ := Prod.mk.inj heq
      rw [hnone] at hget
      cases hget
    next => exact hget
  made policy' version' artifact' hget hnone' := by
    rw [get?_put] at hget
    split at hget
    next heq =>
      obtain ⟨rfl, rfl⟩ := Prod.mk.inj heq
      obtain rfl := Option.some.inj hget
      exact hmakes
    next =>
      rw [hnone'] at hget
      cases hget

/-- What the cache keeps already may be added to the other one. -/
theorem Covers.put_other (hcovers : Covers l cache other)
    (hget : cache.get? policy version = some artifact) :
    Covers l cache (other.put policy version artifact) where
  kept policy' version' artifact' hget' := by
    rw [get?_put] at hget'
    split at hget'
    next heq =>
      obtain ⟨rfl, rfl⟩ := Prod.mk.inj heq
      exact hget.trans hget'
    next => exact hcovers.kept _ _ _ hget'
  made policy' version' artifact' hget' hnone := by
    rw [get?_put] at hnone
    split at hnone
    · cases hnone
    · exact hcovers.made _ _ _ hget' hnone

end CompiledCache

/-! ## Gate by gate -/

namespace Evaluation

open CompiledCache

variable {α β : Type} {l : Lifecycle} {key : String} {now : Nat}

/-- Two beginnings whose trackers tell the same of a caller from now on, and the first of which
keeps all artifacts of the second one and besides only what their versions make. -/
structure SameMemory (l : Lifecycle) (key : String) (now : Nat) (start other : Progress) :
    Prop where
  ordered : start.risk.Ordered
  otherOrdered : other.risk.Ordered
  risk : SameFor key now start.risk other.risk
  compiled : Covers l start.compiled other.compiled

theorem SameMemory.refl {start : Progress} (hordered : start.risk.Ordered) :
    SameMemory l key now start start :=
  ⟨hordered, hordered, .refl _ _ _, .refl _ _⟩

theorem SameMemory.trans {start middle other : Progress}
    (hone : SameMemory l key now start middle) (hother : SameMemory l key now middle other) :
    SameMemory l key now start other :=
  ⟨hone.ordered, hother.otherOrdered, hone.risk.trans hother.risk,
    hone.compiled.trans hother.compiled⟩

theorem SameMemory.mono {start other : Progress} {later : Nat}
    (hsame : SameMemory l key now start other) (hle : now ≤ later) :
    SameMemory l key later start other :=
  { hsame with risk := hsame.risk.mono hle }

/-- What a gate leaves behind is the same memory for a caller as what it began with. -/
def PreservesMemory (l : Lifecycle) (key : String) (now : Nat) (gate : Gate α) : Prop :=
  ∀ start, start.risk.Ordered → SameMemory l key now (gate start).2 start

/-- From beginnings that are the same memory for a caller the gate comes to one result, and its ends
are the same memory again. -/
def RespectsMemory (l : Lifecycle) (key : String) (now : Nat) (gate : Gate α) : Prop :=
  ∀ start other, SameMemory l key now start other →
    (gate other).1 = (gate start).1 ∧ SameMemory l key now (gate start).2 (gate other).2

theorem PreservesMemory.bind {gate : Gate α} {next : α → Gate β}
    (hgate : PreservesMemory l key now gate)
    (hnext : ∀ a start after, Passes gate start a after → PreservesMemory l key now (next a)) :
    PreservesMemory l key now (gate >>= next) := by
  intro start hordered
  have hfirst := hgate start hordered
  rw [bind_apply]
  obtain ⟨result, after, heq⟩ : ∃ result after, gate start = (result, after) := ⟨_, _, rfl⟩
  rw [heq] at hfirst ⊢
  cases result with
  | error refusal => exact hfirst
  | ok a => exact (hnext a start after heq after hfirst.ordered).trans hfirst

theorem RespectsMemory.bind {gate : Gate α} {next : α → Gate β}
    (hgate : RespectsMemory l key now gate)
    (hnext : ∀ a start after, Passes gate start a after → RespectsMemory l key now (next a)) :
    RespectsMemory l key now (gate >>= next) := by
  intro start other hsame
  obtain ⟨hresult, hafter⟩ := hgate start other hsame
  rw [bind_apply, bind_apply]
  obtain ⟨result, after, hfirst⟩ : ∃ result after, gate start = (result, after) := ⟨_, _, rfl⟩
  obtain ⟨result', after', hother⟩ : ∃ result after, gate other = (result, after) := ⟨_, _, rfl⟩
  rw [hfirst, hother] at hresult hafter
  obtain rfl : result' = result := hresult
  rw [hfirst, hother]
  cases result' with
  | error refusal => exact ⟨rfl, hafter⟩
  | ok a => exact hnext a start after hfirst after after' hafter

/-- A gate that neither looks at the tracker and the kept artifacts nor touches them. -/
structure IgnoresMemory (gate : Gate α) : Prop where
  result : ∀ start other, (gate other).1 = (gate start).1
  risk : ∀ start, (gate start).2.risk = start.risk
  compiled : ∀ start, (gate start).2.compiled = start.compiled

theorem IgnoresMemory.preservesMemory {gate : Gate α} (hignores : IgnoresMemory gate) :
    PreservesMemory l key now gate := by
  intro start hordered
  have hrisk := hignores.risk start
  have hcompiled := hignores.compiled start
  exact ⟨hrisk ▸ hordered, hordered, hrisk ▸ .refl _ _ _, hcompiled ▸ .refl _ _⟩

theorem IgnoresMemory.respectsMemory {gate : Gate α} (hignores : IgnoresMemory gate) :
    RespectsMemory l key now gate := by
  intro start other hsame
  refine ⟨hignores.result start other, ?_⟩
  have hordered := hsame.ordered
  have hotherOrdered := hsame.otherOrdered
  have hrisk := hsame.risk
  have hcompiled := hsame.compiled
  rw [← hignores.risk start] at hordered hrisk
  rw [← hignores.risk other] at hotherOrdered hrisk
  rw [← hignores.compiled start, ← hignores.compiled other] at hcompiled
  exact ⟨hordered, hotherOrdered, hrisk, hcompiled⟩

theorem IgnoresMemory.pure (a : α) : IgnoresMemory (pure a : Gate α) :=
  ⟨fun _ _ => rfl, fun _ => rfl, fun _ => rfl⟩

theorem IgnoresMemory.refuse (reason : String) : IgnoresMemory (refuse reason : Gate α) :=
  ⟨fun _ _ => rfl, fun _ => rfl, fun _ => rfl⟩

variable {c : Collaborators} {config : Config} {request : Request}

theorem ignoresMemory_selectAssignment : IgnoresMemory (selectAssignment c request) := by
  unfold selectAssignment
  split
  · exact IgnoresMemory.refuse _
  · dsimp only
    split
    · exact IgnoresMemory.pure _
    · exact IgnoresMemory.refuse _

theorem ignoresMemory_checkFederation {target : Uuid} :
    IgnoresMemory (checkFederation c config request target) := by
  unfold checkFederation
  cases c.contract request.orgId target with
  | error _ => exact ⟨fun _ _ => rfl, fun _ => rfl, fun _ => rfl⟩
  | ok found =>
      cases found with
      | none => exact ⟨fun _ _ => rfl, fun _ => rfl, fun _ => rfl⟩
      | some contract =>
          dsimp only
          cases contract.scope.permitsAction request.action with
          | false => exact ⟨fun _ _ => rfl, fun _ => rfl, fun _ => rfl⟩
          | true =>
              cases contract.scope.permitsResource request.resource with
              | false => exact ⟨fun _ _ => rfl, fun _ => rfl, fun _ => rfl⟩
              | true =>
                  simp only [Bool.not_true, Bool.false_eq_true, ↓reduceIte]
                  split <;> exact ⟨fun _ _ => rfl, fun _ => rfl, fun _ => rfl⟩

theorem IgnoresMemory.then {gate : Gate α} {next : α → Gate β} (hgate : IgnoresMemory gate)
    (hnext : ∀ a, IgnoresMemory (next a)) : IgnoresMemory (gate >>= next) := by
  -- one run of the first gate decides which way the second one is taken in every run
  have hbind : ∀ start other, ((gate >>= next) other).1 = ((gate >>= next) start).1 ∧
      ((gate >>= next) start).2.risk = start.risk ∧
      ((gate >>= next) start).2.compiled = start.compiled := by
    intro start other
    have hresult := hgate.result start other
    have hrisk := hgate.risk start
    have hcompiled := hgate.compiled start
    rw [bind_apply, bind_apply]
    obtain ⟨result, middle, hfirst⟩ : ∃ result middle, gate start = (result, middle) :=
      ⟨_, _, rfl⟩
    obtain ⟨result', middle', hother⟩ : ∃ result middle, gate other = (result, middle) :=
      ⟨_, _, rfl⟩
    rw [hfirst, hother] at hresult
    rw [hfirst] at hrisk hcompiled
    obtain rfl : result' = result := hresult
    rw [hfirst, hother]
    cases result' with
    | error refusal => exact ⟨rfl, hrisk, hcompiled⟩
    | ok a =>
        exact ⟨(hnext a).result middle middle', ((hnext a).risk middle).trans hrisk,
          ((hnext a).compiled middle).trans hcompiled⟩
  exact ⟨fun start other => (hbind start other).1, fun start => (hbind start start).2.1,
    fun start => (hbind start start).2.2⟩

theorem ignoresMemory_federate : IgnoresMemory (federate c config request) := by
  unfold federate
  split
  · exact IgnoresMemory.pure _
  · exact ignoresMemory_checkFederation.then fun _ => IgnoresMemory.pure _

theorem ignoresMemory_checkDelegation : IgnoresMemory (checkDelegation c request) := by
  unfold checkDelegation
  split
  · exact IgnoresMemory.pure _
  · have hasked : IgnoresMemory (modify fun p =>
        { p with asked := some (delegation request.agent request.actingFor) } : Gate Unit) :=
      ⟨fun _ _ => rfl, fun _ => rfl, fun _ => rfl⟩
    refine hasked.then fun _ => ?_
    split
    · split
      · exact IgnoresMemory.refuse _
      · exact IgnoresMemory.pure _
    · exact IgnoresMemory.refuse _

theorem preservesMemory_readSignals : PreservesMemory l key now (readSignals request now) := by
  intro start hordered
  have hpruned : SameMemory l key now (start.signalsRead request now) start :=
    ⟨hordered.prune _ _, hordered, (sameFor_prune _ _ _ _).symm, .refl _ _⟩
  exact hpruned

/-- A caller of whom two trackers tell the same gets the same signals. -/
theorem respectsMemory_readSignals :
    RespectsMemory l (Risk.Tracker.key request.orgId.text request.agent) now
      (readSignals request now) := by
  intro start other hsame
  have hsignals : (other.signals request now) = (start.signals request now) :=
    hsame.risk.signals_eq
  refine ⟨congrArg Except.ok hsignals, ?_⟩
  have hforgotten := fun (t : Risk.Tracker) =>
    sameFor_prune t (Risk.Tracker.key request.orgId.text request.agent)
      (Risk.Tracker.key request.orgId.text request.agent) now
  have hread : SameMemory l (Risk.Tracker.key request.orgId.text request.agent) now
      (start.signalsRead request now) (other.signalsRead request now) :=
    ⟨hsame.ordered.prune _ _, hsame.otherOrdered.prune _ _,
      ((hforgotten start.risk).symm.trans hsame.risk).trans (hforgotten other.risk),
      hsame.compiled⟩
  exact hread

/-- Preparing the artifact of a stored version keeps only what the version makes. -/
theorem preservesMemory_artifactOf {policyId : Uuid} {evaluator : Evaluator}
    {version : PolicyVersion} (hstored : Stored l policyId evaluator version) :
    PreservesMemory l key now (artifactOf evaluator policyId version) := by
  intro start hordered
  rw [artifactOf_apply]
  cases hget : start.compiled.get? policyId version.version with
  | some artifact => exact .refl hordered
  | none =>
      dsimp only
      cases hcompile : evaluator.compile version.body with
      | error e => exact .refl hordered
      | ok artifact =>
          exact ⟨hordered, hordered, .refl _ _ _, covers_put (hstored.makes_iff.mpr hcompile) hget⟩

/-- The artifact of a stored version is the same whether it was kept on behalf of somebody else or
has to be compiled. -/
theorem respectsMemory_artifactOf {policyId : Uuid} {evaluator : Evaluator}
    {version : PolicyVersion} (hstored : Stored l policyId evaluator version) :
    RespectsMemory l key now (artifactOf evaluator policyId version) := by
  intro start other hsame
  obtain ⟨hordered, hotherOrdered, hrisk, hcovers⟩ := hsame
  rw [artifactOf_apply, artifactOf_apply]
  cases hother : other.compiled.get? policyId version.version with
  | some artifact =>
      rw [hcovers.kept _ _ _ hother]
      exact ⟨rfl, hordered, hotherOrdered, hrisk, hcovers⟩
  | none =>
      cases hget : start.compiled.get? policyId version.version with
      | some artifact =>
          have hcompile := hstored.makes_iff.mp (hcovers.made _ _ _ hget hother)
          dsimp only
          rw [hcompile]
          exact ⟨rfl, hordered, hotherOrdered, hrisk, hcovers.put_other hget⟩
      | none =>
          dsimp only
          cases hcompile : evaluator.compile version.body with
          | error e => exact ⟨rfl, hordered, hotherOrdered, hrisk, hcovers⟩
          | ok artifact =>
              have hput := (covers_put (hstored.makes_iff.mpr hcompile) hget).trans hcovers
              exact ⟨rfl, hordered, hotherOrdered, hrisk, hput.put_other (by simp [get?_put])⟩

/-! ## Evaluations -/

theorem preservesMemory_evaluate (hfaithful : Faithful c l) (config : Config) (request : Request)
    (on : Occasion) : PreservesMemory l key on.signalsClock (evaluate c config request on) := by
  refine ignoresMemory_selectAssignment.preservesMemory.bind fun selected _ _ hselect => ?_
  have hselected := selected?_of_passes hselect
  refine ignoresMemory_federate.preservesMemory.bind fun federation _ _ _ =>
    ignoresMemory_checkDelegation.preservesMemory.bind fun _ _ _ _ =>
      preservesMemory_readSignals.bind fun signals _ _ _ => ?_
  split
  · exact (IgnoresMemory.refuse _).preservesMemory
  next evaluator hevaluator =>
    refine (preservesMemory_artifactOf (hfaithful.stored hselected hevaluator)).bind
      fun artifact _ _ _ => ?_
    dsimp only
    split
    · exact (IgnoresMemory.refuse _).preservesMemory
    · exact (IgnoresMemory.pure _).preservesMemory

theorem respectsMemory_evaluate (hfaithful : Faithful c l) (config : Config) (request : Request)
    (on : Occasion) :
    RespectsMemory l (Risk.Tracker.key request.orgId.text request.agent) on.signalsClock
      (evaluate c config request on) := by
  refine ignoresMemory_selectAssignment.respectsMemory.bind fun selected _ _ hselect => ?_
  have hselected := selected?_of_passes hselect
  refine ignoresMemory_federate.respectsMemory.bind fun federation _ _ _ =>
    ignoresMemory_checkDelegation.respectsMemory.bind fun _ _ _ _ =>
      respectsMemory_readSignals.bind fun signals _ _ _ => ?_
  split
  · exact (IgnoresMemory.refuse _).respectsMemory
  next evaluator hevaluator =>
    refine (respectsMemory_artifactOf (hfaithful.stored hselected hevaluator)).bind
      fun artifact _ _ _ => ?_
    dsimp only
    split
    · exact (IgnoresMemory.refuse _).respectsMemory
    · exact (IgnoresMemory.pure _).respectsMemory

end Evaluation

/-! ## Decisions -/

namespace Engine

open Evaluation

variable {e e' e'' : Engine} {request : Request} {on : Occasion} {key : String} {now : Nat}

/-- The engine without its tracker and its kept artifacts. -/
def withoutMemory (e : Engine) : Engine :=
  { e with risk := .start 0 0, lifecycle := { e.lifecycle with compiled := {} } }

/-- What no decision changes: the engine without its records and without its memory. -/
def bare (e : Engine) : Engine := e.withoutRecords.withoutMemory

/-- What an evaluation finds of earlier ones. -/
def found (e : Engine) : Progress := { risk := e.risk, compiled := e.lifecycle.compiled }

/-- An engine that admits everybody, whose graph keeps no answers and whose records are well
formed. -/
structure Open (e : Engine) : Prop where
  unlimited : e.config.maxInflight = 0
  uncached : e.graph.cache = none
  wellFormed : e.lifecycle.repository.WellFormed

theorem Open.of_bare (hopen : e.Open) (hbare : e'.bare = e.bare) : e'.Open where
  unlimited := (congrArg (fun e => e.config.maxInflight) hbare).trans hopen.unlimited
  uncached := (congrArg (fun e => e.graph.cache) hbare).trans hopen.uncached
  wellFormed := by
    have hrepository := congrArg (fun e => e.lifecycle.repository) hbare
    exact (show e'.lifecycle.repository = e.lifecycle.repository from hrepository) ▸
      hopen.wellFormed

theorem Open.admits (hopen : e.Open) : e.admits = true := by
  simp [Engine.admits, hopen.unlimited]

theorem collaborators_of_bare (hbare : e'.bare = e.bare) (clock : Nat) :
    e'.collaborators clock = e.collaborators clock :=
  congrArg (fun e => e.collaborators clock) hbare

theorem sameSigner_of_bare (hbare : e'.bare = e.bare) : e.SameSigner e' := by
  have hconfig := congrArg Engine.config hbare
  have hsigner := congrArg Engine.signer hbare
  exact ⟨hconfig, hsigner⟩

/-- What an evaluation leaves behind is memory only, unless the graph keeps answers. -/
theorem bare_keeping (huncached : e.graph.cache = none) (clock : Nat) (progress : Progress) :
    (e.keeping clock progress).bare = e.bare := by
  have hgraph : (e.keeping clock progress).graph = e.graph := by
    unfold keeping
    cases progress.asked with
    | none => rfl
    | some question =>
        simp [Relation.Client.check, Relation.Client.checkWhile, Relation.Client.checkTimed,
          huncached]
  have hkeeping : e.keeping clock progress =
      { e with risk := progress.risk
               lifecycle := { e.lifecycle with compiled := progress.compiled } } := by
    rw [← hgraph]
    rfl
  rw [hkeeping]
  rfl

/-- A decision changes nothing but the records, the tracker and the kept artifacts. -/
theorem Open.bare_decide (hopen : e.Open) (request : Request) (on : Occasion)
    (stamps : Nat → Stamp) : (e.decide request on stamps).2.bare = e.bare := by
  have hkept := withoutRecords_decideWith hopen.admits (e.collaborators on.clock) request on
    stamps
  exact (congrArg withoutMemory hkept).trans (bare_keeping hopen.uncached _ _)

theorem Open.found_decide (hopen : e.Open) (request : Request) (on : Occasion)
    (stamps : Nat → Stamp) : (e.decide request on stamps).2.found =
      { risk := (evaluate (e.collaborators on.clock) e.config request on
          (e.entering request on)).2.risk
        compiled := (evaluate (e.collaborators on.clock) e.config request on
          (e.entering request on)).2.compiled } := by
  have hkept := withoutRecords_decideWith hopen.admits (e.collaborators on.clock) request on
    stamps
  exact congrArg found hkept

/-- Two engines that are the same but for their records and their memory, which is the same for a
caller. -/
structure SameUpToMemory (key : String) (now : Nat) (e e' : Engine) : Prop where
  bare : e'.bare = e.bare
  found : SameMemory e.bare.lifecycle key now e.found e'.found

theorem SameUpToMemory.trans (hone : SameUpToMemory key now e e')
    (hother : SameUpToMemory key now e' e'') : SameUpToMemory key now e e'' where
  bare := hother.bare.trans hone.bare
  found := hone.found.trans (hone.bare ▸ hother.found)

theorem SameUpToMemory.mono {later : Nat} (hsameUpTo : SameUpToMemory key now e e')
    (hle : now ≤ later) : SameUpToMemory key later e e' where
  bare := hsameUpTo.bare
  found := hsameUpTo.found.mono hle

theorem Open.faithful (hopen : e.Open) (clock : Nat) :
    Faithful (e.collaborators clock) e.bare.lifecycle := by
  have hcollaborators : e.bare.collaborators clock = e.collaborators clock := rfl
  have hwell : e.bare.lifecycle.repository.WellFormed := hopen.wellFormed
  rw [← hcollaborators]
  exact faithful_collaborators hwell clock

/-- The decision of another caller does not show. -/
theorem Open.sameUpToMemory_decide (hopen : e.Open) (hordered : e.risk.Ordered)
    (hother : key ≠ Risk.Tracker.key request.orgId.text request.agent) (stamps : Nat → Stamp) :
    SameUpToMemory key on.signalsClock (e.decide request on stamps).2 e where
  bare := (hopen.bare_decide request on stamps).symm
  found := by
    have hrecorded : SameFor key on.clock e.risk (e.entering request on).risk :=
      sameFor_record_of_ne hordered hother on.clock
    have hentered : SameMemory e.bare.lifecycle key on.clock (e.entering request on) e.found :=
      ⟨hordered.record _ _ _, hordered, hrecorded.symm, .refl _ _⟩
    have hsame := (preservesMemory_evaluate (hopen.faithful on.clock) e.config request on _
      hentered.ordered).trans (hentered.mono on.clock_le_signalsClock)
    rw [hopen.bare_decide, hopen.found_decide]
    exact ⟨hsame.ordered, hsame.otherOrdered, hsame.risk, hsame.compiled⟩

/-- The caller itself is answered alike, and then both engines still tell the same of it. -/
theorem SameUpToMemory.decide (hopen : e.Open)
    (hsameUpTo : SameUpToMemory (Risk.Tracker.key request.orgId.text request.agent) on.clock e e')
    (stamps : Nat → Stamp) :
    (e'.decide request on stamps).1 = (e.decide request on stamps).1 ∧
      SameUpToMemory (Risk.Tracker.key request.orgId.text request.agent) on.signalsClock
        (e.decide request on stamps).2 (e'.decide request on stamps).2 := by
  have hopen' := hopen.of_bare hsameUpTo.bare
  have hcollaborators := collaborators_of_bare hsameUpTo.bare on.clock
  have hsame := sameSigner_of_bare hsameUpTo.bare
  have hconfig := hsame.1
  obtain ⟨hordered, hotherOrdered, hrisk, hcompiled⟩ := hsameUpTo.found
  have hentered : SameMemory e.bare.lifecycle (Risk.Tracker.key request.orgId.text request.agent)
      on.clock (e.entering request on) (e'.entering request on) :=
    ⟨hordered.record _ _ _, hotherOrdered.record _ _ _, hrisk.record hordered hotherOrdered,
      hcompiled⟩
  obtain ⟨hresult, hafter⟩ := respectsMemory_evaluate (hopen.faithful on.clock) e.config request on
    _ _ (hentered.mono on.clock_le_signalsClock)
  constructor
  · rw [Engine.decide, hcollaborators]
    refine hsame.decideWith_eq hopen.admits hopen'.admits ?_ stamps
    rw [hconfig]
    exact hresult
  · refine ⟨?_, ?_⟩
    · rw [hopen.bare_decide, hopen'.bare_decide]
      exact hsameUpTo.bare
    · rw [hopen.bare_decide, hopen.found_decide, hopen'.found_decide, hcollaborators, hconfig]
      exact ⟨hafter.ordered, hafter.otherOrdered, hafter.risk, hafter.compiled⟩

/-! ## Runs -/

/-- The responses to requests that come one after the other, each on an occasion of its own. -/
def answers (e : Engine) (stamps : Nat → Stamp) (calls : List (Request × Occasion)) :
    List Response :=
  (e.decideAll (fun n => ((calls.map Prod.snd)[n]?).getD default) stamps (calls.map Prod.fst)).1

theorem answers_cons (e : Engine) (stamps : Nat → Stamp) (call : Request × Occasion)
    (calls : List (Request × Occasion)) :
    e.answers stamps (call :: calls) = (e.decide call.1 call.2 stamps).1 ::
      (e.decide call.1 call.2 stamps).2.answers stamps calls := rfl

/-- Whether a request comes from an agent of an organisation. A caller without a name counts as one
with the empty name. -/
def isFrom (org : Uuid) (agent : String) (call : Request × Occasion) : Bool :=
  call.1.orgId = org && call.1.agent = agent

theorem isFrom_iff {org : Uuid} {agent : String} {call : Request × Occasion} :
    isFrom org agent call = true ↔ call.1.orgId = org ∧ call.1.agent = agent := by
  simp [isFrom]

/-- The responses to the requests of one caller among those to all requests. -/
def answersTo (e : Engine) (stamps : Nat → Stamp) (calls : List (Request × Occasion)) (org : Uuid)
    (agent : String) : List Response :=
  ((calls.zip (e.answers stamps calls)).filter fun answered =>
    isFrom org agent answered.1).map Prod.snd

theorem answersTo_cons (e : Engine) (stamps : Nat → Stamp) (call : Request × Occasion)
    (calls : List (Request × Occasion)) (org : Uuid) (agent : String) :
    e.answersTo stamps (call :: calls) org agent =
      (if isFrom org agent call then [(e.decide call.1 call.2 stamps).1] else []) ++
        (e.decide call.1 call.2 stamps).2.answersTo stamps calls org agent := by
  unfold answersTo
  rw [answers_cons, List.zip_cons_cons, List.filter_cons]
  split <;> rfl

/-- The caller is answered by both engines alike, also when only the first one decides the requests
of others. -/
theorem SameUpToMemory.answersTo_eq {org : Uuid} {agent : String}
    {calls : List (Request × Occasion)} (hopen : e.Open)
    (hsameUpTo : SameUpToMemory (Risk.Tracker.key org.text agent) now e e')
    (hclocks : calls.Pairwise fun a b => a.2.signalsClock ≤ b.2.clock)
    (hlater : ∀ call ∈ calls, now ≤ call.2.clock) (stamps : Nat → Stamp) :
    e.answersTo stamps calls org agent = e'.answers stamps (calls.filter (isFrom org agent)) := by
  induction calls generalizing e e' now with
  | nil => rfl
  | cons call calls ih =>
      obtain ⟨hhead, htail⟩ := List.pairwise_cons.mp hclocks
      have hsameUpTo := hsameUpTo.mono (hlater call List.mem_cons_self)
      have hopened := hopen.of_bare (hopen.bare_decide call.1 call.2 stamps)
      rw [answersTo_cons]
      by_cases hown : isFrom org agent call = true
      · obtain ⟨rfl, rfl⟩ := isFrom_iff.mp hown
        obtain ⟨hresponse, hafter⟩ := hsameUpTo.decide hopen stamps
        rw [if_pos hown, List.filter_cons_of_pos hown, answers_cons, hresponse,
          ih hopened hafter htail hhead]
        rfl
      · have hother : Risk.Tracker.key org.text agent ≠
            Risk.Tracker.key call.1.orgId.text call.1.agent := by
          intro heq
          obtain ⟨horg, hagent⟩ := Risk.Tracker.key_injective heq
          exact hown (isFrom_iff.mpr ⟨horg.symm, hagent.symm⟩)
        have hdecided : SameUpToMemory (Risk.Tracker.key org.text agent) call.2.signalsClock
            (e.decide call.1 call.2 stamps).2 e :=
          hopen.sameUpToMemory_decide hsameUpTo.found.ordered hother stamps
        have hafter := hdecided.trans (hsameUpTo.mono call.2.clock_le_signalsClock)
        rw [if_neg hown, List.filter_cons_of_neg hown, List.nil_append,
          ih hopened hafter htail hhead]

/-- An agent is answered as if nobody else had ever asked: where requests are decided one after the
other on a clock that does not run backwards, by an engine that admits everybody and whose graph
keeps no answers, leaving out all requests of other callers does not change the responses to the
requests of an agent. -/
theorem agents_isolated {e : Engine} {calls : List (Request × Occasion)}
    (hunlimited : e.config.maxInflight = 0) (huncached : e.graph.cache = none)
    (hwell : e.lifecycle.repository.WellFormed) (hordered : e.risk.Ordered)
    (hclocks : calls.Pairwise fun a b => a.2.signalsClock ≤ b.2.clock) (org : Uuid)
    (agent : String) (stamps : Nat → Stamp) :
    e.answersTo stamps calls org agent = e.answers stamps (calls.filter (isFrom org agent)) := by
  have hsameUpTo : SameUpToMemory (Risk.Tracker.key org.text agent) 0 e e := ⟨rfl, .refl hordered⟩
  exact hsameUpTo.answersTo_eq ⟨hunlimited, huncached, hwell⟩ hclocks (fun _ _ => Nat.zero_le _)
    stamps

/-- A request of an agent, another one of a caller without a name, and a second one of the agent. -/
def visits : List (Request × Occasion) :=
  [({ orgId := ⟨9⟩, agentId := some "a" },
      { (default : Occasion) with clock := 1, untilSignalsMs := 1 }),
    ({ orgId := ⟨9⟩ }, { (default : Occasion) with clock := 2 }),
    ({ orgId := ⟨9⟩, agentId := some "a" }, { (default : Occasion) with clock := 2 })]

/-- The agent gets the two responses that it would get without the request in between. -/
theorem visits_isolated :
    warmed.config.maxInflight = 0 ∧ warmed.graph.cache = none ∧
    warmed.lifecycle.repository.WellFormed ∧ warmed.risk.Ordered ∧
    visits.Pairwise (fun a b => a.2.signalsClock ≤ b.2.clock) ∧
    (visits.filter (isFrom ⟨9⟩ "a")).length = 2 ∧
    warmed.answersTo (fun _ => default) visits ⟨9⟩ "a" =
      warmed.answers (fun _ => default) (visits.filter (isFrom ⟨9⟩ "a")) := by
  have hwell : warmed.lifecycle.repository.WellFormed :=
    (Consistent.of_reached rfl Repository.WellFormed.empty reached_warmed).wellFormed
  have hordered : warmed.risk.Ordered := Risk.Tracker.Ordered.start _ _
  have hclocks : visits.Pairwise fun a b => a.2.signalsClock ≤ b.2.clock := by decide
  exact ⟨rfl, rfl, hwell, hordered, hclocks, by decide,
    agents_isolated rfl rfl hwell hordered hclocks ⟨9⟩ "a" fun _ => default⟩

end Engine

end Mandate
