import Mandate.Rules.RuleSet
import Mathlib.Data.List.Basic

/-! # Which rule decides

A run over rules is a fold over those that it looks at: all of them, or those up to the first
matching deny rule if deny rules are final. So what decides is a matter of which rules match, and
not of how the run gets there. If deny rules are final, the order of the rules does not count;
otherwise the last matching rule decides.
-/

namespace Mandate.Rules

open Mandate.Json

/-! ## Violations of a schema -/

/-- What is wrong with an input document: it is no object, it lacks a required member, or a member
of it is not of the kind that its property asks for. -/
inductive Schema.Violation (schema : Schema) : Value → String → Prop where
  | notObject {input : Value} (hinput : input.members? = none) :
      Violation schema input "input is not valid JSON object"
  | missing {members : Members} {name : String} (hrequired : name ∈ schema.required)
      (hmissing : ∀ member ∈ members, member.1 ≠ name) :
      Violation schema (.object members) s!"missing required field '{name}'"
  | mistyped {members : Members} {name : String} {kind : Kind} {value : Value}
      (hproperty : (name, kind) ∈ schema.properties) (hvalue : members.get? name = some value)
      (hkind : kind.accepts value = false) :
      Violation schema (.object members) ("field '" ++ name ++ "' expected type " ++ kind.name)

theorem Members.has_eq_false_iff {members : Members} {name : String} :
    Members.has members name = false ↔ ∀ member ∈ members, member.1 ≠ name := by
  simp [Members.has]

/-- Everything that is wrong is listed, and nothing else. -/
theorem Schema.mem_violations_iff {schema : Schema} {input : Value} {message : String} :
    message ∈ schema.violations input ↔ schema.Violation input message := by
  cases input with
  | object members =>
      simp only [violations, List.mem_append, List.mem_map, List.mem_filter, List.mem_filterMap]
      constructor
      · rintro (⟨name, ⟨hrequired, hmissing⟩, rfl⟩ | ⟨⟨name, kind⟩, hproperty, hvalue⟩)
        · exact .missing hrequired (Members.has_eq_false_iff.mp (by simpa using hmissing))
        · obtain ⟨value, hfound, hmessage⟩ := Option.bind_eq_some_iff.mp hvalue
          split at hmessage
          next => cases hmessage
          next hkind =>
            cases hmessage
            exact .mistyped hproperty hfound (by simpa using hkind)
      · rintro (hinput | ⟨hrequired, hmissing⟩ | ⟨hproperty, hvalue, hkind⟩)
        · cases hinput
        · exact .inl ⟨_, ⟨hrequired, by simpa using Members.has_eq_false_iff.mpr hmissing⟩, rfl⟩
        · refine .inr ⟨_, hproperty, ?_⟩
          simp [hvalue, hkind]
  | _ =>
      simp only [violations, List.mem_singleton]
      constructor
      · rintro rfl
        exact .notObject rfl
      · rintro ⟨-⟩
        rfl

/-! ## One rule -/

/-- The reason that a matching rule of an effect gives. -/
def Effect.reason : Effect → Reason
  | .allow => .allowed
  | .deny => .denied

namespace Rule

/-- The rule has the given effect, and its condition holds. -/
def Fires (effect : Effect) (input : Value) (rule : Rule) : Prop :=
  rule.effect = effect ∧ rule.condition.holds input = true

instance (effect : Effect) (input : Value) (rule : Rule) :
    Decidable (rule.Fires effect input) :=
  inferInstanceAs (Decidable (_ ∧ _))

/-- What a trace tells of a rule that was looked at. -/
def outcome (input : Value) (rule : Rule) : RuleTrace :=
  ⟨rule.id, rule.condition.holds input, rule.effect.name, none⟩

end Rule

namespace RuleSet

variable {input : Value} {denyOverrides : Bool} {rules before after : List Rule} {rule : Rule}

/-- The verdict after one more rule was looked at. -/
def Verdict.follow (input : Value) (verdict : Verdict) (rule : Rule) : Verdict :=
  if rule.condition.holds input then
    ⟨rule.effect = .allow, rule.effect.reason, verdict.visited ++ [rule.outcome input]⟩
  else { verdict with visited := verdict.visited ++ [rule.outcome input] }

/-- A matching deny rule is the last one that is looked at if deny rules are final. -/
theorem run_cons (verdict : Verdict) (rule : Rule) (rest : List Rule) :
    run denyOverrides input verdict (rule :: rest) =
      if denyOverrides = true ∧ rule.Fires .deny input then verdict.follow input rule
      else run denyOverrides input (verdict.follow input rule) rest := by
  cases hholds : rule.condition.holds input with
  | false => simp [run, Verdict.follow, Rule.Fires, Rule.outcome, hholds]
  | true =>
      cases heffect : rule.effect <;> cases denyOverrides <;>
        simp [run, Verdict.follow, Rule.Fires, Rule.outcome, Effect.reason, hholds, heffect]

/-- A run that does not come to a final rule looks at every rule. -/
theorem run_eq_foldl (hnone : denyOverrides = true → ∀ rule ∈ rules, ¬ rule.Fires .deny input)
    (verdict : Verdict) :
    run denyOverrides input verdict rules = rules.foldl (Verdict.follow input) verdict := by
  induction rules generalizing verdict with
  | nil => rfl
  | cons rule rest ih =>
      have hrule : ¬ (denyOverrides = true ∧ rule.Fires .deny input) :=
        fun ⟨hfinal, hfires⟩ => hnone hfinal rule List.mem_cons_self hfires
      rw [run_cons, if_neg hrule, List.foldl_cons]
      exact ih (fun hfinal other hother => hnone hfinal other (List.mem_cons_of_mem _ hother)) _

/-- A run looks at the rules up to the first matching deny rule if deny rules are final. -/
theorem run_append_cons (hbefore : ∀ rule ∈ before, ¬ rule.Fires .deny input)
    (hrule : rule.Fires .deny input) (verdict : Verdict) :
    run true input verdict (before ++ rule :: after) =
      (before ++ [rule]).foldl (Verdict.follow input) verdict := by
  induction before generalizing verdict with
  | nil => exact (run_cons verdict rule after).trans (if_pos ⟨rfl, hrule⟩)
  | cons head rest ih =>
      have hhead : ¬ (true = true ∧ head.Fires .deny input) :=
        fun hfires => hbefore head List.mem_cons_self hfires.2
      rw [List.cons_append, run_cons, if_neg hhead, List.cons_append, List.foldl_cons]
      exact ih (fun other hother => hbefore other (List.mem_cons_of_mem _ hother)) _

/-! ## What is known after many rules -/

theorem visited_foldl (rules : List Rule) (verdict : Verdict) :
    (rules.foldl (Verdict.follow input) verdict).visited =
      verdict.visited ++ rules.map (Rule.outcome input) := by
  induction rules generalizing verdict with
  | nil => exact (List.append_nil _).symm
  | cons rule rest ih =>
      have hfollow : (verdict.follow input rule).visited =
          verdict.visited ++ [rule.outcome input] := by
        unfold Verdict.follow
        split <;> rfl
      rw [List.foldl_cons, ih, hfollow, List.append_assoc]
      rfl

/-- Rules that do not match leave the verdict as it was. -/
theorem foldl_of_no_match (hnone : ∀ rule ∈ rules, rule.condition.holds input = false)
    (verdict : Verdict) :
    (rules.foldl (Verdict.follow input) verdict).allow = verdict.allow ∧
      (rules.foldl (Verdict.follow input) verdict).reason = verdict.reason := by
  induction rules generalizing verdict with
  | nil => exact ⟨rfl, rfl⟩
  | cons rule rest ih =>
      obtain ⟨hrule, hrest⟩ := List.forall_mem_cons.mp hnone
      obtain ⟨hallow, hreason⟩ := ih hrest (verdict.follow input rule)
      rw [List.foldl_cons, hallow, hreason]
      unfold Verdict.follow
      rw [if_neg (by simp [hrule])]
      exact ⟨rfl, rfl⟩

/-- The last matching rule decides. -/
theorem foldl_of_last_match (before : List Rule) (hrule : rule.condition.holds input = true)
    (hafter : ∀ rule ∈ after, rule.condition.holds input = false) (verdict : Verdict) :
    ((before ++ rule :: after).foldl (Verdict.follow input) verdict).allow =
        decide (rule.effect = .allow) ∧
      ((before ++ rule :: after).foldl (Verdict.follow input) verdict).reason =
        rule.effect.reason := by
  rw [List.foldl_append, List.foldl_cons]
  obtain ⟨hallow, hreason⟩ := foldl_of_no_match hafter
    ((before.foldl (Verdict.follow input) verdict).follow input rule)
  rw [hallow, hreason]
  unfold Verdict.follow
  rw [if_pos hrule]
  exact ⟨rfl, rfl⟩

/-- The last of the rules that match, if one does. -/
theorem exists_last_match (hmatch : ∃ rule ∈ rules, rule.condition.holds input = true) :
    ∃ before rule after, rules = before ++ rule :: after ∧
      rule.condition.holds input = true ∧
      ∀ rule ∈ after, rule.condition.holds input = false := by
  induction rules with
  | nil => simp at hmatch
  | cons head rest ih =>
      by_cases hrest : ∃ rule ∈ rest, rule.condition.holds input = true
      · obtain ⟨before, rule, after, rfl, hrule, hafter⟩ := ih hrest
        exact ⟨head :: before, rule, after, rfl, hrule, hafter⟩
      · refine ⟨[], head, rest, rfl, ?_, ?_⟩
        · obtain ⟨rule, hmem, hholds⟩ := hmatch
          rcases List.mem_cons.mp hmem with rfl | hmem
          · exact hholds
          · exact absurd ⟨rule, hmem, hholds⟩ hrest
        · intro rule hrule
          exact Bool.eq_false_iff.mpr fun hholds => hrest ⟨rule, hrule, hholds⟩

/-- The first matching deny rule, if there is one. -/
theorem exists_first_deny (hdeny : ∃ rule ∈ rules, rule.Fires .deny input) :
    ∃ before rule after, rules = before ++ rule :: after ∧ rule.Fires .deny input ∧
      ∀ rule ∈ before, ¬ rule.Fires .deny input := by
  have hfound : (rules.find? fun rule => rule.Fires .deny input).isSome = true := by
    simpa using hdeny
  obtain ⟨rule, hrule⟩ := Option.isSome_iff_exists.mp hfound
  obtain ⟨hfires, before, after, heq, hbefore⟩ := List.find?_eq_some_iff_append.mp hrule
  exact ⟨before, rule, after, heq, by simpa using hfires, fun other hother => by
    simpa using hbefore other hother⟩

/-- A matching deny rule that is final refuses. -/
theorem run_of_deny (hdeny : ∃ rule ∈ rules, rule.Fires .deny input) (verdict : Verdict) :
    (run true input verdict rules).allow = false ∧
      (run true input verdict rules).reason = .denied := by
  obtain ⟨before, rule, after, rfl, hrule, hbefore⟩ := exists_first_deny hdeny
  rw [run_append_cons hbefore hrule]
  obtain ⟨hallow, hreason⟩ :=
    foldl_of_last_match before hrule.2 (List.forall_mem_nil _) verdict
  rw [hallow, hreason, hrule.1]
  exact ⟨rfl, rfl⟩

/-- Without a matching deny rule, a matching allow rule allows. -/
theorem run_of_allow (hallow : ∃ rule ∈ rules, rule.Fires .allow input)
    (hdeny : ¬ ∃ rule ∈ rules, rule.Fires .deny input) (verdict : Verdict) :
    (run denyOverrides input verdict rules).allow = true ∧
      (run denyOverrides input verdict rules).reason = .allowed := by
  obtain ⟨rule, hmem, hfires⟩ := hallow
  obtain ⟨before, last, after, rfl, hlast, hafter⟩ := exists_last_match ⟨rule, hmem, hfires.2⟩
  rw [run_eq_foldl fun _ other hother hfires => hdeny ⟨other, hother, hfires⟩]
  have heffect : last.effect = .allow := by
    cases heq : last.effect with
    | allow => rfl
    | deny => exact absurd ⟨last, by simp, heq, hlast⟩ hdeny
  obtain ⟨hallow, hreason⟩ := foldl_of_last_match before hlast hafter verdict
  rw [hallow, hreason, heffect]
  exact ⟨rfl, rfl⟩

/-- If no rule matches, the verdict stays as it was. -/
theorem run_of_no_match (hnone : ∀ rule ∈ rules, rule.condition.holds input = false)
    (verdict : Verdict) :
    (run denyOverrides input verdict rules).allow = verdict.allow ∧
      (run denyOverrides input verdict rules).reason = verdict.reason := by
  have hdeny : ∀ rule ∈ rules, ¬ rule.Fires .deny input :=
    fun rule hrule hfires => Bool.false_ne_true ((hnone rule hrule).symm.trans hfires.2)
  rw [run_eq_foldl fun _ => hdeny]
  exact foldl_of_no_match hnone verdict

/-- What a run comes to if deny rules are final. -/
theorem run_cases (rules : List Rule) (input : Value) (verdict : Verdict) :
    ((∃ rule ∈ rules, rule.Fires .deny input) ∧
        (run true input verdict rules).allow = false ∧
        (run true input verdict rules).reason = .denied) ∨
      ((¬ ∃ rule ∈ rules, rule.Fires .deny input) ∧ (∃ rule ∈ rules, rule.Fires .allow input) ∧
        (run true input verdict rules).allow = true ∧
        (run true input verdict rules).reason = .allowed) ∨
      ((¬ ∃ rule ∈ rules, rule.Fires .deny input) ∧
        (¬ ∃ rule ∈ rules, rule.Fires .allow input) ∧
        (run true input verdict rules).allow = verdict.allow ∧
        (run true input verdict rules).reason = verdict.reason) := by
  by_cases hdeny : ∃ rule ∈ rules, rule.Fires .deny input
  · exact .inl ⟨hdeny, run_of_deny hdeny verdict⟩
  · by_cases hallow : ∃ rule ∈ rules, rule.Fires .allow input
    · exact .inr (.inl ⟨hdeny, hallow, run_of_allow hallow hdeny verdict⟩)
    · refine .inr (.inr ⟨hdeny, hallow, run_of_no_match (fun rule hrule => ?_) verdict⟩)
      rw [Bool.eq_false_iff]
      intro hholds
      cases heffect : rule.effect with
      | allow => exact hallow ⟨rule, hrule, heffect, hholds⟩
      | deny => exact hdeny ⟨rule, hrule, heffect, hholds⟩

/-! ## The decision -/

/-- What is decided, and for what reason, if deny rules are final. -/
structure DenyFinal (set : RuleSet) (input : Value) (decision : Decision)
    (visited : List RuleTrace) : Prop where
  allow_iff : decision.allow = true ↔
    (∃ rule ∈ set.rules, rule.Fires .allow input) ∧ ¬ ∃ rule ∈ set.rules, rule.Fires .deny input
  denied_iff : decision.reason = "Matched deny rule" ↔ ∃ rule ∈ set.rules, rule.Fires .deny input
  allowed_iff : decision.reason = "Matched allow rule" ↔ decision.allow = true
  noMatch_iff : decision.reason = "No matching allow rule" ↔
    decision.allow = false ∧ ¬ ∃ rule ∈ set.rules, rule.Fires .deny input
  /-- Without a matching deny rule every rule is looked at. -/
  visited_all : (¬ ∃ rule ∈ set.rules, rule.Fires .deny input) →
    visited = set.rules.map (Rule.outcome input)
  /-- The first matching deny rule is the last rule that is looked at. -/
  visited_first_deny : ∀ before rule after, set.rules = before ++ rule :: after →
    rule.Fires .deny input → (∀ other ∈ before, ¬ other.Fires .deny input) →
    visited = (before ++ [rule]).map (Rule.outcome input)

/-- What is decided, and for what reason, if a later rule always counts more. -/
structure LastMatch (set : RuleSet) (input : Value) (decision : Decision)
    (visited : List RuleTrace) : Prop where
  decides : ∀ before rule after, set.rules = before ++ rule :: after →
    rule.condition.holds input = true →
    (∀ other ∈ after, other.condition.holds input = false) →
    (rule.effect = .allow → decision.allow = true ∧ decision.reason = "Matched allow rule") ∧
      (rule.effect = .deny → decision.allow = false ∧ decision.reason = "Matched deny rule")
  noMatch : (∀ rule ∈ set.rules, rule.condition.holds input = false) →
    decision.allow = false ∧ decision.reason = "No matching allow rule"
  visited_all : visited = set.rules.map (Rule.outcome input)

/-- The input violates the schema of the set in the way that the message tells. -/
def Violates (set : RuleSet) (input : Value) (message : String) : Prop :=
  ∃ schema, set.schema = some schema ∧ schema.Violation input message

theorem mem_violations_iff {set : RuleSet} {message : String} :
    message ∈ set.violations input ↔ set.Violates input message := by
  unfold violations Violates
  cases set.schema with
  | none => simp
  | some schema => simp [Schema.mem_violations_iff]

/-- The verdict of the rules on an input. -/
def verdict (set : RuleSet) (input : Value) : Verdict :=
  run set.denyOverrides input ⟨false, .noMatch, []⟩ set.rules

/-- What an input that does not violate the schema comes to. -/
theorem evaluate_of_valid {set : RuleSet} (hvalid : set.violations input = []) (timing : Timing) :
    set.evaluate input timing =
      { allow := (set.verdict input).allow
        reason := (set.verdict input).reason.message
        traceId := Digest.traceId input set.body
        trace := some { Trace.start engineName input timing with
          evaluatedRules := (set.verdict input).visited }
        requireApproval := false
        hints := [] } := by
  simp [evaluate, verdict, hvalid]

/-- What an input that violates the schema comes to. -/
theorem evaluate_of_violated {set : RuleSet} (hviolated : set.violations input ≠ [])
    (timing : Timing) :
    set.evaluate input timing =
      { allow := false
        reason := Reason.violations.message
        traceId := Digest.traceId input set.body
        trace := some { Trace.start engineName input timing with
          validations := set.violations input }
        requireApproval := false
        hints := [] } := by
  simp [evaluate, hviolated]

theorem denyFinal_evaluate {set : RuleSet} (hvalid : set.violations input = [])
    (hfinal : set.denyOverrides = true) (timing : Timing) :
    set.DenyFinal input (set.evaluate input timing) (set.verdict input).visited := by
  have hverdict : set.verdict input = run true input ⟨false, .noMatch, []⟩ set.rules := by
    rw [verdict, hfinal]
  have hvisited_all : (¬ ∃ rule ∈ set.rules, rule.Fires .deny input) →
      (set.verdict input).visited = set.rules.map (Rule.outcome input) := by
    intro hdeny
    rw [hverdict, run_eq_foldl fun _ rule hrule hfires => hdeny ⟨rule, hrule, hfires⟩]
    exact visited_foldl set.rules ⟨false, .noMatch, []⟩
  have hvisited_first_deny : ∀ before rule after, set.rules = before ++ rule :: after →
      rule.Fires .deny input → (∀ other ∈ before, ¬ other.Fires .deny input) →
      (set.verdict input).visited = (before ++ [rule]).map (Rule.outcome input) := by
    intro before rule after heq hrule hbefore
    rw [hverdict, heq, run_append_cons hbefore hrule]
    exact visited_foldl (before ++ [rule]) ⟨false, .noMatch, []⟩
  have hcases := run_cases set.rules input ⟨false, .noMatch, []⟩
  rw [← hverdict] at hcases
  rw [evaluate_of_valid hvalid]
  rcases hcases with ⟨hdeny, hallow, hreason⟩ | ⟨hdeny, hgrant, hallow, hreason⟩ |
    ⟨hdeny, hgrant, hallow, hreason⟩
  · exact ⟨by simp only [hallow, hdeny, not_true_eq_false, and_false, Bool.false_eq_true],
      by simp only [hreason, hdeny, Reason.message],
      by simp only [hreason, hallow, Reason.message]; decide,
      by simp only [hreason, hallow, hdeny, Reason.message]; decide,
      hvisited_all, hvisited_first_deny⟩
  · exact ⟨by simp only [hallow, hdeny, hgrant]; decide,
      by simp only [hreason, hdeny, Reason.message]; decide,
      by simp only [hreason, hallow, Reason.message],
      by simp only [hreason, hallow, hdeny, Reason.message]; decide,
      hvisited_all, hvisited_first_deny⟩
  · exact ⟨by simp only [hallow, hdeny, hgrant]; decide,
      by simp only [hreason, hdeny, Reason.message]; decide,
      by simp only [hreason, hallow, Reason.message]; decide,
      by simp only [hreason, hallow, hdeny, Reason.message]; decide,
      hvisited_all, hvisited_first_deny⟩

theorem lastMatch_evaluate {set : RuleSet} (hvalid : set.violations input = [])
    (hlast : set.denyOverrides = false) (timing : Timing) :
    set.LastMatch input (set.evaluate input timing) (set.verdict input).visited := by
  have hverdict : set.verdict input =
      set.rules.foldl (Verdict.follow input) ⟨false, .noMatch, []⟩ :=
    run_eq_foldl (fun hfinal => absurd (hlast.symm.trans hfinal) Bool.false_ne_true) _
  rw [evaluate_of_valid hvalid]
  refine ⟨?_, ?_, ?_⟩
  · intro before rule after heq hrule hafter
    obtain ⟨hallow, hreason⟩ :=
      foldl_of_last_match before hrule hafter ⟨false, .noMatch, []⟩
    rw [← heq, ← hverdict] at hallow hreason
    constructor
    · intro heffect
      simp only [hallow, hreason, heffect, Effect.reason, Reason.message, decide_true, and_self]
    · intro heffect
      simp only [hallow, hreason, heffect, Effect.reason, Reason.message]
      decide
  · intro hnone
    obtain ⟨hallow, hreason⟩ := run_of_no_match hnone ⟨false, .noMatch, []⟩
    exact ⟨hallow, congrArg Reason.message hreason⟩
  · rw [hverdict]
    exact visited_foldl set.rules ⟨false, .noMatch, []⟩

/-- If deny rules are final, the order of the rules does not count for what is decided. -/
theorem allow_evaluate_of_perm {set : RuleSet} (hfinal : set.denyOverrides = true)
    (hperm : set.rules.Perm rules) (timing : Timing) :
    ({ set with rules }.evaluate input timing).allow = (set.evaluate input timing).allow := by
  by_cases hvalid : set.violations input = []
  · have hone := denyFinal_evaluate hvalid hfinal timing
    have hsame : ({ set with rules } : RuleSet).violations input = [] := hvalid
    have hother := denyFinal_evaluate hsame hfinal timing
    rw [Bool.eq_iff_iff, hone.allow_iff, hother.allow_iff]
    simp only [hperm.mem_iff]
  · have hsame : ({ set with rules } : RuleSet).violations input ≠ [] := hvalid
    rw [evaluate_of_violated hsame, evaluate_of_violated hvalid]

/-- An evaluation says what is wrong with the input if it violates the schema, and then looks at no
rule. Otherwise the rules decide: if deny rules are final, a matching allow rule allows unless a
deny rule matches, whatever the order of the rules, and the rules are looked at up to the first
matching deny rule; if they are not, the last matching rule decides, and all rules are looked at. -/
theorem evaluate_decides (set : RuleSet) (input : Value) (timing : Timing) :
    ∃ trace, (set.evaluate input timing).trace = some trace ∧
      ((∃ message, set.Violates input message) →
        (set.evaluate input timing).allow = false ∧
        (set.evaluate input timing).reason = "Schema validation failed" ∧
        (∀ message, message ∈ trace.validations ↔ set.Violates input message) ∧
        trace.evaluatedRules = []) ∧
      ((¬ ∃ message, set.Violates input message) →
        trace.validations = [] ∧
        (set.denyOverrides = true →
          set.DenyFinal input (set.evaluate input timing) trace.evaluatedRules) ∧
        (set.denyOverrides = false →
          set.LastMatch input (set.evaluate input timing) trace.evaluatedRules)) ∧
      (set.denyOverrides = true → ∀ rules, set.rules.Perm rules →
        ({ set with rules }.evaluate input timing).allow =
          (set.evaluate input timing).allow) := by
  have hperm : set.denyOverrides = true → ∀ rules, set.rules.Perm rules →
      ({ set with rules }.evaluate input timing).allow = (set.evaluate input timing).allow :=
    fun hfinal _ hperm => allow_evaluate_of_perm hfinal hperm timing
  by_cases hvalid : set.violations input = []
  · have hnone : ¬ ∃ message, set.Violates input message := by
      rintro ⟨message, hmessage⟩
      rw [← mem_violations_iff, hvalid] at hmessage
      exact List.not_mem_nil hmessage
    refine ⟨_, congrArg Decision.trace (evaluate_of_valid hvalid timing),
      fun hviolated => absurd hviolated hnone, fun _ => ⟨rfl, ?_, ?_⟩, hperm⟩
    · exact fun hfinal => denyFinal_evaluate hvalid hfinal timing
    · exact fun hlast => lastMatch_evaluate hvalid hlast timing
  · refine ⟨_, congrArg Decision.trace (evaluate_of_violated hvalid timing), fun _ => ?_, ?_,
      hperm⟩
    · rw [evaluate_of_violated hvalid]
      exact ⟨rfl, rfl, fun message => mem_violations_iff, rfl⟩
    · intro hnone
      obtain ⟨message, hmessage⟩ := List.exists_mem_of_ne_nil _ hvalid
      exact absurd ⟨message, mem_violations_iff.mp hmessage⟩ hnone

/-- An allow rule, a deny rule and another allow rule, all of which match. -/
def contested : RuleSet where
  rules :=
    [⟨"base", .allow, .always⟩, ⟨"risky", .deny, .always⟩, ⟨"late", .allow, .always⟩]
  denyOverrides := true
  schema := none
  body := .object []

/-- The deny rule is the last that is looked at if deny rules are final, in whatever place it
stands, and otherwise the last rule decides. Without a required member no rule is looked at. -/
theorem contested_decided :
    (∃ trace, (contested.evaluate (.object []) default).trace = some trace ∧
      (contested.evaluate (.object []) default).reason = "Matched deny rule" ∧
      trace.evaluatedRules = [⟨"base", true, "allow", none⟩, ⟨"risky", true, "deny", none⟩] ∧
      ({ contested with rules := contested.rules.reverse }.evaluate (.object []) default).allow =
        false) ∧
    ({ contested with denyOverrides := false }.evaluate (.object []) default).allow = true ∧
    ∃ trace,
      ({ contested with schema := some ⟨["action"], []⟩ }.evaluate (.object []) default).trace =
        some trace ∧
      "missing required field 'action'" ∈ trace.validations ∧ trace.evaluatedRules = [] := by
  have hunviolated : ∀ denyOverrides, ¬ ∃ message,
      { contested with denyOverrides }.Violates (.object []) message := by
    rintro denyOverrides ⟨message, schema, hschema, -⟩
    cases hschema
  have hdeny : ∃ rule ∈ contested.rules, rule.Fires .deny (.object []) := by decide
  refine ⟨?_, ?_, ?_⟩
  · obtain ⟨trace, htrace, -, hvalid, hperm⟩ :=
      evaluate_decides contested (.object []) default
    obtain ⟨-, hfinal, -⟩ := hvalid (hunviolated true)
    have hdecided := hfinal rfl
    have hrefused : (contested.evaluate (.object []) default).allow = false := by
      rw [Bool.eq_false_iff]
      exact fun hallow => (hdecided.allow_iff.mp hallow).2 hdeny
    refine ⟨trace, htrace, hdecided.denied_iff.mpr hdeny, ?_, ?_⟩
    · exact hdecided.visited_first_deny [⟨"base", .allow, .always⟩] _ _ rfl (by decide) (by decide)
    · exact (hperm rfl _ (List.reverse_perm _).symm).trans hrefused
  · obtain ⟨trace, -, -, hvalid, -⟩ :=
      evaluate_decides { contested with denyOverrides := false } (.object []) default
    obtain ⟨-, -, hlast⟩ := hvalid (hunviolated false)
    have hrules : contested.rules = contested.rules.take 2 ++ ⟨"late", .allow, .always⟩ :: [] := rfl
    exact (((hlast rfl).decides _ _ _ hrules rfl (List.forall_mem_nil _)).1 rfl).1
  · obtain ⟨trace, htrace, hviolated, -⟩ :=
      evaluate_decides { contested with schema := some ⟨["action"], []⟩ } (.object []) default
    have hmissing : { contested with schema := some ⟨["action"], []⟩ }.Violates (.object [])
        "missing required field 'action'" :=
      ⟨_, rfl, @Schema.Violation.missing _ [] "action" (by decide) (List.forall_mem_nil _)⟩
    obtain ⟨-, -, hvalidations, hnone⟩ := hviolated ⟨_, hmissing⟩
    exact ⟨trace, htrace, (hvalidations _).mpr hmissing, hnone⟩

end RuleSet

end Mandate.Rules
