import Mandate.Proofs.Fallible
import Mandate.Rules.Condition
import Mathlib.Data.List.Basic
import Mathlib.Tactic.Tauto

/-! # Conditions mean what their documents say

A condition is parsed once and then only evaluated. Which documents are read as conditions is said
here by their form, and what they ask of an input is said on the documents themselves, without the
parsed tree. A document is parsed exactly if it has the form, and then the tree holds of exactly
the inputs that meet the document.
-/

namespace Mandate.Rules

open Mandate.Json

/-! ## Operators -/

/-- The name of an operator in lower case. -/
def Op.name : Op → String
  | .eq => "eq"
  | .neq => "neq"
  | .gt => "gt"
  | .gte => "gte"
  | .lt => "lt"
  | .lte => "lte"
  | .isIn => "in"
  | .contains => "contains"

/-- Case does not count in the name of an operator. -/
theorem Op.ofName?_eq_some_iff {name : String} {op : Op} :
    Op.ofName? name = some op ↔ Text.lowerAscii name = op.name := by
  unfold Op.ofName?
  constructor
  · intro hop
    split at hop <;> cases hop <;> assumption
  · intro hname
    rw [hname]
    cases op <;> rfl

namespace Condition

/-! ## The form of a condition -/

/-- A member that tests a field: its key is a path, and its value an object of operators. -/
def TestsField (member : String × Value) : Prop :=
  (∃ path, FieldPath.parse member.1 = .ok path) ∧
    ∃ ops, member.2 = .object ops ∧ ∀ m ∈ ops, ∃ op : Op, Text.lowerAscii m.1 = op.name

/-- The documents that are read as a condition, other than one that is absent or null. -/
inductive Expression : Value → Prop where
  | empty : Expression (.object [])
  | all {items : List Value} (hitems : ∀ v ∈ items, Expression v) :
      Expression (.object [("and", .array items)])
  | any {items : List Value} (hitems : ∀ v ∈ items, Expression v) :
      Expression (.object [("or", .array items)])
  | not {v : Value} (hv : Expression v) : Expression (.object [("not", v)])
  | fields {members : Members} (hplain : ∀ member ∈ members, member.1 ∉ combinators)
      (htests : ∀ member ∈ members, TestsField member) : Expression (.object members)

/-- What may stand as the condition of a rule. -/
def Acceptable : Option Value → Prop
  | none => True
  | some v => v = .null ∨ Expression v

/-! ## The meaning of a condition -/

/-- The field of an input satisfies every operator that the member lists. -/
def MeetsField (input : Value) (member : String × Value) : Prop :=
  ∃ path value, FieldPath.parse member.1 = .ok path ∧ path.resolve input = some value ∧
    ∃ ops, member.2 = .object ops ∧
      ∀ m ∈ ops, ∃ op : Op, Text.lowerAscii m.1 = op.name ∧ op.holds value m.2 = true

/-- An input meets a document that is read as a condition. -/
def Meets (input : Value) : Value → Prop
  | .object [("and", .array items)] => ∀ v, v ∈ items → Meets input v
  | .object [("or", .array items)] => ∃ v, ∃ _ : v ∈ items, Meets input v
  | .object [("not", v)] => ¬ Meets input v
  | .object members => ∀ member ∈ members, MeetsField input member
  | _ => False

/-- An input meets what stands as the condition of a rule. -/
def MeetsWhen (input : Value) : Option Value → Prop
  | none => True
  | some v => v = .null ∨ Meets input v

section

variable {input v : Value} {items : List Value} {members : Members} {member : String × Value}

theorem meets_all : Meets input (.object [("and", .array items)]) ↔ ∀ v ∈ items, Meets input v := by
  rw [Meets]

theorem meets_any : Meets input (.object [("or", .array items)]) ↔ ∃ v ∈ items, Meets input v := by
  rw [Meets]
  simp

theorem meets_not : Meets input (.object [("not", v)]) ↔ ¬ Meets input v := by
  rw [Meets]

/-- Without a combinator the members of an object test fields. -/
theorem meets_fields (hplain : ∀ member ∈ members, member.1 ∉ combinators) :
    Meets input (.object members) ↔ ∀ member ∈ members, MeetsField input member := by
  have hne : ∀ key ∈ combinators, ∀ value, members ≠ [(key, value)] := by
    rintro key hkey value rfl
    exact hplain _ List.mem_cons_self hkey
  rw [Meets]
  · exact fun _ => hne "and" (by decide) _
  · exact fun _ => hne "or" (by decide) _
  · exact fun _ => hne "not" (by decide) _

/-! ## Parsing fields -/

/-- Operators with known names are read, and they hold of the same values. -/
theorem exists_parseOps {ops : Members} (path : String)
    (hnamed : ∀ m ∈ ops, ∃ op : Op, Text.lowerAscii m.1 = op.name) :
    ∃ parsed, parseOps path ops = .ok parsed ∧ ∀ value,
      (parsed.all fun (op, rhs) => op.holds value rhs) = true ↔
        ∀ m ∈ ops, ∃ op : Op, Text.lowerAscii m.1 = op.name ∧ op.holds value m.2 = true := by
  induction ops with
  | nil => exact ⟨[], rfl, fun value => by simp⟩
  | cons head rest ih =>
      obtain ⟨name, rhs⟩ := head
      obtain ⟨⟨op, hop⟩, hrest⟩ := List.forall_mem_cons.mp hnamed
      obtain ⟨parsed, hparsed, hall⟩ := ih hrest
      have hknown : Op.ofName? name = some op := Op.ofName?_eq_some_iff.mpr hop
      refine ⟨(op, rhs) :: parsed, ?_, ?_⟩
      · simp [parseOps, hknown, hparsed, Except.map]
      · intro value
        have hone : (∃ op : Op, Text.lowerAscii name = op.name ∧ op.holds value rhs = true) ↔
            op.holds value rhs = true := by
          simp only [← Op.ofName?_eq_some_iff, hknown, Option.some.injEq, exists_eq_left']
        rw [List.all_cons, Bool.and_eq_true, hall, List.forall_mem_cons, hone]

theorem named_of_parseOps {path : String} {ops : Members} {parsed : List (Op × Value)}
    (hparsed : parseOps path ops = .ok parsed) :
    ∀ m ∈ ops, ∃ op : Op, Text.lowerAscii m.1 = op.name := by
  induction ops generalizing parsed with
  | nil => exact List.forall_mem_nil _
  | cons head rest ih =>
      obtain ⟨name, rhs⟩ := head
      rw [parseOps] at hparsed
      split at hparsed
      next => cases hparsed
      next op hop =>
        cases hrest : parseOps path rest with
        | error fault =>
            rw [hrest] at hparsed
            cases hparsed
        | ok more => exact List.forall_mem_cons.mpr ⟨⟨op, Op.ofName?_eq_some_iff.mp hop⟩, ih hrest⟩

/-- Members that test fields are read, and the tests hold of the same inputs. -/
theorem exists_parseFields (htests : ∀ member ∈ members, TestsField member) :
    ∃ tests, parseFields members = .ok tests ∧ ∀ input,
      (tests.all (·.holds input)) = true ↔ ∀ member ∈ members, MeetsField input member := by
  induction members with
  | nil => exact ⟨[], rfl, fun input => by simp⟩
  | cons head rest ih =>
      obtain ⟨key, value⟩ := head
      obtain ⟨⟨⟨path, hpath⟩, ops, hops, hnamed⟩, hrest⟩ := List.forall_mem_cons.mp htests
      dsimp only at hops hpath
      subst hops
      obtain ⟨parsed, hparsed, hholds⟩ := exists_parseOps key hnamed
      obtain ⟨tests, htests, hall⟩ := ih hrest
      refine ⟨⟨path, parsed⟩ :: tests, ?_, ?_⟩
      · simp [parseFields, hparsed, hpath, htests, bind, Except.bind, pure, Except.pure]
      · intro input
        have hone : MeetsField input (key, .object ops) ↔
            FieldTest.holds ⟨path, parsed⟩ input = true := by
          unfold MeetsField FieldTest.holds
          simp only [hpath, Except.ok.injEq, Value.object.injEq, exists_and_left, exists_eq_left']
          cases path.resolve input with
          | none => simp
          | some found => simp [hholds]
        rw [List.all_cons, Bool.and_eq_true, hall, List.forall_mem_cons, hone]

theorem testsField_of_parseFields {tests : List FieldTest}
    (hparsed : parseFields members = .ok tests) : ∀ member ∈ members, TestsField member := by
  induction members generalizing tests with
  | nil => exact List.forall_mem_nil _
  | cons head rest ih =>
      obtain ⟨key, value⟩ := head
      cases value with
      | object ops =>
          rw [parseFields] at hparsed
          obtain ⟨parsed, hops, hparsed⟩ := Fallible.exists_of_bind_eq_ok hparsed
          obtain ⟨path, hpath, hparsed⟩ := Fallible.exists_of_bind_eq_ok hparsed
          obtain ⟨more, hmore, -⟩ := Fallible.exists_of_bind_eq_ok hparsed
          have htests : TestsField (key, .object ops) :=
            ⟨⟨path, hpath⟩, ops, rfl, named_of_parseOps hops⟩
          exact List.forall_mem_cons.mpr ⟨htests, ih hmore⟩
      | _ => cases hparsed

/-! ## Parsing expressions -/

theorem combinator?_eq_none_iff :
    combinator? members = none ↔ ∀ member ∈ members, member.1 ∉ combinators := by
  simp only [combinator?, Members.has, List.find?_eq_none, List.any_eq_true, beq_iff_eq]
  exact ⟨fun hnone member hmember hkey => hnone member.1 hkey ⟨member, hmember, rfl⟩,
    fun hplain key hkey ⟨member, hmember, heq⟩ => hplain member hmember (heq ▸ hkey)⟩

theorem parse_single (key : String) (value : Value) :
    parse (.object [(key, value)]) =
      if key = "not" then (parse value).map .not
      else if key = "and" ∨ key = "or" then
        match value with
        | .array items =>
            (parseAll items).map (if key = "and" then Condition.all else Condition.any)
        | _ => .error (.combinatorNotArray key)
      else (parseFields [(key, value)]).map .fields := by
  cases value <;> simp only [parse]

/-- Without a combinator the members of an object are parsed as tests of fields, except that an
empty object stands for what always holds. -/
theorem parse_fields (hplain : ∀ member ∈ members, member.1 ∉ combinators) (hne : members ≠ []) :
    parse (.object members) = (parseFields members).map .fields := by
  match members, hne with
  | [(key, value)], _ =>
      have hkey : key ∉ combinators := hplain _ List.mem_cons_self
      simp only [combinators, List.mem_cons, List.not_mem_nil, or_false, not_or] at hkey
      rw [parse_single, if_neg hkey.2.2, if_neg (not_or.mpr ⟨hkey.1, hkey.2.1⟩)]
  | first :: second :: rest, _ =>
      rw [parse, combinator?_eq_none_iff.mpr hplain]
      · rintro ⟨⟩
      · rintro key value ⟨⟩

/-- Expressions are parsed as lists item by item. -/
theorem exists_parseAll (hitems : ∀ v ∈ items, ∃ c, parse v = .ok c ∧ ∀ input,
    c.holds input = true ↔ Meets input v) :
    ∃ cs, parseAll items = .ok cs ∧ ∀ input,
      (allHold input cs = true ↔ ∀ v ∈ items, Meets input v) ∧
      (anyHolds input cs = true ↔ ∃ v ∈ items, Meets input v) := by
  induction items with
  | nil => exact ⟨[], by rw [parseAll], fun input => by simp [allHold, anyHolds]⟩
  | cons head rest ih =>
      obtain ⟨⟨c, hc, hholds⟩, hrest⟩ := List.forall_mem_cons.mp hitems
      obtain ⟨cs, hcs, hmeets⟩ := ih hrest
      refine ⟨c :: cs, ?_, ?_⟩
      · rw [parseAll, hc, hcs]
        rfl
      · intro input
        obtain ⟨hall, hany⟩ := hmeets input
        constructor
        · rw [allHold, Bool.and_eq_true, hholds, hall, List.forall_mem_cons]
        · rw [anyHolds, Bool.or_eq_true, hholds, hany]
          simp

/-- Every expression is parsed, and the condition holds of the inputs that meet the expression. -/
theorem Expression.exists_parse (hv : Expression v) :
    ∃ c, parse v = .ok c ∧ ∀ input, c.holds input = true ↔ Meets input v := by
  induction hv with
  | empty =>
      refine ⟨.always, by rw [parse], fun input => ?_⟩
      rw [meets_fields (List.forall_mem_nil _)]
      simp [holds]
  | all _ ih =>
      obtain ⟨cs, hcs, hmeets⟩ := exists_parseAll ih
      refine ⟨.all cs, ?_, fun input => ?_⟩
      · simp [parse, hcs, Except.map]
      · rw [meets_all, ← (hmeets input).1, holds]
  | any _ ih =>
      obtain ⟨cs, hcs, hmeets⟩ := exists_parseAll ih
      refine ⟨.any cs, ?_, fun input => ?_⟩
      · simp [parse, hcs, Except.map]
      · rw [meets_any, ← (hmeets input).2, holds]
  | not _ ih =>
      obtain ⟨c, hc, hholds⟩ := ih
      refine ⟨.not c, ?_, fun input => ?_⟩
      · simp [parse, hc, Except.map]
      · rw [meets_not, ← hholds, holds]
        simp
  | @fields members hplain htests =>
      obtain ⟨tests, hparsed, hall⟩ := exists_parseFields htests
      by_cases hempty : members = []
      · subst hempty
        refine ⟨.always, by rw [parse], fun input => ?_⟩
        rw [meets_fields (List.forall_mem_nil _)]
        simp [holds]
      · refine ⟨.fields tests, ?_, fun input => ?_⟩
        · rw [parse_fields hplain hempty, hparsed]
          rfl
        · rw [meets_fields hplain, ← hall, holds]

mutual

/-- Only expressions are parsed. -/
theorem expression_of_parse : {v : Value} → {c : Condition} → parse v = .ok c → Expression v
  | .object [], _, _ => .empty
  | .object [(key, value)], c, hparse => by
      rw [parse_single] at hparse
      split at hparse
      next hnot =>
        subst hnot
        obtain ⟨inner, hinner, -⟩ := Fallible.exists_of_map_eq_ok hparse
        exact .not (expression_of_parse hinner)
      next hnot =>
        split at hparse
        next hkey =>
          cases value with
          | array items =>
              obtain ⟨cs, hcs, -⟩ := Fallible.exists_of_map_eq_ok hparse
              have hitems := expression_of_parseAll hcs
              rcases hkey with rfl | rfl
              · exact .all hitems
              · exact .any hitems
          | _ => cases hparse
        next hkey =>
          obtain ⟨tests, htests, -⟩ := Fallible.exists_of_map_eq_ok hparse
          refine .fields ?_ (testsField_of_parseFields htests)
          simp only [forall_eq, combinators, List.mem_cons, List.not_mem_nil,
            or_false]
          tauto
  | .object (first :: second :: rest), c, hparse => by
      cases hcombinator : combinator? (first :: second :: rest) with
      | some key => simp [parse, hcombinator] at hparse
      | none =>
          have hplain := combinator?_eq_none_iff.mp hcombinator
          rw [parse_fields hplain (List.cons_ne_nil _ _)] at hparse
          obtain ⟨tests, htests, -⟩ := Fallible.exists_of_map_eq_ok hparse
          exact .fields hplain (testsField_of_parseFields htests)
  | .null, _, hparse => by simp [parse] at hparse
  | .bool _, _, hparse => by simp [parse] at hparse
  | .number _, _, hparse => by simp [parse] at hparse
  | .string _, _, hparse => by simp [parse] at hparse
  | .array _, _, hparse => by simp [parse] at hparse

theorem expression_of_parseAll : {items : List Value} → {cs : List Condition} →
    parseAll items = .ok cs → ∀ v ∈ items, Expression v
  | [], _, _ => List.forall_mem_nil _
  | v :: rest, cs, hparse => by
      rw [parseAll] at hparse
      obtain ⟨c, hc, hparse⟩ := Fallible.exists_of_bind_eq_ok hparse
      obtain ⟨more, hmore, -⟩ := Fallible.exists_of_bind_eq_ok hparse
      exact List.forall_mem_cons.mpr ⟨expression_of_parse hc, expression_of_parseAll hmore⟩

end

end

/-- What has the form of an expression is parsed as one, and its condition holds of the inputs that
meet it. -/
theorem parse_spec (v : Value) :
    ((∃ c, parse v = .ok c) ↔ Expression v) ∧
      ∀ c, parse v = .ok c → ∀ input, c.holds input = true ↔ Meets input v := by
  constructor
  · constructor
    · rintro ⟨c, hparse⟩
      exact expression_of_parse hparse
    · intro hv
      obtain ⟨c, hparse, -⟩ := hv.exists_parse
      exact ⟨c, hparse⟩
  · intro c hparse
    obtain ⟨found, hfound, hholds⟩ := (expression_of_parse hparse).exists_parse
    obtain rfl : found = c := Except.ok.inj (hfound.symm.trans hparse)
    exact hholds

theorem parseWhen_of_ne_null (hne : v ≠ .null) : parseWhen (some v) = parse v := by
  cases v with
  | null => exact absurd rfl hne
  | _ => rfl

/-- A condition is parsed exactly from what is acceptable by its form, and then it holds of exactly
the inputs that meet the document that it was parsed from. -/
theorem parsed_iff_acceptable (when? : Option Value) :
    ((∃ c, parseWhen when? = .ok c) ↔ Acceptable when?) ∧
      ∀ c, parseWhen when? = .ok c → ∀ input,
        c.holds input = true ↔ MeetsWhen input when? := by
  have halways : ∀ c, Except.ok (ε := BodyFault) always = .ok c → ∀ input,
      c.holds input = true := by
    rintro c ⟨⟩ input
    rw [holds]
  cases when? with
  | none =>
      exact ⟨iff_of_true ⟨.always, rfl⟩ trivial,
        fun c hc input => iff_of_true (halways c hc input) trivial⟩
  | some v =>
      by_cases hnull : v = .null
      · subst hnull
        exact ⟨iff_of_true ⟨.always, rfl⟩ (.inl rfl),
          fun c hc input => iff_of_true (halways c hc input) (.inl rfl)⟩
      · obtain ⟨haccepted, hmeaning⟩ := parse_spec v
        rw [parseWhen_of_ne_null hnull]
        refine ⟨haccepted.trans (or_iff_right hnull).symm, fun c hc input => ?_⟩
        exact (hmeaning c hc input).trans (or_iff_right hnull).symm

/-- Everybody but the user `x`, with the operator in capitals. -/
def notUser : Value :=
  .object [("not", .object [("user.id", .object [("EQ", .string "x")])])]

/-- It holds of an input without users, since a field that is not there satisfies no operator. -/
theorem notUser_holds_without_users :
    ∃ c, parseWhen (some notUser) = .ok c ∧ c.holds (.object []) = true := by
  have hpath : FieldPath.parse "user.id" = .ok ⟨"user.id", [.key "user", .key "id"]⟩ := by
    decide
  have hname : Text.lowerAscii "EQ" = Op.eq.name := by decide +kernel
  have hform : Acceptable (some notUser) := by
    refine .inr (.not (.fields (by decide) ?_))
    rw [List.forall_mem_singleton]
    exact ⟨⟨_, hpath⟩, _, rfl, List.forall_mem_singleton.mpr ⟨.eq, hname⟩⟩
  obtain ⟨hparsed, hmeaning⟩ := parsed_iff_acceptable (some notUser)
  obtain ⟨c, hc⟩ := hparsed.mpr hform
  refine ⟨c, hc, (hmeaning c hc (.object [])).mpr (.inr ?_)⟩
  rw [notUser, meets_not, meets_fields (by decide), List.forall_mem_singleton]
  rintro ⟨path, value, hparse, hresolve, -⟩
  obtain rfl := Except.ok.inj (hpath.symm.trans hparse)
  cases hresolve

end Condition

end Mandate.Rules
