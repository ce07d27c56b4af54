import Mandate.Proofs.Relation.Implications

/-! # Hierarchies are closed

A hierarchy is built exactly from implications without blank names and without cycles, and then a
relation implies another exactly if a path of direct implications leads there. What a relation
implies can also be collected by a loop over a stack of names. From within a cycle the loop comes
back to the relation that it started from. A cycle elsewhere does not hold it up, since the names
of a relation are put on the stack only when it is reached for the first time.
-/

namespace Mandate.Relation

variable {rows : List (String × List String)} {table part : Implications} {relation a b : String}

/-! ## The loop -/

/-- The names that wait on the stack, the next one first, and the names that were reached. -/
structure Worklist where
  waiting : List String
  reached : List String

/-- What a turn of the loop leads to. -/
inductive Worklist.Turn where
  | closed (reached : List String)
  | cycle
  | next (work : Worklist)

namespace Worklist

/-- The targets of the relation itself wait first. -/
def start (table : Implications) (relation : String) : Worklist :=
  ⟨(directTargets table relation).reverse, []⟩

/-- Take a name from the stack. What it implies directly goes onto the stack when it is reached
for the first time. -/
def turn (table : Implications) (relation : String) (work : Worklist) : Turn :=
  match work.waiting with
  | [] => .closed work.reached
  | name :: rest =>
      if name = relation then .cycle
      else if name ∈ work.reached then .next ⟨rest, work.reached⟩
      else .next ⟨(directTargets table name).reverse ++ rest, insertName name work.reached⟩

/-- What a relation implies, or that it lies on a cycle, if the loop ends within so many turns. -/
def close? (table : Implications) (relation : String) :
    (turns : Nat) → Worklist → Option (Except HierarchyFault (List String))
  | 0, _ => none
  | turns + 1, work =>
      match work.turn table relation with
      | .closed reached => some (.ok reached)
      | .cycle => some (.error (.cycle relation))
      | .next work => close? table relation turns work

end Worklist

namespace Hierarchy

/-- Close every row of a table, with so many turns for each. -/
def closeRowsInTurns? (table : Implications) (turns : Nat) :
    Implications → Option (Except HierarchyFault Implications)
  | [] => some (.ok [])
  | (relation, _) :: rest =>
      match Worklist.close? table relation turns (.start table relation) with
      | none => none
      | some (.error fault) => some (.error fault)
      | some (.ok closure) =>
          (closeRowsInTurns? table turns rest).map (·.map ((relation, closure) :: ·))

/-- The hierarchy with the given direct implications, if every loop ends within so many turns. -/
def buildInTurns? (turns : Nat) (rows : List (String × List String)) :
    Option (Except GraphError Hierarchy) :=
  match buildTable rows [] with
  | .error fault => some (.error (.invalidHierarchy fault))
  | .ok table =>
      (closeRowsInTurns? table turns table).map fun
        | .ok closure => .ok ⟨closure⟩
        | .error fault => .error (.invalidHierarchy fault)

end Hierarchy

namespace Worklist

variable {work : Worklist} {name : String} {rest : List String}

/-! ## The loop ends -/

/-- What a turn does. -/
theorem turn_cases (table : Implications) (relation : String) (work : Worklist) :
    (work.waiting = [] ∧ work.turn table relation = .closed work.reached) ∨
      ∃ name rest, work.waiting = name :: rest ∧
        ((name = relation ∧ work.turn table relation = .cycle) ∨
          (name ≠ relation ∧ name ∈ work.reached ∧
            work.turn table relation = .next ⟨rest, work.reached⟩) ∨
          (name ≠ relation ∧ name ∉ work.reached ∧
            work.turn table relation = .next
              ⟨(directTargets table name).reverse ++ rest, insertName name work.reached⟩)) := by
  obtain ⟨waiting, reached⟩ := work
  cases waiting with
  | nil => exact .inl ⟨rfl, rfl⟩
  | cons name rest =>
      refine .inr ⟨name, rest, rfl, ?_⟩
      unfold turn
      dsimp only
      split
      next heq => exact .inl ⟨heq, rfl⟩
      next hne =>
        split
        next hold => exact .inr (.inl ⟨hne, hold, rfl⟩)
        next hnew => exact .inr (.inr ⟨hne, hnew, rfl⟩)

/-- How many targets the rows list whose relation was not reached yet. -/
def unreached (table : Implications) (reached : List String) : Nat :=
  weight (table.filter fun row => row.1 ∉ reached)

/-- A bound for the turns that are left: the names that wait and those that may still come. -/
def remaining (table : Implications) (work : Worklist) : Nat :=
  work.waiting.length + unreached table work.reached

theorem unreached_cons (name : String) (targets : List String) (rest : Implications)
    (reached : List String) :
    unreached ((name, targets) :: rest) reached =
      (if name ∈ reached then 0 else targets.length) + unreached rest reached := by
  unfold unreached
  by_cases hname : name ∈ reached <;> simp [hname, weight_cons]

/-- The targets of a name that is reached for the first time are unreached until then. -/
theorem unreached_insertName_le {name : String} {reached : List String} (hnew : name ∉ reached)
    (table : Implications) :
    unreached table (insertName name reached) + (directTargets table name).length ≤
      unreached table reached := by
  induction table with
  | nil => exact Nat.le_refl _
  | cons row rest ih =>
      obtain ⟨other, targets⟩ := row
      simp only [unreached_cons, directTargets_cons, mem_insertName]
      by_cases heq : name = other
      · subst heq
        simp only [hnew, true_or, if_true, if_false]
        omega
      · simp only [heq, Ne.symm heq, false_or, if_false]
        omega

theorem remaining_drop_lt (table : Implications) (hwaiting : work.waiting = name :: rest) :
    remaining table ⟨rest, work.reached⟩ < work.remaining table := by
  simp [remaining, hwaiting]

theorem remaining_reach_lt (table : Implications) (hwaiting : work.waiting = name :: rest)
    (hnew : name ∉ work.reached) :
    remaining table ⟨(directTargets table name).reverse ++ rest, insertName name work.reached⟩ <
      work.remaining table := by
  have hless := unreached_insertName_le hnew table
  simp only [remaining, hwaiting, List.length_append, List.length_reverse, List.length_cons]
  omega

theorem remaining_start_le (table : Implications) (relation : String) :
    (start table relation).remaining table ≤ 2 * weight table := by
  have hless := unreached_insertName_le (List.not_mem_nil (a := relation)) table
  have hall : unreached table [] = weight table := by simp [unreached]
  simp only [remaining, start, List.length_reverse, hall] at hless ⊢
  omega

/-! ## The loop collects the closure -/

/-- Whatever is implied is reached or waits, and what is reached or waits is implied. -/
structure Explores (table : Implications) (relation : String) (work : Worklist) : Prop where
  sound : ∀ a, a ∈ work.waiting ∨ a ∈ work.reached →
    Relation.TransGen (Implied table) relation a
  started : ∀ a, Implied table relation a → a ∈ work.waiting ∨ a ∈ work.reached
  closed : ∀ a ∈ work.reached, ∀ b, Implied table a b → b ∈ work.waiting ∨ b ∈ work.reached
  apart : relation ∉ work.reached
  sorted : work.reached.Pairwise (· < ·)

theorem Explores.start (table : Implications) (relation : String) :
    Explores table relation (.start table relation) where
  sound a ha := by
    rcases ha with ha | ha
    · exact .single (List.mem_reverse.mp ha)
    · exact absurd ha List.not_mem_nil
  started a ha := .inl (List.mem_reverse.mpr ha)
  closed a ha := absurd ha List.not_mem_nil
  apart := List.not_mem_nil
  sorted := List.Pairwise.nil

/-- Nothing is lost when a name is dropped that was reached before. -/
theorem Explores.drop (hexplores : Explores table relation work)
    (hwaiting : work.waiting = name :: rest) (hold : name ∈ work.reached) :
    Explores table relation ⟨rest, work.reached⟩ := by
  have hkept : ∀ a, a ∈ work.waiting ∨ a ∈ work.reached → a ∈ rest ∨ a ∈ work.reached := by
    rintro a (ha | ha)
    · rw [hwaiting] at ha
      rcases List.mem_cons.mp ha with rfl | ha
      · exact .inr hold
      · exact .inl ha
    · exact .inr ha
  refine ⟨fun a ha => hexplores.sound a ?_, fun a ha => hkept a (hexplores.started a ha),
    fun a ha b hb => hkept b (hexplores.closed a ha b hb), hexplores.apart, hexplores.sorted⟩
  exact ha.imp_left fun ha => hwaiting ▸ List.mem_cons_of_mem _ ha

/-- What a name implies directly waits once the name is reached. -/
theorem Explores.reach (hexplores : Explores table relation work)
    (hwaiting : work.waiting = name :: rest) (hne : name ≠ relation) :
    Explores table relation
      ⟨(directTargets table name).reverse ++ rest, insertName name work.reached⟩ := by
  have hkept : ∀ a, a ∈ work.waiting ∨ a ∈ work.reached →
      a ∈ (directTargets table name).reverse ++ rest ∨ a ∈ insertName name work.reached := by
    rintro a (ha | ha)
    · rw [hwaiting] at ha
      rcases List.mem_cons.mp ha with rfl | ha
      · exact .inr (mem_insertName.mpr (.inl rfl))
      · exact .inl (List.mem_append_right _ ha)
    · exact .inr (mem_insertName.mpr (.inr ha))
  have hname := hexplores.sound name (.inl (hwaiting ▸ List.mem_cons_self))
  refine ⟨?_, fun a ha => hkept a (hexplores.started a ha), ?_, ?_,
    sorted_insertName hexplores.sorted name⟩
  · rintro a (ha | ha)
    · rcases List.mem_append.mp ha with ha | ha
      · exact hname.tail (List.mem_reverse.mp ha)
      · exact hexplores.sound a (.inl (hwaiting ▸ List.mem_cons_of_mem _ ha))
    · rcases mem_insertName.mp ha with rfl | ha
      · exact hname
      · exact hexplores.sound a (.inr ha)
  · intro a ha b hb
    rcases mem_insertName.mp ha with rfl | ha
    · exact .inl (List.mem_append_left _ (List.mem_reverse.mpr hb))
    · exact hkept b (hexplores.closed a ha b hb)
  · exact fun hmem => (mem_insertName.mp hmem).elim (Ne.symm hne) hexplores.apart

/-- When nothing waits, what was reached is the closure, and the relation is not among it. -/
theorem Explores.reached_eq (hexplores : Explores table relation work)
    (hsorted : (directTargets table relation).Pairwise (· < ·)) (hwaiting : work.waiting = []) :
    relation ∉ closureOf table relation ∧ work.reached = closureOf table relation := by
  have hnone : ∀ a, a ∈ work.waiting ∨ a ∈ work.reached → a ∈ work.reached :=
    fun a ha => ha.resolve_left (hwaiting ▸ List.not_mem_nil)
  have hmem : ∀ a, a ∈ work.reached ↔ a ∈ closureOf table relation := by
    intro a
    rw [mem_closureOf_iff]
    refine ⟨fun ha => hexplores.sound a (.inr ha), fun hreached => ?_⟩
    induction hreached with
    | single himplied => exact hnone _ (hexplores.started _ himplied)
    | tail _ himplied ih => exact hnone _ (hexplores.closed _ ih _ himplied)
  exact ⟨fun hcycle => hexplores.apart ((hmem relation).mpr hcycle),
    eq_of_sorted hexplores.sorted (sorted_widenTimes hsorted table _) hmem⟩

/-- The loop finds the closure of a relation, or that the relation lies on a cycle. -/
theorem Explores.close?_eq (hexplores : Explores table relation work)
    (hsorted : (directTargets table relation).Pairwise (· < ·)) {turns : Nat}
    (hturns : work.remaining table < turns) :
    close? table relation turns work =
      some (if relation ∈ closureOf table relation then .error (.cycle relation)
        else .ok (closureOf table relation)) := by
  induction turns generalizing work with
  | zero => exact absurd hturns (Nat.not_lt_zero _)
  | succ turns ih =>
      rw [close?]
      rcases turn_cases table relation work with ⟨hwaiting, hturn⟩ | ⟨name, rest, hwaiting,
        ⟨heq, hturn⟩ | ⟨hne, hold, hturn⟩ | ⟨hne, hnew, hturn⟩⟩
      · obtain ⟨hacyclic, hreached⟩ := hexplores.reached_eq hsorted hwaiting
        rw [hturn, hreached, if_neg hacyclic]
      · have hcycle := hexplores.sound name (.inl (hwaiting ▸ List.mem_cons_self))
        rw [hturn, if_pos (mem_closureOf_iff.mpr (heq ▸ hcycle))]
      · have hless := remaining_drop_lt table hwaiting
        rw [hturn]
        exact ih (hexplores.drop hwaiting hold) (by omega)
      · have hless := remaining_reach_lt table hwaiting hnew
        rw [hturn]
        exact ih (hexplores.reach hwaiting hne) (by omega)

end Worklist

namespace Hierarchy

theorem closeRows_cons (table : Implications) (relation : String) (targets : List String)
    (rest : Implications) :
    closeRows table ((relation, targets) :: rest) =
      if relation ∈ closureOf table relation then .error (.cycle relation)
      else (closeRows table rest).map ((relation, closureOf table relation) :: ·) := by
  rw [closeRows]
  by_cases hcycle : relation ∈ closureOf table relation
  · simp [hcycle, bind, Except.bind, throw, throwThe, MonadExceptOf.throw]
  · simp only [List.contains_eq_mem, hcycle, decide_false, Bool.false_eq_true, if_false]
    cases closeRows table rest <;> rfl

/-- The loops find what the closing of the rows finds. -/
theorem closeRowsInTurns?_eq (hsorted : ∀ a, (directTargets table a).Pairwise (· < ·))
    {turns : Nat} (hturns : 2 * weight table < turns) (part : Implications) :
    closeRowsInTurns? table turns part = some (closeRows table part) := by
  induction part with
  | nil => rfl
  | cons row rest ih =>
      obtain ⟨relation, targets⟩ := row
      have hstart := Worklist.remaining_start_le table relation
      have hclose := (Worklist.Explores.start table relation).close?_eq (hsorted relation)
        (Nat.lt_of_le_of_lt hstart hturns)
      rw [closeRowsInTurns?, closeRows_cons, hclose]
      by_cases hcycle : relation ∈ closureOf table relation
      · simp [hcycle]
      · simp [hcycle, ih]

/-- Rows are closed unless a relation implies itself. -/
theorem closeRows_eq_ok_iff {closure : Implications} : closeRows table part = .ok closure ↔
    (∀ row ∈ part, row.1 ∉ closureOf table row.1) ∧
      part.map (fun row => (row.1, closureOf table row.1)) = closure := by
  induction part generalizing closure with
  | nil => simp [closeRows]
  | cons row rest ih =>
      obtain ⟨relation, targets⟩ := row
      rw [closeRows_cons]
      by_cases hcycle : relation ∈ closureOf table relation
      · simp [hcycle]
      · rw [if_neg hcycle]
        constructor
        · intro hok
          obtain ⟨more, hmore, rfl⟩ := Fallible.exists_of_map_eq_ok hok
          obtain ⟨hacyclic, rfl⟩ := ih.mp hmore
          exact ⟨List.forall_mem_cons.mpr ⟨hcycle, hacyclic⟩, rfl⟩
        · rintro ⟨hacyclic, rfl⟩
          rw [ih.mpr ⟨(List.forall_mem_cons.mp hacyclic).2, rfl⟩]
          rfl

/-! ## The hierarchy -/

/-- No relation implies itself through one or more steps. -/
def Acyclic (rows : List (String × List String)) : Prop :=
  ∀ a, ¬ Relation.TransGen (Directly rows) a a

theorem Acyclic.irreflexive (hacyclic : Acyclic rows) : Irreflexive rows :=
  fun row hrow hself => hacyclic row.1 (.single ⟨row, hrow, rfl, hself⟩)

/-- What a table of rows is built to, if nothing is wrong with them. -/
theorem build_eq_ok_iff {h : Hierarchy} :
    build rows = .ok h ↔ ∃ table, buildTable rows [] = .ok table ∧
      closeRows table table = .ok h.closure := by
  unfold build
  constructor
  · intro hbuilt
    split at hbuilt
    next closure hok =>
      cases hbuilt
      exact Fallible.exists_of_bind_eq_ok hok
    next => cases hbuilt
  · rintro ⟨table, hok, hclosed⟩
    rw [Fallible.bind_of_ok hok, hclosed]

/-- The loops build what is built by widening. -/
theorem buildInTurns?_eq (rows : List (String × List String)) {turns : Nat}
    (hturns : 2 * weight rows < turns) : buildInTurns? turns rows = some (build rows) := by
  unfold buildInTurns? build
  cases hok : buildTable rows [] with
  | error fault => rfl
  | ok table =>
      obtain ⟨hcollects, hweight⟩ := (buildTable_spec .empty rows).2 table hok
      have hless : 2 * weight table < turns := by
        have hnone : weight [] = 0 := rfl
        omega
      have hloops := closeRowsInTurns?_eq hcollects.sorted hless table
      have hbind : (Except.ok table >>= fun table => closeRows table table) =
          closeRows table table := Fallible.bind_of_ok rfl
      cases hclosed : closeRows table table <;>
        simp only [hloops, hbind, hclosed, Option.map_some]

theorem lookup_map_keys (value : String → List String) (table : Implications) (a : String) :
    (table.map fun row => (row.1, value row.1)).lookup a =
      if a ∈ table.map (·.1) then some (value a) else none := by
  induction table with
  | nil => rfl
  | cons row rest ih =>
      rw [List.map_cons, lookup_cons_eq_ite, ih, List.map_cons]
      by_cases heq : a = row.1
      · simp [heq]
      · simp only [heq, if_false, List.mem_cons, false_or]

/-- A closed table lists with every relation what it implies through one or more steps. -/
theorem mem_lookup_closeRows_iff {closure : Implications}
    (hclosed : closeRows table table = .ok closure) :
    b ∈ (closure.lookup a).getD [] ↔ Relation.TransGen (Implied table) a b := by
  obtain ⟨-, rfl⟩ := closeRows_eq_ok_iff.mp hclosed
  rw [lookup_map_keys]
  split
  next => exact mem_closureOf_iff
  next habsent =>
    -- a relation without a row implies nothing directly
    refine iff_of_false List.not_mem_nil fun hreached => ?_
    obtain ⟨c, himplied, -⟩ := Relation.TransGen.head'_iff.mp hreached
    exact habsent (mem_keys_of_implied himplied)

/-- Rows are built to a hierarchy if no name is blank and there is no cycle. -/
theorem exists_build_eq_ok_iff (rows : List (String × List String)) :
    (∃ h, build rows = .ok h) ↔ Named rows ∧ Acyclic rows := by
  obtain ⟨hbuilds, hfinal⟩ := buildTable_spec .empty rows
  constructor
  · rintro ⟨h, hbuilt⟩
    obtain ⟨table, htable, hclosed⟩ := build_eq_ok_iff.mp hbuilt
    have hcollects : Collects table rows := (hfinal table htable).1
    refine ⟨(hbuilds.mp ⟨table, htable⟩).1, fun a hcycle => ?_⟩
    -- a relation on a cycle implies something directly, so it has a row, which was closed
    have hcycle : Relation.TransGen (Implied table) a a := hcollects.transGen_iff.mpr hcycle
    obtain ⟨c, himplied, -⟩ := Relation.TransGen.head'_iff.mp hcycle
    obtain ⟨row, hrow, rfl⟩ := List.mem_map.mp (mem_keys_of_implied himplied)
    exact (closeRows_eq_ok_iff.mp hclosed).1 row hrow (mem_closureOf_iff.mpr hcycle)
  · rintro ⟨hnamed, hacyclic⟩
    obtain ⟨table, htable⟩ := hbuilds.mpr ⟨hnamed, hacyclic.irreflexive⟩
    have hcollects : Collects table rows := (hfinal table htable).1
    have hrows : ∀ row ∈ table, row.1 ∉ closureOf table row.1 := fun row _ hcycle =>
      hacyclic row.1 (hcollects.transGen_iff.mp (mem_closureOf_iff.mp hcycle))
    exact ⟨⟨_⟩, build_eq_ok_iff.mpr ⟨table, htable, closeRows_eq_ok_iff.mpr ⟨hrows, rfl⟩⟩⟩

/-- Holding a relation satisfies a request for those that a path of implications leads to. -/
theorem implies_iff_reflTransGen {h : Hierarchy} (hbuilt : build rows = .ok h) :
    h.implies a b = true ↔ Relation.ReflTransGen (Directly rows) a b := by
  obtain ⟨table, htable, hclosed⟩ := build_eq_ok_iff.mp hbuilt
  have hcollects : Collects table rows := ((buildTable_spec .empty rows).2 table htable).1
  rw [Relation.reflTransGen_iff_eq_or_transGen, eq_comm (a := b), ← hcollects.transGen_iff,
    ← mem_lookup_closeRows_iff hclosed]
  simp [implies]

/-- Loops over stacks of names end on all rows and build the hierarchy. It is built exactly if no
name is blank and there is no cycle, and then a relation implies what a path of direct
implications leads to. This is an order on the relations. -/
theorem build_closes (rows : List (String × List String)) :
    (∀ turns, 2 * weight rows < turns → buildInTurns? turns rows = some (build rows)) ∧
      ((∃ h, build rows = .ok h) ↔ Named rows ∧ Acyclic rows) ∧
      ∀ h, build rows = .ok h →
        (∀ a b, h.implies a b = true ↔ Relation.ReflTransGen (Directly rows) a b) ∧
        (∀ a, h.implies a a = true) ∧
        (∀ a b c, h.implies a b = true → h.implies b c = true → h.implies a c = true) ∧
        ∀ a b, h.implies a b = true → h.implies b a = true → a = b := by
  refine ⟨fun turns => buildInTurns?_eq rows, exists_build_eq_ok_iff rows, fun h hbuilt => ?_⟩
  have hacyclic : Acyclic rows := ((exists_build_eq_ok_iff rows).mp ⟨h, hbuilt⟩).2
  have hiff : ∀ a b, h.implies a b = true ↔ Relation.ReflTransGen (Directly rows) a b :=
    fun a b => implies_iff_reflTransGen hbuilt
  refine ⟨hiff, fun a => (hiff a a).mpr .refl, fun a b c hab hbc => ?_, fun a b hab hba => ?_⟩
  · exact (hiff a c).mpr (((hiff a b).mp hab).trans ((hiff b c).mp hbc))
  · rcases Relation.reflTransGen_iff_eq_or_transGen.mp ((hiff a b).mp hab) with heq | hpath
    · exact heq.symm
    · exact absurd (hpath.trans_left ((hiff b a).mp hba)) (hacyclic a)

/-- An owner is an editor by the first row and an auditor by the last, and not the reverse. -/
theorem owner_implies_viewer :
    ∃ h, buildInTurns? 7 [("owner", ["editor"]), ("editor", ["viewer"]),
        ("owner", ["auditor"])] = some (.ok h) ∧
      h.implies "owner" "viewer" = true ∧ h.implies "viewer" "owner" = false := by
  have hbuilt : build [("owner", ["editor"]), ("editor", ["viewer"]), ("owner", ["auditor"])] =
      .ok ⟨[("editor", ["viewer"]), ("owner", ["auditor", "editor", "viewer"])]⟩ := by
    decide +kernel
  obtain ⟨hends, -, hall⟩ :=
    build_closes [("owner", ["editor"]), ("editor", ["viewer"]), ("owner", ["auditor"])]
  obtain ⟨hpaths, -, -, hantisymm⟩ := hall _ hbuilt
  have hviewer : Relation.ReflTransGen (Directly [("owner", ["editor"]), ("editor", ["viewer"]),
      ("owner", ["auditor"])]) "owner" "viewer" :=
    .tail (.single ⟨("owner", ["editor"]), by decide, rfl, by decide⟩)
      ⟨("editor", ["viewer"]), by decide, rfl, by decide⟩
  have himplies := (hpaths "owner" "viewer").mpr hviewer
  have hback := mt (hantisymm "owner" "viewer" himplies) (by decide)
  exact ⟨_, (hends 7 (by decide)).trans (congrArg some hbuilt), himplies,
    Bool.eq_false_iff.mpr hback⟩

end Hierarchy

end Mandate.Relation
