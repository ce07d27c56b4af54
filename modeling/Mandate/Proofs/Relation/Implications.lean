import Mandate.Proofs.Fallible
import Mandate.Proofs.Table
import Mandate.Relation.Hierarchy
import Mathlib.Data.Finset.Card
import Mathlib.Data.List.Sort
import Mathlib.Logic.Relation

/-! # Tables of implications

The rows that a hierarchy is given are collected into a table that holds every relation once. It
leaves out nothing and adds nothing, whether or not relations repeat. What a relation implies
through any number of steps is found by widening: as long as something is missing, every round
looks at a further row of the table.
-/

namespace Mandate.Relation

variable {rows done : List (String × List String)} {table final : Implications}
  {relation name a b : String} {names targets : List String}

/-! ## Sorted lists of names -/

theorem mem_insertName : a ∈ insertName name names ↔ a = name ∨ a ∈ names := by
  induction names with
  | nil => simp [insertName]
  | cons head rest ih =>
      unfold insertName
      split
      next heq => simp [heq]
      next =>
        split
        · simp
        · simp only [List.mem_cons, ih]
          exact or_left_comm

theorem mem_unionNames : a ∈ unionNames targets names ↔ a ∈ targets ∨ a ∈ names := by
  unfold unionNames
  induction targets generalizing names with
  | nil => simp
  | cons head rest ih =>
      rw [List.foldl_cons, ih, mem_insertName, List.mem_cons, or_left_comm, or_assoc]

theorem sorted_insertName (hsorted : names.Pairwise (· < ·)) (name : String) :
    (insertName name names).Pairwise (· < ·) := by
  induction names with
  | nil => exact List.pairwise_singleton _ _
  | cons head rest ih =>
      obtain ⟨hhead, hrest⟩ := List.pairwise_cons.mp hsorted
      unfold insertName
      split
      next => exact hsorted
      next hne =>
        split
        next hlt =>
          refine List.pairwise_cons.mpr ⟨?_, hsorted⟩
          intro other hother
          rcases List.mem_cons.mp hother with rfl | hother
          · exact hlt
          · exact String.lt_trans hlt (hhead other hother)
        next hge =>
          refine List.pairwise_cons.mpr ⟨?_, ih hrest⟩
          intro other hother
          rcases mem_insertName.mp hother with rfl | hother
          · exact String.not_le.mp fun hle => hne (String.le_antisymm hle (String.not_lt.mp hge))
          · exact hhead other hother

theorem sorted_unionNames (hsorted : names.Pairwise (· < ·)) (targets : List String) :
    (unionNames targets names).Pairwise (· < ·) := by
  unfold unionNames
  induction targets generalizing names with
  | nil => exact hsorted
  | cons head rest ih => exact ih (sorted_insertName hsorted head)

/-- Sorted lists with the same names are the same. -/
theorem eq_of_sorted {names' : List String} (hsorted : names.Pairwise (· < ·))
    (hsorted' : names'.Pairwise (· < ·)) (hmem : ∀ a, a ∈ names ↔ a ∈ names') : names = names' :=
  hsorted.eq_of_mem_iff hsorted' hmem

theorem length_insertName_le (name : String) (names : List String) :
    (insertName name names).length ≤ names.length + 1 := by
  induction names with
  | nil => exact Nat.le_refl _
  | cons head rest ih =>
      unfold insertName
      split
      · exact Nat.le_succ _
      · split
        · exact Nat.le_refl _
        · exact Nat.succ_le_succ ih

theorem length_unionNames_le (targets names : List String) :
    (unionNames targets names).length ≤ names.length + targets.length := by
  unfold unionNames
  induction targets generalizing names with
  | nil => exact Nat.le_refl _
  | cons head rest ih =>
      have hhead := length_insertName_le head names
      have hrest := ih (insertName head names)
      rw [List.foldl_cons, List.length_cons]
      omega

/-! ## What a table implies -/

/-- A relation implies another directly by one of the rows that are given. -/
def Directly (rows : List (String × List String)) (a b : String) : Prop :=
  ∃ row ∈ rows, row.1 = a ∧ b ∈ row.2

/-- No name is blank. -/
def Named (rows : List (String × List String)) : Prop :=
  ∀ row ∈ rows, Text.isBlankText row.1 = false ∧ ∀ target ∈ row.2, Text.isBlankText target = false

/-- A relation implies another directly by a table. -/
def Implied (table : Implications) (a b : String) : Prop := b ∈ directTargets table a

theorem directTargets_cons (row : String × List String) (rest : Implications) (a : String) :
    directTargets (row :: rest) a = if a = row.1 then row.2 else directTargets rest a := by
  unfold directTargets
  rw [lookup_cons_eq_ite]
  split <;> rfl

/-- A table holds what the rows imply: every relation once, with its targets in order. -/
structure Collects (table : Implications) (rows : List (String × List String)) : Prop where
  ordered : table.Pairwise fun row other => row.1 < other.1
  sorted : ∀ a, (directTargets table a).Pairwise (· < ·)
  implied_iff : ∀ a b, Implied table a b ↔ Directly rows a b

theorem Collects.empty : Collects [] [] where
  ordered := List.Pairwise.nil
  sorted _ := List.Pairwise.nil
  implied_iff a b := by simp [Implied, directTargets, Directly]

theorem Collects.transGen_iff (hcollects : Collects table rows) :
    Relation.TransGen (Implied table) a b ↔ Relation.TransGen (Directly rows) a b := by
  have hsame : Implied table = Directly rows :=
    funext fun a => funext fun b => propext (hcollects.implied_iff a b)
  rw [hsame]

theorem directTargets_eq_nil (habsent : ∀ row ∈ table, row.1 ≠ a) : directTargets table a = [] := by
  rw [directTargets, lookup_eq_none_of_forall_ne habsent]
  rfl

/-- What is added to a table in order is united with what its relation implies already. -/
theorem addImplications_eq_insertRow (hordered : table.Pairwise fun row other => row.1 < other.1)
    (relation : String) (targets : List String) :
    addImplications relation targets table =
      Table.insertRow relation (((table.lookup relation).map (unionNames targets)).getD targets)
        table := by
  induction table with
  | nil => rfl
  | cons head rest ih =>
      obtain ⟨r, ts⟩ := head
      obtain ⟨hhead, hrest⟩ := List.pairwise_cons.mp hordered
      rw [lookup_cons_eq_ite]
      unfold addImplications Table.insertRow
      split
      next heq => simp [heq]
      next =>
        split
        next hlt =>
          -- the relation comes before all others, so the table has no row of it
          have habsent : rest.lookup relation = none := by
            apply lookup_eq_none_of_forall_ne
            rintro row hrow rfl
            exact String.lt_irrefl _ (String.lt_trans hlt (hhead row hrow))
          rw [habsent]
          rfl
        next => rw [ih hrest]

theorem directTargets_addImplications
    (hordered : table.Pairwise fun row other => row.1 < other.1) (relation : String)
    (targets : List String) (a : String) :
    directTargets (addImplications relation targets table) a =
      if a = relation then ((table.lookup relation).map (unionNames targets)).getD targets
      else directTargets table a := by
  rw [directTargets, addImplications_eq_insertRow hordered, Table.lookup_insertRow]
  split <;> rfl

/-- How many targets the rows of a table list. -/
def weight (table : List (String × List String)) : Nat := (table.map (·.2.length)).sum

theorem weight_cons (relation : String) (targets : List String)
    (rest : List (String × List String)) :
    weight ((relation, targets) :: rest) = targets.length + weight rest := rfl

theorem weight_addImplications_le (hordered : table.Pairwise fun row other => row.1 < other.1)
    (relation : String) (targets : List String) :
    weight (addImplications relation targets table) ≤ weight table + targets.length := by
  rw [addImplications_eq_insertRow hordered]
  have hsum := Table.sum_insertRow hordered relation
    (((table.lookup relation).map (unionNames targets)).getD targets) List.length
  unfold weight
  cases hlookup : table.lookup relation with
  | none =>
      simp only [hlookup, Option.map_none, Option.getD_none] at hsum ⊢
      omega
  | some names =>
      have hunion := length_unionNames_le targets names
      simp only [hlookup, Option.map_some, Option.getD_some] at hsum ⊢
      omega

theorem directly_append_singleton :
    Directly (rows ++ [(relation, targets)]) a b ↔
      Directly rows a b ∨ (relation = a ∧ b ∈ targets) := by
  simp [Directly, or_and_right, exists_or]

/-- One more row is collected. -/
theorem Collects.add (hcollects : Collects table rows) (relation : String)
    (hsorted : names.Pairwise (· < ·)) (hmem : ∀ b, b ∈ names ↔ b ∈ targets) :
    Collects (addImplications relation names table) (rows ++ [(relation, targets)]) where
  ordered := by
    rw [addImplications_eq_insertRow hcollects.ordered]
    exact Table.pairwise_insertRow hcollects.ordered relation _
  sorted a := by
    have htargets := hcollects.sorted relation
    rw [directTargets_addImplications hcollects.ordered]
    split
    · unfold directTargets at htargets
      cases hlookup : table.lookup relation with
      | none => exact hsorted
      | some found =>
          rw [hlookup] at htargets
          exact sorted_unionNames htargets names
    · exact hcollects.sorted a
  implied_iff a b := by
    rw [directly_append_singleton, ← hcollects.implied_iff, ← hmem]
    unfold Implied
    rw [directTargets_addImplications hcollects.ordered]
    split
    next heq =>
      subst heq
      unfold directTargets
      cases hlookup : table.lookup a with
      | none => simp
      | some found => simp [mem_unionNames, or_comm]
    next hne => simp [Ne.symm hne]

/-! ## Collecting rows -/

theorem checkTargets_cons (relation target : String) (rest : List String) :
    Hierarchy.checkTargets relation (target :: rest) =
      if Text.isBlankText target then .error (.emptyTarget relation)
      else if target = relation then .error (.selfTarget relation)
      else (Hierarchy.checkTargets relation rest).map (insertName target) := by
  rw [Hierarchy.checkTargets]
  split
  · rfl
  · split
    · rfl
    · cases Hierarchy.checkTargets relation rest <;> rfl

/-- The targets of a row are taken in order if none of them is blank or the relation itself. -/
theorem checkTargets_eq_ok_iff : Hierarchy.checkTargets relation targets = .ok names ↔
    ((∀ target ∈ targets, Text.isBlankText target = false) ∧ relation ∉ targets) ∧
      targets.foldr insertName [] = names := by
  induction targets generalizing names with
  | nil => simp [Hierarchy.checkTargets]
  | cons target rest ih =>
      rw [checkTargets_cons]
      cases hblank : Text.isBlankText target with
      | true => simp [hblank]
      | false =>
          by_cases hne : target = relation
          · simp [hne]
          · rw [if_neg Bool.false_ne_true, if_neg hne]
            constructor
            · intro hok
              obtain ⟨more, hmore, rfl⟩ := Fallible.exists_of_map_eq_ok hok
              obtain ⟨⟨hnamed, hself⟩, rfl⟩ := ih.mp hmore
              refine ⟨⟨List.forall_mem_cons.mpr ⟨hblank, hnamed⟩, ?_⟩, rfl⟩
              exact List.not_mem_cons_of_ne_of_not_mem (Ne.symm hne) hself
            · rintro ⟨⟨hnamed, hself⟩, rfl⟩
              have hrest := ih.mpr ⟨⟨(List.forall_mem_cons.mp hnamed).2,
                fun hmem => hself (List.mem_cons_of_mem _ hmem)⟩, rfl⟩
              rw [hrest]
              rfl

theorem mem_foldr_insertName : a ∈ targets.foldr insertName [] ↔ a ∈ targets := by
  induction targets with
  | nil => simp
  | cons target rest ih => rw [List.foldr_cons, mem_insertName, ih, List.mem_cons]

theorem sorted_foldr_insertName (targets : List String) :
    (targets.foldr insertName []).Pairwise (· < ·) := by
  induction targets with
  | nil => exact List.Pairwise.nil
  | cons target rest ih => exact sorted_insertName ih target

theorem length_foldr_insertName_le (targets : List String) :
    (targets.foldr insertName []).length ≤ targets.length := by
  induction targets with
  | nil => exact Nat.le_refl _
  | cons target rest ih =>
      exact Nat.le_trans (length_insertName_le target _) (Nat.succ_le_succ ih)

theorem buildTable_cons_eq_ok_iff {rest : List (String × List String)} :
    Hierarchy.buildTable ((relation, targets) :: rest) table = .ok final ↔
      (Text.isBlankText relation = false ∧
        (∀ target ∈ targets, Text.isBlankText target = false) ∧ relation ∉ targets) ∧
      Hierarchy.buildTable rest (addImplications relation (targets.foldr insertName []) table) =
        .ok final := by
  have hcons : Hierarchy.buildTable ((relation, targets) :: rest) table =
      if Text.isBlankText relation then .error .emptyName
      else Hierarchy.checkTargets relation targets >>= fun names =>
        Hierarchy.buildTable rest (addImplications relation names table) := by
    rw [Hierarchy.buildTable]
    split <;> rfl
  rw [hcons]
  cases hblank : Text.isBlankText relation with
  | true => simp
  | false =>
      rw [if_neg Bool.false_ne_true]
      constructor
      · intro hbuilt
        obtain ⟨names, hnames, hbuilt⟩ := Fallible.exists_of_bind_eq_ok hbuilt
        obtain ⟨hrow, rfl⟩ := checkTargets_eq_ok_iff.mp hnames
        exact ⟨⟨rfl, hrow⟩, hbuilt⟩
      · rintro ⟨⟨-, hrow⟩, hbuilt⟩
        rw [Fallible.bind_of_ok (checkTargets_eq_ok_iff.mpr ⟨hrow, rfl⟩), hbuilt]

/-- No row has the relation itself among its targets. -/
def Irreflexive (rows : List (String × List String)) : Prop := ∀ row ∈ rows, row.1 ∉ row.2

/-- Rows are collected if no name is blank and no relation implies itself directly. -/
theorem buildTable_spec (hcollects : Collects table done) (rows : List (String × List String)) :
    ((∃ final, Hierarchy.buildTable rows table = .ok final) ↔ Named rows ∧ Irreflexive rows) ∧
      ∀ final, Hierarchy.buildTable rows table = .ok final →
        Collects final (done ++ rows) ∧ weight final ≤ weight table + weight rows := by
  induction rows generalizing table done with
  | nil =>
      refine ⟨iff_of_true ⟨table, rfl⟩ ⟨List.forall_mem_nil _, List.forall_mem_nil _⟩, ?_⟩
      rintro final ⟨⟩
      rw [List.append_nil]
      exact ⟨hcollects, Nat.le_refl _⟩
  | cons row rest ih =>
      obtain ⟨relation, targets⟩ := row
      obtain ⟨hiff, hfinal⟩ := ih (hcollects.add relation (sorted_foldr_insertName targets)
        fun _ => mem_foldr_insertName)
      simp only [buildTable_cons_eq_ok_iff]
      constructor
      · rw [exists_and_left, hiff]
        unfold Named Irreflexive
        rw [List.forall_mem_cons, List.forall_mem_cons]
        tauto
      · rintro final ⟨-, hbuilt⟩
        obtain ⟨hcollected, hweight⟩ := hfinal final hbuilt
        rw [List.append_assoc] at hcollected
        have hadded := weight_addImplications_le hcollects.ordered relation
          (targets.foldr insertName [])
        have hlength := length_foldr_insertName_le targets
        refine ⟨hcollected, ?_⟩
        rw [weight_cons]
        omega

/-! ## Everything that a relation implies -/

theorem mem_widen : a ∈ widen table names ↔ a ∈ names ∨ ∃ b ∈ names, Implied table b a := by
  have hfoldl : ∀ found,
      a ∈ names.foldl (fun acc r => unionNames (directTargets table r) acc) found ↔
        a ∈ found ∨ ∃ b ∈ names, Implied table b a := by
    induction names with
    | nil => simp
    | cons head rest ih =>
        intro found
        rw [List.foldl_cons, ih, mem_unionNames, List.exists_mem_cons_iff, or_comm (a := a ∈ _),
          or_assoc]
        rfl
  exact hfoldl names

theorem sorted_widenTimes (hsorted : names.Pairwise (· < ·)) (table : Implications)
    (times : Nat) : (widenTimes table times names).Pairwise (· < ·) := by
  have hwiden : ∀ more found : List String, found.Pairwise (· < ·) →
      (more.foldl (fun acc r => unionNames (directTargets table r) acc) found).Pairwise
        (· < ·) := by
    intro more
    induction more with
    | nil => exact fun _ hfound => hfound
    | cons head rest ih => exact fun found hfound => ih _ (sorted_unionNames hfound _)
  induction times generalizing names with
  | zero => exact hsorted
  | succ times ih => exact ih (hwiden names names hsorted)

/-- The names leave out nothing that one of them implies. -/
def Closed (table : Implications) (names : List String) : Prop :=
  ∀ a ∈ names, ∀ b, Implied table a b → b ∈ names

/-- The relations of a table that are among the names. -/
def looked (table : Implications) (names : List String) : Finset String :=
  (table.map (·.1)).toFinset ∩ names.toFinset

theorem mem_keys_of_implied (himplied : Implied table a b) : a ∈ table.map (·.1) := by
  by_contra habsent
  have hnil : directTargets table a = [] := directTargets_eq_nil fun row hrow heq =>
    habsent (heq ▸ List.mem_map_of_mem hrow)
  rw [Implied, hnil] at himplied
  exact List.not_mem_nil himplied

/-- Unless nothing is missing any more, widening looks at a further row of the table. -/
theorem closed_widen_or_lt (table : Implications) (names : List String) :
    Closed table (widen table names) ∨
      (looked table names).card < (looked table (widen table names)).card := by
  by_cases hclosed : Closed table (widen table names)
  · exact .inl hclosed
  · refine .inr (Finset.card_lt_card ?_)
    unfold Closed at hclosed
    push Not at hclosed
    obtain ⟨a, ha, b, himplied, hb⟩ := hclosed
    have hnew : a ∉ names := fun hold => hb (mem_widen.mpr (.inr ⟨a, hold, himplied⟩))
    have hsubset : looked table names ⊆ looked table (widen table names) := by
      intro c hc
      simp only [looked, Finset.mem_inter, List.mem_toFinset] at hc ⊢
      exact ⟨hc.1, mem_widen.mpr (.inl hc.2)⟩
    refine (Finset.ssubset_iff_of_subset hsubset).mpr ⟨a, ?_, ?_⟩
    · simp only [looked, Finset.mem_inter, List.mem_toFinset]
      exact ⟨mem_keys_of_implied himplied, ha⟩
    · simp [looked, hnew]

theorem Closed.widen (hclosed : Closed table names) : Closed table (widen table names) := by
  have hmem : ∀ a, a ∈ Relation.widen table names → a ∈ names := by
    intro a ha
    rcases mem_widen.mp ha with hold | ⟨b, hb, himplied⟩
    · exact hold
    · exact hclosed b hb a himplied
  intro a ha b himplied
  exact mem_widen.mpr (.inl (hclosed a (hmem a ha) b himplied))

/-- Widening as often as there are rows leaves nothing missing. -/
theorem closed_widenTimes {seen : Nat}
    (hseen : Closed table names ∨ seen ≤ (looked table names).card) (times : Nat) :
    Closed table (widenTimes table times names) ∨
      seen + times ≤ (looked table (widenTimes table times names)).card := by
  induction times generalizing names seen with
  | zero => exact hseen
  | succ times ih =>
      have hnext : Closed table (widen table names) ∨
          seen + 1 ≤ (looked table (widen table names)).card := by
        rcases hseen with hclosed | hseen
        · exact .inl hclosed.widen
        · exact (closed_widen_or_lt table names).imp_right fun hlt => by omega
      rw [widenTimes, Nat.add_comm times 1, ← Nat.add_assoc]
      exact ih hnext

theorem closed_closureOf (table : Implications) (relation : String) :
    Closed table (closureOf table relation) := by
  have hstart : Closed table (directTargets table relation) ∨
      1 ≤ (looked table (directTargets table relation)).card := by
    by_cases hclosed : Closed table (directTargets table relation)
    · exact .inl hclosed
    · unfold Closed at hclosed
      push Not at hclosed
      obtain ⟨a, ha, b, himplied, -⟩ := hclosed
      refine .inr (Finset.card_pos.mpr ⟨a, ?_⟩)
      simp only [looked, Finset.mem_inter, List.mem_toFinset]
      exact ⟨mem_keys_of_implied himplied, ha⟩
  refine (closed_widenTimes hstart table.length).resolve_right fun hmany => ?_
  have hfew : (looked table (closureOf table relation)).card ≤ table.length := by
    calc (looked table (closureOf table relation)).card
        ≤ (table.map (·.1)).toFinset.card := Finset.card_le_card Finset.inter_subset_left
      _ ≤ (table.map (·.1)).length := List.toFinset_card_le _
      _ = table.length := List.length_map _
  unfold closureOf at hfew
  omega

theorem transGen_of_mem_widenTimes
    (hnames : ∀ a ∈ names, Relation.TransGen (Implied table) relation a) {times : Nat}
    (ha : a ∈ widenTimes table times names) :
    Relation.TransGen (Implied table) relation a := by
  induction times generalizing names with
  | zero => exact hnames a ha
  | succ times ih =>
      refine ih ?_ ha
      intro b hb
      rcases mem_widen.mp hb with hold | ⟨c, hc, himplied⟩
      · exact hnames b hold
      · exact (hnames c hc).tail himplied

theorem subset_widenTimes (table : Implications) (times : Nat) (ha : a ∈ names) :
    a ∈ widenTimes table times names := by
  induction times generalizing names with
  | zero => exact ha
  | succ times ih => exact ih (mem_widen.mpr (.inl ha))

/-- The closure of a relation is what it implies through one or more steps. -/
theorem mem_closureOf_iff :
    a ∈ closureOf table relation ↔ Relation.TransGen (Implied table) relation a := by
  constructor
  · exact transGen_of_mem_widenTimes fun b hb => .single hb
  · intro hreached
    induction hreached with
    | single himplied => exact subset_widenTimes table _ himplied
    | tail _ himplied ih => exact closed_closureOf table relation _ ih _ himplied

end Mandate.Relation
