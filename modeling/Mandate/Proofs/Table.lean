import Mandate.Table
import Mathlib.Algebra.GroupWithZero.Nat
import Mathlib.Data.List.Sort

/-! # Tables

What stands under a key after a row is put in place, dropped or changed. Rows whose keys strictly
increase stay so, and then no key is repeated.
-/

namespace Mandate

/-! ## Rows -/

section Rows

variable {κ α : Type} [BEq κ] [LawfulBEq κ] [DecidableEq κ]

theorem lookup_cons_eq_ite (key query : κ) (value : α) (rows : List (κ × α)) :
    ((key, value) :: rows).lookup query =
      if query = key then some value else rows.lookup query := by
  rw [List.lookup_cons]
  by_cases heq : query = key
  · rw [if_pos heq, beq_iff_eq.mpr heq]
  · rw [if_neg heq, beq_eq_false_iff_ne.mpr heq]

theorem lookup_eq_none_of_forall_ne {query : κ} {rows : List (κ × α)}
    (hne : ∀ row ∈ rows, row.1 ≠ query) : rows.lookup query = none := by
  induction rows with
  | nil => rfl
  | cons head tail ih =>
      have htail := ih fun row hrow => hne row (List.mem_cons_of_mem _ hrow)
      rw [lookup_cons_eq_ite, if_neg (Ne.symm (hne head List.mem_cons_self)), htail]

/-- Dropping the rows of a key changes nothing under any other. -/
theorem lookup_filter_ne {rows : List (κ × α)} {dropped key : κ} (hne : key ≠ dropped) :
    (rows.filter (·.1 != dropped)).lookup key = rows.lookup key := by
  induction rows with
  | nil => rfl
  | cons head tail ih =>
      by_cases hhead : head.1 = dropped
      · have hkey : key ≠ head.1 := hhead ▸ hne
        rw [List.filter_cons_of_neg (by simp [hhead]), ih, lookup_cons_eq_ite, if_neg hkey]
      · rw [List.filter_cons_of_pos (by simp [hhead]), lookup_cons_eq_ite, lookup_cons_eq_ite, ih]

end Rows

namespace Table

variable {α β : Type}

theorem lookup_insertRow (key query : String) (value : α) (rows : List (String × α)) :
    (insertRow key value rows).lookup query =
      if query = key then some value else rows.lookup query := by
  induction rows with
  | nil => exact lookup_cons_eq_ite key query value []
  | cons head tail ih =>
      obtain ⟨k, v⟩ := head
      by_cases heq : key = k
      · subst heq
        rw [insertRow, if_pos rfl, lookup_cons_eq_ite, lookup_cons_eq_ite]
        split <;> rfl
      · by_cases hlt : key < k
        · rw [insertRow, if_neg heq, if_pos hlt, lookup_cons_eq_ite]
        · rw [insertRow, if_neg heq, if_neg hlt, lookup_cons_eq_ite, ih, lookup_cons_eq_ite]
          by_cases hquery : query = k
          · rw [if_pos hquery, if_pos hquery, if_neg (fun h => heq (h.symm.trans hquery))]
          · rw [if_neg hquery, if_neg hquery]

theorem mem_of_mem_insertRow {key : String} {value : α} {rows : List (String × α)}
    {row : String × α} (hrow : row ∈ insertRow key value rows) :
    row = (key, value) ∨ row ∈ rows := by
  induction rows with
  | nil => exact Or.inl (List.mem_singleton.mp hrow)
  | cons head tail ih =>
      obtain ⟨k, v⟩ := head
      unfold insertRow at hrow
      split at hrow
      · exact (List.mem_cons.mp hrow).imp_right (List.mem_cons_of_mem _)
      · split at hrow
        · exact List.mem_cons.mp hrow
        · rcases List.mem_cons.mp hrow with rfl | htail
          · exact Or.inr List.mem_cons_self
          · exact (ih htail).imp_right (List.mem_cons_of_mem _)

/-- A row that is put in its place keeps the order of the keys. -/
theorem pairwise_insertRow {rows : List (String × α)}
    (hordered : rows.Pairwise fun a b => a.1 < b.1) (key : String) (value : α) :
    (insertRow key value rows).Pairwise fun a b => a.1 < b.1 := by
  induction rows with
  | nil => exact List.pairwise_singleton _ _
  | cons head tail ih =>
      obtain ⟨k, v⟩ := head
      obtain ⟨hhead, htail⟩ := List.pairwise_cons.mp hordered
      unfold insertRow
      split
      next heq =>
        subst heq
        exact List.pairwise_cons.mpr ⟨hhead, htail⟩
      next hne =>
        split
        next hlt =>
          refine List.pairwise_cons.mpr ⟨?_, hordered⟩
          intro row hrow
          rcases List.mem_cons.mp hrow with rfl | hrow
          · exact hlt
          · exact String.lt_trans hlt (hhead row hrow)
        next hge =>
          refine List.pairwise_cons.mpr ⟨?_, ih htail⟩
          intro row hrow
          rcases mem_of_mem_insertRow hrow with rfl | hrow
          · exact String.not_le.mp fun hle => hne (String.le_antisymm hle (String.not_lt.mp hge))
          · exact hhead row hrow

/-- A row that is put in its place counts instead of the row that it replaces. -/
theorem sum_insertRow {rows : List (String × α)} (hordered : rows.Pairwise fun a b => a.1 < b.1)
    (key : String) (value : α) (weight : α → Nat) :
    ((insertRow key value rows).map fun row => weight row.2).sum +
        ((rows.lookup key).map weight).getD 0 =
      (rows.map fun row => weight row.2).sum + weight value := by
  induction rows with
  | nil => simp [insertRow]
  | cons head tail ih =>
      obtain ⟨k, v⟩ := head
      obtain ⟨hhead, htail⟩ := List.pairwise_cons.mp hordered
      unfold insertRow
      split
      next heq =>
        rw [lookup_cons_eq_ite, if_pos heq]
        simp only [List.map_cons, List.sum_cons, Option.map_some, Option.getD_some]
        omega
      next hne =>
        rw [lookup_cons_eq_ite, if_neg hne]
        split
        next hlt =>
          -- the key is smaller than all others, so there is no row to replace
          have hnone : tail.lookup key = none := by
            apply lookup_eq_none_of_forall_ne
            rintro row hrow rfl
            exact String.lt_irrefl _ (String.lt_trans hlt (hhead row hrow))
          rw [hnone]
          simp only [List.map_cons, List.sum_cons, Option.map_none, Option.getD_none]
          omega
        next =>
          have hrest := ih htail
          simp only [List.map_cons, List.sum_cons]
          omega

/-! ## Tables -/

theorem get?_insert (t : Table α) (key query : String) (value : α) :
    (t.insert key value).get? query = if query = key then some value else t.get? query :=
  lookup_insertRow key query value t.rows

@[simp] theorem get?_insert_self (t : Table α) (key : String) (value : α) :
    (t.insert key value).get? key = some value := by
  rw [get?_insert, if_pos rfl]

theorem get?_insert_of_ne (t : Table α) {key query : String} (hne : query ≠ key) (value : α) :
    (t.insert key value).get? query = t.get? query := by
  rw [get?_insert, if_neg hne]

@[simp] theorem get?_erase_self (t : Table α) (key : String) : (t.erase key).get? key = none :=
  lookup_eq_none_of_forall_ne fun row hrow => by simpa using (List.mem_filter.mp hrow).2

theorem get?_erase_of_ne (t : Table α) {key query : String} (hne : query ≠ key) :
    (t.erase key).get? query = t.get? query :=
  lookup_filter_ne hne

@[simp] theorem get?_modify_self (t : Table α) (key : String) (default : α) (change : α → α) :
    (t.modify key default change).get? key = some (change ((t.get? key).getD default)) :=
  get?_insert_self t key _

theorem get?_modify_of_ne (t : Table α) {key query : String} (hne : query ≠ key) (default : α)
    (change : α → α) : (t.modify key default change).get? query = t.get? query :=
  get?_insert_of_ne t hne _

@[simp] theorem get?_mapValues (t : Table α) (change : α → β) (key : String) :
    (t.mapValues change).get? key = (t.get? key).map change := by
  obtain ⟨rows⟩ := t
  change (rows.map fun row => (row.1, change row.2)).lookup key = (rows.lookup key).map change
  induction rows with
  | nil => rfl
  | cons head tail ih =>
      rw [List.map_cons, lookup_cons_eq_ite, ih, lookup_cons_eq_ite]
      split <;> rfl

/-- The keys strictly increase, so that no key is repeated. -/
def Ordered (t : Table α) : Prop := t.rows.Pairwise fun a b => a.1 < b.1

theorem Ordered.empty : Ordered ({} : Table α) := List.Pairwise.nil

theorem Ordered.insert {t : Table α} (hordered : t.Ordered) (key : String) (value : α) :
    (t.insert key value).Ordered := pairwise_insertRow hordered key value

theorem Ordered.modify {t : Table α} (hordered : t.Ordered) (key : String) (default : α)
    (change : α → α) : (t.modify key default change).Ordered := hordered.insert key _

theorem Ordered.erase {t : Table α} (hordered : t.Ordered) (key : String) :
    (t.erase key).Ordered := hordered.filter _

theorem Ordered.filter {t : Table α} (hordered : t.Ordered) (keep : α → Bool) :
    (t.filter keep).Ordered := List.Pairwise.filter _ hordered

theorem Ordered.mapValues {t : Table α} (hordered : t.Ordered) (change : α → β) :
    (t.mapValues change).Ordered := List.pairwise_map.mpr hordered

/-- Of an ordered table a filter keeps what has the property, key by key. -/
theorem Ordered.get?_filter {t : Table α} (hordered : t.Ordered) (keep : α → Bool)
    (key : String) : (t.filter keep).get? key = (t.get? key).filter keep := by
  obtain ⟨rows⟩ := t
  change (rows.filter fun row => keep row.2).lookup key = (rows.lookup key).filter keep
  change rows.Pairwise _ at hordered
  induction rows with
  | nil => rfl
  | cons head tail ih =>
      obtain ⟨k, v⟩ := head
      obtain ⟨hhead, htail⟩ := List.pairwise_cons.mp hordered
      rw [lookup_cons_eq_ite, List.filter_cons]
      dsimp only
      by_cases hkey : key = k
      · -- the key stands at the head and nowhere else
        have hnone : (tail.filter fun row => keep row.2).lookup key = none := by
          apply lookup_eq_none_of_forall_ne
          rintro row hrow heq
          have hlt := hhead row (List.mem_filter.mp hrow).1
          exact String.lt_irrefl k (by rwa [heq, hkey] at hlt)
        rw [if_pos hkey, Option.filter_some]
        by_cases hkeep : keep v
        · rw [if_pos hkeep, if_pos hkeep, lookup_cons_eq_ite, if_pos hkey]
        · rw [if_neg hkeep, if_neg hkeep, hnone]
      · rw [if_neg hkey, ← ih htail]
        split
        · rw [lookup_cons_eq_ite, if_neg hkey]
        · rfl

/-- The rows of an ordered table are what stands under its keys. -/
theorem Ordered.mem_rows_iff {t : Table α} (hordered : t.Ordered) (row : String × α) :
    row ∈ t.rows ↔ t.get? row.1 = some row.2 := by
  obtain ⟨rows⟩ := t
  change row ∈ rows ↔ rows.lookup row.1 = some row.2
  change rows.Pairwise _ at hordered
  induction rows with
  | nil => simp
  | cons head tail ih =>
      obtain ⟨hhead, htail⟩ := List.pairwise_cons.mp hordered
      rw [lookup_cons_eq_ite, List.mem_cons, ih htail]
      by_cases hkey : row.1 = head.1
      · have habsent : tail.lookup row.1 = none := by
          apply lookup_eq_none_of_forall_ne
          intro other hother heq
          have hlt := hhead other hother
          exact String.lt_irrefl _ (by rwa [heq, hkey] at hlt)
        rw [if_pos hkey, habsent, Prod.ext_iff]
        simp [hkey, eq_comm]
      · rw [if_neg hkey, Prod.ext_iff]
        simp [hkey]

/-- Ordered tables with the same under every key are the same. -/
theorem Ordered.ext {t t' : Table α} (hordered : t.Ordered) (hordered' : t'.Ordered)
    (hget : ∀ key, t.get? key = t'.get? key) : t = t' := by
  have hmem : ∀ row, row ∈ t.rows ↔ row ∈ t'.rows := by
    intro row
    rw [hordered.mem_rows_iff, hordered'.mem_rows_iff, hget]
  have : Std.Irrefl fun a b : String × α => a.1 < b.1 := ⟨fun a => String.lt_irrefl a.1⟩
  have : Std.Antisymm fun a b : String × α => a.1 < b.1 :=
    ⟨fun _ _ hlt hgt => absurd (String.lt_trans hlt hgt) (String.lt_irrefl _)⟩
  obtain ⟨rows⟩ := t
  obtain ⟨rows'⟩ := t'
  exact congrArg Table.mk (List.Pairwise.eq_of_mem_iff hordered hordered' hmem)

theorem Ordered.sorted_keys {t : Table α} (hordered : t.Ordered) : t.keys.Pairwise (· < ·) :=
  List.pairwise_map.mpr hordered

theorem Ordered.mem_keys_iff {t : Table α} (hordered : t.Ordered) (key : String) :
    key ∈ t.keys ↔ ∃ value, t.get? key = some value := by
  unfold keys
  rw [List.mem_map]
  constructor
  · rintro ⟨row, hrow, rfl⟩
    exact ⟨row.2, (hordered.mem_rows_iff row).mp hrow⟩
  · rintro ⟨value, hvalue⟩
    exact ⟨(key, value), (hordered.mem_rows_iff (key, value)).mpr hvalue, rfl⟩

end Table

end Mandate
