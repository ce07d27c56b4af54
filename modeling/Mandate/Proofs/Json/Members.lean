import Mandate.Json.Value
import Mandate.Proofs.Table

/-! # Members sorted by key

Members whose keys strictly increase are determined by what stands under each key. Putting a
member in place keeps them so and changes one key only, and bringing a document into canonical
form changes each value on its own.
-/

namespace Mandate.Json

namespace Members

/-- The keys strictly increase, so that no key is repeated. -/
def Sorted (m : Members) : Prop :=
  m.Pairwise fun a b => a.1 < b.1

instance (m : Members) : Decidable m.Sorted :=
  inferInstanceAs (Decidable (m.Pairwise fun a b => a.1 < b.1))

theorem sorted_pair {k l : String} (hlt : k < l) (v w : Value) : Sorted [(k, v), (l, w)] :=
  List.pairwise_pair.mpr hlt

theorem get?_cons (key query : String) (value : Value) (m : Members) :
    get? ((key, value) :: m) query = if query = key then some value else get? m query :=
  lookup_cons_eq_ite key query value m

/-- Members are put in place as the rows of a table are. -/
theorem insert_eq_insertRow (key : String) (value : Value) (m : Members) :
    insert key value m = Table.insertRow key value m := by
  induction m with
  | nil => rfl
  | cons head tail ih => rw [insert, Table.insertRow, ih]

theorem get?_insert (key query : String) (value : Value) (m : Members) :
    get? (insert key value m) query = if query = key then some value else get? m query := by
  rw [insert_eq_insertRow]
  exact Table.lookup_insertRow key query value m

theorem Sorted.insert {m : Members} (hsorted : m.Sorted) (key : String) (value : Value) :
    Sorted (insert key value m) := by
  rw [insert_eq_insertRow]
  exact Table.pairwise_insertRow hsorted key value

theorem Sorted.get?_tail {key query : String} {value : Value} {m : Members}
    (hsorted : Sorted ((key, value) :: m)) (hle : query ≤ key) : get? m query = none := by
  apply lookup_eq_none_of_forall_ne
  intro entry hentry heq
  have hlt : key < entry.1 := (List.pairwise_cons.mp hsorted).1 entry hentry
  exact String.not_lt.mpr hle (heq ▸ hlt)

/-- Sorted members are determined by what stands under each key. -/
theorem Sorted.ext {m n : Members} (hm : m.Sorted) (hn : n.Sorted)
    (hsame : ∀ query, m.get? query = n.get? query) : m = n := by
  induction m generalizing n with
  | nil =>
      cases n with
      | nil => rfl
      | cons head tail =>
          have hfound := hsame head.1
          rw [get?_cons, if_pos rfl] at hfound
          cases hfound
  | cons head tail ih =>
      obtain ⟨k, v⟩ := head
      cases n with
      | nil =>
          have hfound := hsame k
          rw [get?_cons, if_pos rfl] at hfound
          cases hfound
      | cons other rest =>
          obtain ⟨l, w⟩ := other
          -- the smaller one of two first keys would be missing among the other members
          have hkey : k = l := by
            apply String.le_antisymm
            · refine String.not_lt.mp fun hlt => ?_
              have hfound := hsame l
              rw [get?_cons, get?_cons, if_pos rfl, if_neg (String.ne_of_lt hlt),
                hm.get?_tail (String.not_lt.mp (String.lt_asymm hlt))] at hfound
              cases hfound
            · refine String.not_lt.mp fun hlt => ?_
              have hfound := hsame k
              rw [get?_cons, get?_cons, if_pos rfl, if_neg (String.ne_of_lt hlt),
                hn.get?_tail (String.not_lt.mp (String.lt_asymm hlt))] at hfound
              cases hfound
          subst hkey
          have hvalue := hsame k
          rw [get?_cons, get?_cons, if_pos rfl, if_pos rfl] at hvalue
          obtain rfl := Option.some.inj hvalue
          have htails : ∀ query, get? tail query = get? rest query := by
            intro query
            by_cases heq : query = k
            · subst heq
              rw [hm.get?_tail (String.le_refl _), hn.get?_tail (String.le_refl _)]
            · have hquery := hsame query
              rwa [get?_cons, get?_cons, if_neg heq, if_neg heq] at hquery
          rw [ih (List.pairwise_cons.mp hm).2 (List.pairwise_cons.mp hn).2 htails]

theorem insert_of_forall_lt {key : String} {value : Value} {m : Members}
    (hlt : ∀ entry ∈ m, entry.1 < key) : insert key value m = m ++ [(key, value)] := by
  induction m with
  | nil => rfl
  | cons head tail ih =>
      have hhead := hlt head List.mem_cons_self
      rw [insert, if_neg (Ne.symm (String.ne_of_lt hhead)), if_neg (String.lt_asymm hhead),
        ih fun entry hentry => hlt entry (List.mem_cons_of_mem _ hentry)]
      rfl

/-- Sorted members are in key order already. -/
theorem Sorted.ofList_eq {m : Members} (hsorted : m.Sorted) : ofList m = m := by
  -- members that stand before all others stay where they are
  have happend : ∀ done : Members, (∀ a ∈ done, ∀ b ∈ m, a.1 < b.1) →
      m.foldl (fun acc entry => Members.insert entry.1 entry.2 acc) done = done ++ m := by
    induction m with
    | nil => simp
    | cons head tail ih =>
        obtain ⟨k, v⟩ := head
        obtain ⟨hhead, htail⟩ := List.pairwise_cons.mp hsorted
        intro done hbefore
        rw [List.foldl_cons]
        dsimp only
        rw [insert_of_forall_lt fun a ha => hbefore a ha (k, v) List.mem_cons_self, ih htail]
        · simp
        · intro a ha b hb
          rcases List.mem_append.mp ha with hdone | hlast
          · exact hbefore a hdone b (List.mem_cons_of_mem _ hb)
          · obtain rfl := List.mem_singleton.mp hlast
            exact hhead b hb
  exact (happend [] (by simp)).trans (List.nil_append m)

/-- Members in key order are sorted, and all of them are among the given ones. -/
theorem sorted_ofList (m : Members) : (ofList m).Sorted ∧ ∀ entry ∈ ofList m, entry ∈ m := by
  have hput : ∀ done : Members, done.Sorted →
      (m.foldl (fun acc entry => insert entry.1 entry.2 acc) done).Sorted ∧
        ∀ entry ∈ m.foldl (fun acc entry => insert entry.1 entry.2 acc) done,
          entry ∈ done ∨ entry ∈ m := by
    induction m with
    | nil => exact fun done hdone => ⟨hdone, fun entry => Or.inl⟩
    | cons head tail ih =>
        intro done hdone
        obtain ⟨hsorted, hmem⟩ := ih (insert head.1 head.2 done) (hdone.insert _ _)
        refine ⟨hsorted, fun entry hentry => ?_⟩
        rcases hmem entry hentry with hput | htail
        · rw [insert_eq_insertRow] at hput
          rcases Table.mem_of_mem_insertRow hput with rfl | hold
          · exact Or.inr List.mem_cons_self
          · exact Or.inl hold
        · exact Or.inr (List.mem_cons_of_mem _ htail)
  obtain ⟨hsorted, hmem⟩ := hput [] List.Pairwise.nil
  exact ⟨hsorted, fun entry hentry => (hmem entry hentry).resolve_left List.not_mem_nil⟩

end Members

namespace Value

theorem sortedMembers_eq_map (m : Members) :
    sortedMembers m = m.map fun entry => (entry.1, entry.2.sorted) := by
  induction m with
  | nil => rfl
  | cons head tail ih =>
      obtain ⟨k, v⟩ := head
      rw [sortedMembers, ih]
      rfl

theorem sorted_sortedMembers {m : Members} (hsorted : m.Sorted) :
    Members.Sorted (sortedMembers m) := by
  rw [sortedMembers_eq_map]
  exact List.pairwise_map.mpr hsorted

theorem get?_sortedMembers (m : Members) (query : String) :
    Members.get? (sortedMembers m) query = (m.get? query).map sorted := by
  induction m with
  | nil => rfl
  | cons head tail ih =>
      obtain ⟨k, v⟩ := head
      rw [sortedMembers, Members.get?_cons, Members.get?_cons, ih]
      split <;> rfl

theorem sorted_object {m : Members} (hsorted : m.Sorted) :
    (object m).sorted = object (sortedMembers m) := by
  rw [sorted, (sorted_sortedMembers hsorted).ofList_eq]

theorem sorted_object_pair {k l : String} (hlt : k < l) (v w : Value) :
    (object [(k, v), (l, w)]).sorted = object [(k, v.sorted), (l, w.sorted)] := by
  rw [sorted_object (Members.sorted_pair hlt v w)]
  rfl

/-- What the canonical form of an object holds under a key. -/
theorem get?_sorted_object {m : Members} (hsorted : m.Sorted) (query : String) :
    (object m).sorted.get? query = (m.get? query).map sorted := by
  rw [sorted_object hsorted]
  exact get?_sortedMembers m query

/-- Two objects have the same canonical form if their members do, key by key. -/
theorem sorted_object_congr {m n : Members} (hm : m.Sorted) (hn : n.Sorted)
    (hsame : ∀ query, (m.get? query).map sorted = (n.get? query).map sorted) :
    (object m).sorted = (object n).sorted := by
  rw [sorted_object hm, sorted_object hn]
  congr 1
  apply (sorted_sortedMembers hm).ext (sorted_sortedMembers hn)
  intro query
  rw [get?_sortedMembers, get?_sortedMembers, hsame]

mutual

/-- A document in canonical form is its own canonical form. -/
@[simp] theorem sorted_sorted : (v : Value) → v.sorted.sorted = v.sorted
  | .null => rfl
  | .bool _ => rfl
  | .number _ => rfl
  | .string _ => rfl
  | .array items => by rw [sorted, sorted, sortedItems_sortedItems items]
  | .object members => by
      obtain ⟨hsorted, hmem⟩ := Members.sorted_ofList (sortedMembers members)
      have hsame : (Members.ofList (sortedMembers members)).map
          (fun entry => (entry.1, entry.2.sorted)) = Members.ofList (sortedMembers members) :=
        (List.map_congr_left fun entry hentry => congrArg (entry.1, ·)
          (sorted_of_mem_sortedMembers members entry (hmem entry hentry))).trans (List.map_id _)
      rw [sorted, sorted_object hsorted, sortedMembers_eq_map, hsame]

theorem sortedItems_sortedItems : (items : List Value) →
    sortedItems (sortedItems items) = sortedItems items
  | [] => rfl
  | v :: rest => by
      rw [sortedItems, sortedItems, sorted_sorted v, sortedItems_sortedItems rest]

theorem sorted_of_mem_sortedMembers : (members : Members) → ∀ entry ∈ sortedMembers members,
    entry.2.sorted = entry.2
  | [] => fun _ hentry => absurd hentry List.not_mem_nil
  | (key, v) :: rest => fun entry hentry => by
      rcases List.mem_cons.mp hentry with rfl | hrest
      · exact sorted_sorted v
      · exact sorted_of_mem_sortedMembers rest entry hrest

end

end Value

end Mandate.Json
