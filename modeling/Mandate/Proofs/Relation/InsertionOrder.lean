import Mandate.Proofs.Relation.Stores
import Mandate.Relation.Reach
import Mathlib.Data.List.Induction

/-! # The order in which tuples came

The tuples of a store are those of the batches that it accepted, one batch behind the other, each at
the place of its first occurrence. A batch is accepted if all its tuples are complete, and it is
looked through as a whole before anything is written. So a store that is written in place is left as
it is by a batch that is refused, wherever in it the tuple stands that is not complete.

The subjects that hold a relation on an object are therefore listed once each, in the order in which
their tuples first came.
-/

namespace Mandate.Relation

namespace TupleStore

/-! ## First occurrences -/

section FirstOccurrences

variable {α : Type} [BEq α] [LawfulBEq α]

theorem eraseDups_concat_of_mem {l : List α} {a : α} (ha : a ∈ l) :
    (l ++ [a]).eraseDups = l.eraseDups := by
  simp [List.eraseDups_append, List.removeAll, ha]

theorem eraseDups_concat_of_notMem {l : List α} {a : α} (ha : a ∉ l) :
    (l ++ [a]).eraseDups = l.eraseDups ++ [a] := by
  simp [List.eraseDups_append, List.removeAll, ha, List.eraseDups_cons]

/-- What is left of a list without its repetitions stands in the order of the first occurrences. -/
theorem pairwise_idxOf_eraseDups (l : List α) :
    l.eraseDups.Pairwise fun a b => l.idxOf a < l.idxOf b := by
  induction l using List.reverseRecOn with
  | nil => exact .nil
  | append_singleton l last ih =>
      have hbefore : ∀ a ∈ l.eraseDups, (l ++ [last]).idxOf a = l.idxOf a := by
        intro a ha
        rw [List.idxOf_append, if_pos (List.mem_eraseDups.mp ha)]
      have hold : l.eraseDups.Pairwise fun a b =>
          (l ++ [last]).idxOf a < (l ++ [last]).idxOf b := by
        refine ih.imp_of_mem fun ha hb hlt => ?_
        rwa [hbefore _ ha, hbefore _ hb]
      by_cases hlast : last ∈ l
      · rwa [eraseDups_concat_of_mem hlast]
      · rw [eraseDups_concat_of_notMem hlast]
        refine List.pairwise_append.mpr ⟨hold, List.pairwise_singleton _ _, fun a ha b hb => ?_⟩
        obtain rfl := List.mem_singleton.mp hb
        rw [hbefore a ha, List.idxOf_append, if_neg hlast]
        exact Nat.lt_add_left _ (List.idxOf_lt_length_of_mem (List.mem_eraseDups.mp ha))

end FirstOccurrences

variable {store : TupleStore} {batch earlier : List Tuple}
  {batches : List (List Tuple)} {t : Tuple} {relation : String} {object s : Node}

theorem addMissing_eraseDups :
    addMissing earlier.eraseDups batch = (earlier ++ batch).eraseDups := by
  induction batch generalizing earlier with
  | nil => rw [addMissing, List.append_nil]
  | cons t rest ih =>
      rw [addMissing, List.append_cons earlier]
      by_cases ht : t ∈ earlier
      · have hstored : earlier.eraseDups.contains t = true :=
          List.contains_iff_mem.mpr (List.mem_eraseDups.mpr ht)
        rw [if_pos hstored, ← eraseDups_concat_of_mem ht, ih]
      · have hnew : ¬ earlier.eraseDups.contains t = true :=
          fun hstored => ht (List.mem_eraseDups.mp (List.contains_iff_mem.mp hstored))
        rw [if_neg hnew, ← eraseDups_concat_of_notMem ht, ih]

/-! ## One batch -/

theorem validateAll_of_complete (hcomplete : ∀ t ∈ batch, t.Complete) :
    validateAll batch = .ok () :=
  validateAll_eq_ok_iff.mpr fun t ht => Tuple.validate_eq_ok_iff.mpr (hcomplete t ht)

/-- A batch with a tuple that is not complete meets an objection, to this tuple or to one that
stands before it. -/
theorem exists_objection (before after : List Tuple) (ht : ¬ t.Complete) :
    ∃ e, (∃ other ∈ before ++ [t], other.validate = .error e) ∧
      validateAll (before ++ t :: after) = .error e := by
  induction before with
  | nil =>
      cases hvalid : t.validate with
      | error e => exact ⟨e, ⟨t, List.mem_singleton_self t, hvalid⟩, Fallible.bind_of_error hvalid⟩
      | ok u => exact absurd (Tuple.validate_eq_ok_iff.mp hvalid) ht
  | cons first rest ih =>
      cases hvalid : first.validate with
      | error e =>
          exact ⟨e, ⟨first, List.mem_cons_self, hvalid⟩, Fallible.bind_of_error hvalid⟩
      | ok u =>
          obtain ⟨e, ⟨other, hother, hobjects⟩, hrest⟩ := ih
          exact ⟨e, ⟨other, List.mem_cons_of_mem _ hother, hobjects⟩,
            (Fallible.bind_of_ok hvalid).trans hrest⟩

theorem insert_of_complete (hcomplete : ∀ t ∈ batch, t.Complete) :
    store.insert batch = .ok ⟨addMissing store.tuples batch⟩ := by
  rw [insert, Fallible.bind_of_ok (validateAll_of_complete hcomplete)]
  rfl

theorem insert_of_objection {e : GraphError} (hobjection : validateAll batch = .error e) :
    store.insert batch = .error e :=
  Fallible.bind_of_error hobjection

/-! ## Batches in place -/

/-- Work on the stored tuples. What it has written by the time at which it fails stays. -/
abbrev StoreWork := ExceptT GraphError (StateM TupleStore)

/-- Object to a tuple that is not valid. -/
def checkInPlace (t : Tuple) : StoreWork Unit := liftM t.validate

/-- Write a tuple that is not stored yet. -/
def addInPlace (t : Tuple) : StoreWork Unit := do
  unless (← get).tuples.contains t do
    modify fun store => ⟨store.tuples ++ [t]⟩

/-- Store a batch in place: look at all its tuples, and then write them one after the other. -/
def insertInPlace (batch : List Tuple) : StoreWork Unit := do
  batch.forM checkInPlace
  batch.forM addInPlace

theorem forM_checkInPlace (batch : List Tuple) (store : TupleStore) :
    batch.forM checkInPlace store = (validateAll batch, store) := by
  induction batch with
  | nil => rfl
  | cons t rest ih =>
      change (checkInPlace t >>= fun _ => rest.forM checkInPlace) store = _
      have ht : checkInPlace t store = (t.validate, store) := rfl
      rw [InPlace.bind_apply, ht, validateAll]
      cases t.validate with
      | error e => rfl
      | ok u => exact ih

theorem addInPlace_eq (t : Tuple) (store : TupleStore) :
    addInPlace t store =
      (.ok (), ⟨if store.tuples.contains t then store.tuples else store.tuples ++ [t]⟩) := by
  change (if store.tuples.contains t then pure () else _ : StoreWork Unit) store = _
  split <;> rfl

theorem forM_addInPlace (batch : List Tuple) (store : TupleStore) :
    batch.forM addInPlace store = (.ok (), ⟨addMissing store.tuples batch⟩) := by
  induction batch generalizing store with
  | nil => rfl
  | cons t rest ih =>
      change (addInPlace t >>= fun _ => rest.forM addInPlace) store = _
      rw [InPlace.bind_apply, addInPlace_eq, addMissing]
      exact ih _

/-- A batch in place comes to what inserting it comes to. In particular it has written nothing when
it is refused. -/
theorem insertInPlace_eq (batch : List Tuple) (store : TupleStore) :
    insertInPlace batch store = ((store.insert batch).map fun _ => (), store.take batch) := by
  rw [insertInPlace, InPlace.bind_apply, forM_checkInPlace, take, insert]
  cases validateAll batch with
  | error e => rfl
  | ok u => exact forM_addInPlace batch store

/-- The store after batches in place, one after the other, whatever became of each. -/
def stored (batches : List (List Tuple)) : TupleStore :=
  batches.foldl (fun store batch => (insertInPlace batch store).2) {}

theorem stored_eq_takeAll (batches : List (List Tuple)) : stored batches = takeAll {} batches := by
  have hstep : (fun store batch => (insertInPlace batch store).2) = take := by
    funext store batch
    rw [insertInPlace_eq]
  rw [stored, hstep, takeAll]

/-! ## All batches -/

/-- The tuples of the batches that hold complete tuples only, one batch behind the other. -/
def accepted (batches : List (List Tuple)) : List Tuple :=
  (batches.filter fun batch => ∀ t ∈ batch, t.Complete).flatten

theorem accepted_cons_of_complete (hcomplete : ∀ t ∈ batch, t.Complete)
    (batches : List (List Tuple)) : accepted (batch :: batches) = batch ++ accepted batches := by
  rw [accepted, List.filter_cons_of_pos (by simpa using hcomplete), List.flatten_cons, accepted]

theorem accepted_cons_of_not_complete (hcomplete : ¬ ∀ t ∈ batch, t.Complete)
    (batches : List (List Tuple)) : accepted (batch :: batches) = accepted batches := by
  rw [accepted, List.filter_cons_of_neg (by simpa using hcomplete), accepted]

theorem complete_of_mem_accepted (ht : t ∈ accepted batches) : t.Complete := by
  obtain ⟨batch, hbatch, hmem⟩ := List.mem_flatten.mp ht
  exact of_decide_eq_true (List.mem_filter.mp hbatch).2 t hmem

theorem take_of_complete (hcomplete : ∀ t ∈ batch, t.Complete) (earlier : List Tuple) :
    take ⟨earlier.eraseDups⟩ batch = ⟨(earlier ++ batch).eraseDups⟩ := by
  rw [take, insert_of_complete hcomplete, addMissing_eraseDups]
  rfl

theorem take_of_not_complete (hcomplete : ¬ ∀ t ∈ batch, t.Complete) (store : TupleStore) :
    store.take batch = store := by
  obtain ⟨t, hmem, ht⟩ : ∃ t ∈ batch, ¬ t.Complete := by simpa using hcomplete
  obtain ⟨before, after, rfl⟩ := List.append_of_mem hmem
  obtain ⟨e, -, hobjection⟩ := exists_objection before after ht
  rw [take, insert_of_objection hobjection]
  rfl

/-- A store that holds first occurrences holds those of a longer history after more batches. -/
theorem tuples_takeAll (earlier : List Tuple) (batches : List (List Tuple)) :
    (takeAll ⟨earlier.eraseDups⟩ batches).tuples = (earlier ++ accepted batches).eraseDups := by
  induction batches generalizing earlier with
  | nil =>
      change earlier.eraseDups = (earlier ++ []).eraseDups
      rw [List.append_nil]
  | cons batch rest ih =>
      rw [takeAll, List.foldl_cons]
      by_cases hcomplete : ∀ t ∈ batch, t.Complete
      · rw [take_of_complete hcomplete, accepted_cons_of_complete hcomplete, ← List.append_assoc]
        exact ih (earlier ++ batch)
      · rw [take_of_not_complete hcomplete, accepted_cons_of_not_complete hcomplete]
        exact ih earlier

theorem stored_eq (batches : List (List Tuple)) :
    stored batches = ⟨(accepted batches).eraseDups⟩ := by
  have htuples : (takeAll ⟨[].eraseDups⟩ batches).tuples = ([] ++ accepted batches).eraseDups :=
    tuples_takeAll [] batches
  rw [stored_eq_takeAll]
  exact congrArg TupleStore.mk htuples

/-! ## Listing subjects -/

/-- The subjects that hold a relation on an object by the tuples of a history, each once, in the
order in which these tuples first occur. -/
structure Lists (subjects : List Node) (history : List Tuple) (relation : String)
    (object : Node) : Prop where
  mem_iff : ∀ s, s ∈ subjects ↔ ⟨object, relation, s⟩ ∈ history
  once : subjects.Nodup
  ordered : subjects.Pairwise fun s later =>
    history.idxOf ⟨object, relation, s⟩ < history.idxOf ⟨object, relation, later⟩

theorem mem_subjectsOf :
    s ∈ store.subjectsOf relation object ↔ ⟨object, relation, s⟩ ∈ store.tuples := by
  simp only [subjectsOf, List.mem_map, List.mem_filter, Bool.and_eq_true, beq_iff_eq]
  constructor
  · rintro ⟨t, ⟨ht, rfl, rfl⟩, rfl⟩
    exact ht
  · exact fun hs => ⟨_, ⟨hs, rfl, rfl⟩, rfl⟩

theorem lists_subjectsOf (history : List Tuple) (relation : String) (object : Node) :
    Lists (subjectsOf ⟨history.eraseDups⟩ relation object) history relation object := by
  have hordered : (subjectsOf ⟨history.eraseDups⟩ relation object).Pairwise fun s later =>
      history.idxOf ⟨object, relation, s⟩ < history.idxOf ⟨object, relation, later⟩ := by
    -- a tuple that is selected is made up by its subject
    have hself : ∀ t ∈ history.eraseDups.filter fun t =>
        t.relation == relation && t.object == object,
          (⟨object, relation, t.subject⟩ : Tuple) = t := by
      intro t ht
      have hselected := (List.mem_filter.mp ht).2
      simp only [Bool.and_eq_true, beq_iff_eq] at hselected
      obtain ⟨rfl, rfl⟩ := hselected
      rfl
    refine List.pairwise_map.mpr (((pairwise_idxOf_eraseDups history).filter _).imp_of_mem ?_)
    intro t later ht hlater hlt
    rwa [hself t ht, hself later hlater]
  constructor
  · intro s
    rw [mem_subjectsOf, List.mem_eraseDups]
  · refine List.Pairwise.imp ?_ hordered
    rintro s later hlt rfl
    exact Nat.lt_irrefl _ hlt
  · exact hordered

theorem expand_ofStore (store : TupleStore) (relation : String) (object : Node) (depth : Int) :
    Graph.expand (.ofStore store) relation object depth = .ok (.node relation object
      (if 0 < depth then
        (store.subjectsOf relation object).map fun s => .node Graph.childRelation s []
      else [])) := by
  unfold Graph.expand
  by_cases hdepth : 0 < depth
  · rw [if_neg (Int.not_le.mpr hdepth), if_pos hdepth]
    rfl
  · rw [if_pos (Int.not_lt.mp hdepth), if_neg hdepth]

/-- After any batches a store holds the tuples of the accepted ones in the order in which they came,
each at the place of its first occurrence, and all of them are complete. A further batch adds its
tuples to this history if they are complete. Otherwise it meets an objection and leaves the store as
it is, wherever in it the tuple stands that is not complete. An expansion that goes down at all
lists every subject that holds just that relation on the object once, in the order of first
insertion. -/
theorem first_insertions_kept_and_listed (batches : List (List Tuple)) :
    let store := stored batches
    store.tuples = (accepted batches).eraseDups ∧
    (∀ t ∈ store.tuples, t.Complete) ∧
    (∀ batch, (∀ t ∈ batch, t.Complete) →
      store.insert batch = .ok ⟨(accepted batches ++ batch).eraseDups⟩ ∧
      insertInPlace batch store = (.ok (), ⟨(accepted batches ++ batch).eraseDups⟩)) ∧
    (∀ before t after, ¬ t.Complete →
      ∃ e, (∃ other ∈ before ++ [t], other.validate = .error e) ∧
        store.insert (before ++ t :: after) = .error e ∧
        insertInPlace (before ++ t :: after) store = (.error e, store)) ∧
    ∀ relation object depth, ∃ subjects, Lists subjects (accepted batches) relation object ∧
      Graph.expand (.ofStore store) relation object depth = .ok (.node relation object
        (if 0 < depth then subjects.map fun s => .node Graph.childRelation s [] else [])) := by
  intro store
  have hstore : store = ⟨(accepted batches).eraseDups⟩ := stored_eq batches
  refine ⟨congrArg TupleStore.tuples hstore, ?_, ?_, ?_, ?_⟩
  · intro t ht
    rw [hstore] at ht
    exact complete_of_mem_accepted (List.mem_eraseDups.mp ht)
  · intro batch hcomplete
    have hinsert : store.insert batch = .ok ⟨(accepted batches ++ batch).eraseDups⟩ := by
      rw [insert_of_complete hcomplete, hstore, addMissing_eraseDups]
    refine ⟨hinsert, ?_⟩
    rw [insertInPlace_eq, take, hinsert]
    rfl
  · intro before t after ht
    obtain ⟨e, hobjects, hobjection⟩ := exists_objection before after ht
    have hinsert : store.insert (before ++ t :: after) = .error e := insert_of_objection hobjection
    refine ⟨e, hobjects, hinsert, ?_⟩
    rw [insertInPlace_eq, take, hinsert]
    rfl
  · intro relation object depth
    refine ⟨store.subjectsOf relation object, ?_, expand_ofStore store relation object depth⟩
    rw [hstore]
    exact lists_subjectsOf (accepted batches) relation object

/-- A user holds a relation on a document. -/
def onDocument (relation user : String) : Tuple := ⟨⟨"doc", "d"⟩, relation, ⟨"user", user⟩⟩

/-- Viewers of a document, some of them more than once. The second batch ends with a blank
relation. -/
def viewings : List (List Tuple) :=
  [[onDocument "viewer" "alice", onDocument "viewer" "alice"],
    [onDocument "viewer" "bob", onDocument " " "bob"],
    [onDocument "viewer" "carol", onDocument "owner" "bob", onDocument "viewer" "alice"]]

/-- Alice and Carol are kept and listed, once each, and Bob only owns the document. He becomes a
viewer behind them, but not in a batch with a user without an identifier. -/
theorem viewers_kept_and_listed :
    (stored viewings).tuples = [onDocument "viewer" "alice", onDocument "viewer" "carol",
      onDocument "owner" "bob"] ∧
    Lists [⟨"user", "alice"⟩, ⟨"user", "carol"⟩] (accepted viewings) "viewer" ⟨"doc", "d"⟩ ∧
    insertInPlace [onDocument "viewer" "bob"] (stored viewings) =
      (.ok (), ⟨(stored viewings).tuples ++ [onDocument "viewer" "bob"]⟩) ∧
    ∃ e, insertInPlace [onDocument "viewer" "bob", onDocument "viewer" ""] (stored viewings) =
      (.error e, stored viewings) := by
  obtain ⟨htuples, -, hadded, hrefused, hlisted⟩ := first_insertions_kept_and_listed viewings
  have hfirst : (accepted viewings).eraseDups = [onDocument "viewer" "alice",
      onDocument "viewer" "carol", onDocument "owner" "bob"] := by decide
  obtain ⟨subjects, hlists, hexpand⟩ := hlisted "viewer" ⟨"doc", "d"⟩ 1
  have hsubjects : subjects = [⟨"user", "alice"⟩, ⟨"user", "carol"⟩] := by
    have hlist : Graph.expand (.ofStore (stored viewings)) "viewer" ⟨"doc", "d"⟩ 1 =
        .ok (.node "viewer" ⟨"doc", "d"⟩ [.node Graph.childRelation ⟨"user", "alice"⟩ [],
          .node Graph.childRelation ⟨"user", "carol"⟩ []]) := rfl
    simpa [List.map_eq_cons_iff] using hexpand.symm.trans hlist
  obtain ⟨e, -, -, hleft⟩ :=
    hrefused [onDocument "viewer" "bob"] (onDocument "viewer" "") [] (by decide)
  refine ⟨htuples.trans hfirst, hsubjects ▸ hlists, ?_, e, hleft⟩
  rw [(hadded _ (by decide)).2, eraseDups_concat_of_notMem (by decide), htuples]

end TupleStore

end Mandate.Relation
