import Mandate.Proofs.Fallible
import Mandate.Relation.TupleStore

/-! # What a tuple store holds

A store that is given batches holds the tuples of those batches that are valid as a whole. It does
not matter in which order they came or how they were cut into batches.
-/

namespace Mandate.Relation

namespace Tuple

variable {t : Tuple}

/-- No part of the tuple is empty, and its relation is more than blanks. -/
structure Complete (t : Tuple) : Prop where
  relation : ∃ c ∈ t.relation.toList, Text.isBlank c = false
  objectSpace : t.object.space ≠ ""
  objectId : t.object.id ≠ ""
  subjectSpace : t.subject.space ≠ ""
  subjectId : t.subject.id ≠ ""

theorem checkNode_eq_ok_iff (role : String) (n : Node) :
    checkNode role n = .ok () ↔ n.space ≠ "" ∧ n.id ≠ "" := by
  simp [checkNode]

theorem validate_of_blank (hblank : Text.isBlankText t.relation = true) :
    t.validate = .error (.invalidRelation t.relation) := by
  unfold validate
  rw [hblank]
  rfl

theorem validate_of_not_blank (hblank : Text.isBlankText t.relation = false) :
    t.validate = checkNode "object" t.object >>= fun _ => checkNode "subject" t.subject := by
  unfold validate
  rw [hblank]
  rfl

/-- A tuple is valid exactly if it is complete. -/
theorem validate_eq_ok_iff : t.validate = .ok () ↔ t.Complete := by
  cases hblank : Text.isBlankText t.relation with
  | true =>
      rw [validate_of_blank hblank]
      refine ⟨nofun, fun hcomplete => ?_⟩
      rw [Text.isBlankText_eq_false_iff.mpr hcomplete.relation] at hblank
      cases hblank
  | false =>
      rw [validate_of_not_blank hblank]
      constructor
      · intro hvalid
        obtain ⟨_, hobject, hsubject⟩ := Fallible.exists_of_bind_eq_ok hvalid
        obtain ⟨hobjectSpace, hobjectId⟩ := (checkNode_eq_ok_iff _ _).mp hobject
        obtain ⟨hsubjectSpace, hsubjectId⟩ := (checkNode_eq_ok_iff _ _).mp hsubject
        exact ⟨Text.isBlankText_eq_false_iff.mp hblank, hobjectSpace, hobjectId, hsubjectSpace,
          hsubjectId⟩
      · intro hcomplete
        have hobject : checkNode "object" t.object = .ok () :=
          (checkNode_eq_ok_iff _ _).mpr ⟨hcomplete.objectSpace, hcomplete.objectId⟩
        rw [Fallible.bind_of_ok hobject]
        exact (checkNode_eq_ok_iff _ _).mpr ⟨hcomplete.subjectSpace, hcomplete.subjectId⟩

instance (t : Tuple) : Decidable t.Complete :=
  decidable_of_iff
    (Text.isBlankText t.relation = false ∧ (t.object.space ≠ "" ∧ t.object.id ≠ "") ∧
      t.subject.space ≠ "" ∧ t.subject.id ≠ "")
    ⟨fun ⟨hblank, ⟨hobjectSpace, hobjectId⟩, hsubjectSpace, hsubjectId⟩ =>
        ⟨Text.isBlankText_eq_false_iff.mp hblank, hobjectSpace, hobjectId, hsubjectSpace,
          hsubjectId⟩,
      fun hcomplete => ⟨Text.isBlankText_eq_false_iff.mpr hcomplete.relation,
        ⟨hcomplete.objectSpace, hcomplete.objectId⟩,
        hcomplete.subjectSpace, hcomplete.subjectId⟩⟩

/-- Neither part of the subject of a valid tuple is empty. -/
theorem subject_of_validate (hvalid : t.validate = .ok ()) :
    t.subject.space ≠ "" ∧ t.subject.id ≠ "" :=
  have hcomplete := validate_eq_ok_iff.mp hvalid
  ⟨hcomplete.subjectSpace, hcomplete.subjectId⟩

end Tuple

namespace TupleStore

variable {store : TupleStore} {batch : List Tuple} {batches : List (List Tuple)} {t : Tuple}

/-- The store after a batch. A batch that is refused leaves it as it is. -/
def take (store : TupleStore) (batch : List Tuple) : TupleStore :=
  (store.insert batch).toOption.getD store

/-- The store after batches, one after the other. -/
def takeAll (store : TupleStore) (batches : List (List Tuple)) : TupleStore :=
  batches.foldl take store

/-- The tuple came in a batch that was valid as a whole. -/
def Accepted (batches : List (List Tuple)) (t : Tuple) : Prop :=
  ∃ batch ∈ batches, t ∈ batch ∧ ∀ other ∈ batch, other.validate = .ok ()

theorem validateAll_eq_ok_iff :
    validateAll batch = .ok () ↔ ∀ t ∈ batch, t.validate = .ok () := by
  induction batch with
  | nil => simp [validateAll]
  | cons t rest ih =>
      rw [List.forall_mem_cons, ← ih, validateAll]
      cases hvalid : t.validate with
      | error e => simp [bind, Except.bind]
      | ok u => simp [bind, Except.bind]

theorem mem_addMissing {stored : List Tuple} :
    t ∈ addMissing stored batch ↔ t ∈ stored ∨ t ∈ batch := by
  induction batch generalizing stored with
  | nil => simp [addMissing]
  | cons other rest ih =>
      rw [addMissing, ih]
      by_cases hstored : other ∈ stored
      · rw [if_pos (List.contains_iff_mem.mpr hstored), List.mem_cons]
        constructor
        · exact Or.imp_right Or.inr
        · rintro (hold | rfl | hrest)
          · exact Or.inl hold
          · exact Or.inl hstored
          · exact Or.inr hrest
      · rw [if_neg (mt List.contains_iff_mem.mp hstored), List.mem_append, List.mem_singleton,
          List.mem_cons, or_assoc]

theorem mem_take : t ∈ (store.take batch).tuples ↔
    t ∈ store.tuples ∨ t ∈ batch ∧ ∀ other ∈ batch, other.validate = .ok () := by
  rw [← validateAll_eq_ok_iff, take, insert]
  cases hvalid : validateAll batch with
  | error e => simp [bind, Except.bind, Except.toOption]
  | ok u =>
      simp only [bind, Except.bind, pure, Except.pure, and_true]
      exact mem_addMissing

theorem mem_takeAll :
    t ∈ (store.takeAll batches).tuples ↔ t ∈ store.tuples ∨ Accepted batches t := by
  induction batches generalizing store with
  | nil => simp [takeAll, Accepted]
  | cons batch rest ih =>
      change t ∈ ((store.take batch).takeAll rest).tuples ↔ _
      rw [ih, mem_take, or_assoc]
      simp [Accepted]

/-- Whatever batches a store is given, it never holds a tuple that is not valid. -/
theorem validate_of_mem_takeAll (ht : t ∈ (takeAll {} batches).tuples) :
    t.validate = .ok () := by
  rcases mem_takeAll.mp ht with hempty | ⟨batch, -, hmem, hvalid⟩
  · cases hempty
  · exact hvalid t hmem

end TupleStore

end Mandate.Relation
