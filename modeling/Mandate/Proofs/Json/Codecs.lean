import Mandate.Decision
import Mandate.Proofs.Json.Fields
import Mandate.Proofs.Json.Members
import Mandate.Proofs.Json.RoundTrip
import Mandate.Proofs.Text.Identifiers

/-! # Readers that undo writers

A record is written field by field and read field by field. The reader looks for each field by its
name, so it does not matter in which order the members stand: the one part of the members that has
the name is what was written for the field, and if nothing was written, the default of the reader
has to be what was left out. A reader undoes a writer if each of its fields does.

What is said here of reading holds for every spelling of a document that keeps its members, in
whatever order: as they are written, and in key order.
-/

namespace Mandate.Json

/-! ## Members by name -/

namespace Members

/-- The members that have a name. -/
def named (m : Members) (name : String) : Members := m.filter (·.1 == name)

@[simp] theorem named_append (m n : Members) (name : String) :
    named (m ++ n) name = named m name ++ named n name :=
  List.filter_append ..

/-- Members that all have one name are there under this name only. -/
theorem named_of_forall {m : Members} {key : String} (hkey : ∀ entry ∈ m, entry.1 = key)
    (name : String) : named m name = if key = name then m else [] := by
  unfold named
  split
  next heq =>
    rw [List.filter_eq_self]
    intro entry hentry
    rw [hkey entry hentry, heq, beq_self_eq_true]
  next hne =>
    rw [List.filter_eq_nil_iff]
    intro entry hentry
    rw [hkey entry hentry, beq_iff_eq]
    exact hne

@[simp] theorem named_field (key : String) (value : Value) (name : String) :
    named (field key value) name = if key = name then field key value else [] :=
  named_of_forall (by simp [field]) name

@[simp] theorem named_optionalField {α : Type} (key : String) (value : Option α)
    (write : α → Value) (name : String) :
    named (optionalField key value write) name =
      if key = name then optionalField key value write else [] :=
  named_of_forall (by cases value <;> simp [optionalField]) name

@[simp] theorem named_textField (key s name : String) :
    named (textField key s) name = if key = name then textField key s else [] :=
  named_of_forall (by unfold textField; split <;> simp) name

@[simp] theorem named_flagField (key : String) (b : Bool) (name : String) :
    named (flagField key b) name = if key = name then flagField key b else [] :=
  named_of_forall (by cases b <;> simp [flagField]) name

@[simp] theorem named_listField {α : Type} (key : String) (l : List α) (write : α → Value)
    (name : String) :
    named (listField key l write) name = if key = name then listField key l write else [] :=
  named_of_forall (by unfold listField; split <;> simp) name

theorem named_insert_of_ne {key name : String} (hne : key ≠ name) (value : Value) (m : Members) :
    named (insert key value m) name = named m name := by
  induction m with
  | nil => simp [named, insert, hne]
  | cons head tail ih =>
      obtain ⟨k, v⟩ := head
      unfold named at ih ⊢
      rw [insert]
      split
      next heq => simp [← heq, hne]
      next =>
        split
        next => simp [hne]
        next => rw [List.filter_cons, List.filter_cons, ih]

theorem named_insert_self {name : String} {m : Members} (hnone : named m name = [])
    (value : Value) : named (insert name value m) name = [(name, value)] := by
  induction m with
  | nil => simp [named, insert]
  | cons head tail ih =>
      obtain ⟨k, v⟩ := head
      unfold named at ih hnone ⊢
      have hk : k ≠ name := by
        rintro rfl
        simp at hnone
      have htail : tail.filter (·.1 == name) = [] := by
        rwa [List.filter_cons_of_neg (by simpa using hk)] at hnone
      rw [insert, if_neg (Ne.symm hk)]
      split
      next => simp [hk, htail]
      next => simp [hk, ih htail]

/-- Bringing members in order leaves alone what stands under a name, if that is not repeated. -/
theorem named_ofList {m : Members} {name : String} (hone : (named m name).length ≤ 1) :
    named (ofList m) name = named m name := by
  -- a member is put among those before it, so what has been put already counts as well
  have hput : ∀ done : Members, (named done name ++ named m name).length ≤ 1 →
      named (m.foldl (fun sorted entry => insert entry.1 entry.2 sorted) done) name =
        named done name ++ named m name := by
    clear hone
    induction m with
    | nil => exact fun done _ => (List.append_nil _).symm
    | cons head tail ih =>
        obtain ⟨key, value⟩ := head
        intro done hone
        rw [List.foldl_cons]
        by_cases hkey : key = name
        · subst hkey
          have hcons : named ((key, value) :: tail) key = (key, value) :: named tail key := by
            simp [named]
          rw [hcons, List.length_append, List.length_cons] at hone
          have hdone : named done key = [] := List.eq_nil_of_length_eq_zero (by omega)
          have htail : named tail key = [] := List.eq_nil_of_length_eq_zero (by omega)
          have hself := named_insert_self hdone value
          rw [ih _ (by rw [hself, htail]; exact Nat.le_refl 1), hself, hcons, hdone, htail]
          rfl
        · have hcons : named ((key, value) :: tail) name = named tail name := by
            simp [named, hkey]
          have hother := named_insert_of_ne hkey value done
          rw [hcons] at hone ⊢
          rw [ih _ (by rwa [hother]), hother]
  exact (hput [] (by simpa [named] using hone)).trans (List.nil_append _)

end Members

/-! ## Spellings -/

/-- A way of spelling documents. Scalars are spelled as what they are and arrays item by item; an
object keeps its members, in whatever order. -/
structure Spelling (spell : Value → Tree) : Prop where
  null : spell .null = .null
  bool : ∀ b, spell (.bool b) = .bool b
  number : ∀ n, spell (.number n) = .number n
  string : ∀ s, spell (.string s) = .string s
  array : ∀ l, spell (.array l) = .array (l.map spell)
  object : ∀ m : Members, ∃ trees, spell (.object m) = .object trees ∧
    ∀ name, (m.named name).length ≤ 1 →
      trees.filter (·.1 == name) = (m.named name).map fun entry => (entry.1, spell entry.2)
  document : ∀ v, (spell v).value? = some v.sorted

theorem memberTrees_eq_map (m : Members) :
    Value.memberTrees m = m.map fun entry => (entry.1, entry.2.tree) := by
  induction m with
  | nil => rfl
  | cons head tail ih => rw [Value.memberTrees, ih, List.map_cons]

theorem itemTrees_eq_map (l : List Value) : Value.itemTrees l = l.map Value.tree := by
  induction l with
  | nil => rfl
  | cons head tail ih => rw [Value.itemTrees, ih, List.map_cons]

theorem filter_memberTrees (m : Members) (name : String) :
    (Value.memberTrees m).filter (·.1 == name) =
      (m.named name).map fun entry => (entry.1, entry.2.tree) := by
  rw [memberTrees_eq_map, Members.named, List.filter_map]
  rfl

/-- Members in the order in which they are written. -/
theorem spelling_written : Spelling Value.tree where
  null := rfl
  bool _ := rfl
  number _ := rfl
  string _ := rfl
  array l := by rw [Value.tree, itemTrees_eq_map]
  object m := ⟨_, rfl, fun name _ => filter_memberTrees m name⟩
  document v := value?_tree v

/-- Members in key order. -/
theorem spelling_sorted : Spelling fun v => v.sorted.tree where
  null := rfl
  bool _ := rfl
  number _ := rfl
  string _ := rfl
  array l := by
    have hitems : ∀ l : List Value, Value.itemTrees (Value.sortedItems l) =
        l.map fun v => v.sorted.tree := by
      intro l
      induction l with
      | nil => rfl
      | cons head tail ih => rw [Value.sortedItems, Value.itemTrees, ih, List.map_cons]
    rw [Value.sorted, Value.tree, hitems]
  object m := by
    refine ⟨_, rfl, fun name hone => ?_⟩
    have hsorted : Members.named (Value.sortedMembers m) name =
        (Members.named m name).map fun entry => (entry.1, entry.2.sorted) := by
      rw [Value.sortedMembers_eq_map, Members.named, Members.named, List.filter_map]
      rfl
    rw [filter_memberTrees, Members.named_ofList (by rwa [hsorted, List.length_map]), hsorted,
      List.map_map]
    rfl
  document v := by rw [value?_tree, Value.sorted_sorted]

namespace Spelling

variable {spell : Value → Tree}

/-- Only null is spelled as null. -/
theorem ne_null (hspell : Spelling spell) {v : Value} (hv : v ≠ .null) : spell v ≠ .null := by
  cases v with
  | null => exact absurd rfl hv
  | bool b => simp [hspell.bool]
  | number n => simp [hspell.number]
  | string s => simp [hspell.string]
  | array l => simp [hspell.array]
  | object m =>
      obtain ⟨trees, hobject, -⟩ := hspell.object m
      simp [hobject]

variable {m : Members} {trees : List (String × Tree)} {name : String}

theorem filter_eq (hspell : Spelling spell) (htrees : spell (.object m) = .object trees)
    (hone : (m.named name).length ≤ 1) :
    trees.filter (·.1 == name) = (m.named name).map fun entry => (entry.1, spell entry.2) := by
  obtain ⟨_, hobject, hfilter⟩ := hspell.object m
  obtain rfl : _ = trees := Tree.object.inj (hobject.symm.trans htrees)
  exact hfilter name hone

theorem next_of_named (hspell : Spelling spell) (htrees : spell (.object m) = .object trees)
    {v : Value} (hnamed : m.named name = field name v) :
    Fields.next name (.members trees) = some (some (spell v), .members trees) := by
  have hone : (m.named name).length ≤ 1 := by
    rw [hnamed]
    exact Nat.le_refl 1
  rw [Fields.next, hspell.filter_eq htrees hone, hnamed]
  rfl

theorem next_of_named_eq_nil (hspell : Spelling spell)
    (htrees : spell (.object m) = .object trees) (hnamed : m.named name = []) :
    Fields.next name (.members trees) = some (none, .members trees) := by
  have hone : (m.named name).length ≤ 1 := by
    rw [hnamed]
    exact Nat.zero_le 1
  rw [Fields.next, hspell.filter_eq htrees hone, hnamed]
  rfl

end Spelling

/-! ## Decoders -/

/-- A decoder reads a value from a document, however that is spelled. -/
def Decoder.Reads {α : Type} (read : Decoder α) (v : Value) (a : α) : Prop :=
  ∀ spell, Spelling spell → read (spell v) = some a

/-- From an object with these members the fields are read as a value, however it is spelled. -/
def Fields.Reads {α : Type} (fields : Fields α) (m : Members) (a : α) : Prop :=
  ∀ spell, Spelling spell → ∀ trees, spell (.object m) = .object trees →
    fields (.members trees) = some (a, .members trees)

variable {α β : Type}

namespace Decoder.Reads

variable {read : Decoder α} {v : Value} {a : α}

theorem record {fields : Fields α} {m : Members} (hfields : fields.Reads m a) :
    Reads (Decoder.record fields) (.object m) a := by
  intro spell hspell
  obtain ⟨trees, htrees, -⟩ := hspell.object m
  rw [htrees, Decoder.record, hfields spell hspell trees htrees]
  rfl

theorem string (s : String) : Reads Decoder.string (.string s) s := by
  intro spell hspell
  rw [hspell.string]
  rfl

theorem bool (b : Bool) : Reads Decoder.bool (.bool b) b := by
  intro spell hspell
  rw [hspell.bool]
  rfl

theorem uuid (u : Uuid) : Reads Decoder.uuid (.uuid u) u := by
  intro spell hspell
  rw [Value.uuid, Decoder.uuid, Decoder.Reads.string u.text spell hspell, Option.bind_some,
    Uuid.ofText?_text]

theorem time {t : Time.Timestamp} (hback : Time.Timestamp.ofText? t.text = some t) :
    Reads Decoder.time (.time t) t := by
  intro spell hspell
  rw [Value.time, Decoder.time, Decoder.Reads.string t.text spell hspell, Option.bind_some, hback]

/-- A number is read if it fits its word. -/
theorem unsigned {n bits : Nat} (hfits : n < 2 ^ bits) :
    Reads (Decoder.unsigned bits) (.nat n) n := by
  intro spell hspell
  have hrange : (0 : Int) ≤ n ∧ (n : Int) ≤ ((1 <<< bits : Nat) : Int) - 1 := by
    rw [Nat.one_shiftLeft]
    omega
  rw [Value.nat, hspell.number, Decoder.unsigned, Decoder.intIn, if_pos hrange]
  rfl

theorem signed64 {n : Int} (hlow : lowestInt ≤ n) (hhigh : n ≤ highestInt) :
    Reads Decoder.signed64 (.number (.int n)) n := by
  intro spell hspell
  rw [hspell.number, Decoder.signed64, Decoder.intIn, if_pos ⟨hlow, hhigh⟩]

/-- A document is read if its members are in key order. -/
theorem document (hsorted : v.sorted = v) : Reads Decoder.document v v := by
  intro spell hspell
  rw [Decoder.document, hspell.document, hsorted]

theorem name {read? : String → Option α} {s : String} (hread : read? s = some a) :
    Reads (Decoder.name read?) (.string s) a := by
  intro spell hspell
  rw [hspell.string]
  exact hread

theorem list {write : α → Value} {l : List α} (hread : ∀ a ∈ l, read.Reads (write a) a) :
    Reads (Decoder.list read) (.array (l.map write)) l := by
  intro spell hspell
  rw [hspell.array, Decoder.list, List.map_map]
  induction l with
  | nil => rfl
  | cons head tail ih =>
      rw [List.map_cons, List.mapM_cons, Function.comp,
        hread head List.mem_cons_self spell hspell,
        ih fun a ha => hread a (List.mem_cons_of_mem _ ha)]
      rfl

theorem strings (l : List String) : Reads Decoder.strings (.strings l) l :=
  list fun s _ => string s

/-- A value that is not written as null is read where there may be null. -/
theorem nullable (hread : read.Reads v a) (hv : v ≠ .null) :
    Reads (Decoder.nullable read) v (some a) := by
  intro spell hspell
  have hnull := hspell.ne_null hv
  have hvalue := hread spell hspell
  unfold Decoder.nullable
  split
  next htree => exact absurd htree hnull
  next => rw [hvalue, Option.map_some]

end Decoder.Reads

/-! ## Fields -/

namespace Fields.Reads

variable {m : Members} {name : String} {read : Decoder α} {a : α}

theorem pure : Reads (pure a) m a := fun _ _ _ _ => rfl

theorem bind {fields : Fields α} {more : α → Fields β} {b : β} (hfields : fields.Reads m a)
    (hmore : (more a).Reads m b) : Reads (fields >>= more) m b := by
  intro spell hspell trees htrees
  have hfirst : fields (.members trees) = (some a).map (·, .members trees) :=
    hfields spell hspell trees htrees
  rw [bind_apply hfirst, Option.bind_some, hmore spell hspell trees htrees]

/-- A field that is always written and has to be there. -/
theorem required {v : Value} (hread : read.Reads v a) (hnamed : m.named name = field name v) :
    Reads (Fields.required name read) m a := by
  intro spell hspell trees htrees
  rw [required_of_next (hspell.next_of_named htrees hnamed), hread spell hspell, Option.map_some]

/-- A field that is there is read whatever its default is. -/
theorem withDefault {v : Value} {default : α} (hread : read.Reads v a)
    (hnamed : m.named name = field name v) : Reads (Fields.withDefault name read default) m a := by
  intro spell hspell trees htrees
  rw [withDefault_of_next (hspell.next_of_named htrees hnamed), hread spell hspell,
    Option.map_some]

/-- A field that was left out has its default. -/
theorem withDefault_absent {default : α} (hnamed : m.named name = []) :
    Reads (Fields.withDefault name read default) m default := by
  intro spell hspell trees htrees
  exact withDefault_of_next_none (hspell.next_of_named_eq_nil htrees hnamed)

/-- A field that is written when there is a value. The value must not be written as null. -/
theorem optional {value : Option α} {write : α → Value}
    (hread : ∀ a ∈ value, read.Reads (write a) a) (hnull : ∀ a, write a ≠ .null)
    (hnamed : m.named name = optionalField name value write) :
    Reads (Fields.optional name read) m value := by
  cases value with
  | none => exact withDefault_absent hnamed
  | some a => exact withDefault ((hread a rfl).nullable (hnull a)) hnamed

theorem optionalText {value : Option String}
    (hnamed : m.named name = optionalField name value .string) :
    Reads (Fields.optional name Decoder.string) m value :=
  optional (fun s _ => .string s) (fun _ => nofun) hnamed

theorem optionalUuid {value : Option Uuid}
    (hnamed : m.named name = optionalField name value .uuid) :
    Reads (Fields.optional name Decoder.uuid) m value :=
  optional (fun u _ => .uuid u) (fun _ => nofun) hnamed

/-- A field that is always written, though it may be written as null. -/
theorem named {value : Option α} {write : α → Value}
    (hread : ∀ a ∈ value, read.Reads (write a) a) (hnull : ∀ a, write a ≠ .null)
    (hnamed : m.named name = field name ((value.map write).getD .null)) :
    Reads (Fields.named name read) m value := by
  have hoptional : Reads (Fields.optional name read) m value := by
    cases value with
    | none =>
        refine withDefault (v := .null) (fun spell hspell => ?_) hnamed
        rw [hspell.null]
        rfl
    | some a => exact withDefault ((hread a rfl).nullable (hnull a)) hnamed
  exact hoptional

/-- A text that is left out when it is empty. -/
theorem text {s : String} (hnamed : m.named name = textField name s) :
    Reads (Fields.withDefault name Decoder.string "") m s := by
  unfold textField at hnamed
  split at hnamed
  next hempty =>
    obtain rfl : s = "" := String.isEmpty_iff.mp hempty
    exact withDefault_absent hnamed
  next => exact withDefault (.string s) hnamed

/-- A flag that is left out when it is not set. -/
theorem flag {b : Bool} (hnamed : m.named name = flagField name b) :
    Reads (Fields.withDefault name Decoder.bool false) m b := by
  cases b with
  | false => exact withDefault_absent hnamed
  | true => exact withDefault (.bool true) hnamed

/-- A list that is left out when it is empty. -/
theorem list {l : List α} {write : α → Value} (hread : ∀ a ∈ l, read.Reads (write a) a)
    (hnamed : m.named name = listField name l write) :
    Reads (Fields.withDefault name (Decoder.list read) []) m l := by
  cases l with
  | nil => exact withDefault_absent hnamed
  | cons head tail => exact withDefault (.list hread) hnamed

end Fields.Reads

/-! ## Legible texts -/

/-- The text of a document is read as the document: its containers nest no deeper than that, and
its numbers are read back. -/
def Value.Legible (depth : Nat) (v : Value) : Prop :=
  v.nesting ≤ depth ∧ ∀ n ∈ v.numbers, n.ReadsBack

/-- All of the members are legible. -/
def Members.Legible (depth : Nat) (m : Members) : Prop :=
  ∀ entry ∈ m, entry.2.Legible depth

variable {depth : Nat}

namespace Value

theorem Legible.mono {v : Value} {less : Nat} (hlegible : v.Legible less) (hle : less ≤ depth) :
    v.Legible depth :=
  hlegible.imp_left (Nat.le_trans · hle)

@[simp] theorem legible_null : Value.null.Legible depth := ⟨Nat.zero_le _, nofun⟩

@[simp] theorem legible_bool (b : Bool) : (Value.bool b).Legible depth := ⟨Nat.zero_le _, nofun⟩

@[simp] theorem legible_string (s : String) : (Value.string s).Legible depth :=
  ⟨Nat.zero_le _, nofun⟩

@[simp] theorem legible_uuid (u : Uuid) : (Value.uuid u).Legible depth := legible_string _

@[simp] theorem legible_time (t : Time.Timestamp) : (Value.time t).Legible depth :=
  legible_string _

theorem legible_int {n : Int} (hlow : lowestInt ≤ n) (hhigh : n ≤ wordMax) :
    (Value.number (.int n)).Legible depth := by
  refine ⟨Nat.zero_le _, fun number hnumber => ?_⟩
  obtain rfl := List.mem_singleton.mp hnumber
  exact Number.int_readsBack hlow hhigh

/-- A number that fits a word is read back. -/
theorem legible_nat {n bits : Nat} (hbits : bits ≤ 64) (hfits : n < 2 ^ bits) :
    (Value.nat n).Legible depth := by
  have hword : n < 2 ^ 64 := Nat.lt_of_lt_of_le hfits (Nat.pow_le_pow_right (by decide) hbits)
  exact legible_int (by simp only [lowestInt]; omega) (by simp only [wordMax]; omega)

@[simp] theorem legible_array {items : List Value} :
    (Value.array items).Legible depth ↔ 0 < depth ∧ ∀ v ∈ items, v.Legible (depth - 1) := by
  have hnesting : (Value.array items).nesting ≤ depth ↔
      0 < depth ∧ ∀ v ∈ items, v.nesting ≤ depth - 1 := by
    rw [nesting, ← itemsNesting_le_iff]
    omega
  have hnumbers : (∀ n ∈ (Value.array items).numbers, n.ReadsBack) ↔
      ∀ v ∈ items, ∀ n ∈ v.numbers, n.ReadsBack := by
    simp only [numbers, mem_itemNumbers]
    exact ⟨fun hall v hv n hn => hall n ⟨v, hv, hn⟩, fun hall n ⟨v, hv, hn⟩ => hall v hv n hn⟩
  rw [Legible, hnesting, hnumbers, and_assoc, ← forall₂_and]
  rfl

@[simp] theorem legible_object {members : Members} :
    (Value.object members).Legible depth ↔ 0 < depth ∧ Members.Legible (depth - 1) members := by
  have hnesting : (Value.object members).nesting ≤ depth ↔
      0 < depth ∧ ∀ entry ∈ members, entry.2.nesting ≤ depth - 1 := by
    rw [nesting, ← membersNesting_le_iff]
    omega
  have hnumbers : (∀ n ∈ (Value.object members).numbers, n.ReadsBack) ↔
      ∀ entry ∈ members, ∀ n ∈ entry.2.numbers, n.ReadsBack := by
    simp only [numbers, mem_memberNumbers]
    exact ⟨fun hall v hv n hn => hall n ⟨v, hv, hn⟩, fun hall n ⟨v, hv, hn⟩ => hall v hv n hn⟩
  rw [Legible, hnesting, hnumbers, and_assoc, ← forall₂_and]
  rfl

@[simp] theorem legible_strings {l : List String} : (Value.strings l).Legible depth ↔ 0 < depth := by
  rw [strings, legible_array]
  simp

end Value

namespace Members

@[simp] theorem legible_append {m n : Members} :
    Legible depth (m ++ n) ↔ Legible depth m ∧ Legible depth n :=
  List.forall_mem_append

@[simp] theorem legible_field {name : String} {v : Value} :
    Legible depth (field name v) ↔ v.Legible depth :=
  List.forall_mem_singleton

@[simp] theorem legible_optionalField {name : String} {value : Option α} {write : α → Value} :
    Legible depth (optionalField name value write) ↔ ∀ a ∈ value, (write a).Legible depth := by
  cases value <;> simp [optionalField, Legible]

@[simp] theorem legible_textField {name s : String} : Legible depth (textField name s) := by
  unfold textField
  split <;> simp [Legible]

@[simp] theorem legible_flagField {name : String} {b : Bool} :
    Legible depth (flagField name b) := by
  cases b <;> simp [flagField, Legible]

/-- Items that are legible one level further in make a legible list. -/
theorem legible_listField {name : String} {l : List α} {write : α → Value} (hdepth : 0 < depth)
    (hitems : ∀ a ∈ l, (write a).Legible (depth - 1)) :
    Legible depth (listField name l write) := by
  unfold listField
  split
  next => exact nofun
  next =>
    refine legible_field.mpr (Value.legible_array.mpr ⟨hdepth, fun v hv => ?_⟩)
    obtain ⟨a, ha, rfl⟩ := List.mem_map.mp hv
    exact hitems a ha

end Members

/-! ## What is written and read back -/

/-- From the document that is written a value is read, whether its members stand in the order in
which they are written or in key order. -/
structure Restores {α : Type} (read : Decoder α) (v : Value) (a : α) : Prop where
  written : read v.tree = some a
  sorted : read v.sorted.tree = some a

/-- From the text that is written a value is read. -/
def RestoresText {α : Type} (read : Decoder α) (v : Value) (a : α) : Prop :=
  (Tree.ofText? v.text).bind read = some a

namespace Decoder.Reads

variable {read : Decoder α} {v : Value} {a : α}

theorem restores (hread : read.Reads v a) : Restores read v a :=
  ⟨hread _ spelling_written, hread _ spelling_sorted⟩

theorem restoresText (hread : read.Reads v a) (hlegible : v.Legible maxDepth) :
    RestoresText read v a := by
  rw [RestoresText, ofText?_text hlegible.1 hlegible.2, Option.bind_some]
  exact hread _ spelling_written

end Decoder.Reads

/-- A value comes back from the document that is written of it. -/
def Lossless [Record α] (a : α) : Prop := Restores Record.decode (json a) a

/-- A value comes back from the text that is written of it. -/
def LosslessText [Record α] (a : α) : Prop := RestoresText Record.decode (json a) a

theorem lossless_of_legible [Record α] {a : α} (hread : Record.decode.Reads (json a) a) {depth : Nat}
    (hlegible : (json a).Legible depth) (hdepth : depth ≤ maxDepth) :
    Lossless a ∧ LosslessText a :=
  ⟨hread.restores, hread.restoresText (hlegible.mono hdepth)⟩

end Mandate.Json
