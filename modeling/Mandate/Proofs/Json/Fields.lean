import Mandate.Json.Record
import Mathlib.Data.List.Nodup

/-! # Reading the fields of a record

If the members of an object have different names, the field of a name is the member that has it.
What a record reads is put together field by field.
-/

namespace Mandate.Json.Fields

variable {α β : Type} {name : String} {read : Decoder α} {members : List (String × Tree)}
  {tree : Tree}

/-- No two members have the same name. -/
def Distinct (members : List (String × Tree)) : Prop := (members.map (·.1)).Nodup

theorem next_of_notMem (hname : name ∉ members.map (·.1)) :
    next name (.members members) = some (none, .members members) := by
  have hnone : members.filter (·.1 == name) = [] := by
    rw [List.filter_eq_nil_iff]
    intro member hmember heq
    exact hname (List.mem_map.mpr ⟨member, hmember, eq_of_beq heq⟩)
  rw [next, hnone]

theorem next_of_mem (hdistinct : Distinct members) (hmem : (name, tree) ∈ members) :
    next name (.members members) = some (some tree, .members members) := by
  have hone : members.filter (·.1 == name) = [(name, tree)] := by
    obtain ⟨before, after, rfl⟩ := List.append_of_mem hmem
    rw [Distinct, List.map_append, List.map_cons, List.nodup_middle, List.nodup_cons,
      ← List.map_append] at hdistinct
    have hothers : ∀ member ∈ before ++ after, ¬ (member.1 == name) = true :=
      fun member hmember heq => hdistinct.1 (List.mem_map.mpr ⟨member, hmember, eq_of_beq heq⟩)
    rw [← List.filter_eq_nil_iff, List.filter_append, List.append_eq_nil_iff] at hothers
    rw [List.filter_append, hothers.1, List.filter_cons_of_pos (by simp), hothers.2]
    rfl
  rw [next, hone]

/-- Fields are read one after the other, as long as each of them is. -/
theorem bind_apply {fields : Fields α} {more : α → Fields β} {s t : Source} {a? : Option α}
    (hfields : fields s = a?.map (·, t)) : (fields >>= more) s = a?.bind (more · t) := by
  change (fields s).bind _ = _
  rw [hfields]
  cases a? <;> rfl

theorem required_of_next {source : Source}
    (hnext : next name source = some (some tree, source)) :
    required name read source = (read tree).map (·, source) := by
  have hfound : next name source = (some (some tree)).map (·, source) := hnext
  rw [required, bind_apply hfound, Option.bind_some]
  exact Option.map_eq_bind.symm

theorem withDefault_of_next {source : Source} {default : α}
    (hnext : next name source = some (some tree, source)) :
    withDefault name read default source = (read tree).map (·, source) := by
  have hfound : next name source = (some (some tree)).map (·, source) := hnext
  rw [withDefault, bind_apply hfound, Option.bind_some]
  exact Option.map_eq_bind.symm

theorem withDefault_of_next_none {source : Source} {default : α}
    (hnext : next name source = some (none, source)) :
    withDefault name read default source = some (default, source) := by
  have hmissing : next name source = (some none).map (·, source) := hnext
  rw [withDefault, bind_apply hmissing]
  rfl

theorem required_of_mem (hdistinct : Distinct members) (hmem : (name, tree) ∈ members) :
    required name read (.members members) = (read tree).map (·, .members members) :=
  required_of_next (next_of_mem hdistinct hmem)

theorem withDefault_of_mem (hdistinct : Distinct members) (hmem : (name, tree) ∈ members)
    {default : α} :
    withDefault name read default (.members members) = (read tree).map (·, .members members) :=
  withDefault_of_next (next_of_mem hdistinct hmem)

theorem withDefault_of_notMem (hname : name ∉ members.map (·.1)) {default : α} :
    withDefault name read default (.members members) = some (default, .members members) :=
  withDefault_of_next_none (next_of_notMem hname)

end Mandate.Json.Fields
