import Mandate.Text.Characters

/-! # Cutting texts at a separator

What is cut off at the first separator does not contain it, and pieces without the separator are
found again in the text that joins them.
-/

namespace Mandate.Text

variable {sep : Char} {s before after : List Char}

theorem append_cons_inj {a b x y : List Char} (ha : sep ∉ a) (hb : sep ∉ b)
    (heq : a ++ sep :: x = b ++ sep :: y) : a = b ∧ x = y := by
  -- a list that went on where the other one has its separator would contain it
  induction a generalizing b with
  | nil =>
      cases b with
      | nil => simpa using heq
      | cons c rest =>
          obtain rfl := (List.cons.inj heq).1
          exact absurd List.mem_cons_self hb
  | cons c rest ih =>
      cases b with
      | nil =>
          obtain rfl := (List.cons.inj heq).1
          exact absurd List.mem_cons_self ha
      | cons d others =>
          obtain ⟨rfl, htails⟩ := List.cons.inj heq
          obtain ⟨rfl, rfl⟩ := ih (fun h => ha (List.mem_cons_of_mem _ h))
            (fun h => hb (List.mem_cons_of_mem _ h)) htails
          exact ⟨rfl, rfl⟩

/-! ## At the first separator -/

theorem splitOnce_spec (hsplit : splitOnce sep s = some (before, after)) :
    s = before ++ sep :: after ∧ sep ∉ before := by
  induction s generalizing before with
  | nil => cases hsplit
  | cons c rest ih =>
      unfold splitOnce at hsplit
      split at hsplit
      next hsep =>
        obtain ⟨rfl, rfl⟩ := Prod.mk.inj (Option.some.inj hsplit)
        exact ⟨by rw [hsep]; rfl, List.not_mem_nil⟩
      next hsep =>
        obtain ⟨⟨found, left⟩, hfound, hcons⟩ := Option.map_eq_some_iff.mp hsplit
        obtain ⟨rfl, rfl⟩ := Prod.mk.inj hcons
        obtain ⟨rfl, hnotMem⟩ := ih hfound
        refine ⟨rfl, fun hmem => ?_⟩
        rcases List.mem_cons.mp hmem with heq | hmem
        · exact hsep heq.symm
        · exact hnotMem hmem

theorem splitOnce_append (hbefore : sep ∉ before) (after : List Char) :
    splitOnce sep (before ++ sep :: after) = some (before, after) := by
  induction before with
  | nil => exact if_pos rfl
  | cons c rest ih =>
      have hc : c ≠ sep := fun heq => hbefore (heq ▸ List.mem_cons_self)
      have hrest : sep ∉ rest := fun hmem => hbefore (List.mem_cons_of_mem _ hmem)
      rw [List.cons_append, splitOnce, if_neg hc, ih hrest, Option.map_some]

theorem splitOnce_of_notMem (hs : sep ∉ s) : splitOnce sep s = none := by
  cases hsplit : splitOnce sep s with
  | none => rfl
  | some parts =>
      obtain ⟨before, after⟩ := parts
      obtain ⟨rfl, -⟩ := splitOnce_spec hsplit
      exact absurd (List.mem_append_right _ List.mem_cons_self) hs

/-! ## At every separator -/

theorem splitOn_eq (sep : Char) (s : List Char) : splitOn sep s = s.splitOn sep := by
  induction s with
  | nil => rfl
  | cons c rest ih =>
      rw [splitOn, ih, List.splitOn_cons_eq_if_modifyHead]
      by_cases hc : c = sep
      · rw [if_pos hc, if_pos (beq_iff_eq.mpr hc)]
      · rw [if_neg hc, if_neg (mt beq_iff_eq.mp hc)]
        cases hpieces : rest.splitOn sep with
        | nil => exact absurd hpieces (List.splitOn_ne_nil sep rest)
        | cons piece pieces => rfl

theorem splitOn_of_notMem (hs : sep ∉ s) : splitOn sep s = [s] := by
  rw [splitOn_eq, List.splitOn_eq_singleton hs]

theorem splitOn_append (hs : sep ∉ s) (rest : List Char) :
    splitOn sep (s ++ sep :: rest) = s :: splitOn sep rest := by
  rw [splitOn_eq, splitOn_eq, List.splitOn_append_cons_self_of_not_mem hs]

/-- Pieces without the separator are those into which the text is cut that joins them. -/
theorem splitOn_intercalate {pieces : List (List Char)} (hsome : pieces ≠ [])
    (hpieces : ∀ piece ∈ pieces, sep ∉ piece) :
    splitOn sep ([sep].intercalate pieces) = pieces := by
  rw [splitOn_eq, List.splitOn_intercalate sep hpieces hsome]

end Mandate.Text
