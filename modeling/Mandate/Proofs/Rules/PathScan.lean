import Mandate.Proofs.Rules.PathGrammar
import Mandate.Proofs.Text.Slices

/-! # Reading a path by byte positions

A path can be read with nothing but byte positions: a bracket is looked for, and the text is sliced
before and behind it. A slice behind the end of the text or inside a character would bring such a
reading down. There is never one, whatever characters the path is made of, and the reading comes to
the same steps and the same faults as the one by characters.
-/

namespace Mandate.Rules.FieldPath

open Text

/-- What a reading by byte positions comes to: steps or a fault, or nothing if it asks for a slice
that does not exist. -/
abbrev Scan := Option (Except PathFault (List Step))

/-- The indices in brackets, as long as there is anything left. -/
def scanIndices (rest : List Char) : Scan :=
  if rest.isEmpty then some (.ok [])
  else
    match findByte? ']' rest with
    | none => some (.error .unclosed)
    | some close =>
        if rest.head? ≠ some '[' then some (.error .trailing)
        else
          match slice? 1 close rest with
          | none => none
          | some inside =>
              match word? inside with
              | none => some (.error .badIndex)
              | some i =>
                  match _hslice : sliceFrom? (close + 1) rest with
                  | none => none
                  | some after => (scanIndices after).map (·.map (.index i :: ·))
  termination_by rest.length
  decreasing_by exact length_of_sliceFrom? _hslice

/-- The name before the first bracket, and what there is from the bracket on. -/
def scanName (token : List Char) : Option (List Char × List Char) :=
  match findByte? '[' token with
  | none => some (token, [])
  | some opening => do return (← sliceTo? opening token, ← sliceFrom? opening token)

/-- The steps of one token. -/
def scanToken (token : List Char) : Scan :=
  if token.isEmpty then some (.error .emptySegment)
  else
    match word? token with
    | some i => some (.ok [.index i])
    | none => do
        let (name, rest) ← scanName token
        let start := if name.isEmpty then [] else [Step.key (String.ofList name)]
        (scanIndices rest).map (·.map (start ++ ·))

/-- The steps of all tokens, up to the first fault. -/
def scanTokens : List (List Char) → Scan
  | [] => some (.ok [])
  | token :: rest => do
      match ← scanToken token with
      | .error fault => return .error fault
      | .ok first => (scanTokens rest).map (·.map (first ++ ·))

/-- A path that is read by byte positions. -/
def scan (raw : String) : Option (Except BodyFault FieldPath) :=
  if raw.isEmpty then some (.error .emptyPath)
  else
    (scanTokens (splitOn '.' raw.toList)).map fun
      | .ok steps => .ok ⟨raw, steps⟩
      | .error fault => .error (.badPath raw fault)

/-! ## The two readings agree -/

variable {token rest inside after : List Char} {fuel : Nat}

/-- Brackets are single bytes, so the places next to them are good for a slice. -/
theorem scanIndices_group (hclosed : ']' ∉ inside) :
    scanIndices ('[' :: inside ++ ']' :: after) =
      match word? inside with
      | none => some (.error .badIndex)
      | some i => (scanIndices after).map (·.map (.index i :: ·)) := by
  have hopened : ']' ∉ '[' :: inside := List.not_mem_cons_of_ne_of_not_mem (by decide) hclosed
  have hinside : slice? 1 (byteLength ('[' :: inside)) ('[' :: inside ++ ']' :: after) =
      some inside := by
    have hbetween := slice?_append ['['] inside (']' :: after)
    rwa [byteLength_singleton] at hbetween
  have hafter : sliceFrom? (byteLength ('[' :: inside) + 1) ('[' :: inside ++ ']' :: after) =
      some after := by
    have hbehind := sliceFrom?_append ('[' :: inside ++ [']']) after
    rwa [byteLength_append, byteLength_singleton, List.append_assoc] at hbehind
  rw [scanIndices, findByte?_append hopened after]
  simp only [List.cons_append] at hinside hafter ⊢
  simp only [hinside]
  cases word? inside with
  | none => rfl
  | some i =>
      rw [if_neg (by simp), if_neg (by simp)]
      dsimp only
      -- the loop keeps the equation of the slice, so the slice cannot be rewritten in place
      split
      next hnone =>
        rw [hafter] at hnone
        cases hnone
      next hsome =>
        rw [hafter] at hsome
        cases hsome
        rfl

/-- The reading gets through all groups, with as many turns as the other reading has fuel for. -/
theorem scanIndices_eq (hfuel : rest.length ≤ fuel) :
    scanIndices rest = some (indices fuel rest) := by
  induction fuel generalizing rest with
  | zero =>
      obtain rfl := List.length_eq_zero_iff.mp (Nat.le_zero.mp hfuel)
      rw [scanIndices, indices_nil]
      rfl
  | succ fuel ih =>
      cases front rest with
      | nothing =>
          rw [scanIndices, indices_nil]
          rfl
      | unclosed hclosed =>
          rw [scanIndices, findByte?_of_notMem hclosed, indices_unclosed hclosed]
          rfl
      | stray hclosed hopened =>
          obtain ⟨before, after, hrest, hbefore⟩ := List.eq_append_cons_of_mem hclosed
          have hclose := findByte?_append hbefore after
          rw [← hrest] at hclose
          rw [indices_stray hclosed hopened, scanIndices, hclose]
          simp [hopened]
      | @group inside after hclosed =>
          rw [scanIndices_group hclosed, indices_group hclosed, ih (length_le_of_group hfuel)]
          cases word? inside <;> rfl

theorem scanName_append {name : List Char} (hplain : '[' ∉ name)
    (hrest : ∀ c ∈ rest.head?, c = '[') : scanName (name ++ rest) = some (name, rest) := by
  cases rest with
  | nil =>
      rw [List.append_nil, scanName, findByte?_of_notMem hplain]
  | cons c rest =>
      obtain rfl := hrest c rfl
      rw [scanName, findByte?_append hplain]
      simp only [sliceTo?_append, sliceFrom?_append]
      rfl

theorem scanToken_eq (token : List Char) : scanToken token = some (tokenSteps token) := by
  obtain ⟨name, rest, rfl, hplain, hrest⟩ := exists_name token
  by_cases hsome : name ++ rest = []
  · rw [hsome]
    rfl
  · have hempty : (name ++ rest).isEmpty = false := List.isEmpty_eq_false_iff.mpr hsome
    rw [scanToken, hempty]
    cases hword : word? (name ++ rest) with
    | some i =>
        rw [tokenSteps_of_word (word?_eq_some_iff.mp hword)]
        rfl
    | none =>
        rw [tokenSteps_append hsome hword hplain hrest, scanName_append hplain hrest]
        have hindices : scanIndices rest = some (indices (name ++ rest).length rest) :=
          scanIndices_eq (by simp)
        change (scanIndices rest).map (·.map (nameSteps name ++ ·)) = _
        rw [hindices, Option.map_some]

theorem scanTokens_eq (tokens : List (List Char)) : scanTokens tokens = some (allSteps tokens) := by
  induction tokens with
  | nil => rfl
  | cons token rest ih =>
      rw [scanTokens, scanToken_eq, allSteps, ih]
      cases tokenSteps token with
      | error fault => rfl
      | ok first => cases allSteps rest <;> rfl

/-- A reading by byte positions never asks for a slice that does not exist, and comes to what the
path comes to. -/
theorem scan_eq (raw : String) : scan raw = some (parse raw) := by
  unfold scan parse
  split
  · rfl
  · rw [scanTokens_eq]
    cases allSteps (splitOn '.' raw.toList) <;> rfl

end Mandate.Rules.FieldPath
