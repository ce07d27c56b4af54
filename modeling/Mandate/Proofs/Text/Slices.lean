import Mandate.Proofs.Text.Bytes
import Mandate.Proofs.Text.Cuts

/-! # Slices by byte positions

A place in a text can be named by the number of bytes before it. Such a place may lie behind the end
of the text or inside a character, and then there is no slice that begins or ends there.
-/

namespace Mandate.Text

variable {sep : Char} {s before after : List Char} {n : Nat}

/-- How many bytes a text takes. -/
def byteLength (s : List Char) : Nat := (utf8 (String.ofList s)).length

@[simp] theorem byteLength_nil : byteLength [] = 0 := by
  rw [byteLength, String.ofList_nil, utf8_empty, List.length_nil]

theorem byteLength_append (s t : List Char) :
    byteLength (s ++ t) = byteLength s + byteLength t := by
  rw [byteLength, String.ofList_append, utf8_append, List.length_append]
  rfl

theorem byteLength_cons (c : Char) (s : List Char) :
    byteLength (c :: s) = c.utf8Size + byteLength s := by
  rw [byteLength, byteLength, utf8_eq_flatMap, utf8_eq_flatMap, String.toList_ofList,
    String.toList_ofList, List.flatMap_cons, List.length_append, String.length_utf8EncodeChar]

theorem byteLength_singleton (c : Char) : byteLength [c] = c.utf8Size := by
  rw [byteLength_cons, byteLength_nil, Nat.add_zero]

/-- A text up to a byte position and from there on, unless the position lies behind the end or
inside a character. -/
def cutAt? : Nat → List Char → Option (List Char × List Char)
  | 0, s => some ([], s)
  | _ + 1, [] => none
  | n + 1, c :: s =>
      if c.utf8Size ≤ n + 1 then
        (cutAt? (n + 1 - c.utf8Size) s).map fun (before, after) => (c :: before, after)
      else none

theorem cutAt?_append (before after : List Char) :
    cutAt? (byteLength before) (before ++ after) = some (before, after) := by
  induction before with
  | nil => simp [cutAt?]
  | cons c rest ih =>
      obtain ⟨width, hwidth⟩ := Nat.exists_eq_add_of_lt c.utf8Size_pos
      have hlength : byteLength (c :: rest) = byteLength rest + width + 1 := by
        rw [byteLength_cons]
        omega
      have hremaining : byteLength rest + width + 1 - c.utf8Size = byteLength rest := by omega
      rw [hlength, List.cons_append, cutAt?, if_pos (by omega), hremaining, ih, Option.map_some]

theorem of_cutAt? (hcut : cutAt? n s = some (before, after)) :
    s = before ++ after ∧ byteLength before = n := by
  induction s generalizing n before with
  | nil =>
      cases n with
      | zero =>
          cases hcut
          exact ⟨rfl, byteLength_nil⟩
      | succ n => cases hcut
  | cons c s ih =>
      cases n with
      | zero =>
          cases hcut
          exact ⟨rfl, byteLength_nil⟩
      | succ n =>
          rw [cutAt?] at hcut
          split at hcut
          next hwidth =>
            obtain ⟨⟨front, _⟩, hfront, hcons⟩ := Option.map_eq_some_iff.mp hcut
            cases hcons
            obtain ⟨rfl, hlength⟩ := ih hfront
            exact ⟨rfl, by rw [byteLength_cons, hlength]; omega⟩
          next => cases hcut

/-- A text is cut at a byte position exactly if some of its characters end there. -/
theorem cutAt?_eq_some_iff :
    cutAt? n s = some (before, after) ↔ s = before ++ after ∧ byteLength before = n := by
  refine ⟨of_cutAt?, ?_⟩
  rintro ⟨rfl, rfl⟩
  exact cutAt?_append before after

/-- The byte position of the first occurrence of a character. -/
def findByte? (c : Char) (s : List Char) : Option Nat :=
  (splitOnce c s).map fun (before, _) => byteLength before

/-- The slice of a text from a byte position on. -/
def sliceFrom? (start : Nat) (s : List Char) : Option (List Char) :=
  (cutAt? start s).map Prod.snd

/-- The slice of a text up to a byte position. -/
def sliceTo? (stop : Nat) (s : List Char) : Option (List Char) :=
  (cutAt? stop s).map Prod.fst

/-- The slice of a text between two byte positions, the first of which may not lie behind the
second. -/
def slice? (start stop : Nat) (s : List Char) : Option (List Char) :=
  (sliceTo? stop s).bind (sliceFrom? start)

theorem findByte?_append (hbefore : sep ∉ before) (after : List Char) :
    findByte? sep (before ++ sep :: after) = some (byteLength before) := by
  rw [findByte?, splitOnce_append hbefore, Option.map_some]

theorem findByte?_of_notMem (hs : sep ∉ s) : findByte? sep s = none := by
  rw [findByte?, splitOnce_of_notMem hs, Option.map_none]

theorem sliceFrom?_append (before after : List Char) :
    sliceFrom? (byteLength before) (before ++ after) = some after := by
  rw [sliceFrom?, cutAt?_append, Option.map_some]

theorem sliceTo?_append (before after : List Char) :
    sliceTo? (byteLength before) (before ++ after) = some before := by
  rw [sliceTo?, cutAt?_append, Option.map_some]

theorem slice?_append (before inside after : List Char) :
    slice? (byteLength before) (byteLength (before ++ inside)) (before ++ inside ++ after) =
      some inside := by
  rw [slice?, sliceTo?_append, Option.bind_some, sliceFrom?_append]

/-- A slice that begins behind the first byte is shorter than the text. -/
theorem length_of_sliceFrom? {start : Nat} (hslice : sliceFrom? (start + 1) s = some after) :
    after.length < s.length := by
  obtain ⟨⟨before, _⟩, hcut, rfl⟩ := Option.map_eq_some_iff.mp hslice
  obtain ⟨rfl, hlength⟩ := cutAt?_eq_some_iff.mp hcut
  cases before with
  | nil => rw [byteLength_nil] at hlength; cases hlength
  | cons c rest => simp only [List.length_append, List.length_cons]; omega

end Mandate.Text
