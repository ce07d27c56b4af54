import Mandate.Proofs.Json.Nesting

/-! # Compact texts stand on one line

Line breaks inside strings are escaped, and a compact text has no others.
-/

namespace Mandate.Json

theorem newline_notMem_escaped (c : Char) : '\n' ∉ escaped c := by
  intro hmem
  rcases escaped_cases c with ⟨e, he, hescaped⟩ | ⟨hcontrol, hescaped⟩ |
    ⟨hquote, hbackslash, hvisible, hescaped⟩
  · rw [hescaped] at hmem
    have hnewline : '\n' = e := by simpa using hmem
    subst hnewline
    cases he
  · have hdigit : ∀ n < 16, hexDigit n ≠ '\n' := by decide
    have hhigh := hdigit (c.toNat / 16) (by omega)
    have hlow := hdigit (c.toNat % 16) (by omega)
    rw [hescaped] at hmem
    simp [hhigh.symm, hlow.symm] at hmem
  · rw [hescaped] at hmem
    obtain rfl := List.mem_singleton.mp hmem
    exact absurd hvisible (by decide)

theorem newline_notMem_quoted (s : String) : '\n' ∉ quoted s := by
  intro hmem
  rw [quoted, List.mem_append, List.mem_cons, List.mem_flatMap, List.mem_singleton] at hmem
  rcases hmem with (hquote | ⟨c, -, hmem⟩) | hquote
  · cases hquote
  · exact newline_notMem_escaped c hmem
  · cases hquote

theorem newline_notMem_number (n : Number) : '\n' ∉ n.chars :=
  fun hmem => absurd (Standing.plain_number n _ hmem) (by decide)

mutual

/-- There is no line break in a compact text. -/
theorem newline_notMem_chars : (v : Value) → '\n' ∉ v.chars
  | .null => by decide
  | .bool true => by decide
  | .bool false => by decide
  | .number n => newline_notMem_number n
  | .string s => newline_notMem_quoted s
  | .array items => by
      have hitems := newline_notMem_itemChars items
      simp [Value.chars, hitems]
  | .object members => by
      have hmembers := newline_notMem_memberChars members
      simp [Value.chars, hmembers]

theorem newline_notMem_itemChars : (items : List Value) → '\n' ∉ Value.itemChars items
  | [] => by simp [Value.itemChars]
  | [v] => newline_notMem_chars v
  | v :: w :: more => by
      have hv := newline_notMem_chars v
      have hmore := newline_notMem_itemChars (w :: more)
      simp [Value.itemChars, hv, hmore]

theorem newline_notMem_memberChars : (members : Members) → '\n' ∉ Value.memberChars members
  | [] => by simp [Value.memberChars]
  | [(key, v)] => by
      have hkey := newline_notMem_quoted key
      have hv := newline_notMem_chars v
      simp [Value.memberChars, hkey, hv]
  | (key, v) :: w :: more => by
      have hkey := newline_notMem_quoted key
      have hv := newline_notMem_chars v
      have hmore := newline_notMem_memberChars (w :: more)
      simp [Value.memberChars, hkey, hv, hmore]

end

end Mandate.Json
