import Mandate.Json.Parser
import Mandate.Json.Printer
import Mandate.Proofs.Number.Digits

/-! # Strings in JSON texts

A string is printed character by character, and every character is printed in one of three ways. A
printed string is read as the string that it was.
-/

namespace Mandate.Json

open Mandate.Text

theorem digit?_hexDigit {n : Nat} (hn : n < 16) : Hex.digit? (hexDigit n) = some n :=
  digit?_digitChar hn

/-- The three ways to print a character: by the letter of an escape, by its number, or as it is. -/
theorem escaped_cases (c : Char) :
    (∃ e, escapeChar? e = some c ∧ escaped c = ['\\', e]) ∨
    (c.toNat < 32 ∧ escaped c =
      ['\\', 'u', '0', '0', hexDigit (c.toNat / 16), hexDigit (c.toNat % 16)]) ∨
    (c ≠ '"' ∧ c ≠ '\\' ∧ 32 ≤ c.toNat ∧ escaped c = [c]) := by
  have hofNat {n : Nat} (hn : c.toNat = n) : c = Char.ofNat n := by
    rw [← hn, Char.ofNat_toNat]
  unfold escaped
  by_cases hquote : c = '"'
  · exact Or.inl ⟨'"', by simp [escapeChar?, hquote], by rw [if_pos hquote]⟩
  rw [if_neg hquote]
  by_cases hbackslash : c = '\\'
  · exact Or.inl ⟨'\\', by simp [escapeChar?, hbackslash], by rw [if_pos hbackslash]⟩
  rw [if_neg hbackslash]
  by_cases hnewline : c = '\n'
  · exact Or.inl ⟨'n', by simp [escapeChar?, hnewline], by rw [if_pos hnewline]⟩
  rw [if_neg hnewline]
  by_cases hreturn : c = '\r'
  · exact Or.inl ⟨'r', by simp [escapeChar?, hreturn], by rw [if_pos hreturn]⟩
  rw [if_neg hreturn]
  by_cases htab : c = '\t'
  · exact Or.inl ⟨'t', by simp [escapeChar?, htab], by rw [if_pos htab]⟩
  rw [if_neg htab]
  by_cases hbackspace : c.toNat = 8
  · exact Or.inl ⟨'b', by simp [escapeChar?, hofNat hbackspace], by rw [if_pos hbackspace]⟩
  rw [if_neg hbackspace]
  by_cases hfeed : c.toNat = 12
  · exact Or.inl ⟨'f', by simp [escapeChar?, hofNat hfeed], by rw [if_pos hfeed]⟩
  rw [if_neg hfeed]
  by_cases hcontrol : c.toNat < 32
  · exact Or.inr (Or.inl ⟨hcontrol, by rw [if_pos hcontrol]⟩)
  · exact Or.inr (Or.inr ⟨hquote, hbackslash, Nat.le_of_not_lt hcontrol, by rw [if_neg hcontrol]⟩)

theorem join?_unit {n : Nat} (hn : n < 0xD800) (pieces : List Piece) :
    join? (.unit n :: pieces) = (join? pieces).map (Char.ofNat n :: ·) := by
  have hhigh : isHighSurrogate n = false := by simp [isHighSurrogate]; omega
  have hlow : isLowSurrogate n = false := by simp [isLowSurrogate]; omega
  cases pieces with
  | nil => simp [join?, hhigh, hlow]
  | cons piece pieces =>
      cases piece <;> simp [join?, hhigh, hlow]

/-- A printed character is read as one piece, which is joined to the others as that character. -/
theorem pieces?_escaped (c : Char) : ∃ piece,
    (∀ rest, pieces? (escaped c ++ rest) =
      (pieces? rest).map fun (more, rest) => (piece :: more, rest)) ∧
    ∀ more, join? (piece :: more) = (join? more).map (c :: ·) := by
  rcases escaped_cases c with ⟨e, he, hescaped⟩ | ⟨hcontrol, hescaped⟩ |
    ⟨hquote, hbackslash, hvisible, hescaped⟩
  · refine ⟨.char c, fun rest => ?_, fun more => rfl⟩
    rw [hescaped, List.cons_append, List.cons_append, List.nil_append, pieces?]
    · rw [he]
      cases pieces? rest <;> rfl
    · rintro a b c d rest rfl
      cases he
  · refine ⟨.unit c.toNat, fun rest => ?_, fun more => ?_⟩
    · have hhigh := digit?_hexDigit (n := c.toNat / 16) (by omega)
      have hlow := digit?_hexDigit (n := c.toNat % 16) (by omega)
      have hzero : Hex.digit? '0' = some 0 := rfl
      have hvalue : (c.toNat / 16) * 16 + c.toNat % 16 = c.toNat := by omega
      rw [hescaped]
      simp only [List.cons_append, List.nil_append]
      rw [pieces?, hzero, hhigh, hlow]
      cases pieces? rest <;> simp [hvalue]
    · rw [join?_unit (by omega), Char.ofNat_toNat]
  · refine ⟨.char c, fun rest => ?_, fun more => rfl⟩
    rw [hescaped, List.cons_append, List.nil_append, pieces?]
    · simp [Nat.not_lt.mpr hvisible, hbackslash]
    · exact hquote
    · rintro a b c d rest rfl
      exact absurd rfl hbackslash
    · rintro e rest rfl
      exact absurd rfl hbackslash

theorem pieces?_flatMap_escaped (chars rest : List Char) : ∃ pieces,
    pieces? (chars.flatMap escaped ++ '"' :: rest) = some (pieces, rest) ∧
      join? pieces = some chars := by
  induction chars with
  | nil => exact ⟨[], rfl, rfl⟩
  | cons c chars ih =>
      obtain ⟨pieces, hread, hjoin⟩ := ih
      obtain ⟨piece, hfirst, hfirstJoin⟩ := pieces?_escaped c
      refine ⟨piece :: pieces, ?_, ?_⟩
      · rw [List.flatMap_cons, List.append_assoc, hfirst, hread]
        rfl
      · rw [hfirstJoin, hjoin]
        rfl

/-- Behind its opening quote, a printed string is read as that string. -/
theorem pieces?_quoted (s : String) (rest : List Char) : ∃ pieces,
    pieces? (s.toList.flatMap escaped ++ '"' :: rest) = some (pieces, rest) ∧
      stringOf? pieces = some s := by
  obtain ⟨pieces, hread, hjoin⟩ := pieces?_flatMap_escaped s.toList rest
  exact ⟨pieces, hread, by rw [stringOf?, hjoin, Option.map_some, String.ofList_toList]⟩

end Mandate.Json
