import Mandate.Number.Layout
import Mandate.Text.Characters
import Mandate.Text.Hex

/-! # Digits of numbers

The decimal digits of a natural number are digits, and its value is read back from them. So is the
value of a hexadecimal digit. Digits are cut from a text as a whole if no more of them follow. A
text is read as a machine word exactly if it writes one.
-/

namespace Mandate

open Mandate.Text

theorem isDigit_eq (c : Char) : isDigit c = c.isDigit := by
  simp [isDigit, Char.isDigit, Char.le_def]

theorem isDigit_of_mem_toDigits {n : Nat} {c : Char} (hc : c ∈ Nat.toDigits 10 n) :
    isDigit c = true := by
  rw [isDigit_eq]
  exact Nat.isDigit_of_mem_toDigits (by decide) (by decide) hc

theorem isBlank_of_isDigit {c : Char} (hdigit : isDigit c = true) : isBlank c = false := by
  simp only [isDigit, Bool.and_eq_true, decide_eq_true_eq, Char.le_def,
    UInt32.le_iff_toNat_le] at hdigit
  obtain ⟨hlow, hhigh⟩ := hdigit
  have hlow' : 48 ≤ c.toNat := hlow
  have hhigh' : c.toNat ≤ 57 := hhigh
  simp [isBlank]
  omega

theorem digitsValue_eq_ofDigitChars (digits : List Char) :
    digitsValue digits = Nat.ofDigitChars 10 digits 0 := by
  unfold digitsValue Nat.ofDigitChars
  congr 1
  funext acc c
  exact congrArg (· + _) (Nat.mul_comm acc 10)

theorem digitsValue_toDigits (n : Nat) : digitsValue (Nat.toDigits 10 n) = n := by
  rw [digitsValue_eq_ofDigitChars, Nat.ofDigitChars_ten_toDigits]

theorem digit?_digitChar {n : Nat} (hn : n < 16) : Hex.digit? (Nat.digitChar n) = some n := by
  have hdigits : ∀ m < 16, Hex.digit? (Nat.digitChar m) = some m := by decide
  exact hdigits n hn

/-! ## Runs of digits -/

/-- Nothing but digits. -/
def AllDigits (text : List Char) : Prop := ∀ c ∈ text, isDigit c = true

/-- The text does not go on with a digit. -/
def EndsDigits (rest : List Char) : Prop := ∀ c ∈ rest.head?, isDigit c = false

variable {text rest more : List Char} {c : Char}

theorem allDigits_toDigits (n : Nat) : AllDigits (Nat.toDigits 10 n) :=
  fun _ => isDigit_of_mem_toDigits

theorem allDigits_replicate (n : Nat) : AllDigits (List.replicate n '0') := by
  intro c hc
  rw [List.eq_of_mem_replicate hc]
  rfl

theorem AllDigits.append (hone : AllDigits text) (hother : AllDigits more) :
    AllDigits (text ++ more) :=
  List.forall_mem_append.mpr ⟨hone, hother⟩

theorem endsDigits_nil : EndsDigits [] := by
  intro c hc
  cases hc

theorem endsDigits_cons (hdigit : isDigit c = false) (more : List Char) :
    EndsDigits (c :: more) := by
  intro d hd
  obtain rfl : c = d := by simpa using hd
  exact hdigit

theorem AllDigits.spanDigits_append (hdigits : AllDigits text) (hends : EndsDigits rest) :
    spanDigits (text ++ rest) = (text, rest) := by
  unfold spanDigits
  rw [List.takeWhile_append_of_pos hdigits, List.dropWhile_append_of_pos hdigits]
  cases rest with
  | nil => simp
  | cons c rest =>
      have hc : ¬ isDigit c = true := by simp [hends c rfl]
      rw [List.takeWhile_cons_of_neg hc, List.dropWhile_cons_of_neg hc, List.append_nil]

theorem AllDigits.spanDigits_eq (hdigits : AllDigits text) : spanDigits text = (text, []) := by
  have hspan := hdigits.spanDigits_append endsDigits_nil
  rwa [List.append_nil] at hspan

/-! ## Machine words -/

/-- The text writes a machine word: digits, and it may begin with a plus sign. -/
def WritesWord (text : List Char) (n : Nat) : Prop :=
  ∃ digits, (text = digits ∨ text = '+' :: digits) ∧ digits ≠ [] ∧ AllDigits digits ∧
    digitsValue digits = n ∧ n ≤ wordMax

theorem nat?_eq_some_iff {n : Nat} :
    nat? text = some n ↔ text ≠ [] ∧ AllDigits text ∧ digitsValue text = n := by
  have hread : (text.isEmpty || !text.all isDigit) = false ↔ text ≠ [] ∧ AllDigits text := by
    simp [AllDigits]
  unfold nat?
  split
  next hbad =>
    refine ⟨nofun, fun ⟨hsome, hdigits, _⟩ => ?_⟩
    rw [hread.mpr ⟨hsome, hdigits⟩] at hbad
    cases hbad
  next hgood =>
    obtain ⟨hsome, hdigits⟩ := hread.mp ((Bool.not_eq_true _).mp hgood)
    simp [hsome, hdigits]

theorem word?_eq_some_iff {n : Nat} : word? text = some n ↔ WritesWord text n := by
  have hread : ∀ digits, (nat? digits).filter (· ≤ wordMax) = some n ↔
      digits ≠ [] ∧ AllDigits digits ∧ digitsValue digits = n ∧ n ≤ wordMax := by
    intro digits
    rw [Option.filter_eq_some_iff, nat?_eq_some_iff, decide_eq_true_eq, and_assoc, and_assoc]
  have hplus : ∀ rest, ¬ AllDigits ('+' :: rest) := fun rest hdigits =>
    absurd (hdigits '+' List.mem_cons_self) (by decide)
  unfold word? WritesWord
  split
  next rest =>
    refine (hread rest).trans ⟨fun hrest => ⟨rest, .inr rfl, hrest⟩, ?_⟩
    rintro ⟨digits, rfl | heq, hdigits⟩
    · exact absurd hdigits.2.1 (hplus rest)
    · cases heq
      exact hdigits
  next hother =>
    refine (hread text).trans ⟨fun htext => ⟨text, .inl rfl, htext⟩, ?_⟩
    rintro ⟨digits, rfl | rfl, hdigits⟩
    · exact hdigits
    · exact absurd rfl (hother digits)

theorem word?_eq_none_iff : word? text = none ↔ ∀ n, ¬ WritesWord text n := by
  simp only [Option.eq_none_iff_forall_ne_some, ne_eq, word?_eq_some_iff]

namespace WritesWord

variable {n : Nat}

/-- Nothing stands in a text that writes a machine word but digits and the plus sign. -/
theorem notMem (hwrites : WritesWord text n) (hplus : c ≠ '+') (hdigit : isDigit c = false) :
    c ∉ text := by
  intro hc
  obtain ⟨digits, htext, -, hdigits, -⟩ := hwrites
  have hother : c ∉ digits := fun hmem => by
    rw [hdigits c hmem] at hdigit
    cases hdigit
  rcases htext with rfl | rfl
  · exact hother hc
  · exact hother ((List.mem_cons.mp hc).resolve_left hplus)

theorem ne_nil (hwrites : WritesWord text n) : text ≠ [] := by
  obtain ⟨digits, rfl | rfl, hsome, -⟩ := hwrites
  · exact hsome
  · exact List.cons_ne_nil _ _

end WritesWord

theorem writesWord_ofNat {n : Nat} (hn : n ≤ wordMax) : WritesWord (ofNat n) n :=
  ⟨Nat.toDigits 10 n, .inl rfl, Nat.toDigits_ne_nil, allDigits_toDigits n, digitsValue_toDigits n,
    hn⟩

end Mandate
