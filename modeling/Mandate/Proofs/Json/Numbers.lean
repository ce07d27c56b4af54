import Mandate.Json.Parser
import Mandate.Json.Printer
import Mandate.Proofs.Number.Digits

/-! # Numbers in JSON texts

A number is read as far as its text goes, and what follows it makes no difference unless it could
belong to the number as well. Integers are read back from their texts. The reading of doubles rounds
more than once, so that not every double is; whether one is can be computed.
-/

namespace Mandate.Json

open Mandate.Text

/-- The number is what is read from its text. -/
def Number.ReadsBack (n : Number) : Prop :=
  match n.chars with
  | '-' :: digits => readNumber? true digits = some (.number n, [])
  | digits => readNumber? false digits = some (.number n, [])

/-- The text does not go on with anything that belongs to a number. -/
def EndsNumber (rest : List Char) : Prop :=
  ∀ c ∈ rest.head?, isDigit c = false ∧ c ≠ '.' ∧ c ≠ 'e' ∧ c ≠ 'E'

variable {text rest more : List Char} {c : Char}

theorem endsNumber_nil : EndsNumber [] := by
  intro c hc
  cases hc

theorem endsNumber_cons (hdigit : isDigit c = false) (hpoint : c ≠ '.') (hlower : c ≠ 'e')
    (hupper : c ≠ 'E') (more : List Char) : EndsNumber (c :: more) := by
  intro d hd
  obtain rfl : c = d := by simpa using hd
  exact ⟨hdigit, hpoint, hlower, hupper⟩

/-! ## Numerals -/

/-- The fraction of a numeral: none, or a point and digits. -/
inductive Fraction : List Char → Prop where
  | absent : Fraction []
  | point {digits : List Char} (hdigits : AllDigits digits) : Fraction ('.' :: digits)

/-- The exponent of a numeral: none, or a mark, a sign and digits. -/
inductive Exponent : List Char → Prop where
  | absent : Exponent []
  | mark {sign : Char} {digits : List Char} (hsign : sign = '-' ∨ sign = '+')
      (hdigits : AllDigits digits) : Exponent ('e' :: sign :: digits)

/-- A text that is put together like a number without a sign. -/
structure Numeral (text : List Char) : Prop where
  parts : ∃ whole fraction exponent, text = whole ++ (fraction ++ exponent) ∧ whole ≠ [] ∧
    AllDigits whole ∧ Fraction fraction ∧ Exponent exponent

theorem Numeral.whole (hdigits : AllDigits text) (hne : text ≠ []) : Numeral text :=
  ⟨text, [], [], by simp, hne, hdigits, .absent, .absent⟩

theorem Numeral.pointed {whole digits : List Char} (hwhole : AllDigits whole) (hne : whole ≠ [])
    (hdigits : AllDigits digits) : Numeral (whole ++ '.' :: digits) :=
  ⟨whole, '.' :: digits, [], by simp, hne, hwhole, .point hdigits, .absent⟩

/-- Written positionally, digits are a numeral already, or become one with `.0` behind them. -/
theorem numeral_positional (d : Binary64.Decimal) :
    Numeral d.positional ∧ '.' ∈ d.positional ∨
      AllDigits d.positional ∧ d.positional ≠ [] := by
  have hdigits := allDigits_toDigits d.digits
  unfold Binary64.Decimal.positional
  dsimp only
  split
  · refine Or.inl ⟨?_, by simp⟩
    exact @Numeral.pointed ['0'] _ (List.forall_mem_singleton.mpr rfl) (by simp)
      ((allDigits_replicate _).append hdigits)
  next hpoint =>
    split
    · exact Or.inr ⟨hdigits.append (allDigits_replicate _),
        List.append_ne_nil_of_left_ne_nil Nat.toDigits_ne_nil _⟩
    · refine Or.inl ⟨Numeral.pointed (fun c hc => hdigits c (List.mem_of_mem_take hc)) ?_
        fun c hc => hdigits c (List.mem_of_mem_drop hc), by simp⟩
      have htake : d.point.toNat ≠ 0 := by omega
      simp [List.take_eq_nil_iff, htake, Nat.toDigits_ne_nil]

theorem numeral_scientific (d : Binary64.Decimal) : Numeral d.scientific := by
  have hdigits := allDigits_toDigits d.digits
  have hsign : (if d.point - 1 < 0 then '-' else '+') = '-' ∨
      (if d.point - 1 < 0 then '-' else '+') = '+' := by
    split
    · exact Or.inl rfl
    · exact Or.inr rfl
  have hexponent := Exponent.mark hsign (allDigits_toDigits (d.point - 1).natAbs)
  unfold Binary64.Decimal.scientific
  dsimp only
  split
  next hnone => exact absurd hnone Nat.toDigits_ne_nil
  next c hone =>
    rw [hone] at hdigits
    exact ⟨[c], [], _, rfl, List.cons_ne_nil _ _, hdigits, .absent, hexponent⟩
  next c more _ hmore =>
    rw [hmore] at hdigits
    obtain ⟨hc, hrest⟩ := List.forall_mem_cons.mp hdigits
    exact ⟨[c], '.' :: more, _, rfl, List.cons_ne_nil _ _, List.forall_mem_singleton.mpr hc,
      .point hrest, hexponent⟩

theorem numeral_json (d : Binary64.Decimal) : Numeral d.json := by
  unfold Binary64.Decimal.json
  split
  · dsimp only
    rcases numeral_positional d with ⟨hnumeral, hpoint⟩ | ⟨hdigits, hne⟩
    · rw [if_pos (List.contains_iff_mem.mpr hpoint)]
      exact hnumeral
    · have hpoint : ¬ d.positional.contains '.' = true := by
        intro hmem
        cases hdigits '.' (List.contains_iff_mem.mp hmem)
      rw [if_neg hpoint]
      exact Numeral.pointed hdigits hne (List.forall_mem_singleton.mpr rfl)
  · exact numeral_scientific d

/-- A number is printed as a numeral, with or without a sign. -/
theorem Number.exists_numeral (n : Number) :
    ∃ text, Numeral text ∧ (n.chars = '-' :: text ∨ n.chars = text) := by
  cases n with
  | int n =>
      unfold chars
      dsimp only
      split
      · exact ⟨_, .whole (allDigits_toDigits _) Nat.toDigits_ne_nil, Or.inl rfl⟩
      · exact ⟨_, .whole (allDigits_toDigits _) Nat.toDigits_ne_nil, Or.inr rfl⟩
  | float x =>
      have hunsigned : Numeral (if x.isZero then ['0', '.', '0'] else x.shortest.json) := by
        split
        · exact @Numeral.pointed ['0'] _ (List.forall_mem_singleton.mpr rfl) (by simp)
            (List.forall_mem_singleton.mpr rfl)
        · exact numeral_json _
      change ∃ text, Numeral text ∧ (x.toJson = '-' :: text ∨ x.toJson = text)
      unfold Binary64.toJson Binary64.withSign
      split
      · exact ⟨_, hunsigned, Or.inl rfl⟩
      · exact ⟨_, hunsigned, Or.inr rfl⟩

/-! ## Reading numerals -/

theorem EndsNumber.endsDigits (hends : EndsNumber rest) : EndsDigits rest :=
  fun c hc => (hends c hc).1

/-- The reader takes the text as a whole or not at all, in the same way whatever follows it, as long
as that ends it. -/
def Takes {α : Type} (read : List Char → Option (α × List Char)) (text : List Char)
    (ends : List Char → Prop) : Prop :=
  ∃ result : Option α, ∀ rest, ends rest → read (text ++ rest) = result.map (·, rest)

theorem takes_wholeDigits? (hdigits : AllDigits text) :
    Takes wholeDigits? text EndsDigits := by
  refine ⟨(wholeDigits? text).map (·.1), fun rest hends => ?_⟩
  rw [wholeDigits?, wholeDigits?, hdigits.spanDigits_append hends, hdigits.spanDigits_eq]
  cases text with
  | nil => rfl
  | cons c text =>
      dsimp only
      split <;> rfl

theorem Fraction.takes_fraction? (hfraction : Fraction text) :
    Takes fraction? text fun rest => EndsDigits rest ∧ rest.head? ≠ some '.' := by
  cases hfraction with
  | absent =>
      refine ⟨some none, fun rest ⟨_, hpoint⟩ => ?_⟩
      rw [List.nil_append, fraction?]
      · rfl
      · rintro more rfl
        exact hpoint rfl
  | @point digits hdigits =>
      refine ⟨if digits = [] then none else some (some digits), fun rest ⟨hends, _⟩ => ?_⟩
      rw [List.cons_append, fraction?, hdigits.spanDigits_append hends]
      cases digits <;> rfl

theorem Exponent.takes_exponent? (hexponent : Exponent text) :
    Takes exponent? text EndsNumber := by
  cases hexponent with
  | absent =>
      refine ⟨some none, fun rest hends => ?_⟩
      cases rest with
      | nil => rfl
      | cons c rest =>
          obtain ⟨-, -, hlower, hupper⟩ := hends c rfl
          rw [List.nil_append, exponent?]
          exact if_neg fun hmark => hmark.elim hlower hupper
  | @mark sign digits hsign hdigits =>
      have htaken : ∃ negative, ∀ more,
          Binary64.takeSign (sign :: more) = (negative, more) := by
        rcases hsign with rfl | rfl
        · exact ⟨true, fun _ => rfl⟩
        · exact ⟨false, fun _ => rfl⟩
      obtain ⟨negative, htaken⟩ := htaken
      refine ⟨if digits = [] then none else some (some
        (if negative then -(digitsValue digits : Int) else (digitsValue digits : Int))),
        fun rest hends => ?_⟩
      rw [List.cons_append, List.cons_append, exponent?, if_pos (Or.inl rfl)]
      simp only [htaken, hdigits.spanDigits_append hends.endsDigits]
      cases digits <;> rfl

theorem Fraction.endsDigits_append (hfraction : Fraction text) (hends : EndsDigits rest) :
    EndsDigits (text ++ rest) := by
  cases hfraction with
  | absent => exact hends
  | point => exact endsDigits_cons rfl _

theorem Exponent.endsDigits_append (hexponent : Exponent text) (hends : EndsNumber rest) :
    EndsDigits (text ++ rest) ∧ (text ++ rest).head? ≠ some '.' := by
  cases hexponent with
  | absent => exact ⟨hends.endsDigits, fun hpoint => (hends '.' hpoint).2.1 rfl⟩
  | mark => exact ⟨endsDigits_cons rfl _, by simp⟩

theorem Numeral.takes_readNumber? (hnumeral : Numeral text) (negative : Bool) :
    Takes (readNumber? negative) text EndsNumber := by
  obtain ⟨whole, fraction, exponent, rfl, -, hwhole, hfraction, hexponent⟩ := hnumeral
  obtain ⟨whole?, hreadWhole⟩ := takes_wholeDigits? hwhole
  obtain ⟨fraction?, hreadFraction⟩ := hfraction.takes_fraction?
  obtain ⟨exponent?, hreadExponent⟩ := hexponent.takes_exponent?
  refine ⟨do
    let whole ← whole?
    let fraction ← fraction?
    let exponent ← exponent?
    return (number? negative whole fraction exponent).elim .unreadable .number,
    fun rest hends => ?_⟩
  obtain ⟨hdigits, hpoint⟩ := hexponent.endsDigits_append hends
  rw [List.append_assoc, List.append_assoc, readNumber?,
    hreadWhole _ (hfraction.endsDigits_append hdigits)]
  cases whole? with
  | none => rfl
  | some whole =>
      simp only [Option.map_some, Option.bind_eq_bind, Option.bind_some,
        hreadFraction _ ⟨hdigits, hpoint⟩]
      cases fraction? with
      | none => rfl
      | some fraction =>
          simp only [Option.map_some, Option.bind_some, hreadExponent _ hends]
          cases exponent? with
          | none => rfl
          | some exponent =>
              simp only [Option.map_some, Option.bind_some]
              cases number? negative whole fraction exponent <;> rfl

theorem wholeDigits?_eq_some_iff {digits : List Char} :
    wholeDigits? text = some (digits, more) ↔ spanDigits text = (digits, more) ∧
      digits ≠ [] ∧ (digits.head? = some '0' → digits.length = 1) := by
  unfold wholeDigits?
  obtain ⟨found, after⟩ := spanDigits text
  cases found with
  | nil =>
      simp only [Prod.mk.injEq, reduceCtorEq, false_iff, not_and]
      rintro ⟨rfl, -⟩ hne
      exact absurd rfl hne
  | cons c found =>
      simp only [Bool.and_eq_true, decide_eq_true_eq, Prod.mk.injEq]
      constructor
      · intro hread
        split at hread
        next => cases hread
        next hzero =>
          cases hread
          exact ⟨⟨rfl, rfl⟩, List.cons_ne_nil _ _,
            fun hhead => Decidable.not_not.mp fun hlength => hzero ⟨hhead, hlength⟩⟩
      · rintro ⟨⟨rfl, rfl⟩, -, hzero⟩
        rw [if_neg fun hboth => hboth.2 (hzero hboth.1)]

/-- What is read from the text of a number, if anything is. -/
def Number.reread (n : Number) : Option Tree :=
  match n.chars with
  | '-' :: digits => (readNumber? true digits).map (·.1)
  | digits => (readNumber? false digits).map (·.1)

theorem Number.ReadsBack.reread_eq {n : Number} (hback : n.ReadsBack) :
    n.reread = some (.number n) := by
  unfold ReadsBack at hback
  unfold reread
  split at hback
  · rw [hback]
    rfl
  · rw [hback]
    rfl

/-! ## Integers -/

theorem head?_toDigits_eq_zero {n : Nat} (hhead : (Nat.toDigits 10 n).head? = some '0') :
    n = 0 := by
  induction n using Nat.strongRecOn with
  | ind n ih =>
      by_cases hn : n < 10
      · rw [Nat.toDigits_of_lt_base hn] at hhead
        have hdigit : ∀ m < 10, [Nat.digitChar m].head? = some '0' → m = 0 := by decide
        exact hdigit n hn hhead
      · obtain ⟨c, more, hdigits⟩ :=
          List.exists_cons_of_ne_nil (Nat.toDigits_ne_nil (n := n / 10) (b := 10))
        rw [Nat.toDigits_of_base_le (by decide) (by omega), hdigits] at hhead
        have hzero := ih (n / 10) (by omega) (by rw [hdigits]; exact hhead)
        omega

theorem readNumber?_toDigits (negative : Bool) (n : Nat) :
    readNumber? negative (Nat.toDigits 10 n) =
      some (match number? negative (Nat.toDigits 10 n) none none with
        | some number => .number number
        | none => .unreadable, []) := by
  have hwhole : wholeDigits? (Nat.toDigits 10 n) = some (Nat.toDigits 10 n, []) := by
    refine wholeDigits?_eq_some_iff.mpr
      ⟨(allDigits_toDigits n).spanDigits_eq, Nat.toDigits_ne_nil, ?_⟩
    intro hhead
    rw [head?_toDigits_eq_zero hhead]
    rfl
  rw [readNumber?, hwhole]
  rfl

/-- An integer of at most 64 bits, with or without a sign, is read back from its text. -/
theorem Number.int_readsBack {n : Int} (hlow : lowestInt ≤ n) (hhigh : n ≤ wordMax) :
    (Number.int n).ReadsBack := by
  unfold ReadsBack
  by_cases hnegative : n < 0
  · have hchars : (Number.int n).chars = '-' :: Nat.toDigits 10 n.natAbs := if_pos hnegative
    have hnumber : number? true (Nat.toDigits 10 n.natAbs) none none = some (.int n) := by
      have hvalue : -(n.natAbs : Int) = n := by omega
      simp only [number?, digitsValue_toDigits, Option.isSome_none, Bool.or_self,
        Bool.false_eq_true, if_false, if_true, Bool.and_eq_true, decide_eq_true_eq]
      rw [if_pos ⟨by omega, by omega⟩, hvalue]
    rw [hchars]
    exact (readNumber?_toDigits true n.natAbs).trans (by rw [hnumber])
  · have hchars : (Number.int n).chars = Nat.toDigits 10 n.toNat := if_neg hnegative
    have hnumber : number? false (Nat.toDigits 10 n.toNat) none none = some (.int n) := by
      have hvalue : (n.toNat : Int) = n := by omega
      simp only [number?, digitsValue_toDigits, Option.isSome_none, Bool.or_self,
        Bool.false_eq_true, if_false]
      rw [if_pos (by omega), hvalue]
    rw [hchars]
    split
    next digits hsign =>
      have hdigit : isDigit '-' = true := isDigit_of_mem_toDigits (n := n.toNat) (by simp [hsign])
      cases hdigit
    next => rw [readNumber?_toDigits, hnumber]

/-- An integer of more than 64 bits is not read as an integer. -/
theorem Number.reread_of_wordMax_lt {n : Nat} (hn : wordMax < n) (m : Int) :
    (Number.int n).reread ≠ some (.number (.int m)) := by
  have hchars : (Number.int n).chars = Nat.toDigits 10 n := by
    rw [chars, if_neg (by omega), Int.toNat_natCast]
  have hnumber : number? false (Nat.toDigits 10 n) none none =
      (Binary64.scaled? false (Nat.toDigits 10 n) [] 0).map .float := by
    simp only [number?, digitsValue_toDigits, Option.isSome_none, Bool.or_self,
      Bool.false_eq_true, if_false]
    exact if_neg (by omega)
  rw [reread, hchars]
  split
  next digits hsign =>
    have hdigit : isDigit '-' = true := isDigit_of_mem_toDigits (n := n) (by simp [hsign])
    cases hdigit
  next =>
    rw [readNumber?_toDigits, hnumber]
    cases Binary64.scaled? false (Nat.toDigits 10 n) [] 0 <;> simp

end Mandate.Json
