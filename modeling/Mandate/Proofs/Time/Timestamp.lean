import Mandate.Proofs.Number.Digits
import Mandate.Proofs.Time.Calendar
import Mandate.Time.Timestamp
import Mathlib.Algebra.Group.Nat.Defs

/-! # Times are read back

A point in time is read back from its text, part by part: every number is written with all the
digits that its reader takes, and followed by something that is no digit.
-/

namespace Mandate.Time.Timestamp

open Mandate.Text

/-! ## Numbers -/

variable {width n : Nat} {c : Char} {rest : List Char}

theorem allDigits_padded (width n : Nat) : AllDigits (padded width n) :=
  (allDigits_replicate _).append (allDigits_toDigits n)

theorem digitsValue_padded (width n : Nat) : digitsValue (padded width n) = n := by
  have hzeros (count : Nat) (digits : List Char) :
      digitsValue (List.replicate count '0' ++ digits) = digitsValue digits := by
    induction count with
    | zero => rfl
    | succ count ih => exact ih
  rw [padded, hzeros, digitsValue_toDigits]

theorem padded_ne_nil (width n : Nat) : padded width n ≠ [] :=
  List.append_ne_nil_of_right_ne_nil _ Nat.toDigits_ne_nil

theorem length_padded (hwidth : 0 < width) (hn : n < 10 ^ width) :
    (padded width n).length = width := by
  have hlength := (Nat.length_toDigits_le_iff (by decide) hwidth).mpr hn
  rw [padded, List.length_append, List.length_replicate]
  omega

namespace Reader

variable {α β : Type}

theorem bind_apply {read : Text.Reader α} {next : α → Text.Reader β} {text : List Char} {a : α}
    (hread : read text = some (a, rest)) : (read >>= next) text = next a rest := by
  change (read text).bind _ = _
  rw [hread]
  rfl

theorem get_bind {next : List Char → Text.Reader β} (text : List Char) :
    (get >>= next) text = next text text := rfl

theorem set_bind {next : PUnit → Text.Reader β} (text : List Char) :
    (set rest >>= next) text = next () rest := rfl

theorem char_cons (c : Char) (rest : List Char) :
    Text.Reader.char c (c :: rest) = some ((), rest) := by
  rw [Text.Reader.char, get_bind]
  simp only [if_true]
  rfl

theorem blanks_cons (hblank : isBlank c = false) (rest : List Char) :
    blanks (c :: rest) = some ((), c :: rest) := by
  change some ((), (c :: rest).dropWhile isBlank) = _
  rw [List.dropWhile_cons_of_neg (by simp [hblank])]

theorem number_append {digits : List Char} (hdigits : AllDigits digits)
    (hne : digits ≠ []) (hlength : digits.length ≤ width)
    (hends : digits.length = width ∨ EndsDigits rest) :
    number width (digits ++ rest) = some (digitsValue digits, rest) := by
  have htaken : ((digits ++ rest).take width).takeWhile isDigit = digits := by
    rw [List.take_append, List.take_of_length_le hlength]
    refine congrArg Prod.fst (hdigits.spanDigits_append ?_)
    rcases hends with hwhole | hends
    · rw [hwhole, Nat.sub_self]
      intro c hc
      cases hc
    · intro c hc
      rw [List.head?_take] at hc
      split at hc
      · cases hc
      · exact hends c hc
  have hfound : digits.isEmpty = false := by simpa using hne
  rw [number, get_bind, htaken]
  simp only [hfound, Bool.false_eq_true, if_false]
  rw [set_bind, List.drop_left]
  rfl

/-- A number of a fixed width is read, whatever follows. -/
theorem numberIn_padded {low high : Nat} (hlow : low ≤ n) (hhigh : n ≤ high)
    (hn : n < 10 ^ width) (hwidth : 0 < width) (rest : List Char) :
    numberIn low high width (padded width n ++ rest) = some (n, rest) := by
  have hlength := length_padded hwidth hn
  have hblanks : blanks (padded width n ++ rest) = some ((), padded width n ++ rest) := by
    obtain ⟨c, digits, hpadded⟩ := List.exists_cons_of_ne_nil (padded_ne_nil width n)
    have hdigit : isDigit c = true := allDigits_padded width n c (hpadded ▸ List.mem_cons_self)
    rw [hpadded]
    exact blanks_cons (isBlank_of_isDigit hdigit) _
  have hnumber : number width (padded width n ++ rest) = some (n, rest) := by
    rw [number_append (allDigits_padded width n) (padded_ne_nil width n) (Nat.le_of_eq hlength)
      (Or.inl hlength), digitsValue_padded]
  rw [numberIn, bind_apply hblanks, bind_apply hnumber, if_pos ⟨hlow, hhigh⟩]
  rfl

theorem year_yearText (y : Int) (hrest : EndsDigits rest) :
    year (yearText y ++ rest) = some (y, rest) := by
  have hdigits : AllDigits (padded 4 y.natAbs) := allDigits_padded 4 y.natAbs
  have hsigned : number (padded 4 y.natAbs ++ rest).length (padded 4 y.natAbs ++ rest) =
      some (y.natAbs, rest) := by
    rw [number_append hdigits (padded_ne_nil 4 y.natAbs) (by simp) (Or.inr hrest),
      digitsValue_padded]
  unfold yearText
  split
  next hfour =>
    have habs : y.toNat = y.natAbs := by omega
    have hlength : (padded 4 y.natAbs).length = 4 := length_padded (by decide) (by omega)
    have hnumber : number 4 (padded 4 y.natAbs ++ rest) = some (y.natAbs, rest) := by
      rw [number_append hdigits (padded_ne_nil 4 y.natAbs) (Nat.le_of_eq hlength)
        (Or.inl hlength), digitsValue_padded]
    rw [habs]
    obtain ⟨c, digits, hpadded⟩ := List.exists_cons_of_ne_nil (padded_ne_nil 4 y.natAbs)
    have hdigit : isDigit c = true := hdigits c (hpadded ▸ List.mem_cons_self)
    rw [hpadded, List.cons_append] at hnumber ⊢
    rw [year, bind_apply (blanks_cons (isBlank_of_isDigit hdigit) _), get_bind]
    generalize htext : c :: (digits ++ rest) = text at hnumber ⊢
    split
    next =>
      obtain rfl := (List.cons.inj htext).1
      cases hdigit
    next =>
      obtain rfl := (List.cons.inj htext).1
      cases hdigit
    next =>
      rw [bind_apply hnumber]
      change some ((y.natAbs : Int), rest) = some (y, rest)
      rw [show (y.natAbs : Int) = y by omega]
  next hmore =>
    split
    next hnegative =>
      rw [List.cons_append, year, bind_apply (blanks_cons (by decide) _), get_bind]
      simp only [set_bind]
      rw [bind_apply hsigned]
      change some (-(y.natAbs : Int), rest) = some (y, rest)
      rw [show -(y.natAbs : Int) = y by omega]
    next hpositive =>
      rw [List.cons_append, year, bind_apply (blanks_cons (by decide) _), get_bind]
      simp only [set_bind]
      rw [bind_apply hsigned]
      change some ((y.natAbs : Int), rest) = some (y, rest)
      rw [show (y.natAbs : Int) = y by omega]

theorem date_append {d : Date} (hvalid : d.isValid = true) (hyear : isYear d.year = true)
    (rest : List Char) :
    date (yearText d.year ++ '-' :: (padded 2 d.month ++ '-' :: (padded 2 d.day ++ rest))) =
      some (d, rest) := by
  have hranges : (1 ≤ d.month ∧ d.month ≤ 12) ∧ 1 ≤ d.day ∧ d.day ≤ 31 := by
    simp only [Date.isValid, Bool.and_eq_true, decide_eq_true_eq] at hvalid
    have hlength : daysInMonth d.year d.month ≤ 31 := by
      unfold daysInMonth
      split
      · split <;> omega
      · split <;> omega
    omega
  obtain ⟨⟨hmonth, hmonth'⟩, hday, hday'⟩ := hranges
  rw [date, bind_apply (year_yearText d.year (endsDigits_cons rfl _)),
    bind_apply (blanks_cons (by decide) _), bind_apply (char_cons '-' _),
    bind_apply (numberIn_padded hmonth hmonth' (by omega) (by decide) _),
    bind_apply (blanks_cons (by decide) _), bind_apply (char_cons '-' _),
    bind_apply (numberIn_padded hday hday' (by omega) (by decide) _)]
  simp only [hvalid, hyear, Bool.and_self, if_true]
  rfl

theorem separator_cons (rest : List Char) : separator ('T' :: rest) = some ((), rest) := by
  rw [separator, get_bind]
  rfl

/-- A fraction is read back if it is that of one second. -/
theorem fraction_fractionText {nanos : Nat} (hnanos : nanos < nanosPerSecond)
    (rest : List Char) :
    fraction (fractionText nanos ++ 'Z' :: rest) = some (nanos, 'Z' :: rest) := by
  have hpadded {width n : Nat} (hwidth : 0 < width) (hnine : width ≤ 9) (hn : n < 10 ^ width) :
      fraction ('.' :: padded width n ++ 'Z' :: rest) =
        some (n * Nat.pow 10 (9 - width), 'Z' :: rest) := by
    have hfound : (padded width n).isEmpty = false := by simpa using padded_ne_nil width n
    have hlength := length_padded hwidth hn
    have hspan : spanDigits (padded width n ++ 'Z' :: rest) = (padded width n, 'Z' :: rest) :=
      (allDigits_padded width n).spanDigits_append (endsDigits_cons rfl rest)
    obtain ⟨htaken, hdropped⟩ := Prod.mk.inj hspan
    have hkept : (padded width n).take 9 = padded width n :=
      List.take_of_length_le (by omega)
    rw [fraction, List.cons_append, get_bind]
    simp only [htaken, hfound,
      Bool.false_eq_true, if_false, hdropped, hkept, hlength, digitsValue_padded]
    rfl
  unfold nanosPerSecond at hnanos
  unfold fractionText
  split
  next hzero =>
    subst hzero
    rfl
  next =>
    split
    next hmillis =>
      rw [hpadded (by decide) (by decide) (by omega)]
      simp
      omega
    next =>
      split
      next hmicros =>
        rw [hpadded (by decide) (by decide) (by omega)]
        simp
        omega
      next =>
        rw [hpadded (by decide) (by decide) (by omega)]
        simp

theorem time_append {hour minute second nanos : Nat} (hhour : hour ≤ 23) (hminute : minute ≤ 59)
    (hsecond : second ≤ 60) (hnanos : nanos < nanosPerSecond) (rest : List Char) :
    time (padded 2 hour ++ ':' :: (padded 2 minute ++ ':' :: (padded 2 second ++
        (fractionText nanos ++ 'Z' :: rest)))) =
      some (if second = 60 then (hour * 3600 + minute * 60 + 59, nanos + nanosPerSecond)
        else (hour * 3600 + minute * 60 + second, nanos), 'Z' :: rest) := by
  rw [time, bind_apply (numberIn_padded (Nat.zero_le _) hhour (by omega) (by decide) _),
    bind_apply (blanks_cons (by decide) _), bind_apply (char_cons ':' _),
    bind_apply (numberIn_padded (Nat.zero_le _) hminute (by omega) (by decide) _),
    bind_apply (blanks_cons (by decide) _), bind_apply (char_cons ':' _),
    bind_apply (numberIn_padded (Nat.zero_le _) hsecond (by omega) (by decide) _),
    bind_apply (fraction_fractionText hnanos rest)]
  split <;> rfl

theorem offset_zulu : offset ['Z'] = some (0, []) := rfl

end Reader

/-! ## Whole texts -/

/-- The time lies within the range of years, and a second is long only at the end of a minute. -/
structure Valid (t : Timestamp) : Prop where
  year : Reader.isYear (Date.ofDays (t.seconds / secondsPerDay)).year = true
  nanos : t.nanos < nanosPerSecond ∨ t.nanos < 2 * nanosPerSecond ∧ t.seconds % 60 = 59

/-- A second that is written as the sixtieth, or any other, stands for the time of day and the
nanoseconds that it was written for. -/
theorem Valid.second_written {t : Timestamp} (hvalid : t.Valid) {ofDay second nanos : Nat}
    (hofDay : (ofDay : Int) = t.seconds % secondsPerDay)
    (hsecond : second = ofDay % 60 + if nanosPerSecond ≤ t.nanos then 1 else 0)
    (hnanos : nanos = if nanosPerSecond ≤ t.nanos then t.nanos - nanosPerSecond else t.nanos) :
    second ≤ 60 ∧ nanos < nanosPerSecond ∧
      (if second = 60 then (ofDay / 3600 * 3600 + ofDay / 60 % 60 * 60 + 59, nanos + nanosPerSecond)
        else (ofDay / 3600 * 3600 + ofDay / 60 % 60 * 60 + second, nanos)) = (ofDay, t.nanos) := by
  have hlong := hvalid.nanos
  have hminute : t.seconds % 60 = ((ofDay % 60 : Nat) : Int) := by
    unfold secondsPerDay at hofDay
    omega
  split at hsecond
  next hleap =>
    -- a long second is the last one of its minute
    rw [if_pos hleap] at hnanos
    have hlast : second = 60 := by omega
    rw [if_pos hlast, Prod.mk.injEq]
    omega
  next hleap =>
    rw [if_neg hleap] at hnanos
    have hlast : second ≠ 60 := by omega
    rw [if_neg hlast, Prod.mk.injEq]
    omega

/-- A valid time is read back from its text. -/
theorem Valid.ofText?_text {t : Timestamp} (hvalid : t.Valid) : ofText? t.text = some t := by
  obtain ⟨date, hdate⟩ : ∃ date, date = Date.ofDays (t.seconds / secondsPerDay) := ⟨_, rfl⟩
  obtain ⟨ofDay, hofDay⟩ : ∃ n, n = (t.seconds % secondsPerDay).toNat := ⟨_, rfl⟩
  obtain ⟨second, hsecond⟩ : ∃ n, n = ofDay % 60 + if nanosPerSecond ≤ t.nanos then 1 else 0 :=
    ⟨_, rfl⟩
  obtain ⟨nanos, hnanos⟩ : ∃ n, n = if nanosPerSecond ≤ t.nanos then t.nanos - nanosPerSecond
    else t.nanos := ⟨_, rfl⟩
  have htext : t.text.toList = yearText date.year ++ '-' :: (padded 2 date.month ++ '-' ::
      (padded 2 date.day ++ 'T' :: (padded 2 (ofDay / 3600) ++ ':' :: (padded 2 (ofDay / 60 % 60) ++
        ':' :: (padded 2 second ++ (fractionText nanos ++ ['Z'])))))) := by
    rw [text, String.toList_ofList, hsecond, hnanos, hofDay, hdate]
    simp
  have hday : (ofDay : Int) = t.seconds % secondsPerDay ∧ ofDay < 86400 := by
    unfold secondsPerDay at hofDay ⊢
    omega
  obtain ⟨hsixty, hbillion, hparts⟩ := hvalid.second_written hday.1 hsecond hnanos
  have hseconds : date.toDays * secondsPerDay + ofDay - 0 = t.seconds := by
    rw [hdate, Date.toDays_ofDays, hday.1]
    unfold secondsPerDay
    omega
  have hblanks : Reader.blanks [] = some ((), []) := rfl
  have hread : Reader.timestamp t.text.toList = some (t, []) := by
    rw [htext, Reader.timestamp,
      Reader.bind_apply (Reader.date_append (hdate ▸ Date.isValid_ofDays _)
        (hdate ▸ hvalid.year) _),
      Reader.bind_apply (Reader.separator_cons _),
      Reader.bind_apply (Reader.time_append (by omega) (by omega) hsixty hbillion []), hparts]
    dsimp only
    rw [Reader.bind_apply Reader.offset_zulu, Reader.bind_apply hblanks]
    simp only [hseconds, hvalid.year, if_true]
    rfl
  rw [ofText?, Text.Reader.all?, hread]

end Mandate.Time.Timestamp
