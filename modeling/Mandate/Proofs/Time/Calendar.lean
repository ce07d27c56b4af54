import Mandate.Time.Calendar

/-! # Days and dates

Years that begin in March fall into eras of four centuries, centuries into cycles of four years,
and every cycle but the last of most centuries ends with a leap day. The date of a day is put
together from its place among these, and the place is found again from the date.
-/

namespace Mandate.Time.Date

/-- The place of a day: an era, a century in it, a cycle in the century, a year in the cycle, and a
day in the year, all counted from zero. -/
structure Place (days era century cycle year day : Int) : Prop where
  sum : days + 719468 = 146097 * era + 36524 * century + 1461 * cycle + 365 * year + day
  century_range : 0 ≤ century ∧ century ≤ 3
  cycle_range : 0 ≤ cycle ∧ cycle ≤ 24
  year_range : 0 ≤ year ∧ year ≤ 3
  day_range : 0 ≤ day ∧ day ≤ 365
  leap : day = 365 → year = 3 ∧ (cycle < 24 ∨ century = 3)

theorem exists_place (days : Int) :
    ∃ era century cycle year day, Place days era century cycle year day := by
  obtain ⟨era, hera⟩ : ∃ era, era = (days + 719468) / 146097 := ⟨_, rfl⟩
  obtain ⟨rest, hrest⟩ : ∃ rest, rest = days + 719468 - 146097 * era := ⟨_, rfl⟩
  obtain ⟨century, hcentury⟩ : ∃ c, c = min (rest / 36524) 3 := ⟨_, rfl⟩
  obtain ⟨cycle, hcycle⟩ : ∃ c, c = (rest - 36524 * century) / 1461 := ⟨_, rfl⟩
  obtain ⟨year, hyear⟩ : ∃ y, y = min ((rest - 36524 * century - 1461 * cycle) / 365) 3 :=
    ⟨_, rfl⟩
  refine ⟨era, century, cycle, year, rest - 36524 * century - 1461 * cycle - 365 * year, ?_⟩
  constructor <;> omega

namespace Place

variable {days era century cycle year day : Int}

theorem era_eq (h : Place days era century cycle year day) :
    (days + 719468) / 146097 = era := by
  obtain ⟨hsum, hcentury, hcycle, hyear, hday, hleap⟩ := h
  omega

/-- The year of an era, as it is computed from the day of the era. -/
theorem yearOfEra_eq (h : Place days era century cycle year day) {dayOfEra : Int}
    (hdayOfEra : dayOfEra = 36524 * century + 1461 * cycle + 365 * year + day) :
    (dayOfEra - dayOfEra / 1460 + dayOfEra / 36524 - dayOfEra / 146096) / 365 =
      100 * century + 4 * cycle + year := by
  obtain ⟨-, hcentury, hcycle, hyear, hday, hleap⟩ := h
  have hcenturies : dayOfEra / 36524 = century ∨ dayOfEra / 36524 = 4 ∧ dayOfEra = 146096 := by
    omega
  have hcycles : dayOfEra / 1460 = 25 * century + cycle ∨
      dayOfEra / 1460 = 25 * century + cycle + 1 ∧
        1460 ≤ 24 * century + cycle + 365 * year + day := by
    omega
  omega

/-- The days of an era before one of its years. -/
theorem daysBefore_eq (h : Place days era century cycle year day) {yearOfEra : Int}
    (hyearOfEra : yearOfEra = 100 * century + 4 * cycle + year) :
    365 * yearOfEra + yearOfEra / 4 - yearOfEra / 100 =
      36524 * century + 1461 * cycle + 365 * year := by
  obtain ⟨-, hcentury, hcycle, hyear, -, -⟩ := h
  omega

/-- The date of a day, from its place. -/
theorem ofDays_eq (h : Place days era century cycle year day) {month years : Int}
    (hmonth : month = (5 * day + 2) / 153)
    (hyears : years = 400 * era + 100 * century + 4 * cycle + year) :
    ofDays days =
      ⟨if month < 10 then years else years + 1,
        (if month < 10 then month + 3 else month - 9).toNat,
        (day - (153 * month + 2) / 5 + 1).toNat⟩ := by
  have hrest : days + 719468 - era * 146097 =
      36524 * century + 1461 * cycle + 365 * year + day := by
    have hsum := h.sum
    omega
  have hday : 36524 * century + 1461 * cycle + 365 * year + day -
      (36524 * century + 1461 * cycle + 365 * year) = day := by
    omega
  have hyears' : 100 * century + 4 * cycle + year + era * 400 = years := by omega
  unfold ofDays
  simp only [h.era_eq, hrest, h.yearOfEra_eq rfl, h.daysBefore_eq rfl, hday, ← hmonth, hyears']
  have hday_range := h.day_range
  split
  next hlate => rw [if_neg (by omega)]
  next hearly => rw [if_pos (by omega)]

/-- The leap days are those of the years that are divisible by four, without most centuries. -/
theorem isLeapYear (h : Place days era century cycle year day) (hday : day = 365) :
    isLeapYear (400 * era + 100 * century + 4 * cycle + year + 1) = true := by
  obtain ⟨-, hcentury, hcycle, hyear, -, hleap⟩ := h
  obtain ⟨rfl, hlast⟩ := hleap hday
  simp only [Time.isLeapYear, Bool.and_eq_true, beq_iff_eq, Bool.or_eq_true, bne_iff_ne]
  omega

end Place

/-- Every day has a valid date. -/
theorem isValid_ofDays (days : Int) : (ofDays days).isValid = true := by
  obtain ⟨era, century, cycle, year, day, h⟩ := exists_place days
  obtain ⟨month, hmonth⟩ : ∃ month, month = (5 * day + 2) / 153 := ⟨_, rfl⟩
  have hday := h.day_range
  rw [h.ofDays_eq hmonth rfl]
  simp only [isValid, Bool.and_eq_true, decide_eq_true_eq]
  by_cases hfebruary : month = 11
  · subst hfebruary
    by_cases hlast : day = 365
    · simp [daysInMonth, h.isLeapYear hlast, hlast]
    · have hlength : 28 ≤ daysInMonth (400 * era + 100 * century + 4 * cycle + year + 1) 2 := by
        rw [daysInMonth, if_pos rfl]
        split <;> omega
      simp
      omega
  · have hmonths : month = 0 ∨ month = 1 ∨ month = 2 ∨ month = 3 ∨ month = 4 ∨ month = 5 ∨
        month = 6 ∨ month = 7 ∨ month = 8 ∨ month = 9 ∨ month = 10 := by
      omega
    rcases hmonths with rfl | rfl | rfl | rfl | rfl | rfl | rfl | rfl | rfl | rfl | rfl
    all_goals
      simp [daysInMonth]
      omega

/-- A day is found again from its date. -/
theorem toDays_ofDays (days : Int) : (ofDays days).toDays = days := by
  obtain ⟨era, century, cycle, year, day, h⟩ := exists_place days
  obtain ⟨month, hmonth⟩ : ∃ month, month = (5 * day + 2) / 153 := ⟨_, rfl⟩
  obtain ⟨years, hyears⟩ : ∃ years, years = 400 * era + 100 * century + 4 * cycle + year :=
    ⟨_, rfl⟩
  obtain ⟨hsum, hcentury, hcycle, hyear, hday, -⟩ := id h
  have hera : years / 400 = era := by omega
  have hyearOfEra : years - era * 400 = 100 * century + 4 * cycle + year := by omega
  have hbefore := h.daysBefore_eq rfl
  rw [h.ofDays_eq hmonth hyears, toDays]
  dsimp only
  split
  next hlate =>
    have hcivil : ¬ (month + 3).toNat ≤ 2 := by omega
    have hmonth' : ((month + 3).toNat : Int) - 3 = month := by omega
    have hday' : (((day - (153 * month + 2) / 5 + 1).toNat : Nat) : Int) =
      day - (153 * month + 2) / 5 + 1 := by omega
    rw [if_neg hcivil, if_neg hcivil, hmonth', hera, hyearOfEra]
    omega
  next hearly =>
    have hcivil : (month - 9).toNat ≤ 2 := by omega
    have hmonth' : ((month - 9).toNat : Int) + 9 = month := by omega
    have hyears' : years + 1 - 1 = years := by omega
    rw [if_pos hcivil, if_pos hcivil, hmonth', hyears', hera, hyearOfEra]
    omega

end Mandate.Time.Date
