import Mathlib.Tactic.IntervalCases
import StubServer.Timestamp.Basic

/-!
# Days and dates

Every day has a date of the calendar, and the day of this date is the day again.

The years of the count start in March. Four hundred of them are four centuries, of which the last has one day
more than the others; a century is 25 groups of four years, and in each group the last year may have a leap
day. `CalendarDay` gives a day by its place in all of these, and both directions are calculated on it.

## Main statements

* `exists_calendarDay`: every day has a place.
* `dayOfDate_dateOfDay`: the day of the date of a day.
* `isDate_dateOfDay`: the date of a day is one of the calendar.
* `year_dateOfDay`: its year is within bounds if the day is.
-/

namespace StubServer.Timestamp

/-- The place of a day: so many times four hundred years, centuries, groups of four years, years and days
after 0000-03-01. -/
structure CalendarDay where
  era : Int
  century : Int
  group : Int
  year : Int
  day : Int

namespace CalendarDay

/-- There are four centuries, 25 groups and four years, and 365 days; there is one more in the last year of a
group, but not if it is the last of a century other than the fourth. -/
structure Valid (place : CalendarDay) : Prop where
  century : 0 ≤ place.century ∧ place.century ≤ 3
  group : 0 ≤ place.group ∧ place.group ≤ 24
  year : 0 ≤ place.year ∧ place.year ≤ 3
  day : 0 ≤ place.day ∧ place.day ≤ 365
  leap : place.day = 365 → place.year = 3 ∧ (place.group = 24 → place.century = 3)

/-- The years before the one of the day in its four hundred years. -/
def yearOfEra (place : CalendarDay) : Int :=
  100 * place.century + 4 * place.group + place.year

/-- The years before the one of the day. -/
def years (place : CalendarDay) : Int :=
  400 * place.era + place.yearOfEra

/-- The day since 1970-01-01. -/
def toDay (place : CalendarDay) : Int :=
  146097 * place.era + 36524 * place.century + 1461 * place.group + 365 * place.year + place.day - 719468

end CalendarDay

/-- **Every day has a place.** -/
theorem exists_calendarDay (day : Int) : ∃ place : CalendarDay, place.Valid ∧ place.toDay = day := by
  obtain ⟨era, n, hn, hera⟩ : ∃ era n : Int, (0 ≤ n ∧ n < 146097) ∧ day + 719468 = 146097 * era + n :=
    ⟨(day + 719468) / 146097, (day + 719468) % 146097, by omega, by omega⟩
  obtain ⟨century, r, hcentury, hr, hn'⟩ : ∃ century r : Int, (0 ≤ century ∧ century ≤ 3) ∧
      (0 ≤ r ∧ r ≤ 36524 ∧ (r = 36524 → century = 3)) ∧ n = 36524 * century + r := by
    by_cases hlast : n = 146096
    · exact ⟨3, 36524, by omega, by omega, by omega⟩
    · exact ⟨n / 36524, n % 36524, by omega, by omega, by omega⟩
  obtain ⟨group, s, hgroup, hs, hr'⟩ : ∃ group s : Int, (0 ≤ group ∧ group ≤ 24) ∧
      (0 ≤ s ∧ s ≤ 1460) ∧ r = 1461 * group + s :=
    ⟨r / 1461, r % 1461, by omega, by omega, by omega⟩
  obtain ⟨year, d, hyear, hd, hs'⟩ : ∃ year d : Int, (0 ≤ year ∧ year ≤ 3) ∧
      (0 ≤ d ∧ d ≤ 365 ∧ (d = 365 → year = 3)) ∧ s = 365 * year + d := by
    by_cases hlast : s = 1460
    · exact ⟨3, 365, by omega, by omega, by omega⟩
    · exact ⟨s / 365, s % 365, by omega, by omega, by omega⟩
  refine ⟨⟨era, century, group, year, d⟩, ⟨hcentury, hgroup, hyear, ?_, ?_⟩, ?_⟩
  · exact ⟨hd.1, hd.2.1⟩
  · refine fun hleap => ⟨hd.2.2 hleap, fun hlast => ?_⟩
    dsimp only at hleap hlast ⊢
    omega
  · simp only [CalendarDay.toDay]
    omega

/-! ### Dates of days -/

namespace CalendarDay

variable {place : CalendarDay}

/-- The years in four hundred that are calculated from the days in them. -/
theorem Valid.yearOfEra_eq (h : place.Valid) {n : Int}
    (hn : n = 36524 * place.century + 1461 * place.group + 365 * place.year + place.day) :
    (n - n / 1460 + n / 36524 - n / 146096) / 365 = place.yearOfEra := by
  unfold yearOfEra
  obtain ⟨⟨_, _⟩, ⟨_, _⟩, ⟨_, _⟩, ⟨_, _⟩, hleap⟩ := h
  have hcenturies : n / 36524 - n / 146096 = place.century := by
    by_cases hlast : n = 146096
    · omega
    · have hshort : n < 36524 * (place.century + 1) := by omega
      omega
  have hlow : n / 1460 ≤ 25 * place.century + place.group + place.day := by omega
  have hhigh : 25 * place.century + place.group + place.day < n / 1460 + 365 := by omega
  omega

/-- The years of four hundred are so many centuries, and so many groups of four. -/
theorem Valid.yearOfEra_div (h : place.Valid) :
    place.yearOfEra / 4 = 25 * place.century + place.group ∧ place.yearOfEra / 100 = place.century := by
  obtain ⟨-, ⟨_, _⟩, ⟨_, _⟩, -, -⟩ := h
  unfold yearOfEra
  omega

/-- The month of a day, counted from March on. -/
def month (place : CalendarDay) : Int :=
  (5 * place.day + 2) / 153

/-- The days before a day in its month. -/
def dayOfMonth (place : CalendarDay) : Int :=
  place.day - (153 * place.month + 2) / 5

/-- The date of a place. -/
def date (place : CalendarDay) : Date where
  year := if place.month < 10 then place.years else place.years + 1
  month := (if place.month < 10 then place.month + 3 else place.month - 9).toNat
  day := (place.dayOfMonth + 1).toNat

/-- Months are counted from zero to eleven. -/
theorem Valid.month (h : place.Valid) : 0 ≤ place.month ∧ place.month ≤ 11 := by
  obtain ⟨-, -, -, ⟨_, _⟩, -⟩ := h
  unfold CalendarDay.month
  omega

/-- Days are counted from zero in their month. -/
theorem Valid.dayOfMonth_nonneg (h : place.Valid) : 0 ≤ place.dayOfMonth := by
  obtain ⟨-, -, -, ⟨_, _⟩, -⟩ := h
  unfold dayOfMonth CalendarDay.month
  omega

/-- The date of a day is the one of its place. -/
theorem Valid.dateOfDay_toDay (h : place.Valid) : dateOfDay place.toDay = place.date := by
  obtain ⟨n, hn⟩ : ∃ n, n = 36524 * place.century + 1461 * place.group + 365 * place.year + place.day :=
    ⟨_, rfl⟩
  obtain ⟨⟨_, _⟩, ⟨_, _⟩, ⟨_, _⟩, ⟨_, _⟩, hleap⟩ := id h
  have hshifted : place.toDay + 719468 = 146097 * place.era + n := by
    unfold toDay
    omega
  have hera : (place.toDay + 719468) / 146097 = place.era := by omega
  have hdayOfEra : (place.toDay + 719468) % 146097 = n := by omega
  obtain ⟨hgroups, hcenturies⟩ := h.yearOfEra_div
  have hday : n - (365 * place.yearOfEra + (25 * place.century + place.group) - place.century) =
      place.day := by
    unfold yearOfEra
    omega
  have hmonthEq : (5 * place.day + 2) / 153 = place.month := rfl
  have hmonth := h.month
  simp only [Timestamp.dateOfDay, hera, hdayOfEra, h.yearOfEra_eq hn, hgroups, hcenturies, hday, hmonthEq,
    date, dayOfMonth, years, Date.mk.injEq, and_true]
  split <;> split <;> omega

/-- The year of a date is counted from March on. -/
theorem Valid.isLeapYear_iff (h : place.Valid) :
    isLeapYear (place.years + 1) = true ↔ place.year = 3 ∧ (place.group = 24 → place.century = 3) := by
  obtain ⟨⟨_, _⟩, ⟨_, _⟩, ⟨_, _⟩, -, -⟩ := h
  simp only [isLeapYear, years, yearOfEra, Bool.and_eq_true, Bool.or_eq_true, beq_iff_eq, bne_iff_ne, ne_eq]
  omega

/-- The month of a date. -/
theorem Valid.one_le_month (h : place.Valid) : 1 ≤ place.date.month ∧ place.date.month ≤ 12 := by
  have hmonth := h.month
  simp only [date]
  split <;> omega

/-- The days of a month, counted from March on. -/
theorem Valid.daysInMonth_eq (h : place.Valid) :
    daysInMonth place.date.year place.date.month =
      if place.month = 11 then if isLeapYear (place.years + 1) then 29 else 28
      else if place.month = 1 ∨ place.month = 3 ∨ place.month = 6 ∨ place.month = 8 then 30
      else 31 := by
  obtain ⟨_, _⟩ := h.month
  interval_cases hmonth : place.month <;> simp [daysInMonth, date, hmonth]

/-- The day of a date is one of its month. -/
theorem Valid.day_le (h : place.Valid) :
    1 ≤ place.date.day ∧ place.date.day ≤ daysInMonth place.date.year place.date.month := by
  have hnonneg := h.dayOfMonth_nonneg
  have hmonth : place.month = (5 * place.day + 2) / 153 := rfl
  have hday : place.dayOfMonth = place.day - (153 * place.month + 2) / 5 := rfl
  refine ⟨by simp only [date]; omega, ?_⟩
  rw [h.daysInMonth_eq]
  obtain ⟨-, -, -, ⟨_, _⟩, hlast⟩ := id h
  obtain ⟨_, _⟩ := h.month
  simp only [date]
  by_cases hfebruary : place.month = 11
  · rw [if_pos hfebruary]
    -- The last day of a year is the 29th of February, if there is one.
    split
    · omega
    · have hcommon : place.day ≠ 365 := fun heq => ‹¬ _› (h.isLeapYear_iff.mpr (hlast heq))
      omega
  · rw [if_neg hfebruary]
    generalize place.month = month at *
    interval_cases month <;> simp <;> omega

/-- The day of the date of a place. -/
theorem Valid.dayOfDate_date (h : place.Valid) : dayOfDate place.date = place.toDay := by
  have hnonneg := h.dayOfMonth_nonneg
  obtain ⟨_, _⟩ := h.month
  have hyear : (if place.date.month ≤ 2 then place.date.year - 1 else place.date.year) = place.years := by
    simp only [date]
    split <;> split <;> omega
  have hmonth : ((place.date.month : Int) + 9) % 12 = place.month := by
    simp only [date]
    split <;> omega
  have hday : (place.date.day : Int) = place.dayOfMonth + 1 := by
    simp only [date]
    omega
  obtain ⟨hgroups, hcenturies⟩ := h.yearOfEra_div
  obtain ⟨⟨_, _⟩, ⟨_, _⟩, ⟨_, _⟩, -, -⟩ := h
  have hyearOfEra : place.years / 400 = place.era ∧ place.years % 400 = place.yearOfEra := by
    unfold years yearOfEra
    omega
  have hyears : place.yearOfEra = 100 * place.century + 4 * place.group + place.year := rfl
  simp only [Timestamp.dayOfDate, hyear, hmonth, hday, hyearOfEra, dayOfMonth, toDay]
  omega

/-- Days follow each other by year, and within a year. -/
theorem Valid.years_le {other : CalendarDay} (h : place.Valid) (hother : other.Valid)
    (hle : place.toDay ≤ other.toDay) :
    place.years < other.years ∨ place.years = other.years ∧ place.day ≤ other.day := by
  obtain ⟨⟨_, _⟩, ⟨_, _⟩, ⟨_, _⟩, ⟨_, _⟩, hleap⟩ := h
  obtain ⟨⟨_, _⟩, ⟨_, _⟩, ⟨_, _⟩, ⟨_, _⟩, hotherLeap⟩ := hother
  unfold toDay at hle
  unfold years yearOfEra
  rcases lt_or_ge place.era other.era with _ | _
  · omega
  have hera : place.era = other.era := by omega
  rcases lt_or_ge place.century other.century with _ | _
  · omega
  have hcentury : place.century = other.century := by omega
  rcases lt_or_ge place.group other.group with _ | _
  · omega
  have hgroup : place.group = other.group := by omega
  omega

/-- The year of a date is within bounds if the day is. -/
theorem Valid.year_of_inYears (h : place.Valid) (hin : inYears place.toDay = true) :
    yearBounds.1 ≤ place.date.year ∧ place.date.year ≤ yearBounds.2 := by
  -- The first and the last day that timestamps reach, by their places.
  have hfirst : dayOfDate ⟨yearBounds.1, 1, 1⟩ = (⟨-656, 2, 14, 0, 306⟩ : CalendarDay).toDay := by decide
  have hlast : dayOfDate ⟨yearBounds.2, 12, 31⟩ = (⟨655, 1, 10, 2, 305⟩ : CalendarDay).toDay := by decide
  simp only [inYears, hfirst, hlast, Bool.and_eq_true, decide_eq_true_eq] at hin
  have hlow := Valid.years_le (by constructor <;> decide) h hin.1
  have hhigh := h.years_le (by constructor <;> decide) hin.2
  have hmonth : place.month = (5 * place.day + 2) / 153 := rfl
  simp only [years, yearOfEra] at hlow hhigh
  simp only [date, years, yearOfEra, yearBounds, hmonth]
  split <;> omega

end CalendarDay

/-! ### Days and dates -/

variable {day : Int}

/-- **The day of the date of a day is the day.** -/
theorem dayOfDate_dateOfDay (day : Int) : dayOfDate (dateOfDay day) = day := by
  obtain ⟨place, hplace, rfl⟩ := exists_calendarDay day
  rw [hplace.dateOfDay_toDay, hplace.dayOfDate_date]

example : dateOfDay 19782 = ⟨2024, 2, 29⟩ := by decide

/-- **The date of a day is one of the calendar.** -/
theorem isDate_dateOfDay (day : Int) :
    (1 ≤ (dateOfDay day).month ∧ (dateOfDay day).month ≤ 12) ∧
      1 ≤ (dateOfDay day).day ∧
      (dateOfDay day).day ≤ daysInMonth (dateOfDay day).year (dateOfDay day).month := by
  obtain ⟨place, hplace, rfl⟩ := exists_calendarDay day
  rw [hplace.dateOfDay_toDay]
  exact ⟨hplace.one_le_month, hplace.day_le⟩

/-- No month has more than 31 days. -/
theorem daysInMonth_le (year : Int) (month : Nat) : daysInMonth year month ≤ 31 := by
  unfold daysInMonth
  split <;> split <;> omega

/-- The year of the date of a day is within bounds if the day is. -/
theorem year_dateOfDay (h : inYears day = true) :
    yearBounds.1 ≤ (dateOfDay day).year ∧ (dateOfDay day).year ≤ yearBounds.2 := by
  obtain ⟨place, hplace, rfl⟩ := exists_calendarDay day
  rw [hplace.dateOfDay_toDay]
  exact hplace.year_of_inYears h

end StubServer.Timestamp
