import Mathlib.Tactic.IntervalCases
import SchemaMocks.Timestamp

set_option autoImplicit false
set_option relaxedAutoImplicit false

/-!
Dates and day numbers. Four hundred years that start in March are four centuries, a century is
twenty-five times four years, and only the last year of four has the leap day, unless it ends a
century that is not the fourth. From these parts of a day number its date is computed; it is a date
of the calendar, and its day number is the one that it came from.
-/

namespace SchemaMocks.CalendarDate

/-- The parts of a day within four hundred years: centuries, times four years, years, and the day of
the year. The last day is a leap day. -/
structure IsDayOfEra (day centuries fours years dayOfYear : Int) : Prop where
  day_eq : day = 36524 * centuries + 1461 * fours + 365 * years + dayOfYear
  centuries_mem : 0 ≤ centuries ∧ centuries ≤ 3
  fours_mem : 0 ≤ fours ∧ fours ≤ 24
  years_mem : 0 ≤ years ∧ years ≤ 3
  dayOfYear_mem : 0 ≤ dayOfYear ∧ dayOfYear ≤ 365
  leap : dayOfYear = 365 → years = 3 ∧ (fours = 24 → centuries = 3)

private theorem exists_isDayOfEra {day : Int} (hfirst : 0 ≤ day) (hlast : day < 146097) :
    ∃ centuries fours years dayOfYear,
      IsDayOfEra day centuries fours years dayOfYear := by
  obtain ⟨c, hc⟩ : ∃ c, c = min (day / 36524) 3 := ⟨_, rfl⟩
  obtain ⟨q, hq⟩ : ∃ q, q = (day - 36524 * c) / 1461 := ⟨_, rfl⟩
  obtain ⟨k, hk⟩ : ∃ k, k = min ((day - 36524 * c - 1461 * q) / 365) 3 := ⟨_, rfl⟩
  have hcentury : 0 ≤ day - 36524 * c ∧ day - 36524 * c ≤ 36524 ∧
      (day - 36524 * c = 36524 → c = 3) := by omega
  have hfours : 0 ≤ day - 36524 * c - 1461 * q ∧ day - 36524 * c - 1461 * q ≤ 1460 := by omega
  refine ⟨c, q, k, day - 36524 * c - 1461 * q - 365 * k, ?_, ?_, ?_, ?_, ?_, ?_⟩
  · omega
  · omega
  · omega
  · omega
  · omega
  · intro hleap
    omega

variable {day centuries fours years dayOfYear : Int}

private theorem IsDayOfEra.yearOfEra_eq (h : IsDayOfEra day centuries fours years dayOfYear) :
    (day - day / 1460 + day / 36524 - day / 146096) / 365 =
      100 * centuries + 4 * fours + years := by
  obtain ⟨hsum, hc, hq, hk, hd, hleap⟩ := h
  have hinside : 1461 * fours + 365 * years + dayOfYear ≤ 36523 ∨
      (day = 146096 ∧ centuries = 3 ∧ fours = 24 ∧ years = 3 ∧ dayOfYear = 365) := by
    omega
  rcases hinside with hinside | hlast
  · have hcenturies : day / 36524 = centuries := by omega
    have hera : day / 146096 = 0 := by omega
    -- each four years have a day more than 1460, which may have carried one by the end of the four
    have hfours : day / 1460 = 25 * centuries + fours ∨
        day / 1460 = 25 * centuries + fours + 1 ∧ years = 3 ∧ 1 ≤ dayOfYear := by
      omega
    omega
  · omega

private theorem IsDayOfEra.dayOfYear_eq (h : IsDayOfEra day centuries fours years dayOfYear)
    {year : Int}
    (hyear : year = 100 * centuries + 4 * fours + years) :
    day - (365 * year + year / 4 - year / 100) = dayOfYear := by
  obtain ⟨hsum, hc, hq, hk, hd, hleap⟩ := h
  have hfours : year / 4 = 25 * centuries + fours := by omega
  have hcenturies : year / 100 = centuries := by omega
  omega

private theorem IsDayOfEra.isLeapYear (h : IsDayOfEra day centuries fours years 365) (era : Int) :
    isLeapYear (100 * centuries + 4 * fours + years + era * 400 + 1) = true := by
  obtain ⟨hsum, hc, hq, hk, hd, hleap⟩ := h
  obtain ⟨hlast, hcentury⟩ := hleap rfl
  have hfour : (100 * centuries + 4 * fours + years + era * 400 + 1) % 4 = 0 := by omega
  have hhundred : (100 * centuries + 4 * fours + years + era * 400 + 1) % 100 ≠ 0 ∨
      (100 * centuries + 4 * fours + years + era * 400 + 1) % 400 = 0 := by
    by_cases hcenturyEnd : fours = 24
    · have hfourth := hcentury hcenturyEnd
      omega
    · omega
  unfold CalendarDate.isLeapYear
  simpa [hfour] using hhundred

/-- The date of a day of a year that starts in March. -/
def ofYearDay (year dayOfYear : Int) : CalendarDate :=
  let monthFromMarch := (5 * dayOfYear + 2) / 153
  let month := if monthFromMarch < 10 then monthFromMarch + 3 else monthFromMarch - 9
  { year := if month ≤ 2 then year + 1 else year
    month := month.toNat
    day := (dayOfYear - (153 * monthFromMarch + 2) / 5 + 1).toNat }

private theorem ofDay_eq {n : Int}
    (h : IsDayOfEra (n + 719468 - (n + 719468) / 146097 * 146097) centuries fours years dayOfYear) :
    ofDay n =
      ofYearDay (100 * centuries + 4 * fours + years + (n + 719468) / 146097 * 400) dayOfYear := by
  unfold ofDay ofYearDay
  dsimp only
  rw [h.yearOfEra_eq, h.dayOfYear_eq rfl]

section YearDay

variable {year : Int} (hfirst : 0 ≤ dayOfYear) (hlast : dayOfYear ≤ 365)

include hfirst hlast

private theorem toDay_ofYearDay :
    (ofYearDay year dayOfYear).toDay =
      year / 400 * 146097 + ((year - year / 400 * 400) * 365 + (year - year / 400 * 400) / 4 -
        (year - year / 400 * 400) / 100 + dayOfYear) - 719468 := by
  obtain ⟨m, hm⟩ : ∃ m, m = (5 * dayOfYear + 2) / 153 := ⟨_, rfl⟩
  have hmonth : 0 ≤ m ∧ m ≤ 11 := by omega
  have hday : 0 ≤ dayOfYear - (153 * m + 2) / 5 := by omega
  obtain ⟨hleast, hmost⟩ := hmonth
  unfold toDay ofYearDay
  dsimp only
  rw [← hm]
  interval_cases m <;> simp <;> omega

private theorem isValid_ofYearDay (hleap : dayOfYear = 365 → isLeapYear (year + 1) = true) :
    (ofYearDay year dayOfYear).isValid = true := by
  by_cases hend : dayOfYear = 365
  · subst hend
    have hyear : isLeapYear (year + 1) = true := hleap rfl
    simp [isValid, ofYearDay, daysInMonth, hyear]
  · obtain ⟨m, hm⟩ : ∃ m, m = (5 * dayOfYear + 2) / 153 := ⟨_, rfl⟩
    have hmonth : 0 ≤ m ∧ m ≤ 11 := by omega
    obtain ⟨hleast, hmost⟩ := hmonth
    unfold isValid ofYearDay
    dsimp only
    rw [← hm]
    -- the months from March on have the days that the divisors leave them
    interval_cases m <;> simp [daysInMonth] <;> omega

end YearDay

section Day

variable (n : Int)

private theorem exists_ofDay_eq : ∃ year dayOfYear, ofDay n = ofYearDay year dayOfYear ∧
    0 ≤ dayOfYear ∧ dayOfYear ≤ 365 ∧ (dayOfYear = 365 → isLeapYear (year + 1) = true) ∧
    n + 719468 = year / 400 * 146097 + ((year - year / 400 * 400) * 365 +
      (year - year / 400 * 400) / 4 - (year - year / 400 * 400) / 100 + dayOfYear) := by
  obtain ⟨era, hera⟩ : ∃ era, era = (n + 719468) / 146097 := ⟨_, rfl⟩
  have hfirst : 0 ≤ n + 719468 - (n + 719468) / 146097 * 146097 := by omega
  have hlast : n + 719468 - (n + 719468) / 146097 * 146097 < 146097 := by omega
  obtain ⟨c, q, k, d, h⟩ := exists_isDayOfEra hfirst hlast
  obtain ⟨y, hy⟩ : ∃ y, y = 100 * c + 4 * q + k := ⟨_, rfl⟩
  have hday := h.dayOfYear_eq hy
  have hyear : 0 ≤ y ∧ y < 400 := by
    have hc := h.centuries_mem
    have hq := h.fours_mem
    have hk := h.years_mem
    omega
  refine ⟨y + era * 400, d, ?_, h.dayOfYear_mem.1, h.dayOfYear_mem.2, ?_, ?_⟩
  · rw [hy, hera]
    exact ofDay_eq h
  · rintro rfl
    rw [hy]
    exact h.isLeapYear era
  · have hquotient : (y + era * 400) / 400 = era := by omega
    have hrest : y + era * 400 - era * 400 = y := by omega
    rw [hquotient, hrest]
    omega

theorem bounds_of_isValid {date : CalendarDate} (h : date.isValid = true) :
    date.month ≤ 12 ∧ date.day ≤ 31 := by
  unfold isValid at h
  rw [Bool.and_eq_true, decide_eq_true_eq, decide_eq_true_eq] at h
  obtain ⟨hfirst, hlast⟩ := h
  unfold daysInMonth at hlast
  split at hlast
  all_goals try split at hlast
  all_goals omega

theorem isValid_ofDay : (ofDay n).isValid = true := by
  obtain ⟨year, dayOfYear, hdate, hfirst, hlast, hleap, -⟩ := exists_ofDay_eq n
  rw [hdate]
  exact isValid_ofYearDay hfirst hlast hleap

theorem toDay_ofDay : (ofDay n).toDay = n := by
  obtain ⟨year, dayOfYear, hdate, hfirst, hlast, -, hn⟩ := exists_ofDay_eq n
  rw [hdate, toDay_ofYearDay hfirst hlast]
  omega

end Day

end SchemaMocks.CalendarDate
