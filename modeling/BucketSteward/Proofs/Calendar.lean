import BucketSteward.Calendar
import Mathlib.Tactic.Common

/-! Days and dates stand for each other: the date of a day exists in the calendar and counts back
to that day. The proof follows the division of an era into years that begin in March, so that the
only irregular day is the last one of a year. -/
namespace BucketSteward.Date

/-- The day of the year, and the leap day as its last, for every day of an era. -/
theorem day_of_year_bounds {day year : Int} (lower : 0 ≤ day) (upper : day ≤ 146096)
    (split : year = (day - day / 1460 + day / 36524 - day / 146096) / 365) :
    0 ≤ day - (365 * year + year / 4 - year / 100) ∧
      day - (365 * year + year / 4 - year / 100) ≤ 365 ∧
      (day - (365 * year + year / 4 - year / 100) = 365 →
        year % 4 = 3 ∧ (year % 100 ≠ 99 ∨ year % 400 = 399)) := by
  obtain ⟨century, hcentury⟩ : ∃ c, c = day / 36524 := ⟨_, rfl⟩
  obtain ⟨last, hlast⟩ : ∃ c, c = day / 146096 := ⟨_, rfl⟩
  obtain ⟨cycle, hcycle⟩ : ∃ c, c = day / 1460 := ⟨_, rfl⟩
  rw [← hcentury, ← hlast, ← hcycle] at split
  have lasts : last = 0 ∨ last = 1 := by omega
  have centuries : century = 0 ∨ century = 1 ∨ century = 2 ∨ century = 3 ∨ century = 4 := by omega
  -- A cycle of four years is a day longer than four times 365, so its count runs ahead by one.
  have cycles : cycle - year / 4 = 0 ∨ cycle - year / 4 = 1 := by omega
  rcases lasts with rfl | rfl <;> rcases centuries with rfl | rfl | rfl | rfl | rfl <;> omega

theorem year_of_era_bounds {day : Int} (lower : 0 ≤ day) (upper : day ≤ 146096) :
    0 ≤ (day - day / 1460 + day / 36524 - day / 146096) / 365 ∧
      (day - day / 1460 + day / 36524 - day / 146096) / 365 ≤ 399 := by
  omega

/-- The days of a year from March on, by month and day. -/
theorem month_from_march_bounds {day : Int} (lower : 0 ≤ day) (upper : day ≤ 365) :
    0 ≤ (5 * day + 2) / 153 ∧ (5 * day + 2) / 153 ≤ 11 := by
  omega

/-- The date of a day, by the era, the year of the era and the day of the year that it has. -/
theorem ofDays_parts (days : Int) :
    ∃ era year day month : Int, 0 ≤ year ∧ year ≤ 399 ∧ 0 ≤ day ∧ day ≤ 365 ∧
      (day = 365 → year % 4 = 3 ∧ (year % 100 ≠ 99 ∨ year % 400 = 399)) ∧
      days + 719468 = era * 146097 + (year * 365 + year / 4 - year / 100 + day) ∧
      month = (5 * day + 2) / 153 ∧ 0 ≤ month ∧ month ≤ 11 ∧
      ofDays days =
        ⟨if month < 10 then year + era * 400 else year + era * 400 + 1,
          if month < 10 then month + 3 else month - 9, day - (153 * month + 2) / 5 + 1⟩ := by
  obtain ⟨shifted, hshifted⟩ : ∃ s, s = days + 719468 := ⟨_, rfl⟩
  obtain ⟨inEra, hinEra⟩ : ∃ d, d = shifted - shifted / 146097 * 146097 := ⟨_, rfl⟩
  obtain ⟨year, hyear⟩ :
      ∃ y, y = (inEra - inEra / 1460 + inEra / 36524 - inEra / 146096) / 365 := ⟨_, rfl⟩
  obtain ⟨day, hday⟩ : ∃ d, d = inEra - (365 * year + year / 4 - year / 100) := ⟨_, rfl⟩
  obtain ⟨month, hmonth⟩ : ∃ m, m = (5 * day + 2) / 153 := ⟨_, rfl⟩
  have lower : 0 ≤ inEra := by omega
  have upper : inEra ≤ 146096 := by omega
  have years := year_of_era_bounds lower upper
  obtain ⟨dayLower, dayUpper, leap⟩ := day_of_year_bounds lower upper hyear
  have months := month_from_march_bounds (hday ▸ dayLower) (hday ▸ dayUpper)
  rw [← hyear] at years
  rw [← hday] at dayLower dayUpper leap
  rw [← hmonth] at months
  refine ⟨shifted / 146097, year, day, month, years.1, years.2, dayLower, dayUpper, leap, ?_, hmonth,
    months.1, months.2, ?_⟩
  · omega
  · simp only [ofDays, ← hshifted, ← hinEra, ← hyear, ← hday, ← hmonth, mk.injEq, and_true]
    by_cases early : month < 10
    · rw [if_pos early, if_pos early, if_neg (by omega)]
    · rw [if_neg early, if_neg early, if_pos (by omega)]

theorem toDays_ofDays (days : Int) : (ofDays days).toDays = days := by
  obtain ⟨era, year, day, month, yearLower, yearUpper, dayLower, dayUpper, -, total, hmonth,
    monthLower, monthUpper, parts⟩ := ofDays_parts days
  rw [parts]
  by_cases early : month < 10
  · simp only [toDays, if_pos early]
    rw [if_neg (by omega), if_neg (by omega)]
    have eras : (year + era * 400) / 400 = era := by omega
    rw [eras]
    have ofEra : year + era * 400 - era * 400 = year := by omega
    rw [ofEra]
    omega
  · simp only [toDays, if_neg early]
    rw [if_pos (by omega), if_pos (by omega)]
    have eras : (year + era * 400 + 1 - 1) / 400 = era := by omega
    rw [eras]
    have ofEra : year + era * 400 + 1 - 1 - era * 400 = year := by omega
    rw [ofEra]
    omega

theorem exists_ofDays (days : Int) : (ofDays days).Exists := by
  obtain ⟨era, year, day, month, yearLower, yearUpper, dayLower, dayUpper, leap, -, hmonth,
    monthLower, monthUpper, parts⟩ := ofDays_parts days
  rw [parts]
  by_cases early : month < 10
  · simp only [Exists, if_pos early, daysInMonth]
    refine ⟨by omega, by omega, by omega, ?_⟩
    rw [if_neg (by omega)]
    split <;> omega
  · simp only [Exists, if_neg early, daysInMonth]
    refine ⟨by omega, by omega, by omega, ?_⟩
    by_cases february : month - 9 = 2
    · rw [if_pos february]
      by_cases leapDay : day = 365
      · have leapYear : isLeapYear (year + era * 400 + 1) = true := by
          have := leap leapDay
          simp only [isLeapYear, Bool.and_eq_true, Bool.or_eq_true, beq_iff_eq, bne_iff_ne]
          omega
        rw [if_pos leapYear]
        omega
      · split <;> omega
    · rw [if_neg february]
      split <;> omega

/-- The days of the years that a point in time can lie in have dates in those years. -/
theorem year_ofDays_bounds {days : Int} (lower : toDays ⟨-262143, 1, 1⟩ ≤ days)
    (upper : days ≤ toDays ⟨262142, 12, 31⟩) :
    -262143 ≤ (ofDays days).year ∧ (ofDays days).year ≤ 262142 := by
  have first : toDays ⟨-262143, 1, 1⟩ = -96465292 := by decide
  have last : toDays ⟨262142, 12, 31⟩ = 95026236 := by decide
  rw [first] at lower
  rw [last] at upper
  obtain ⟨era, year, day, month, yearLower, yearUpper, dayLower, dayUpper, leap, total, hmonth,
    monthLower, monthUpper, parts⟩ := ofDays_parts days
  rw [parts]
  by_cases early : month < 10
  · simp only [if_pos early]
    omega
  · simp only [if_neg early]
    rcases (by omega : era < 655 ∨ era = 655) with inner | rfl
    · omega
    · have quarters : year / 4 ≤ 35 ∨ 36 ≤ year / 4 := by omega
      omega

end BucketSteward.Date
