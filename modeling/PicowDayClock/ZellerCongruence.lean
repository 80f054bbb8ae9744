import PicowDayClock.Firmware.Daylight

/-! The weekday formula of `day_of_week` against the day count. The formula
splits a year that starts in March into its century and the rest; both parts
together are the leap-day count of that year, modulo seven. On it rest the
weekday occurrences that `nth_weekday` computes. -/
namespace PicowDayClock.ZellerCongruence
open Gregorian Daylight

/-- The formula's year terms are the day count of the year, modulo seven. -/
private theorem century_terms (year : Int) :
    (year % 100 + year % 100 / 4 + year / 100 / 4 + 5 * (year / 100)) % 7 =
      (year + leapDaysThrough year) % 7 := by
  have quarter : year / 4 = 25 * (year / 100) + year % 100 / 4 := by omega
  have fourth : year / 400 = year / 100 / 4 := by omega
  have whole : year = 100 * (year / 100) + year % 100 := by omega
  simp only [leapDaysThrough]
  rw [quarter, fourth]
  generalize year / 100 = century at *
  generalize year % 100 = rest at *
  omega

/-- Over a year that is not negative the truncating operators are floors. -/
private theorem formula_floors {day year : Int} (month : Int) (day0 : 0 ≤ day)
    (month0 : 0 ≤ month) (year0 : 0 ≤ year) :
    ((day + (13 * (month + 1)).tdiv 5 + year.tmod 100 + (year.tmod 100).tdiv 4 +
        (year.tdiv 100).tdiv 4 + 5 * year.tdiv 100).tmod 7 + 6).tmod 7 =
      (day + 13 * (month + 1) / 5 + (year + leapDaysThrough year) + 6) % 7 := by
  have century0 : 0 ≤ year / 100 := by omega
  have rest0 : 0 ≤ year % 100 := by omega
  have split := century_terms year
  simp only [Int.tmod_eq_emod_of_nonneg year0, Int.tdiv_eq_ediv_of_nonneg year0,
    Int.tdiv_eq_ediv_of_nonneg century0, Int.tdiv_eq_ediv_of_nonneg rest0,
    Int.tdiv_eq_ediv_of_nonneg (show 0 ≤ 13 * (month + 1) by omega)]
  generalize year % 100 = rest at *
  generalize year / 100 = century at *
  generalize year + leapDaysThrough year = count at *
  have sum0 : 0 ≤ day + 13 * (month + 1) / 5 + rest + rest / 4 + century / 4 + 5 * century := by
    omega
  rw [Int.tmod_eq_emod_of_nonneg sum0, Int.tmod_eq_emod_of_nonneg (by omega)]
  omega

/-- January and February count with the year before. -/
private theorem dayOfWeek_early {day year : Int} {month : Nat} (early : month < 3)
    (day0 : 0 ≤ day) (year1 : 1 ≤ year) :
    dayOfWeek day month year =
      (day + 13 * (month + 13) / 5 + (year - 1 + leapDaysThrough (year - 1)) + 6) % 7 := by
  have shift : (month : Int) < 3 := by omega
  have floors := formula_floors (month + 12) day0 (by omega) (show 0 ≤ year - 1 by omega)
  simpa [dayOfWeek, shift, Int.add_assoc] using floors

private theorem dayOfWeek_late {day year : Int} {month : Nat} (late : 3 ≤ month)
    (day0 : 0 ≤ day) (year0 : 0 ≤ year) :
    dayOfWeek day month year =
      (day + 13 * (month + 1) / 5 + (year + leapDaysThrough year) + 6) % 7 := by
  have stay : ¬ (month : Int) < 3 := by omega
  have floors := formula_floors month day0 (by omega) year0
  simpa [dayOfWeek, stay, Int.add_assoc] using floors

/-- The formula's month term is the day count of the months, modulo seven. -/
private theorem month_terms :
    ∀ month < 13, 3 ≤ month →
      daysBeforeMonth 1 month % 7 = (13 * ((month : Int) + 1) / 5) % 7 := by
  decide

/-- `day_of_week` is the weekday of the day count, for every date of the
common era. -/
theorem dayOfWeek_eq_weekday {day year : Int} {month : Nat} (day0 : 0 ≤ day)
    (month1 : 1 ≤ month) (month12 : month ≤ 12) (year1 : 1 ≤ year) :
    dayOfWeek day month year = weekday (dayNumber year month day) := by
  have through1969 : leapDaysThrough 1969 = 477 := rfl
  by_cases early : month < 3
  · rw [dayOfWeek_early early day0 year1]
    simp only [weekday, dayNumber, daysBeforeYear, through1969]
    rcases (show month = 1 ∨ month = 2 by omega) with rfl | rfl
    · simp only [daysBeforeMonth]
      omega
    · simp only [daysBeforeMonth, monthLength]
      omega
  · have late : 3 ≤ month := by omega
    have leap := leapDaysThrough_succ year
    have months := month_terms month (by omega) late
    rw [dayOfWeek_late late day0 (by omega)]
    simp only [weekday, dayNumber, daysBeforeYear, daysBeforeMonth_late year late, through1969]
    omega

/-! ## Weekday occurrences -/

private theorem daysInMonth_eq_monthLength {month : Nat} {year : Int} (month1 : 1 ≤ month)
    (month12 : month ≤ 12) (year0 : 0 ≤ year) : daysInMonth month year = monthLength year month := by
  have leap : (year.tmod 4 = 0 ∧ (year.tmod 100 ≠ 0 ∨ year.tmod 400 = 0)) ↔ IsLeap year := by
    simp only [IsLeap, Int.tmod_eq_emod_of_nonneg year0]
  simp only [daysInMonth, leap]
  rcases (show month = 1 ∨ month = 2 ∨ month = 3 ∨ month = 4 ∨ month = 5 ∨ month = 6 ∨
      month = 7 ∨ month = 8 ∨ month = 9 ∨ month = 10 ∨ month = 11 ∨ month = 12 by omega) with
    rfl | rfl | rfl | rfl | rfl | rfl | rfl | rfl | rfl | rfl | rfl | rfl <;> rfl

/-- The first occurrence, as a truncated remainder of a sum kept positive. -/
private theorem first_occurrence {target dow : Int} (target0 : 0 ≤ target)
    (dow7 : dow < 7) : (target - dow + 7).tmod 7 = (target - dow) % 7 := by
  rw [Int.tmod_eq_emod_of_nonneg (by omega)]
  omega

theorem nthWeekday_pos {n target year : Int} {month : Nat} (positive : 0 < n)
    (target0 : 0 ≤ target) (month1 : 1 ≤ month) (month12 : month ≤ 12) (year1 : 1 ≤ year) :
    nthWeekday n target month year = nthWeekdayOf n target year month := by
  have first := dayOfWeek_eq_weekday (show (0 : Int) ≤ 1 by decide) month1 month12 year1
  have bounds := weekday_bounds (dayNumber year month 1)
  simp only [nthWeekday, nthWeekdayOf, first, first_occurrence target0 bounds.2, gt_iff_lt,
    positive, if_true]

/-- Counting 28 days on from the first occurrence and stepping back when that
leaves the month finds the last occurrence. -/
theorem nthWeekday_nonpos {n target year : Int} {month : Nat} (nonpos : n ≤ 0)
    (target0 : 0 ≤ target) (month1 : 1 ≤ month)
    (month12 : month ≤ 12) (year1 : 1 ≤ year) :
    nthWeekday n target month year = lastWeekdayOf target year month := by
  have first := dayOfWeek_eq_weekday (show (0 : Int) ≤ 1 by decide) month1 month12 year1
  have bounds := weekday_bounds (dayNumber year month 1)
  have length := monthLength_bounds year month
  have whole := dayNumber_add year month 1 (monthLength year month - 1)
  rw [show 1 + (monthLength year month - 1) = monthLength year month by omega] at whole
  simp only [nthWeekday, lastWeekdayOf, first, first_occurrence target0 bounds.2, gt_iff_lt,
    show ¬ 0 < n by omega, if_false, whole,
    daysInMonth_eq_monthLength month1 month12 (show 0 ≤ year by omega)]
  simp only [weekday]
  generalize dayNumber year month 1 = firstDay at *
  generalize monthLength year month = days at *
  split_ifs <;> omega

end PicowDayClock.ZellerCongruence
