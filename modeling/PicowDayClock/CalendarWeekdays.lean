import PicowDayClock.Firmware.ClockTask
import PicowDayClock.Library.CalendarDate
import PicowDayClock.ZellerCongruence

/-! The weekdays of `clock.c` on the calendar: `day_of_week` moves on by one from
each date to the next and is what `gmtime_r` says of the date, and `nth_weekday`
is the day that stands at that place among the month's days of its weekday. -/
namespace PicowDayClock.CalendarWeekdays
open Gregorian Daylight ClockTask ZellerCongruence

/-! ## Dates -/

/-- `day_of_week` of a date. -/
def dayOfWeekOn (date : Date) : Int := dayOfWeek date.day date.month date.year

/-- `gmtime_r(&t)->tm_year`, `tm_mon` and `tm_mday`, as the date they stand for. -/
def gmtimeDate (t : Int) : Date := .ofNumber (t / 86400)

theorem gmtimeDate_year (t : Int) : (gmtimeDate t).year = gmtimeYear t + 1900 := by
  rw [gmtimeYear, Int.sub_add_cancel]
  rfl

theorem dayOfWeekOn_eq (date : Date) (year1 : 1 ≤ date.year) :
    dayOfWeekOn date = weekday date.number := by
  obtain ⟨month1, month12⟩ := date.month_valid
  exact dayOfWeek_eq_weekday (Int.le_trans (by decide) date.day_valid.1) month1 month12 year1

theorem next_year (date : Date) : date.year ≤ date.next.year := by
  unfold Date.next
  split
  · exact Int.le_refl _
  · split
    · exact Int.le_refl _
    · exact Int.le_add_one (Int.le_refl _)

/-- On every date of the common era `day_of_week` counts days from 1 January
1970, a Thursday. So the next date has the next weekday, wherever months, leap
days and centuries end, and `gmtime_r` gives each second of the date the same
weekday. -/
theorem day_of_week_counts_days (date : Date) (year1 : 1 ≤ date.year) :
    dayOfWeekOn date = (date.number + 4) % 7 ∧
      dayOfWeekOn date.next = (dayOfWeekOn date + 1) % 7 ∧
      ∀ t, 86400 * date.number ≤ t → t < 86400 * (date.number + 1) →
        gmtimeDate t = date ∧ (gmtimeWday t : Int) = dayOfWeekOn date := by
  have counted := dayOfWeekOn_eq date year1
  have later := dayOfWeekOn_eq date.next (Int.le_trans year1 (next_year date))
  rw [Date.number_next] at later
  simp only [weekday] at counted later
  refine ⟨counted, ?_, ?_⟩
  · rw [later, counted]
    omega
  · intro t begun notOver
    have today : t / 86400 = date.number := by omega
    rw [gmtimeDate, gmtimeWday, today, counted, Date.ofNumber_number]
    exact ⟨rfl, by omega⟩

/-- The last day of February 1900, which was no leap year. -/
def lastOfFebruary1900 : Date := ⟨1900, 2, 28, by decide, by decide⟩

theorem march_follows_in_1900 :
    lastOfFebruary1900.next = ⟨1900, 3, 1, by decide, by decide⟩ ∧
      dayOfWeekOn lastOfFebruary1900 = 3 ∧
      dayOfWeekOn lastOfFebruary1900 = (lastOfFebruary1900.number + 4) % 7 ∧
      dayOfWeekOn lastOfFebruary1900.next = (dayOfWeekOn lastOfFebruary1900 + 1) % 7 ∧
      ∀ t, 86400 * lastOfFebruary1900.number ≤ t → t < 86400 * (lastOfFebruary1900.number + 1) →
        gmtimeDate t = lastOfFebruary1900 ∧
          (gmtimeWday t : Int) = dayOfWeekOn lastOfFebruary1900 :=
  ⟨by decide, by decide, day_of_week_counts_days lastOfFebruary1900 (by decide)⟩

/-! ## Occurrences -/

/-- For the counts 1 to 4 `nth_weekday` is a day of the month on its weekday with
as many earlier ones as the count says; otherwise it is the last such day. -/
theorem nth_weekday_is_occurrence {n target year : Int} {month : Nat} (year1 : 1 ≤ year)
    (month1 : 1 ≤ month) (month12 : month ≤ 12) (target0 : 0 ≤ target) (target6 : target ≤ 6) :
    (1 ≤ n → n ≤ 4 →
      nthWeekday n target month year ∈ occurrences target year month ∧
        (((occurrences target year month).filter
          (· < nthWeekday n target month year)).card : Int) = n - 1) ∧
    (n ≤ 0 →
      nthWeekday n target month year ∈ occurrences target year month ∧
        ∀ day ∈ occurrences target year month, day ≤ nthWeekday n target month year) := by
  have target7 : target < 7 := Int.lt_of_le_of_lt target6 (by decide)
  constructor
  · intro first fourth
    obtain ⟨count, rfl⟩ : ∃ count : Nat, n = count + 1 := ⟨(n - 1).toNat, by omega⟩
    rw [nthWeekday_pos (by omega) target0 month1 month12 year1]
    refine ⟨nthWeekdayOf_mem target0 target7 year month first fourth, ?_⟩
    rw [earlier_occurrences_card target0 target7 year month (by omega)]
    omega
  · intro nonpos
    rw [nthWeekday_nonpos nonpos target0 month1 month12 year1]
    exact ⟨lastWeekdayOf_mem target0 target7 year month, fun day => le_lastWeekdayOf⟩

/-- The leap day of 2024 is the fifth Thursday of its month. -/
theorem thursdays_of_february_2024 :
    nthWeekday 2 4 2 2024 = 8 ∧ nthWeekday (-1) 4 2 2024 = 29 ∧
      (nthWeekday 2 4 2 2024 ∈ occurrences 4 2024 2 ∧
        (((occurrences 4 2024 2).filter (· < nthWeekday 2 4 2 2024)).card : Int) = 2 - 1) ∧
      nthWeekday (-1) 4 2 2024 ∈ occurrences 4 2024 2 ∧
        ∀ day ∈ occurrences 4 2024 2, day ≤ nthWeekday (-1) 4 2 2024 := by
  refine ⟨by decide, by decide, ?_, ?_⟩
  · exact (nth_weekday_is_occurrence (by decide) (by decide) (by decide) (by decide)
      (by decide)).1 (by decide) (by decide)
  · exact (nth_weekday_is_occurrence (by decide) (by decide) (by decide) (by decide)
      (by decide)).2 (by decide)

end PicowDayClock.CalendarWeekdays
