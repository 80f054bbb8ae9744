import Mathlib

/-! The proleptic Gregorian calendar as a count of days from 1970-01-01, and
the weekday occurrences of a month found by that count. Nothing here refers to
a congruence for the weekday: a weekday is the day number modulo seven. -/
namespace PicowDayClock.Gregorian

/-! ## Years -/

def IsLeap (year : Int) : Prop := year % 4 = 0 ∧ (year % 100 ≠ 0 ∨ year % 400 = 0)

instance (year : Int) : Decidable (IsLeap year) := inferInstanceAs (Decidable (_ ∧ _))

def yearLength (year : Int) : Int := if IsLeap year then 366 else 365

/-- Leap days up to the end of a year, counted from year 1 (and negative before it). -/
def leapDaysThrough (year : Int) : Int := year / 4 - year / 100 + year / 400

/-- Days from 1970-01-01 to the first of January of a year. -/
def daysBeforeYear (year : Int) : Int :=
  365 * (year - 1970) + (leapDaysThrough (year - 1) - leapDaysThrough 1969)

theorem leapDaysThrough_succ (year : Int) :
    leapDaysThrough year = leapDaysThrough (year - 1) + (if IsLeap year then 1 else 0) := by
  simp only [leapDaysThrough]
  by_cases leap : IsLeap year
  · simp only [leap, if_true]
    simp only [IsLeap] at leap
    omega
  · simp only [leap, if_false]
    simp only [IsLeap] at leap
    omega

theorem daysBeforeYear_epoch : daysBeforeYear 1970 = 0 := rfl

/-- Each year adds its own length, so `daysBeforeYear` counts days. -/
theorem daysBeforeYear_succ (year : Int) :
    daysBeforeYear (year + 1) = daysBeforeYear year + yearLength year := by
  have step := leapDaysThrough_succ year
  simp only [daysBeforeYear, yearLength, Int.add_sub_cancel]
  split at step <;> rename_i leap <;> simp only [leap, if_true, if_false] <;> omega

theorem yearLength_bounds (year : Int) : 365 ≤ yearLength year ∧ yearLength year ≤ 366 := by
  unfold yearLength
  split <;> omega

theorem daysBeforeYear_lt {year later : Int} (before : year < later) :
    daysBeforeYear year + 365 ≤ daysBeforeYear later := by
  simp only [daysBeforeYear, leapDaysThrough]
  omega

/-- The year a day falls in: a guess from the mean year, corrected by one. -/
def yearOf (days : Int) : Int :=
  let guess := 1970 + days * 400 / 146097
  if days < daysBeforeYear guess then guess - 1
  else if daysBeforeYear (guess + 1) ≤ days then guess + 1
  else guess

private theorem guess_near (days : Int) :
    daysBeforeYear (1970 + days * 400 / 146097 - 1) ≤ days ∧
      days < daysBeforeYear (1970 + days * 400 / 146097 + 2) := by
  simp only [daysBeforeYear, leapDaysThrough]
  omega

theorem yearOf_spec (days : Int) :
    daysBeforeYear (yearOf days) ≤ days ∧ days < daysBeforeYear (yearOf days + 1) := by
  obtain ⟨low, high⟩ := guess_near days
  unfold yearOf
  dsimp only
  split
  · rename_i below
    exact ⟨low, by simpa using below⟩
  · split
    · rename_i above
      exact ⟨above, by simpa [Int.add_assoc] using high⟩
    · omega

/-! ## Months and dates -/

/-- Days of a month, January being 1. -/
def monthLength (year : Int) : Nat → Int
  | 2 => if IsLeap year then 29 else 28
  | 4 | 6 | 9 | 11 => 30
  | _ => 31

/-- Days of the year before the first of a month. -/
def daysBeforeMonth (year : Int) : Nat → Int
  | 0 | 1 => 0
  | month + 1 => daysBeforeMonth year month + monthLength year month

/-- Days from 1970-01-01 to a date. The day of the month may lie outside the
month, and then counts on from it. -/
def dayNumber (year : Int) (month : Nat) (day : Int) : Int :=
  daysBeforeYear year + daysBeforeMonth year month + (day - 1)

/-- The weekday of a day number, Sunday being 0: day 0 was a Thursday. -/
def weekday (days : Int) : Int := (days + 4) % 7

theorem weekday_bounds (days : Int) : 0 ≤ weekday days ∧ weekday days < 7 := by
  unfold weekday
  omega

theorem monthLength_bounds (year : Int) (month : Nat) :
    28 ≤ monthLength year month ∧ monthLength year month ≤ 31 := by
  unfold monthLength
  split
  · split <;> omega
  all_goals omega

theorem dayNumber_add (year : Int) (month : Nat) (day more : Int) :
    dayNumber year month (day + more) = dayNumber year month day + more := by
  simp only [dayNumber]
  omega

theorem daysBeforeMonth_succ (year : Int) {month : Nat} (positive : 1 ≤ month) :
    daysBeforeMonth year (month + 1) = daysBeforeMonth year month + monthLength year month := by
  obtain ⟨earlier, rfl⟩ := Nat.exists_eq_add_of_le' positive
  rfl

/-- From March on a month starts one day later in a leap year. -/
theorem daysBeforeMonth_late (year : Int) {month : Nat} (late : 3 ≤ month) :
    daysBeforeMonth year month = daysBeforeMonth 1 month + (if IsLeap year then 1 else 0) := by
  induction month, late using Nat.le_induction with
  | base =>
    simp only [daysBeforeMonth, monthLength, show ¬ IsLeap 1 by decide, if_false]
    split <;> rfl
  | succ month late ih =>
    have same : monthLength year month = monthLength 1 month := by
      unfold monthLength
      split <;> first | rfl | omega
    rw [daysBeforeMonth_succ year (by omega), daysBeforeMonth_succ 1 (by omega), ih, same]
    omega

/-! ## Weekday occurrences -/

/-- The `count`-th day of a month that falls on a weekday. -/
def nthWeekdayOf (count : Int) (target : Int) (year : Int) (month : Nat) : Int :=
  1 + (target - weekday (dayNumber year month 1)) % 7 + (count - 1) * 7

/-- The last day of a month that falls on a weekday. -/
def lastWeekdayOf (target : Int) (year : Int) (month : Nat) : Int :=
  monthLength year month -
    (weekday (dayNumber year month (monthLength year month)) - target) % 7

theorem nthWeekdayOf_weekday (count : Int) {target : Int} (year : Int) (month : Nat)
    (low : 0 ≤ target) (high : target < 7) :
    weekday (dayNumber year month (nthWeekdayOf count target year month)) = target := by
  simp only [nthWeekdayOf, weekday, dayNumber]
  omega

theorem nthWeekdayOf_bounds (count target year : Int) (month : Nat) :
    7 * (count - 1) < nthWeekdayOf count target year month ∧
      nthWeekdayOf count target year month ≤ 7 * count := by
  simp only [nthWeekdayOf]
  omega

theorem lastWeekdayOf_weekday {target : Int} (year : Int) (month : Nat)
    (low : 0 ≤ target) (high : target < 7) :
    weekday (dayNumber year month (lastWeekdayOf target year month)) = target := by
  simp only [lastWeekdayOf, weekday, dayNumber]
  omega

theorem lastWeekdayOf_bounds (target year : Int) (month : Nat) :
    monthLength year month < lastWeekdayOf target year month + 7 ∧
      lastWeekdayOf target year month ≤ monthLength year month := by
  simp only [lastWeekdayOf]
  omega

end PicowDayClock.Gregorian
