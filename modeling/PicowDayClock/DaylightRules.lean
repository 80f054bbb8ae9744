import PicowDayClock.Firmware.Config
import PicowDayClock.Library.Gregorian
import PicowDayClock.Library.YearlyPeriods

/-! What a daylight-saving rule means, independently of how the firmware
computes it: two yearly switches, each an occurrence of a weekday in a month
and a time of that day. The two tables are the one the tests read as UTC and
the one of the README, which is read as local wall-clock time. -/
namespace PicowDayClock.DaylightRules
open Gregorian YearlyPeriods

/-- Which of a month's equal weekdays is meant. -/
inductive Occurrence where
  | nth (count : Int)
  | last

/-- A yearly switch: an occurrence of a weekday, some days earlier, and the
seconds of that day. -/
structure Switch where
  occurrence : Occurrence
  target : Int
  month : Nat
  daysEarlier : Int := 0
  secondOfDay : Int

def Occurrence.day (occurrence : Occurrence) (target year : Int) (month : Nat) : Int :=
  match occurrence with
  | .nth count => nthWeekdayOf count target year month
  | .last => lastWeekdayOf target year month

/-- The switch in a year, as seconds from 1970-01-01 on the switch's own clock. -/
def Switch.timestamp (switch : Switch) (year : Int) : Int :=
  86400 * dayNumber year switch.month
      (switch.occurrence.day switch.target year switch.month - switch.daysEarlier) +
    switch.secondOfDay

/-- The switches of a rule; in the south the period spans the new year. -/
structure Switches where
  start : Switch
  finish : Switch
  southern : Bool

def sunday : Int := 0
def saturday : Int := 6

/-- Seconds of the day that a clock shows. -/
def clockTime (hour minute : Int) : Int := 3600 * hour + 60 * minute

/-- Each rule's date and hour as the tests write them. -/
def utcTable : DstRule → Option Switches
  | .na => some ⟨⟨.nth 2, sunday, 3, 0, clockTime 2 0⟩, ⟨.nth 1, sunday, 11, 0, clockTime 2 0⟩, false⟩
  | .eu => some ⟨⟨.last, sunday, 3, 0, clockTime 1 0⟩, ⟨.last, sunday, 10, 0, clockTime 1 0⟩, false⟩
  | .au => some ⟨⟨.nth 1, sunday, 10, 0, clockTime 2 0⟩, ⟨.nth 1, sunday, 4, 0, clockTime 3 0⟩, true⟩
  | .nz => some ⟨⟨.last, sunday, 9, 0, clockTime 2 0⟩, ⟨.nth 1, sunday, 4, 0, clockTime 3 0⟩, true⟩
  | .cl => some ⟨⟨.nth 1, saturday, 9, 0, clockTime 23 59⟩,
      ⟨.nth 1, saturday, 4, 0, clockTime 23 59⟩, true⟩
  | .il => some ⟨⟨.last, sunday, 3, 2, clockTime 2 0⟩, ⟨.last, sunday, 10, 0, clockTime 2 0⟩, false⟩
  | .none | .other _ => none

/-- Each rule's date and hour as the README has them: Chile switches at 24:00,
and Israel's start, which names no hour, is at 02:00. -/
def readmeTable : DstRule → Option Switches
  | .cl => some ⟨⟨.nth 1, saturday, 9, 0, clockTime 24 0⟩,
      ⟨.nth 1, saturday, 4, 0, clockTime 24 0⟩, true⟩
  | rule => utcTable rule

/-- The seconds at which a UTC year begins. -/
def newYear (year : Int) : Int := 86400 * daysBeforeYear year

theorem newYear_strictMono : StrictMono newYear := by
  intro year later before
  have := daysBeforeYear_lt before
  simp only [newYear]
  omega

/-! ## Where in the year the switches fall -/

/-- Every day an occurrence can name comes after this day of its month. -/
def Occurrence.low : Occurrence → Int
  | .nth count => 7 * (count - 1)
  | .last => 21

/-- Every day an occurrence can name comes no later than this day of its month. -/
def Occurrence.high : Occurrence → Int
  | .nth count => 7 * count
  | .last => 31

private theorem occurrence_bounds (occurrence : Occurrence) (target year : Int) (month : Nat) :
    occurrence.low < occurrence.day target year month ∧
      occurrence.day target year month ≤ occurrence.high := by
  cases occurrence with
  | nth count => exact nthWeekdayOf_bounds count target year month
  | last =>
    have bounds := lastWeekdayOf_bounds target year month
    have length := monthLength_bounds year month
    simp only [Occurrence.low, Occurrence.high, Occurrence.day]
    omega

/-- The earliest second of the year at which a switch can fall. -/
def Switch.earliest (switch : Switch) : Int :=
  86400 * (daysBeforeMonth 1 switch.month + switch.occurrence.low - switch.daysEarlier) +
    switch.secondOfDay

/-- The latest second of the year at which a switch can fall, the leap day included. -/
def Switch.latest (switch : Switch) : Int :=
  86400 * (daysBeforeMonth 1 switch.month + switch.occurrence.high - switch.daysEarlier) +
    switch.secondOfDay

theorem timestamp_bounds {switch : Switch} (late : 3 ≤ switch.month) (year : Int) :
    newYear year + switch.earliest ≤ switch.timestamp year ∧
      switch.timestamp year ≤ newYear year + switch.latest := by
  have day := occurrence_bounds switch.occurrence switch.target year switch.month
  simp only [Switch.timestamp, Switch.earliest, Switch.latest, newYear, dayNumber,
    daysBeforeMonth_late year late]
  split <;> omega

/-- Thirty days: more than any offset moves a switch, less than lies between
any two switches or between a switch and the new year. -/
def margin : Int := 86400 * 30

namespace Switches

/-- The switch that comes first in a calendar year, and the other one. -/
def first (switches : Switches) : Switch :=
  if switches.southern then switches.finish else switches.start

def second (switches : Switches) : Switch :=
  if switches.southern then switches.start else switches.finish

/-- The switches of every year keep clear of each other and of the new year. -/
def Spaced (switches : Switches) : Prop :=
  ∀ year, newYear year + margin ≤ switches.first.timestamp year ∧
    switches.first.timestamp year + margin ≤ switches.second.timestamp year ∧
    switches.second.timestamp year + margin ≤ newYear (year + 1)

/-- The same, by the dates of a common year alone. -/
def SpacedByDates (switches : Switches) : Prop :=
  3 ≤ switches.first.month ∧ 3 ≤ switches.second.month ∧ margin ≤ switches.first.earliest ∧
    switches.first.latest + margin ≤ switches.second.earliest ∧
    switches.second.latest + margin ≤ 86400 * 365

instance (switches : Switches) : Decidable switches.SpacedByDates :=
  inferInstanceAs (Decidable (_ ∧ _))

theorem SpacedByDates.spaced {switches : Switches} (dates : switches.SpacedByDates) :
    switches.Spaced := by
  obtain ⟨firstLate, secondLate, clearStart, apart, clearEnd⟩ := dates
  intro year
  have first := timestamp_bounds firstLate year
  have second := timestamp_bounds secondLate year
  have step := daysBeforeYear_succ year
  have length := yearLength_bounds year
  simp only [newYear] at first second ⊢
  omega

end Switches

theorem utcTable_spaced {switches : Switches} (listed : utcTable rule = some switches) :
    switches.Spaced := by
  apply Switches.SpacedByDates.spaced
  cases rule <;> simp only [utcTable, reduceCtorEq, Option.some.injEq] at listed <;>
    subst listed <;> decide

theorem readmeTable_eq_utcTable (elsewhere : rule ≠ .cl) : readmeTable rule = utcTable rule := by
  cases rule <;> first | rfl | exact absurd rfl elsewhere

theorem readmeTable_spaced {switches : Switches} (listed : readmeTable rule = some switches) :
    switches.Spaced := by
  by_cases chile : rule = .cl
  · subst chile
    cases listed
    exact Switches.SpacedByDates.spaced (by decide)
  · rw [readmeTable_eq_utcTable chile] at listed
    exact utcTable_spaced listed

end PicowDayClock.DaylightRules
