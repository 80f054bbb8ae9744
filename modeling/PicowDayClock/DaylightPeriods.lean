import PicowDayClock.DaylightRules
import PicowDayClock.ZellerCongruence

/-! The daylight periods that `time_is_dst` finds, with each rule's date and
hour taken as a UTC timestamp. The code looks at the two bounds of the
instant's own year only and tells the hemispheres apart by their order; the
spacing of the switches makes both right in every year. -/
namespace PicowDayClock.DaylightPeriods
open Gregorian Daylight DaylightRules YearlyPeriods ZellerCongruence

/-! ## Periods of a table -/

section Periods
variable {switches : Switches} {startShift finishShift : Int}

/-- The switches moved by fixed amounts, as they stand in each year. -/
def startAt (switches : Switches) (shift : Int) (year : Int) : Int :=
  switches.start.timestamp year + shift

def finishAt (switches : Switches) (shift : Int) (year : Int) : Int :=
  switches.finish.timestamp year + shift

/-- Shifts small enough to keep the order of the switches and their year. -/
def SmallShift (shift : Int) : Prop := -86400 ≤ shift ∧ shift ≤ 86400

theorem northern_layout (spaced : switches.Spaced) (north : switches.southern = false)
    (startSmall : SmallShift startShift) (finishSmall : SmallShift finishShift) :
    Northern newYear (startAt switches startShift) (finishAt switches finishShift) := by
  intro year
  have apart := spaced year
  simp only [Switches.first, Switches.second, north, Bool.false_eq_true, if_false, margin] at apart
  obtain ⟨startLow, startHigh⟩ := startSmall
  obtain ⟨finishLow, finishHigh⟩ := finishSmall
  simp only [startAt, finishAt]
  omega

theorem southern_layout (spaced : switches.Spaced) (south : switches.southern = true)
    (startSmall : SmallShift startShift) (finishSmall : SmallShift finishShift) :
    Southern newYear (startAt switches startShift) (finishAt switches finishShift) := by
  intro year
  have apart := spaced year
  simp only [Switches.first, Switches.second, south, if_true, margin] at apart
  obtain ⟨startLow, startHigh⟩ := startSmall
  obtain ⟨finishLow, finishHigh⟩ := finishSmall
  simp only [startAt, finishAt]
  omega

end Periods

/-- The instant lies in a period of the table read as UTC: from a start to the
end of the same year, or in the south to the end of the next year. -/
def CoversUtc (switches : Switches) (instant : Int) : Prop :=
  if switches.southern then
    ∃ year, switches.start.timestamp year ≤ instant ∧ instant < switches.finish.timestamp (year + 1)
  else
    ∃ year, switches.start.timestamp year ≤ instant ∧ instant < switches.finish.timestamp year

/-! ## The bounds the code computes -/

/-- A zeroed `struct tm` with a date and a time of day is the timestamp of that
date. -/
private theorem tmToEpoch_eq (year : Int) (mon : Nat) (mday hour minute : Int) :
    tmToEpoch { tmYear := year - 1900, tmMon := mon, tmMday := mday, tmHour := hour, tmMin := minute } =
      86400 * dayNumber year (mon + 1) mday + clockTime hour minute := by
  simp only [tmToEpoch, clockTime, Int.sub_add_cancel]
  omega

/-- `get_dst_bounds` gives the table's two switches in every year of the common era. -/
theorem getDstBounds_eq {switches : Switches} (listed : utcTable rule = some switches)
    (year1 : 1 ≤ year) :
    getDstBounds rule year = (switches.start.timestamp year, switches.finish.timestamp year) := by
  have nth {n target : Int} {month : Nat} (positive : 0 < n) (target0 : 0 ≤ target)
      (month1 : 1 ≤ month) (month12 : month ≤ 12) :=
    nthWeekday_pos positive target0 month1 month12 year1
  have last {n target : Int} {month : Nat} (nonpos : n ≤ 0) (target0 : 0 ≤ target)
      (month1 : 1 ≤ month) (month12 : month ≤ 12) :=
    nthWeekday_nonpos nonpos target0 month1 month12 year1
  cases rule with
  | none | other raw => simp [utcTable] at listed
  | na | au | cl =>
    cases listed
    simp only [getDstBounds, tmToEpoch_eq, Switch.timestamp, Occurrence.day, sunday, saturday,
      Int.sub_zero]
    rw [nth (by decide) (by decide) (by decide) (by decide),
      nth (by decide) (by decide) (by decide) (by decide)]
  | eu | il =>
    cases listed
    simp only [getDstBounds, tmToEpoch_eq, Switch.timestamp, Occurrence.day, sunday, Int.sub_zero]
    rw [last (by decide) (by decide) (by decide) (by decide),
      last (by decide) (by decide) (by decide) (by decide)]
  | nz =>
    cases listed
    simp only [getDstBounds, tmToEpoch_eq, Switch.timestamp, Occurrence.day, sunday, Int.sub_zero]
    rw [last (by decide) (by decide) (by decide) (by decide),
      nth (by decide) (by decide) (by decide) (by decide)]

/-! ## `time_is_dst` -/

/-- The UTC year of an instant, and where it stands in it. -/
theorem gmtimeYear_spec (epoch : 0 ≤ instant) :
    1 ≤ gmtimeYear instant + 1900 ∧ newYear (gmtimeYear instant + 1900) ≤ instant ∧
      instant < newYear (gmtimeYear instant + 1900 + 1) := by
  obtain ⟨begun, notOver⟩ := yearOf_spec (instant / 86400)
  have common : 1970 ≤ yearOf (instant / 86400) := by
    by_contra early
    have before := daysBeforeYear_lt (show yearOf (instant / 86400) < 1970 by omega)
    rcases (show yearOf (instant / 86400) + 1 = 1970 ∨ yearOf (instant / 86400) + 1 < 1970 by omega)
      with same | earlier
    · rw [same] at notOver
      have := daysBeforeYear_epoch
      omega
    · have := daysBeforeYear_lt earlier
      have := daysBeforeYear_epoch
      omega
  simp only [gmtimeYear, Int.sub_add_cancel, newYear]
  omega

/-- What `time_is_dst` decides, by the two bounds of the instant's own year. -/
theorem timeIsDst_eq_one_iff {switches : Switches} {config : FlashConfig}
    (listed : utcTable config.dstRule = some switches) (epoch : 0 ≤ instant) :
    timeIsDst instant config = 1 ↔
      if switches.southern then
        switches.start.timestamp (gmtimeYear instant + 1900) ≤ instant ∨
          instant < switches.finish.timestamp (gmtimeYear instant + 1900)
      else
        switches.start.timestamp (gmtimeYear instant + 1900) ≤ instant ∧
          instant < switches.finish.timestamp (gmtimeYear instant + 1900) := by
  have changes : config.dstRule ≠ .none := by
    intro never
    simp [never, utcTable] at listed
  have bounds := getDstBounds_eq listed (gmtimeYear_spec epoch).1
  have apart := (utcTable_spaced listed (gmtimeYear instant + 1900)).2.1
  simp only [timeIsDst, changes, if_false, bounds]
  generalize gmtimeYear instant + 1900 = year at *
  cases south : switches.southern with
  | false =>
    simp only [Switches.first, Switches.second, south, Bool.false_eq_true, if_false, margin] at apart ⊢
    rw [if_pos (by omega)]
    split <;> simp_all
  | true =>
    simp only [Switches.first, Switches.second, south, if_true, margin] at apart ⊢
    rw [if_neg (by omega)]
    split <;> simp_all

/-- **The periods in the UTC reading.** For each of the six rules and every
instant from 1970 on, `time_is_dst` is 1 exactly inside a period of the table;
without a rule it is always 0. -/
theorem time_is_dst_covers_utc_periods (config : FlashConfig) :
    (config.dstRule = .none → ∀ instant, timeIsDst instant config = 0) ∧
      ∀ switches, utcTable config.dstRule = some switches →
        ∀ instant, 0 ≤ instant → (timeIsDst instant config = 1 ↔ CoversUtc switches instant) := by
  refine ⟨fun never instant => by simp [timeIsDst, never], ?_⟩
  intro switches listed instant epoch
  obtain ⟨_, begun, notOver⟩ := gmtimeYear_spec epoch
  have spaced := utcTable_spaced listed
  have still : SmallShift 0 := by simp [SmallShift]
  rw [timeIsDst_eq_one_iff listed epoch, CoversUtc]
  cases south : switches.southern with
  | false =>
    have periods := (northern_layout spaced south still still).mem_iff begun notOver
    simp only [startAt, finishAt, Int.add_zero] at periods
    simpa using periods.symm
  | true =>
    have periods := (southern_layout spaced south still still).mem_iff begun notOver
    simp only [startAt, finishAt, Int.add_zero] at periods
    simpa using periods.symm

/-- July 2024 lies in the North American period. -/
theorem utc_periods_cover_july :
    ∃ switches, utcTable .na = some switches ∧ CoversUtc switches 1720000000 :=
  ⟨_, rfl, ((time_is_dst_covers_utc_periods { FlashConfig.zero with dstRule := .na }).2 _ rfl
    1720000000 (by decide)).mp (by decide)⟩

end PicowDayClock.DaylightPeriods
