import PicowDayClock.DaylightPeriods

/-! The daylight periods of the README table, read as local wall-clock time:
standard time shows the start, daylight time shows the end, and only the
European rule is in UTC. `time_is_dst` compares UTC with the table's date and
hour as they stand, so it is right except between the two readings of a
switch. -/
namespace PicowDayClock.WallClockPeriods
open Daylight DaylightRules DaylightPeriods YearlyPeriods

/-- How far before the table's reading local standard time shows the start. -/
def startShift (rule : DstRule) (offsetMins : Int) : Int :=
  if rule = .eu then 0 else -(60 * offsetMins)

/-- How far before the table's reading local daylight time, one hour ahead of
standard time, shows the end. -/
def finishShift (rule : DstRule) (offsetMins : Int) : Int :=
  if rule = .eu then 0 else -(60 * offsetMins + 3600)

/-- Daylight time holds: from an instant at which standard time shows the
start, up to the next instant at which daylight time shows the end. -/
def InDaylightPeriod (rule : DstRule) (readme : Switches) (offsetMins instant : Int) : Prop :=
  OnAt (startAt readme (startShift rule offsetMins)) (finishAt readme (finishShift rule offsetMins))
    instant

/-- The instant is not before the one and is before the other. -/
def Between (first second instant : Int) : Prop :=
  (first ≤ instant ∧ instant < second) ∨ (second ≤ instant ∧ instant < first)

/-- The instant lies between the date and hour of a switch taken as UTC and the
same switch on the local wall clock. -/
def BetweenReadings (rule : DstRule) (utc readme : Switches) (offsetMins instant : Int) : Prop :=
  ∃ year,
    Between (startAt utc 0 year) (startAt readme (startShift rule offsetMins) year) instant ∨
      Between (finishAt utc 0 year) (finishAt readme (finishShift rule offsetMins) year) instant

/-- The offsets the configuration accepts. -/
def OffsetAccepted (offsetMins : Int) : Prop := -720 ≤ offsetMins ∧ offsetMins ≤ 840

section
variable {rule : DstRule} {utc readme : Switches} {offsetMins instant year : Int}

private theorem startShift_small (accepted : OffsetAccepted offsetMins) :
    SmallShift (startShift rule offsetMins) := by
  obtain ⟨low, high⟩ := accepted
  unfold startShift SmallShift
  split <;> omega

private theorem finishShift_small (accepted : OffsetAccepted offsetMins) :
    SmallShift (finishShift rule offsetMins) := by
  obtain ⟨low, high⟩ := accepted
  unfold finishShift SmallShift
  split <;> omega

/-- The two tables are in one hemisphere and a minute apart at most. -/
private theorem tables_close (utcListed : utcTable rule = some utc)
    (readmeListed : readmeTable rule = some readme) :
    readme.southern = utc.southern ∧
      (∀ year, utc.start.timestamp year ≤ readme.start.timestamp year ∧
        readme.start.timestamp year ≤ utc.start.timestamp year + 60) ∧
      ∀ year, utc.finish.timestamp year ≤ readme.finish.timestamp year ∧
        readme.finish.timestamp year ≤ utc.finish.timestamp year + 60 := by
  by_cases chile : rule = .cl
  · subst chile
    cases utcListed
    cases readmeListed
    simp only [Switch.timestamp, clockTime]
    refine ⟨trivial, fun year => ?_, fun year => ?_⟩ <;> omega
  · rw [readmeTable_eq_utcTable chile, utcListed] at readmeListed
    cases readmeListed
    refine ⟨rfl, fun year => ?_, fun year => ?_⟩ <;> omega

/-- Whether daylight time holds is decided by the switches of the instant's own
UTC year, for every accepted offset. -/
theorem inDaylightPeriod_iff (listed : readmeTable rule = some readme)
    (accepted : OffsetAccepted offsetMins) (begun : newYear year ≤ instant)
    (notOver : instant < newYear (year + 1)) :
    InDaylightPeriod rule readme offsetMins instant ↔
      if readme.southern then
        startAt readme (startShift rule offsetMins) year ≤ instant ∨
          instant < finishAt readme (finishShift rule offsetMins) year
      else
        startAt readme (startShift rule offsetMins) year ≤ instant ∧
          instant < finishAt readme (finishShift rule offsetMins) year := by
  have spaced := readmeTable_spaced listed
  have startSmall : SmallShift (startShift rule offsetMins) := startShift_small accepted
  have finishSmall : SmallShift (finishShift rule offsetMins) := finishShift_small accepted
  unfold InDaylightPeriod
  cases south : readme.southern with
  | false =>
    have layout := northern_layout spaced south startSmall finishSmall
    simpa using layout.onAt_iff.trans (layout.mem_iff begun notOver)
  | true =>
    have layout := southern_layout spaced south startSmall finishSmall
    simpa using layout.onAt_iff.trans (layout.mem_iff begun notOver)

/-- A switch that is moved a little stays in its own UTC year. -/
private theorem switches_in_year {switches : Switches} {shift : Int} (spaced : switches.Spaced)
    (small : SmallShift shift) (year : Int) :
    (newYear year ≤ startAt switches shift year ∧
        startAt switches shift year < newYear (year + 1)) ∧
      newYear year ≤ finishAt switches shift year ∧
        finishAt switches shift year < newYear (year + 1) := by
  have apart := spaced year
  obtain ⟨low, high⟩ := small
  simp only [startAt, finishAt]
  cases south : switches.southern <;>
    simp only [Switches.first, Switches.second, south, Bool.false_eq_true, if_false, if_true,
      margin] at apart <;> omega

/-- So only the readings of the instant's own UTC year can enclose it. -/
private theorem betweenReadings_iff (utcListed : utcTable rule = some utc)
    (readmeListed : readmeTable rule = some readme) (accepted : OffsetAccepted offsetMins)
    (begun : newYear year ≤ instant) (notOver : instant < newYear (year + 1)) :
    BetweenReadings rule utc readme offsetMins instant ↔
      Between (startAt utc 0 year) (startAt readme (startShift rule offsetMins) year) instant ∨
        Between (finishAt utc 0 year) (finishAt readme (finishShift rule offsetMins) year)
          instant := by
  have spaced := utcTable_spaced utcListed
  have readmeSpaced := readmeTable_spaced readmeListed
  constructor
  · rintro ⟨other, between⟩
    have still : SmallShift 0 := by simp [SmallShift]
    obtain ⟨utcStart, utcFinish⟩ := switches_in_year spaced still other
    have readmeStart : newYear other ≤ startAt readme (startShift rule offsetMins) other ∧
        startAt readme (startShift rule offsetMins) other < newYear (other + 1) :=
      (switches_in_year readmeSpaced (startShift_small accepted) other).1
    have readmeFinish : newYear other ≤ finishAt readme (finishShift rule offsetMins) other ∧
        finishAt readme (finishShift rule offsetMins) other < newYear (other + 1) :=
      (switches_in_year readmeSpaced (finishShift_small accepted) other).2
    have inOther : newYear other ≤ instant ∧ instant < newYear (other + 1) := by
      rcases between with (⟨low, high⟩ | ⟨low, high⟩) | ⟨low, high⟩ | ⟨low, high⟩ <;> omega
    have notLater := le_of_shared newYear_strictMono inOther.1 notOver
    have notEarlier := le_of_shared newYear_strictMono begun inOther.2
    obtain rfl : other = year := by omega
    exact between
  · exact fun between => ⟨year, between⟩

end

/-- **When the code agrees with the wall clock.** For every rule, every
accepted offset and every instant from 1970 on, `time_is_dst` is 1 exactly in
the README's daylight periods if and only if the instant does not lie between
the UTC reading and the local reading of a switch. -/
theorem time_is_dst_agrees_iff_not_between_readings (config : FlashConfig) (utc readme : Switches)
    (utcListed : utcTable config.dstRule = some utc)
    (readmeListed : readmeTable config.dstRule = some readme)
    (accepted : OffsetAccepted config.tzOffsetMins) (instant : Int) (epoch : 0 ≤ instant) :
    (timeIsDst instant config = 1 ↔
        InDaylightPeriod config.dstRule readme config.tzOffsetMins instant) ↔
      ¬ BetweenReadings config.dstRule utc readme config.tzOffsetMins instant := by
  obtain ⟨_, begun, notOver⟩ := gmtimeYear_spec epoch
  rw [timeIsDst_eq_one_iff utcListed epoch, inDaylightPeriod_iff readmeListed accepted begun notOver,
    betweenReadings_iff utcListed readmeListed accepted begun notOver]
  obtain ⟨sameSide, startClose, finishClose⟩ := tables_close utcListed readmeListed
  have startSmall : SmallShift (startShift config.dstRule config.tzOffsetMins) :=
    startShift_small accepted
  have finishSmall : SmallShift (finishShift config.dstRule config.tzOffsetMins) :=
    finishShift_small accepted
  have apart := (utcTable_spaced utcListed (gmtimeYear instant + 1900)).2.1
  have startNear := startClose (gmtimeYear instant + 1900)
  have finishNear := finishClose (gmtimeYear instant + 1900)
  simp only [startAt, finishAt, Between, SmallShift, sameSide, Int.add_zero] at *
  generalize gmtimeYear instant + 1900 = year at *
  cases south : utc.southern <;>
    simp only [Switches.first, Switches.second, south, Bool.false_eq_true, if_false, if_true,
      margin] at apart ⊢ <;> omega

/-- New York: the North American rule, five hours behind UTC. -/
def newYork : FlashConfig := { FlashConfig.zero with dstRule := .na, tzOffsetMins := -300 }

theorem new_york_agreement :
    ∃ utc readme, utcTable newYork.dstRule = some utc ∧
      readmeTable newYork.dstRule = some readme ∧
      ((timeIsDst 1720000000 newYork = 1 ↔
          InDaylightPeriod newYork.dstRule readme newYork.tzOffsetMins 1720000000) ↔
        ¬ BetweenReadings newYork.dstRule utc readme newYork.tzOffsetMins 1720000000) :=
  ⟨_, _, rfl, rfl, time_is_dst_agrees_iff_not_between_readings newYork _ _ rfl rfl
    ⟨by decide, by decide⟩ 1720000000 (by decide)⟩

/-- At 02:00 UTC on the second Sunday of March 2024 New York's clocks show
21:00 of the day before, five hours before they go forward; the code already
adds the hour. -/
theorem new_york_goes_forward_early :
    ∃ readme, readmeTable newYork.dstRule = some readme ∧ timeIsDst 1710036000 newYork = 1 ∧
      ¬ InDaylightPeriod newYork.dstRule readme newYork.tzOffsetMins 1710036000 := by
  refine ⟨_, rfl, by decide, ?_⟩
  have begun : newYear 2024 ≤ 1710036000 := by decide
  have notOver : 1710036000 < newYear (2024 + 1) := by decide
  rw [inDaylightPeriod_iff rfl ⟨by decide, by decide⟩ begun notOver]
  decide

end PicowDayClock.WallClockPeriods
