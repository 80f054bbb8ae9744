import PicowDayClock.Firmware.Config
import PicowDayClock.Library.Gregorian

/-! The daylight-saving part of `clock.c`. C's `/` and `%` truncate, so they
are `Int.tdiv` and `Int.tmod` here. `gmtime_r` and `timegm` are the proleptic
Gregorian calendar; only the fields this firmware reads or writes are kept. -/
namespace PicowDayClock.Daylight
open Gregorian

/-- `struct tm`, with the month counted from 0 and the year from 1900. -/
structure Tm where
  tmYear : Int := 0
  tmMon : Nat := 0
  tmMday : Int := 0
  tmHour : Int := 0
  tmMin : Int := 0
  tmSec : Int := 0

/-- `tm_to_epoch`: the broken-down time read as UTC. A day of the month outside
the month counts on into its neighbours. -/
def tmToEpoch (tm : Tm) : Int :=
  86400 * dayNumber (tm.tmYear + 1900) (tm.tmMon + 1) tm.tmMday +
    3600 * tm.tmHour + 60 * tm.tmMin + tm.tmSec

/-- `gmtime_r(&utc_now)->tm_year`. -/
def gmtimeYear (utcNow : Int) : Int := yearOf (utcNow / 86400) - 1900

/-- `day_of_week`. -/
def dayOfWeek (day month year : Int) : Int :=
  let shifted : Bool := month < 3
  let month := if shifted then month + 12 else month
  let year := if shifted then year - 1 else year
  let k := year.tmod 100
  let j := year.tdiv 100
  let h := (day + (13 * (month + 1)).tdiv 5 + k + k.tdiv 4 + j.tdiv 4 + 5 * j).tmod 7
  (h + 6).tmod 7

/-- The array `days_in_month` of `nth_weekday`, with February corrected. -/
def daysInMonth (month : Nat) (year : Int) : Int :=
  let february : Int :=
    if year.tmod 4 = 0 ∧ (year.tmod 100 ≠ 0 ∨ year.tmod 400 = 0) then 29 else 28
  [0, 31, february, 31, 30, 31, 30, 31, 31, 30, 31, 30, 31].getD month 0

/-- `nth_weekday`: the `n`-th target weekday of a month, or the last for `n ≤ 0`. -/
def nthWeekday (n targetWday : Int) (month : Nat) (year : Int) : Int :=
  let dowFirst := dayOfWeek 1 month year
  let firstOccurrence := 1 + (targetWday - dowFirst + 7).tmod 7
  if n > 0 then firstOccurrence + (n - 1) * 7
  else
    let last := firstOccurrence + 28
    if last > daysInMonth month year then last - 7 else last

/-- `get_dst_bounds`: the start and the end of the period in a year. A rule
outside the enumeration matches no case and leaves both times zeroed. -/
def getDstBounds (rule : DstRule) (year : Int) : Int × Int :=
  let zeroed : Tm := { tmYear := year - 1900 }
  match rule with
  | .na =>
    (tmToEpoch { zeroed with tmMon := 2, tmMday := nthWeekday 2 0 3 year, tmHour := 2 },
      tmToEpoch { zeroed with tmMon := 10, tmMday := nthWeekday 1 0 11 year, tmHour := 2 })
  | .eu =>
    (tmToEpoch { zeroed with tmMon := 2, tmMday := nthWeekday (-1) 0 3 year, tmHour := 1 },
      tmToEpoch { zeroed with tmMon := 9, tmMday := nthWeekday (-1) 0 10 year, tmHour := 1 })
  | .au =>
    (tmToEpoch { zeroed with tmMon := 9, tmMday := nthWeekday 1 0 10 year, tmHour := 2 },
      tmToEpoch { zeroed with tmMon := 3, tmMday := nthWeekday 1 0 4 year, tmHour := 3 })
  | .nz =>
    (tmToEpoch { zeroed with tmMon := 8, tmMday := nthWeekday (-1) 0 9 year, tmHour := 2 },
      tmToEpoch { zeroed with tmMon := 3, tmMday := nthWeekday 1 0 4 year, tmHour := 3 })
  | .cl =>
    (tmToEpoch { zeroed with
        tmMon := 8, tmMday := nthWeekday 1 6 9 year, tmHour := 23, tmMin := 59 },
      tmToEpoch { zeroed with
        tmMon := 3, tmMday := nthWeekday 1 6 4 year, tmHour := 23, tmMin := 59 })
  | .il =>
    (tmToEpoch { zeroed with tmMon := 2, tmMday := nthWeekday (-1) 0 3 year - 2, tmHour := 2 },
      tmToEpoch { zeroed with tmMon := 9, tmMday := nthWeekday (-1) 0 10 year, tmHour := 2 })
  | .none => (0, 0)
  | .other _ => (tmToEpoch zeroed, tmToEpoch zeroed)

/-- `time_is_dst`, a C truth value. -/
def timeIsDst (utcNow : Int) (config : FlashConfig) : Int :=
  if config.dstRule = .none then 0
  else
    let year := gmtimeYear utcNow + 1900
    let (startTime, endTime) := getDstBounds config.dstRule year
    if startTime < endTime then
      if utcNow ≥ startTime ∧ utcNow < endTime then 1 else 0
    else
      if utcNow ≥ startTime ∨ utcNow < endTime then 1 else 0

end PicowDayClock.Daylight
