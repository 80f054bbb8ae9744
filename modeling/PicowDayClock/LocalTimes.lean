import PicowDayClock.DaylightPeriods
import PicowDayClock.DisplayRefresh
import PicowDayClock.Library.ShiftedClock

/-! The local time as a function of the instant: where it jumps, which readings it
leaves out and which it gives twice; and the text of it, which tells those apart. -/
namespace PicowDayClock.LocalTimes
open ClockTask Daylight DaylightPeriods DaylightRules YearlyPeriods
open DisplayRefresh (twoDigits)
open ShiftedClock (On Periods Reads reads_iff)

/-! ## The periods of a rule -/

/-- The bounds of a rule's periods, each by the year it starts in. -/
def startOf (switches : Switches) (year : Int) : Int := switches.start.timestamp year

def finishOf (switches : Switches) (year : Int) : Int :=
  switches.finish.timestamp (if switches.southern then year + 1 else year)

theorem rule_periods {switches : Switches} (listed : utcTable rule = some switches) :
    Periods (startOf switches) (finishOf switches) 3600 := by
  have spaced := utcTable_spaced listed
  have layout : ∀ year, startOf switches year + margin ≤ finishOf switches year ∧
      finishOf switches year + margin ≤ startOf switches (year + 1) := by
    intro year
    have this_ := spaced year
    have next := spaced (year + 1)
    have month : margin = 2592000 := rfl
    simp only [startOf, finishOf]
    cases south : switches.southern with
    | false =>
      simp only [Switches.first, Switches.second, south, Bool.false_eq_true, if_false] at *
      omega
    | true =>
      simp only [Switches.first, Switches.second, south, if_true] at *
      omega
  have month : margin = 2592000 := rfl
  constructor
  · decide
  · intro year
    have := (layout year).1
    omega
  · intro year
    have := (layout year).2
    omega

theorem timeIsDst_ne_zero : timeIsDst instant config ≠ 0 ↔ timeIsDst instant config = 1 := by
  have truth : timeIsDst instant config = 0 ∨ timeIsDst instant config = 1 := by
    unfold timeIsDst
    dsimp only
    split_ifs <;> simp
  omega

/-- `time_is_dst` is set in these periods. -/
theorem timeIsDst_on {switches : Switches} {config : FlashConfig}
    (listed : utcTable config.dstRule = some switches) {instant : Int} (epoch : 0 ≤ instant) :
    timeIsDst instant config ≠ 0 ↔ On (startOf switches) (finishOf switches) instant := by
  obtain ⟨_, begun, notOver⟩ := gmtimeYear_spec epoch
  have spaced := utcTable_spaced listed
  have still : SmallShift 0 := by simp [SmallShift]
  rw [timeIsDst_ne_zero, timeIsDst_eq_one_iff listed epoch]
  unfold On startOf finishOf
  cases south : switches.southern with
  | false =>
    have periods := (northern_layout spaced south still still).mem_iff begun notOver
    simp only [startAt, finishAt, Int.add_zero] at periods
    simpa using periods.symm
  | true =>
    have periods := (southern_layout spaced south still still).mem_iff begun notOver
    simp only [startAt, finishAt, Int.add_zero] at periods
    simpa using periods.symm

/-- What `calculate_local_time` gives is the clock of the time zone, put forward by
an hour in the periods. -/
theorem calculateLocalTime_reads {switches : Switches} {config : FlashConfig}
    (listed : utcTable config.dstRule = some switches) {instant : Int} (epoch : 0 ≤ instant) :
    Reads (startOf switches) (finishOf switches) 3600 instant
      (calculateLocalTime instant config - 60 * config.tzOffsetMins) := by
  have set := timeIsDst_on listed epoch
  unfold calculateLocalTime Reads
  dsimp only
  by_cases dst : timeIsDst instant config ≠ 0
  · rw [if_pos dst]
    exact .inl ⟨set.mp dst, by omega⟩
  · rw [if_neg dst]
    exact .inr ⟨fun on => dst (set.mpr on), by omega⟩

/-! ## Readings -/

/-- From one second to the next the local time goes on by a second, except at a
start, where it goes on by an hour more, and at an end, where it goes back by one
less. The readings of an hour behind each start never come, those of an hour behind
each end come at two instants an hour apart, and all others come once. -/
theorem local_times_skip_and_repeat {switches : Switches} {config : FlashConfig}
    (listed : utcTable config.dstRule = some switches) :
    (∀ instant, 0 ≤ instant →
      ((∃ year, instant + 1 = startOf switches year) ∧
        calculateLocalTime (instant + 1) config = calculateLocalTime instant config + 3601) ∨
      ((∃ year, instant + 1 = finishOf switches year) ∧
        calculateLocalTime (instant + 1) config = calculateLocalTime instant config - 3599) ∨
      (¬ ∃ year, instant + 1 = startOf switches year) ∧
        (¬ ∃ year, instant + 1 = finishOf switches year) ∧
        calculateLocalTime (instant + 1) config = calculateLocalTime instant config + 1) ∧
    ∀ shown standard, shown = standard + 60 * config.tzOffsetMins → 3600 ≤ standard →
      ((∃ year, startOf switches year ≤ standard ∧ standard < startOf switches year + 3600) →
        ∀ instant, 0 ≤ instant → calculateLocalTime instant config ≠ shown) ∧
      ((∃ year, finishOf switches year ≤ standard ∧
          standard < finishOf switches year + 3600) →
        ∀ instant, 0 ≤ instant → (calculateLocalTime instant config = shown ↔
          instant = standard - 3600 ∨ instant = standard)) ∧
      ((¬ ∃ year, startOf switches year ≤ standard ∧ standard < startOf switches year + 3600) →
        (¬ ∃ year, finishOf switches year ≤ standard ∧
          standard < finishOf switches year + 3600) →
        ∃ once, 0 ≤ once ∧ ∀ instant, 0 ≤ instant →
          (calculateLocalTime instant config = shown ↔ instant = once)) := by
  have periods := rule_periods listed
  constructor
  · intro instant epoch
    have now := calculateLocalTime_reads listed epoch
    have next := calculateLocalTime_reads listed (Int.le_add_one epoch)
    rcases periods.advances now next with
      ⟨at_, jump⟩ | ⟨at_, jump⟩ | ⟨noStart, noEnd, plain⟩
    · exact .inl ⟨at_, by omega⟩
    · exact .inr (.inl ⟨at_, by omega⟩)
    · exact .inr (.inr ⟨noStart, noEnd, by omega⟩)
  · rintro shown standard rfl late
    have shows_ : ∀ instant, 0 ≤ instant →
        (calculateLocalTime instant config = standard + 60 * config.tzOffsetMins ↔
          Reads (startOf switches) (finishOf switches) 3600 instant standard) := by
      intro instant epoch
      have reads := calculateLocalTime_reads listed epoch
      constructor
      · intro same
        rwa [same, Int.add_sub_cancel] at reads
      · intro other
        have same := reads.unique other
        omega
    refine ⟨fun left_ instant epoch same => ?_, fun twice instant epoch => ?_, fun kept single => ?_⟩
    · exact periods.skips left_ ((shows_ instant epoch).mp same)
    · rw [shows_ instant epoch, periods.repeats twice]
    · obtain ⟨once, only⟩ := periods.reads_once kept single
      have at_ := reads_iff.mp ((only once).mpr rfl)
      refine ⟨once, by omega, fun instant epoch => ?_⟩
      rw [shows_ instant epoch, only]

/-- In Central Europe 01:59:59 of 31 March 2024 is followed by 03:00:00, and the reading
02:30 of that day never comes. -/
theorem half_past_two_is_skipped :
    calculateLocalTime 1711846800 { FlashConfig.zero with dstRule := .eu, tzOffsetMins := 60 } =
        calculateLocalTime 1711846799
          { FlashConfig.zero with dstRule := .eu, tzOffsetMins := 60 } + 3601 ∧
      ¬ ∃ instant, 0 ≤ instant ∧
        calculateLocalTime instant { FlashConfig.zero with dstRule := .eu, tzOffsetMins := 60 } =
          1711852200 := by
  constructor
  · decide
  · rintro ⟨instant, epoch, same⟩
    refine ((local_times_skip_and_repeat rfl).2 1711852200 1711848600 rfl (by decide)).1
      ⟨2024, ?_⟩ instant epoch same
    decide

/-! ## The text -/

/-- `gmtime_r(&t)->tm_sec`. -/
def gmtimeSec (t : Int) : Nat := (t % 60).toNat

/-- `%02d` of a number below 100. -/
def padded (number : Nat) : Bytes := [digitChar (number / 10), digitChar (number % 10)]

/-- The size of the buffer of `time_as_string`. -/
def timeBufferSize : Nat := 32

/-- `time_as_string`: as much of the text as the buffer takes with its terminator. -/
def timeAsString (t : Int) (config : FlashConfig) : Bytes :=
  let localEpoch := calculateLocalTime t config
  let suffix := if timeIsDst t config ≠ 0 then ascii " (DST)" else []
  (padded (gmtimeHour localEpoch) ++ ascii ":" ++ padded (gmtimeMin localEpoch) ++ ascii ":" ++
    padded (gmtimeSec localEpoch) ++ suffix).take (timeBufferSize - 1)

theorem secondOfDay_eq (t : Int) :
    t % 86400 = 3600 * gmtimeHour t + 60 * gmtimeMin t + gmtimeSec t := by
  unfold gmtimeHour gmtimeMin gmtimeSec
  omega

theorem padded_length (number : Nat) : (padded number).length = 2 := rfl

theorem padded_inj {number other : Nat} (small : number < 100) (otherSmall : other < 100)
    (same : padded number = padded other) : number = other := by
  have single : ∀ a < 10, ∀ b < 10, digitChar a = digitChar b → a = b := by decide
  simp only [padded, List.cons.injEq, and_true] at same
  have tens := single _ (by omega) _ (by omega) same.1
  have ones := single _ (by omega) _ (by omega) same.2
  omega

/-- The whole text fits. -/
theorem timeAsString_eq (t : Int) (config : FlashConfig) :
    timeAsString t config =
      padded (gmtimeHour (calculateLocalTime t config)) ++ (ascii ":" ++
        (padded (gmtimeMin (calculateLocalTime t config)) ++ (ascii ":" ++
          (padded (gmtimeSec (calculateLocalTime t config)) ++
            if timeIsDst t config ≠ 0 then ascii " (DST)" else [])))) := by
  unfold timeAsString
  dsimp only
  rw [List.take_of_length_le]
  · simp only [List.append_assoc]
  · have suffix : (if timeIsDst t config ≠ 0 then ascii " (DST)" else []).length ≤ 6 := by
      split <;> decide
    have colon : (ascii ":").length = 1 := rfl
    have size : timeBufferSize = 32 := rfl
    simp only [List.length_append, padded_length]
    omega

/-- Within a day two instants never have one text, not even those of the hour that
comes twice. -/
theorem time_as_string_tells_apart (config : FlashConfig) {t other : Int}
    (near : t < other + 86400 ∧ other < t + 86400) :
    timeAsString t config = timeAsString other config ↔ t = other := by
  constructor
  · intro same
    rw [timeAsString_eq, timeAsString_eq] at same
    have digits (number other : Nat) : (padded number).length = (padded other).length := rfl
    obtain ⟨hours, same⟩ := List.append_inj same (digits _ _)
    obtain ⟨minutes, same⟩ := List.append_inj (List.append_cancel_left same) (digits _ _)
    obtain ⟨seconds, suffix⟩ := List.append_inj (List.append_cancel_left same) (digits _ _)
    have hour : ∀ localTime, gmtimeHour localTime < 100 := by
      intro localTime
      unfold gmtimeHour
      omega
    have minute : ∀ localTime, gmtimeMin localTime < 100 := by
      intro localTime
      unfold gmtimeMin
      omega
    have second : ∀ localTime, gmtimeSec localTime < 100 := by
      intro localTime
      unfold gmtimeSec
      omega
    have sameHour := padded_inj (hour _) (hour _) hours
    have sameMinute := padded_inj (minute _) (minute _) minutes
    have sameSecond := padded_inj (second _) (second _) seconds
    have shift : calculateLocalTime t config - t = calculateLocalTime other config - other := by
      unfold calculateLocalTime
      dsimp only
      split at suffix <;> split at suffix <;> rename_i first second
      · rw [if_pos first, if_pos second]
        omega
      · cases suffix
      · cases suffix
      · rw [if_neg first, if_neg second]
        omega
    have sameTime : calculateLocalTime t config % 86400 =
        calculateLocalTime other config % 86400 := by
      rw [secondOfDay_eq, secondOfDay_eq, sameHour, sameMinute, sameSecond]
    omega
  · rintro rfl
    rfl

/-- The two instants of 3 November 2024 that read 02:30 in the North American rule. -/
theorem repeated_hour_is_told_apart :
    calculateLocalTime 1730597400 { FlashConfig.zero with dstRule := .na } =
        calculateLocalTime 1730601000 { FlashConfig.zero with dstRule := .na } ∧
      timeAsString 1730597400 { FlashConfig.zero with dstRule := .na } ≠
        timeAsString 1730601000 { FlashConfig.zero with dstRule := .na } := by
  refine ⟨by decide, fun same => ?_⟩
  have told := (time_as_string_tells_apart _ ⟨by decide, by decide⟩).mp same
  exact absurd told (by decide)

end PicowDayClock.LocalTimes
