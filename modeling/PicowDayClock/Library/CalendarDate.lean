import PicowDayClock.Library.Gregorian

/-! The dates of the proleptic Gregorian calendar one by one. Each date has a
day number and each number is that of one date, the next date having the next
number; and the days of a month that fall on one weekday. -/
namespace PicowDayClock.Gregorian

/-! ## Years and their months -/

/-- A year is over before a later one begins. -/
theorem daysBeforeYear_next {year later : Int} (before : year < later) :
    daysBeforeYear (year + 1) ≤ daysBeforeYear later := by
  rcases (show year + 1 = later ∨ year + 1 < later by omega) with rfl | apart
  · exact Int.le_refl _
  · have := daysBeforeYear_lt apart
    omega

theorem daysBeforeMonth_first (year : Int) : daysBeforeMonth year 1 = 0 := rfl

/-- The months of a year are the year. -/
theorem daysBeforeMonth_year (year : Int) : daysBeforeMonth year (12 + 1) = yearLength year := by
  simp only [daysBeforeMonth, monthLength, yearLength]
  split <;> rfl

theorem daysBeforeMonth_mono (year : Int) {month later : Nat} (positive : 1 ≤ month)
    (before : month ≤ later) : daysBeforeMonth year month ≤ daysBeforeMonth year later := by
  induction later, before using Nat.le_induction with
  | base => exact Int.le_refl _
  | succ later after ih =>
    have length := monthLength_bounds year later
    rw [daysBeforeMonth_succ year (Nat.le_trans positive after)]
    omega

/-- The last of the first `months` months that has begun by a day of the year. -/
def monthOf (year rest : Int) : Nat → Nat
  | 0 => 0
  | month + 1 =>
    if daysBeforeMonth year (month + 1) ≤ rest then month + 1 else monthOf year rest month

theorem monthOf_spec {year rest : Int} {months : Nat} (begun : 0 ≤ rest) (positive : 1 ≤ months)
    (ends : rest < daysBeforeMonth year (months + 1)) :
    (1 ≤ monthOf year rest months ∧ monthOf year rest months ≤ months) ∧
      daysBeforeMonth year (monthOf year rest months) ≤ rest ∧
      rest < daysBeforeMonth year (monthOf year rest months + 1) := by
  induction months, positive using Nat.le_induction with
  | base =>
    rw [monthOf, if_pos (by rwa [daysBeforeMonth_first])]
    exact ⟨⟨Nat.le_refl 1, Nat.le_refl 1⟩, begun, ends⟩
  | succ months positive ih =>
    rw [monthOf]
    by_cases here : daysBeforeMonth year (months + 1) ≤ rest
    · rw [if_pos here]
      exact ⟨⟨Nat.succ_pos months, Nat.le_refl _⟩, here, ends⟩
    · rw [if_neg here]
      obtain ⟨⟨low, high⟩, spans⟩ := ih (Int.not_le.mp here)
      exact ⟨⟨low, Nat.le_succ_of_le high⟩, spans⟩

/-- Spans one behind the other, of which two hold the same place, are one. -/
theorem same_span [LinearOrder Index] (starts : Index → Int) (step : Index → Index)
    (ordered : ∀ first later, first < later → starts (step first) ≤ starts later)
    (low : starts first ≤ place) (high : place < starts (step first))
    (otherLow : starts second ≤ place) (otherHigh : place < starts (step second)) :
    first = second := by
  rcases lt_trichotomy first second with before | same | after
  · have := ordered first second before
    omega
  · exact same
  · have := ordered second first after
    omega

/-! ## Dates -/

/-- A date that exists. -/
@[ext] structure Date where
  year : Int
  month : Nat
  day : Int
  month_valid : 1 ≤ month ∧ month ≤ 12
  day_valid : 1 ≤ day ∧ day ≤ monthLength year month
  deriving DecidableEq

namespace Date

theorem first_valid (year : Int) (month : Nat) : 1 ≤ (1 : Int) ∧ 1 ≤ monthLength year month := by
  have length := monthLength_bounds year month
  omega

/-- Days from 1970-01-01 to the date. -/
def number (date : Date) : Int := dayNumber date.year date.month date.day

/-- The date after a date: in the same month, the first of the next one, or the
first of the next year. -/
def next (date : Date) : Date :=
  if inside : date.day < monthLength date.year date.month then
    { date with
      day := date.day + 1
      day_valid := ⟨Int.le_add_one date.day_valid.1, inside⟩ }
  else if more : date.month < 12 then
    { date with
      month := date.month + 1
      day := 1
      month_valid := ⟨Nat.succ_pos date.month, more⟩
      day_valid := first_valid date.year (date.month + 1) }
  else
    { year := date.year + 1
      month := 1
      day := 1
      month_valid := ⟨Nat.le_refl 1, Nat.succ_pos 11⟩
      day_valid := first_valid (date.year + 1) 1 }

/-- The number of a date counts the dates before it. -/
theorem number_next (date : Date) : date.next.number = date.number + 1 := by
  have positive := date.month_valid.1
  have last := date.day_valid.2
  unfold next
  split
  · exact dayNumber_add date.year date.month date.day 1
  · rename_i beyond
    split
    · have months := daysBeforeMonth_succ date.year positive
      simp only [number, dayNumber]
      omega
    · have december : date.month = 12 := by
        have := date.month_valid.2
        omega
      have months := daysBeforeMonth_succ date.year positive
      have years := daysBeforeYear_succ date.year
      have whole := daysBeforeMonth_year date.year
      rw [december] at months last beyond
      simp only [number, dayNumber, december, daysBeforeMonth_first]
      omega

/-- The date with a number. -/
def ofNumber (days : Int) : Date :=
  let year := yearOf days
  let rest := days - daysBeforeYear year
  let month := monthOf year rest 12
  have spec : (1 ≤ month ∧ month ≤ 12) ∧ daysBeforeMonth year month ≤ rest ∧
      rest < daysBeforeMonth year (month + 1) := by
    have years := daysBeforeYear_succ year
    obtain ⟨low, high⟩ : daysBeforeYear year ≤ days ∧ days < daysBeforeYear (year + 1) :=
      yearOf_spec days
    refine monthOf_spec (by omega) (by decide) ?_
    rw [daysBeforeMonth_year year]
    omega
  { year := year
    month := month
    day := rest - daysBeforeMonth year month + 1
    month_valid := spec.1
    day_valid := by
      have months := daysBeforeMonth_succ year spec.1.1
      omega }

theorem number_ofNumber (days : Int) : (ofNumber days).number = days := by
  simp only [number, ofNumber, dayNumber]
  omega

/-- A date lies in its month, and the month in its year. -/
theorem number_bounds (date : Date) :
    (daysBeforeYear date.year ≤ date.number ∧ date.number < daysBeforeYear (date.year + 1)) ∧
      daysBeforeMonth date.year date.month ≤ date.number - daysBeforeYear date.year ∧
      date.number - daysBeforeYear date.year < daysBeforeMonth date.year (date.month + 1) := by
  have months := daysBeforeMonth_succ date.year date.month_valid.1
  have low := daysBeforeMonth_mono date.year (Nat.le_refl 1) date.month_valid.1
  have high := daysBeforeMonth_mono date.year (Nat.le_add_left 1 date.month)
    (Nat.add_le_add_right date.month_valid.2 1)
  have years := daysBeforeYear_succ date.year
  obtain ⟨first, last⟩ := date.day_valid
  rw [daysBeforeMonth_year] at high
  rw [daysBeforeMonth_first] at low
  simp only [number, dayNumber]
  omega

theorem number_injective : Function.Injective number := by
  intro date other same
  obtain ⟨⟨low, high⟩, monthLow, monthHigh⟩ := date.number_bounds
  obtain ⟨⟨otherLow, otherHigh⟩, otherMonthLow, otherMonthHigh⟩ := other.number_bounds
  rw [← same] at otherLow otherHigh otherMonthLow otherMonthHigh
  have years : date.year = other.year :=
    same_span daysBeforeYear (· + 1) (fun _ _ => daysBeforeYear_next) low high otherLow otherHigh
  rw [← years] at otherMonthLow otherMonthHigh
  have months : date.month = other.month :=
    same_span (daysBeforeMonth date.year) (· + 1)
      (fun month _ before => daysBeforeMonth_mono date.year (Nat.le_add_left 1 month) before)
      monthLow monthHigh otherMonthLow otherMonthHigh
  refine Date.ext years months ?_
  simp only [number, dayNumber, ← years, ← months] at same
  omega

/-- So the date of a date's number is that date. -/
theorem ofNumber_number (date : Date) : ofNumber date.number = date :=
  number_injective (number_ofNumber date.number)

end Date

/-! ## Occurrences of a weekday -/

/-- The days of a month that fall on a weekday. -/
noncomputable def occurrences (target year : Int) (month : Nat) : Finset Int :=
  (Finset.Icc 1 (monthLength year month)).filter fun day =>
    weekday (dayNumber year month day) = target

theorem mem_occurrences {target year day : Int} {month : Nat} :
    day ∈ occurrences target year month ↔
      (1 ≤ day ∧ day ≤ monthLength year month) ∧ weekday (dayNumber year month day) = target := by
  rw [occurrences, Finset.mem_filter, Finset.mem_Icc]

theorem le_lastWeekdayOf {target year day : Int} {month : Nat}
    (falls : day ∈ occurrences target year month) : day ≤ lastWeekdayOf target year month := by
  obtain ⟨⟨first, last⟩, falls⟩ := mem_occurrences.mp falls
  simp only [lastWeekdayOf, weekday, dayNumber] at *
  omega

section occurrences

variable {target : Int} (low : 0 ≤ target) (high : target < 7) (year : Int) (month : Nat)
include low high

/-- Every month is long enough for four occurrences. -/
theorem nthWeekdayOf_mem {count : Int} (first : 1 ≤ count) (fourth : count ≤ 4) :
    nthWeekdayOf count target year month ∈ occurrences target year month := by
  have place := nthWeekdayOf_bounds count target year month
  have length := monthLength_bounds year month
  exact mem_occurrences.mpr ⟨by omega, nthWeekdayOf_weekday count year month low high⟩

/-- The occurrences before one of the first four are those with a lower count. -/
theorem earlier_occurrences {count : Nat} (fourth : count < 4) :
    (occurrences target year month).filter (· < nthWeekdayOf (count + 1) target year month) =
      (Finset.range count).image fun before : Nat =>
        nthWeekdayOf (before + 1) target year month := by
  have length := monthLength_bounds year month
  ext day
  simp only [Finset.mem_filter, mem_occurrences, Finset.mem_image, Finset.mem_range]
  constructor
  · rintro ⟨⟨⟨first, last⟩, falls⟩, earlier⟩
    -- the day lies whole weeks after the first occurrence
    refine ⟨((day - 1) / 7).toNat, ?_, ?_⟩
    · simp only [nthWeekdayOf, weekday, dayNumber] at *
      omega
    · simp only [nthWeekdayOf, weekday, dayNumber] at *
      omega
  · rintro ⟨before, fewer, rfl⟩
    have place := nthWeekdayOf_bounds (before + 1) target year month
    refine ⟨⟨by omega, nthWeekdayOf_weekday _ year month low high⟩, ?_⟩
    simp only [nthWeekdayOf]
    omega

theorem earlier_occurrences_card {count : Nat} (fourth : count < 4) :
    ((occurrences target year month).filter
      (· < nthWeekdayOf (count + 1) target year month)).card = count := by
  have injective : Function.Injective fun before : Nat =>
      nthWeekdayOf (before + 1) target year month := by
    intro before other same
    simp only [nthWeekdayOf] at same
    omega
  rw [earlier_occurrences low high year month fourth, Finset.card_image_of_injective _ injective,
    Finset.card_range]

theorem lastWeekdayOf_mem :
    lastWeekdayOf target year month ∈ occurrences target year month := by
  have place := lastWeekdayOf_bounds target year month
  have length := monthLength_bounds year month
  exact mem_occurrences.mpr ⟨by omega, lastWeekdayOf_weekday year month low high⟩

end occurrences
end PicowDayClock.Gregorian
