import Mathlib.Order.Interval.Set.Monotone
import Mathlib.Order.SuccPred.Basic
import Mathlib.Algebra.Order.Ring.Int

/-! A clock that is put forward at the start of each of many periods and back at
its end. It jumps nowhere else, leaves out the readings right behind a start, and
gives those right behind an end twice. -/
namespace PicowDayClock.ShiftedClock

/-- Periods one behind the other. They are longer than the clock is put forward by,
and so are the times between them. -/
structure Periods (start finish : Int → Int) (shift : Int) : Prop where
  positive : 0 < shift
  long : ∀ index, start index + shift ≤ finish index
  apart : ∀ index, finish index + shift ≤ start (index + 1)

/-- The instant lies in one of the periods. -/
def On (start finish : Int → Int) (instant : Int) : Prop :=
  ∃ index, start index ≤ instant ∧ instant < finish index

variable {start finish : Int → Int} {shift instant : Int}

namespace Periods

theorem weaken (periods : Periods start finish shift) : Periods start finish 1 where
  positive := by decide
  long index := by
    have positive := periods.positive
    have long := periods.long index
    omega
  apart index := by
    have positive := periods.positive
    have apart := periods.apart index
    omega

/-- All that belongs to a period comes before the next one and those behind it. -/
theorem before (periods : Periods start finish shift) {index later : Int} (order : index < later) :
    finish index + shift ≤ start later := by
  have positive := periods.positive
  induction later, order using Int.leInduction with
  | base => exact periods.apart index
  | succ later _ ih =>
    have long := periods.long later
    have apart := periods.apart later
    omega

/-- Right behind a start the clock has been put forward, and had not been before. -/
theorem started_iff (periods : Periods start finish shift) :
    On start finish instant ∧ ¬ On start finish (instant - shift) ↔
      ∃ index, start index ≤ instant ∧ instant < start index + shift := by
  have positive := periods.positive
  constructor
  · rintro ⟨⟨index, begun, inside⟩, out⟩
    refine ⟨index, begun, ?_⟩
    by_contra late
    exact out ⟨index, by omega, by omega⟩
  · rintro ⟨index, begun, early⟩
    have long := periods.long index
    refine ⟨⟨index, begun, by omega⟩, ?_⟩
    rintro ⟨other, otherBegun, otherInside⟩
    rcases Int.lt_trichotomy other index with earlier | rfl | later
    · have := periods.before earlier
      omega
    · omega
    · have := periods.before later
      omega

/-- Right behind an end it has been put back, and had been forward before. -/
theorem finished_iff (periods : Periods start finish shift) :
    ¬ On start finish instant ∧ On start finish (instant - shift) ↔
      ∃ index, finish index ≤ instant ∧ instant < finish index + shift := by
  have positive := periods.positive
  constructor
  · rintro ⟨out, index, begun, inside⟩
    refine ⟨index, ?_, by omega⟩
    by_contra early
    exact out ⟨index, by omega, by omega⟩
  · rintro ⟨index, ended, early⟩
    have long := periods.long index
    refine ⟨?_, index, by omega, by omega⟩
    rintro ⟨other, otherBegun, otherInside⟩
    rcases Int.lt_trichotomy other index with earlier | rfl | later
    · have := periods.before earlier
      have := periods.long index
      omega
    · omega
    · have := periods.before later
      omega

end Periods

/-! ## The clock -/

/-- What the clock reads at an instant. -/
def Reads (start finish : Int → Int) (shift instant reading : Int) : Prop :=
  On start finish instant ∧ reading = instant + shift ∨
    ¬ On start finish instant ∧ reading = instant

theorem Reads.unique {reading other : Int} (reads : Reads start finish shift instant reading)
    (also : Reads start finish shift instant other) : reading = other := by
  rcases reads with ⟨on, rfl⟩ | ⟨off, rfl⟩ <;> rcases also with ⟨still, rfl⟩ | ⟨out, rfl⟩
  · rfl
  · exact absurd on out
  · exact absurd still off
  · rfl

/-- Only two instants can read so, one inside of a period and one outside. -/
theorem reads_iff {reading : Int} :
    Reads start finish shift instant reading ↔
      On start finish (reading - shift) ∧ instant = reading - shift ∨
        ¬ On start finish reading ∧ instant = reading := by
  unfold Reads
  constructor
  · rintro (⟨on, rfl⟩ | ⟨off, rfl⟩)
    · rw [Int.add_sub_cancel]
      exact .inl ⟨on, rfl⟩
    · exact .inr ⟨off, rfl⟩
  · rintro (⟨on, rfl⟩ | ⟨off, rfl⟩)
    · exact .inl ⟨on, (Int.sub_add_cancel _ _).symm⟩
    · exact .inr ⟨off, rfl⟩

namespace Periods

variable {reading next : Int} (periods : Periods start finish shift)
include periods

/-- Readings that are left out. -/
theorem skips (left_ : ∃ index, start index ≤ reading ∧ reading < start index + shift) :
    ¬ Reads start finish shift instant reading := by
  obtain ⟨on, off⟩ := periods.started_iff.mpr left_
  rw [reads_iff]
  rintro (⟨before, -⟩ | ⟨out, -⟩)
  · exact off before
  · exact out on

/-- Readings that come twice. -/
theorem repeats (twice : ∃ index, finish index ≤ reading ∧ reading < finish index + shift) :
    Reads start finish shift instant reading ↔
      instant = reading - shift ∨ instant = reading := by
  obtain ⟨off, on⟩ := periods.finished_iff.mpr twice
  rw [reads_iff]
  simp only [on, off, not_false_eq_true, true_and]

/-- All others come once. -/
theorem reads_once (kept : ¬ ∃ index, start index ≤ reading ∧ reading < start index + shift)
    (single : ¬ ∃ index, finish index ≤ reading ∧ reading < finish index + shift) :
    ∃ once, ∀ instant, Reads start finish shift instant reading ↔ instant = once := by
  rw [← periods.started_iff] at kept
  rw [← periods.finished_iff] at single
  by_cases on : On start finish reading
  · have before : On start finish (reading - shift) := by
      by_contra off
      exact kept ⟨on, off⟩
    refine ⟨reading - shift, fun instant => ?_⟩
    rw [reads_iff]
    simp only [on, before, not_true_eq_false, false_and, true_and, or_false]
  · have before : ¬ On start finish (reading - shift) := fun forward => single ⟨on, forward⟩
    refine ⟨reading, fun instant => ?_⟩
    rw [reads_iff]
    simp only [on, before, not_false_eq_true, false_and, true_and, false_or]

/-- From one instant to the next it goes on by one, but for the jump at a start and
the one at an end. -/
theorem advances (now : Reads start finish shift instant reading)
    (then_ : Reads start finish shift (instant + 1) next) :
    ((∃ index, instant + 1 = start index) ∧ next = reading + 1 + shift) ∨
      ((∃ index, instant + 1 = finish index) ∧ next = reading + 1 - shift) ∨
      (¬ ∃ index, instant + 1 = start index) ∧ (¬ ∃ index, instant + 1 = finish index) ∧
        next = reading + 1 := by
  have begins := @started_iff start finish 1 (instant + 1) periods.weaken
  have ends := @finished_iff start finish 1 (instant + 1) periods.weaken
  have at_ : ∀ switch : Int → Int, (∃ index, switch index ≤ instant + 1 ∧
      instant + 1 < switch index + 1) ↔ ∃ index, instant + 1 = switch index := by
    intro switch
    constructor
    · rintro ⟨index, low, high⟩
      exact ⟨index, by omega⟩
    · rintro ⟨index, same⟩
      exact ⟨index, by omega, by omega⟩
  rw [at_, Int.add_sub_cancel] at begins ends
  rcases now with ⟨on, rfl⟩ | ⟨off, rfl⟩ <;> rcases then_ with ⟨still, rfl⟩ | ⟨out, rfl⟩
  · refine .inr (.inr ⟨fun jump => (begins.mpr jump).2 on, fun jump => (ends.mpr jump).1 still, ?_⟩)
    omega
  · exact .inr (.inl ⟨ends.mp ⟨out, on⟩, by omega⟩)
  · exact .inl ⟨begins.mp ⟨still, off⟩, by omega⟩
  · exact .inr (.inr ⟨fun jump => out (begins.mpr jump).1, fun jump => off (ends.mpr jump).2, rfl⟩)

end Periods

end PicowDayClock.ShiftedClock
