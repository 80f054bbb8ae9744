import Mathlib

/-! Something that switches on once a year and off once a year, over any linear
order of instants. In the northern layout it goes on before it goes off in each
year; in the southern layout it goes off first, and the period it is on for
spans the new year. Either way, whether it is on at an instant is decided by
the two switches of that instant's own year. -/
namespace PicowDayClock.YearlyPeriods

variable {Instant : Type*} [LinearOrder Instant] {newYear start finish : Int → Instant}
variable {year : Int} {instant : Instant}

/-- On from some start, up to and not including the next finish. -/
def OnAt (start finish : Int → Instant) (instant : Instant) : Prop :=
  ∃ year, start year ≤ instant ∧ ∀ other, start year < finish other → instant < finish other

/-- Every year switches on and then off. -/
def Northern (newYear start finish : Int → Instant) : Prop :=
  ∀ year, newYear year ≤ start year ∧ start year < finish year ∧ finish year < newYear (year + 1)

/-- Every year switches off and then on. -/
def Southern (newYear start finish : Int → Instant) : Prop :=
  ∀ year, newYear year ≤ finish year ∧ finish year < start year ∧ start year < newYear (year + 1)

theorem Northern.newYear_strictMono (layout : Northern newYear start finish) :
    StrictMono newYear :=
  strictMono_int_of_lt_succ fun year =>
    (layout year).1.trans_lt ((layout year).2.1.trans (layout year).2.2)

theorem Southern.newYear_strictMono (layout : Southern newYear start finish) :
    StrictMono newYear :=
  strictMono_int_of_lt_succ fun year =>
    (layout year).1.trans_lt ((layout year).2.1.trans (layout year).2.2)

/-- Years that share an instant with a stretch of one year do not come before it. -/
theorem le_of_shared (mono : StrictMono newYear) {other : Int}
    (begun : newYear year ≤ instant) (notOver : instant < newYear (other + 1)) : year ≤ other := by
  have order : newYear year < newYear (other + 1) := begun.trans_lt notOver
  have := mono.lt_iff_lt.mp order
  omega

theorem Northern.mem_iff (layout : Northern newYear start finish)
    (begun : newYear year ≤ instant) (notOver : instant < newYear (year + 1)) :
    (∃ other, start other ≤ instant ∧ instant < finish other) ↔
      start year ≤ instant ∧ instant < finish year := by
  constructor
  · rintro ⟨other, started, unfinished⟩
    have mono := layout.newYear_strictMono
    have notLater : other ≤ year := le_of_shared mono ((layout other).1.trans started) notOver
    have notEarlier : year ≤ other := le_of_shared mono begun (unfinished.trans (layout other).2.2)
    obtain rfl : other = year := by omega
    exact ⟨started, unfinished⟩
  · exact fun inside => ⟨year, inside⟩

theorem Southern.mem_iff (layout : Southern newYear start finish)
    (begun : newYear year ≤ instant) (notOver : instant < newYear (year + 1)) :
    (∃ other, start other ≤ instant ∧ instant < finish (other + 1)) ↔
      start year ≤ instant ∨ instant < finish year := by
  have mono := layout.newYear_strictMono
  constructor
  · rintro ⟨other, started, unfinished⟩
    have startLow : newYear other ≤ start other := (layout other).1.trans (layout other).2.1.le
    have notLater : other ≤ year := le_of_shared mono (startLow.trans started) notOver
    have notEarlier : year ≤ other + 1 := le_of_shared mono begun
      (unfinished.trans ((layout (other + 1)).2.1.trans (layout (other + 1)).2.2))
    rcases (show other = year ∨ other + 1 = year by omega) with rfl | rfl
    · exact Or.inl started
    · exact Or.inr unfinished
  · rintro (started | unfinished)
    · exact ⟨year, started, notOver.trans_le (layout (year + 1)).1⟩
    · refine ⟨year - 1, ?_, ?_⟩
      · have := (layout (year - 1)).2.2
        rw [Int.sub_add_cancel] at this
        exact (this.trans_le begun).le
      · rw [Int.sub_add_cancel]
        exact unfinished

/-- In the northern layout the next finish is the one of the same year. -/
theorem Northern.onAt_iff (layout : Northern newYear start finish) :
    OnAt start finish instant ↔ ∃ year, start year ≤ instant ∧ instant < finish year := by
  have mono := layout.newYear_strictMono
  constructor
  · rintro ⟨year, started, next⟩
    exact ⟨year, started, next year (layout year).2.1⟩
  · rintro ⟨year, started, unfinished⟩
    refine ⟨year, started, fun other later => unfinished.trans_le ?_⟩
    have order : year ≤ other := le_of_shared mono (layout year).1 (later.trans (layout other).2.2)
    rcases order.eq_or_lt with rfl | order
    · exact le_rfl
    · have ahead : newYear (year + 1) ≤ newYear other := mono.monotone (by omega)
      exact ((layout year).2.2.trans_le (ahead.trans
        ((layout other).1.trans (layout other).2.1.le))).le

/-- In the southern layout the next finish is the one of the following year. -/
theorem Southern.onAt_iff (layout : Southern newYear start finish) :
    OnAt start finish instant ↔ ∃ year, start year ≤ instant ∧ instant < finish (year + 1) := by
  have mono := layout.newYear_strictMono
  constructor
  · rintro ⟨year, started, next⟩
    exact ⟨year, started, next (year + 1) ((layout year).2.2.trans_le (layout (year + 1)).1)⟩
  · rintro ⟨year, started, unfinished⟩
    refine ⟨year, started, fun other later => unfinished.trans_le ?_⟩
    have order : year < other := by
      by_contra notLater
      have before : newYear (other + 1) ≤ newYear (year + 1) := mono.monotone (by omega)
      rcases (show other = year ∨ other + 1 ≤ year by omega) with rfl | earlier
      · exact absurd (layout other).2.1 later.not_gt
      · have behind : newYear (other + 1) ≤ newYear year := mono.monotone earlier
        exact absurd later ((((layout other).2.1.trans (layout other).2.2).trans_le
          (behind.trans ((layout year).1.trans (layout year).2.1.le))).not_gt)
    rcases (show year + 1 = other ∨ year + 1 + 1 ≤ other by omega) with rfl | order
    · exact le_rfl
    · have ahead : newYear (year + 1 + 1) ≤ newYear other := mono.monotone order
      exact (((layout (year + 1)).2.1.trans (layout (year + 1)).2.2).trans_le
        (ahead.trans (layout other).1)).le

end PicowDayClock.YearlyPeriods
