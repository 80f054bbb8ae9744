import PicowDayClock.Firmware.Backlight

/-! Where the filter of the light sensor settles. The division cuts the blend
down to an integer, so that it comes down to a lower reading, and stops below a
higher one. -/
namespace PicowDayClock.AmbientLight
open Backlight

/-- `smoothed_adc` after these readings; `lcd_init` starts it with 0. -/
def smoothedAfter (readings : List Nat) : Nat :=
  readings.foldl (fun smoothedAdc rawAdc => (backlightTimerCallback smoothedAdc rawAdc).1) 0

/-- The level that the last of these readings has set. -/
def levelAfter (readings : List Nat) (rawAdc : Nat) : Nat :=
  (backlightTimerCallback (smoothedAfter readings) rawAdc).2

/-- After finitely many further calls with one reading, that is what the filter
holds, and goes on to hold. -/
def Settles (readings : List Nat) (rawAdc : Nat) : Prop :=
  ∃ calls, ∀ more ≥ calls, smoothedAfter (readings ++ List.replicate more rawAdc) = rawAdc

/-! ## One reading -/

theorem smoothedAfter_snoc (readings : List Nat) (rawAdc : Nat) :
    smoothedAfter (readings ++ [rawAdc]) = blend (smoothedAfter readings) rawAdc := by
  rw [smoothedAfter, List.foldl_append]
  rfl

/-- The sum of a blend stays far below the width of an `unsigned int`. -/
theorem blend_sample {smoothedAdc rawAdc : Nat} (before : smoothedAdc < 2 ^ 12)
    (reading : rawAdc < 2 ^ 12) (sampled : smoothedAdc ≠ 0) :
    blend smoothedAdc rawAdc = (smoothedAdc * 7 + rawAdc) / 8 := by
  rw [blend, if_neg sampled, Nat.mod_eq_of_lt (by omega)]

theorem blend_lt {smoothedAdc rawAdc : Nat} (before : smoothedAdc < 2 ^ 12)
    (reading : rawAdc < 2 ^ 12) : blend smoothedAdc rawAdc < 2 ^ 12 := by
  by_cases sampled : smoothedAdc = 0
  · rw [blend, if_pos sampled]
    exact reading
  · rw [blend_sample before reading sampled]
    omega

/-- The filter holds 12 bits, as its readings do. -/
theorem smoothedAfter_lt {readings : List Nat} (small : ∀ rawAdc ∈ readings, rawAdc < 2 ^ 12) :
    smoothedAfter readings < 2 ^ 12 := by
  induction readings using List.reverseRecOn with
  | nil => decide
  | append_singleton readings rawAdc ih =>
    rw [smoothedAfter_snoc]
    apply blend_lt
    · exact ih fun other member => small other (List.mem_append_left _ member)
    · exact small rawAdc (List.mem_append_right _ List.mem_cons_self)

/-- From above, or without a sample, the filter comes down to the reading or
closer to it. -/
theorem blend_above {smoothedAdc rawAdc : Nat} (before : smoothedAdc < 2 ^ 12)
    (reading : rawAdc < 2 ^ 12) (above : smoothedAdc = 0 ∨ rawAdc ≤ smoothedAdc) :
    rawAdc ≤ blend smoothedAdc rawAdc ∧
      blend smoothedAdc rawAdc - rawAdc ≤ smoothedAdc - rawAdc - 1 := by
  by_cases sampled : smoothedAdc = 0
  · rw [blend, if_pos sampled]
    omega
  · rw [blend_sample before reading sampled]
    omega

/-- From below it stays below. -/
theorem blend_below {smoothedAdc rawAdc : Nat} (reading : rawAdc < 2 ^ 12)
    (sampled : 0 < smoothedAdc) (below : smoothedAdc < rawAdc) :
    0 < blend smoothedAdc rawAdc ∧ blend smoothedAdc rawAdc < rawAdc := by
  rw [blend_sample (Nat.lt_trans below reading) reading (Nat.ne_of_gt sampled)]
  omega

/-! ## Many readings -/

theorem replicate_snoc (readings : List Nat) (rawAdc more : Nat) :
    readings ++ List.replicate (more + 1) rawAdc =
      (readings ++ List.replicate more rawAdc) ++ [rawAdc] := by
  rw [List.replicate_succ', List.append_assoc]

/-- Each call comes one closer at least. -/
theorem closer {readings : List Nat} {rawAdc : Nat} (reading : rawAdc < 2 ^ 12)
    (small : ∀ other ∈ readings, other < 2 ^ 12)
    (above : smoothedAfter readings = 0 ∨ rawAdc ≤ smoothedAfter readings) (more : Nat) :
    let smoothed := smoothedAfter (readings ++ List.replicate (more + 1) rawAdc)
    rawAdc ≤ smoothed ∧ smoothed - rawAdc ≤ smoothedAfter readings - rawAdc - (more + 1) := by
  have bounded : ∀ more, smoothedAfter (readings ++ List.replicate more rawAdc) < 2 ^ 12 := by
    intro more
    apply smoothedAfter_lt
    intro other member
    rcases List.mem_append.mp member with before | later
    · exact small other before
    · rw [List.eq_of_mem_replicate later]
      exact reading
  induction more with
  | zero =>
    rw [replicate_snoc, List.replicate_zero, List.append_nil, smoothedAfter_snoc]
    exact blend_above (smoothedAfter_lt small) reading above
  | succ more ih =>
    obtain ⟨still, near⟩ := ih
    have next := blend_above (bounded (more + 1)) reading (.inr still)
    rw [replicate_snoc, smoothedAfter_snoc]
    exact ⟨next.1, by omega⟩

/-- From below it never comes to the reading. -/
theorem stays_below {readings : List Nat} {rawAdc : Nat} (reading : rawAdc < 2 ^ 12)
    (sampled : 0 < smoothedAfter readings) (below : smoothedAfter readings < rawAdc) (more : Nat) :
    0 < smoothedAfter (readings ++ List.replicate more rawAdc) ∧
      smoothedAfter (readings ++ List.replicate more rawAdc) < rawAdc := by
  induction more with
  | zero =>
    rw [List.replicate_zero, List.append_nil]
    exact ⟨sampled, below⟩
  | succ more ih =>
    rw [replicate_snoc, smoothedAfter_snoc]
    exact blend_below reading ih.1 ih.2

/-- After any history of 12-bit readings, the filter settles on a constant one
exactly if it holds no less, or 0, when that begins. It then sets the level of
that reading, whatever was before. -/
theorem filter_settles_iff {readings : List Nat} {rawAdc : Nat}
    (small : ∀ other ∈ readings, other < 2 ^ 12) (reading : rawAdc < 2 ^ 12) :
    (Settles readings rawAdc ↔
      smoothedAfter readings = 0 ∨ rawAdc ≤ smoothedAfter readings) ∧
    (Settles readings rawAdc → ∃ calls, ∀ more ≥ calls,
      levelAfter (readings ++ List.replicate more rawAdc) rawAdc =
        lcdSetBacklight (blPercent rawAdc)) := by
  refine ⟨⟨?_, ?_⟩, ?_⟩
  · rintro ⟨calls, settled⟩
    by_contra stuck
    rw [not_or] at stuck
    have below := stays_below reading (Nat.pos_of_ne_zero stuck.1) (Nat.lt_of_not_le stuck.2) calls
    have same := settled calls (Nat.le_refl calls)
    omega
  · intro above
    refine ⟨smoothedAfter readings + 1, fun more enough => ?_⟩
    obtain ⟨count, rfl⟩ := Nat.exists_eq_add_of_le' (Nat.le_trans (Nat.le_add_left 1 _) enough)
    obtain ⟨still, near⟩ := closer reading small above count
    omega
  · rintro ⟨calls, settled⟩
    refine ⟨calls, fun more enough => ?_⟩
    have next := settled (more + 1) (Nat.le_succ_of_le enough)
    rw [replicate_snoc, smoothedAfter_snoc] at next
    simp only [levelAfter, backlightTimerCallback, next]

/-- From 4095 down to 384 the filter settles, and the level is the full one. -/
theorem darker_room_settles :
    Settles [4095] 384 ∧ ∃ calls, ∀ more ≥ calls,
      levelAfter ([4095] ++ List.replicate more 384) 384 = 100 := by
  have small : ∀ other ∈ [4095], other < 2 ^ 12 := by decide
  obtain ⟨settles, level⟩ := filter_settles_iff small (show 384 < 2 ^ 12 by decide)
  have above : smoothedAfter [4095] = 0 ∨ 384 ≤ smoothedAfter [4095] := by decide
  exact ⟨settles.mpr above, level (settles.mpr above)⟩

/-- From 1 up to 384 it stops at 377 and does not settle: the level is 98. -/
theorem brighter_room_stops_short :
    ¬ Settles [1] 384 ∧
      ∀ more ≥ 100, smoothedAfter ([1] ++ List.replicate more 384) = 377 ∧
        levelAfter ([1] ++ List.replicate more 384) 384 = 98 := by
  have stopped : ∀ more ≥ 100, smoothedAfter ([1] ++ List.replicate more 384) = 377 := by
    intro more enough
    induction more, enough using Nat.le_induction with
    | base => decide +kernel
    | succ more _ ih =>
      rw [replicate_snoc, smoothedAfter_snoc, ih]
      decide
  refine ⟨?_, fun more enough => ⟨stopped more enough, ?_⟩⟩
  · rintro ⟨calls, settled⟩
    have first := settled (calls + 100) (Nat.le_add_right _ _)
    rw [stopped _ (Nat.le_add_left _ _)] at first
    cases first
  · rw [levelAfter, stopped more enough]
    decide +kernel

end PicowDayClock.AmbientLight
