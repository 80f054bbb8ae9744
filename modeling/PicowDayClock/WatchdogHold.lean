import PicowDayClock.Ticks

/-! How long the icon of a watchdog reset is kept. The code compares the local
epoch with the time of the error, which nothing ever sets. So the icon goes a
day into 1970 by the local clock, not a day after the reset. -/
namespace PicowDayClock.WatchdogHold
open Boot Ntp ClockTask ClockFrames Ticks

/-- `WATCHDOG_ICON_INTERVAL` in milliseconds since the reset. -/
def holdMs : Nat := 86400000

/-- The clock handles a tick and has decided about the icon. -/
def judged (clock : Clock) : Bool :=
  match clock.pc with
  | .expireIcon => false
  | _ => handling clock

/-- The error that is right at a tick: the recorded one until the hold is over. -/
def rightError (recorded : WatchdogError) (tick : Tick) : WatchdogError :=
  if tick.bootMs ≤ holdMs then recorded else .ok

/-- After the step the error of a tick that is being handled is the right one. -/
def Held (recorded : WatchdogError) (pair : Clock × Tick) (event : Event) : Prop :=
  ∀ next ∈ ticks.step pair event, judged next.1 = true →
    next.1.state.watchdogResetError = rightError recorded next.2

/-- Where the task decides about the icon: within the hold the local epoch is
within the first day of 1970; after it the local epoch is beyond that day, or
the icon has gone already. -/
def Timely (pair : Clock × Tick) : Event → Prop
  | .task _ _ => pair.1.pc = .expireIcon →
      let localEpoch := calculateLocalTime pair.2.utcNow pair.1.state.flashConfig
      if pair.2.bootMs ≤ holdMs then localEpoch ≤ watchdogIconInterval
      else watchdogIconInterval < localEpoch ∨ pair.1.state.watchdogResetError = .ok
  | _ => True

instance (pair : Clock × Tick) : ∀ event, Decidable (Timely pair event)
  | .task _ _ => inferInstanceAs (Decidable (_ → _))
  | .recv _ | .dns _ _ | .ntpTimer _ | .clockTimer _ | .elapse _ => instDecidableTrue

/-- The error is the recorded one, or it has gone after the hold. -/
structure Inv (recorded : WatchdogError) (clock : Clock) (tick : Tick) : Prop where
  read : TimeRead clock tick
  never : clock.state.lastWatchdogErrorTime = 0
  kept : clock.state.watchdogResetError = recorded ∨
    (clock.state.watchdogResetError = .ok ∧ holdMs < tick.bootMs)
  judged : judged clock = true → clock.state.watchdogResetError = rightError recorded tick

/-! ## Steps -/

theorem handling_of_judged {clock : Clock} (decided : judged clock = true) :
    handling clock = true ∧ clock.pc ≠ .expireIcon := by
  unfold judged at decided
  split at decided
  · cases decided
  · exact ⟨decided, ‹_›⟩

theorem judged_enters {clock next : Clock} (happened : clock.statement dns udp = some next)
    (after : judged next = true) : judged clock = true ∨ clock.pc = .expireIcon := by
  obtain ⟨within, past⟩ := handling_of_judged after
  rcases handling_enters happened within with before | reading
  · by_cases deciding : clock.pc = .expireIcon
    · exact .inr deciding
    · left
      unfold judged
      split
      · exact absurd ‹_› deciding
      · exact before
  · have follows := statement_follows happened
    simp only [Follows, reading] at follows
    exact absurd follows past

/-- What the task decides about the icon. -/
theorem expireIcon_error {clock next : Clock} (inv : Inv recorded clock tick)
    (deciding : clock.pc = .expireIcon) (happened : clock.statement dns udp = some next) :
    next.state.watchdogResetError =
      if watchdogIconInterval < calculateLocalTime tick.utcNow clock.state.flashConfig then .ok
      else clock.state.watchdogResetError := by
  have localEpoch := inv.read.localEpoch (by simp [handling, deciding])
  simp only [Clock.statement, deciding, Option.some.injEq] at happened
  subst happened
  simp only [inv.never, localEpoch, Int.zero_add, gt_iff_lt]

/-- With the invariant, the decision is right exactly if the local epoch agrees
with the time since the reset. -/
theorem expireIcon_right_iff {clock next : Clock} (inv : Inv recorded clock tick)
    (error : recorded ≠ .ok) (deciding : clock.pc = .expireIcon)
    (happened : clock.statement dns udp = some next) :
    next.state.watchdogResetError = rightError recorded tick ↔
      Timely (clock, tick) (.task dns udp) := by
  rw [expireIcon_error inv deciding happened]
  simp only [Timely, deciding, forall_const, rightError]
  by_cases within : tick.bootMs ≤ holdMs
  · have kept := inv.kept.resolve_right fun gone => by omega
    rw [if_pos within, if_pos within, kept]
    split
    · rename_i beyond
      exact ⟨fun same => absurd same.symm error, fun early => absurd beyond (by omega)⟩
    · rename_i early
      exact ⟨fun _ => by omega, fun _ => rfl⟩
  · rw [if_neg within, if_neg within]
    split
    · rename_i beyond
      exact ⟨fun _ => .inl beyond, fun _ => rfl⟩
    · rename_i early
      exact ⟨fun gone => .inr gone, fun agrees => agrees.resolve_left early⟩

/-- A statement keeps the invariant, the decision where the times agree. -/
theorem statement_inv {clock next : Clock} (inv : Inv recorded clock tick)
    (error : recorded ≠ .ok) (timely : Timely (clock, tick) (.task dns udp))
    (happened : clock.statement dns udp = some next) :
    Inv recorded next (note clock (.task dns udp) tick) := by
  have frame := statement_frame happened
  have read := statement_timeRead inv.read happened
  have never := frame.lastWatchdogErrorTime.trans inv.never
  by_cases reading : clock.pc = .readTime
  · have notes : note clock (.task dns udp) tick = ⟨clock.time, clock.bootMs, false⟩ := by
      simp only [note, reading]
    have same := frame.watchdogResetError (by simp [reading])
    refine ⟨read, never, ?_, fun after => ?_⟩
    · rw [same, notes]
      exact inv.kept.imp_right fun ⟨gone, late⟩ => ⟨gone, Nat.lt_of_lt_of_le late inv.read.past⟩
    · rcases judged_enters happened after with before | deciding
      · simp [WatchdogHold.judged, handling, reading] at before
      · simp [reading] at deciding
  · have times := (note_times dns udp tick reading).2
    have right_ : rightError recorded (note clock (.task dns udp) tick) =
        rightError recorded tick := by rw [rightError, rightError, times]
    by_cases deciding : clock.pc = .expireIcon
    · have decided := (expireIcon_right_iff inv error deciding happened).mpr timely
      refine ⟨read, never, ?_, fun _ => by rw [right_]; exact decided⟩
      rw [decided, times, rightError]
      split
      · exact .inl rfl
      · exact .inr ⟨rfl, by omega⟩
    · have same := frame.watchdogResetError deciding
      refine ⟨read, never, ?_, fun after => ?_⟩
      · rw [same, times]
        exact inv.kept
      · rw [same, right_]
        exact inv.judged ((judged_enters happened after).resolve_right deciding)

theorem interrupt_inv {clock next : Clock} (inv : Inv recorded clock tick)
    (frame : Interrupt clock next) (read : TimeRead next tick) : Inv recorded next tick where
  read := read
  never := frame.lastWatchdogErrorTime.trans inv.never
  kept := by
    rw [frame.watchdogResetError]
    exact inv.kept
  judged := by
    rw [frame.watchdogResetError]
    simp only [WatchdogHold.judged, handling, frame.pc, frame.locals]
    exact inv.judged

theorem step_inv (error : recorded ≠ .ok) {pair next : Clock × Tick}
    (inv : Inv recorded pair.1 pair.2) (timely : Timely pair event)
    (stepped : ticks.step pair event = some next) : Inv recorded next.1 next.2 := by
  obtain ⟨clock, tick⟩ := pair
  obtain ⟨reached, tickAfter⟩ := next
  obtain ⟨happened, rfl⟩ := StepSystem.observed_step stepped
  have read := step_timeRead inv.read happened
  rcases step_cases happened with ⟨interrupting, frame⟩ | ⟨dns, udp, rfl, ran⟩
  · rw [note_interrupt interrupting] at read ⊢
    exact interrupt_inv inv frame read
  · exact statement_inv inv error timely ran

theorem held_iff_timely (error : recorded ≠ .ok) {pair : Clock × Tick}
    (inv : Inv recorded pair.1 pair.2) (event : Event) :
    Held recorded pair event ↔ Timely pair event := by
  constructor
  · intro held
    cases event with
    | task dns udp =>
      intro deciding
      obtain ⟨clock, tick⟩ := pair
      have happened : ∃ next, clock.statement dns udp = some next ∧ next.pc = .compareDigits := by
        dsimp only at deciding
        simp [Clock.statement, deciding]
      obtain ⟨next, happened, comparing⟩ := happened
      have stepped : ticks.step (clock, tick) (.task dns udp) =
          some (next, note clock (.task dns udp) tick) :=
        StepSystem.observed_of_step tick happened
      have right_ := held _ stepped (by simp [judged, handling, comparing])
      have times : (note clock (.task dns udp) tick).bootMs = tick.bootMs :=
        (note_times dns udp tick (by simp_all)).2
      rw [rightError, times] at right_
      exact (expireIcon_right_iff inv error deciding happened).mp right_ deciding
    | _ => trivial
  · intro timely next stepped after
    exact (step_inv error inv timely stepped).judged after

/-- After a boot that records an error, the error is kept on every tick handled
within a day of the reset and is gone on every later one, exactly if at each
tick before the error has gone the local epoch is beyond its first day just
when the time since the reset is. -/
theorem icon_is_held_iff (started : Started clock)
    (warm : clock.state.watchdogResetError ≠ .ok) (events : List Event) :
    ticks.EveryStep (Held clock.state.watchdogResetError) (clock, .none) events ↔
      ticks.EveryStep Timely (clock, .none) events := by
  have begins := started_begins started
  have inv : Inv clock.state.watchdogResetError clock .none := by
    refine ⟨started_timeRead started, begins.lastWatchdogErrorTime, .inl rfl, ?_⟩
    simp [judged, handling, begins.pc, begins.starting]
  exact @StepSystem.everyStep_iff_where _ _ ticks _ _
    (fun pair => Inv clock.state.watchdogResetError pair.1 pair.2) _ _
    (fun _ _ _ inv timely stepped => step_inv warm inv timely stepped)
    (fun _ event inv => held_iff_timely warm inv event) inv

/-- Before the first reply, and without an offset from UTC, the icon is held. -/
theorem icon_is_held_before_sync :
    let task := Event.task (.resolved 1) .sent
    ticks.EveryStep (Held .ntp) (warmStart, .none)
      (List.replicate 4 task ++ .clockTimer 1 :: List.replicate 20 task) := by
  intro task
  exact (icon_is_held_iff warmStart_started (by decide) _).mpr (by decide +kernel)

/-- The first reply sets the clock, and the tick that follows, three seconds
after the reset, takes the icon away. -/
theorem first_sync_clears_icon :
    let task := Event.task (.resolved 1) .sent
    Started warmStart ∧ warmStart.state.watchdogResetError = .ntp ∧
      ∃ reached tick, ticks.run (warmStart, .none)
          (List.replicate 4 task ++ .recv ⟨1, 123, [0x24, 1] ++ List.replicate 46 0⟩ ::
            .clockTimer 1 :: List.replicate 12 task) = some (reached, tick) ∧
        judged reached = true ∧ tick.bootMs = 3000 ∧
        reached.state.watchdogResetError = .ok ∧ rightError .ntp tick = .ntp :=
  ⟨warmStart_started, rfl, _, _, rfl, rfl, rfl, rfl, rfl⟩

end PicowDayClock.WatchdogHold
