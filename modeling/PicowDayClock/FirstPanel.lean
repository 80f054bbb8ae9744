import PicowDayClock.DisplayRefresh

/-! The icons on the first panel. They are drawn over what is there, and
`WATCHDOG_OK` draws nothing. So after a redraw that does not clear the panel an
icon that has expired is still there. -/
namespace PicowDayClock.FirstPanel
open Boot Ntp ClockTask ClockFrames Ticks DisplayRefresh

/-! ## Icons -/

/-- An error that has an icon. -/
def hasIcon : NtpError → Bool
  | .nullError | .other _ => false
  | _ => true

/-- What drawing the icons leaves on a panel. -/
theorem lcdUpdateIcons_eq (lcd : LcdState) (watchdogError : WatchdogError)
    (drawable : hasIcon ntpError = true) :
    lcdUpdateIcons lcd watchdogError ntpError .ok =
      { lcd with
        watchdogIcon := if watchdogError = .ok then lcd.watchdogIcon else some watchdogError
        ntpIcon := some ntpError
        wifiIcon := some .ok } := by
  cases ntpError with
  | nullError | other raw => cases drawable
  | _ => cases watchdogError <;> rfl

/-- The first panel cleared and drawn again, for the tick at hand. -/
def freshPanel (clock : Clock) : LcdState :=
  lcdUpdateIcons
    (lcdPrintClockDigit (lcdClearScreen {}) (lcdDigits clock.locals.localEpoch 0))
    clock.state.watchdogResetError clock.locals.ntpAtomicState.error .ok

/-- Its icons are those of the errors at hand, and none for `WATCHDOG_OK`. -/
theorem freshPanel_eq {clock : Clock}
    (drawable : hasIcon clock.locals.ntpAtomicState.error = true) :
    freshPanel clock =
      { digit := some (lcdDigits clock.locals.localEpoch 0)
        watchdogIcon :=
          if clock.state.watchdogResetError = .ok then none
          else some clock.state.watchdogResetError
        ntpIcon := some clock.locals.ntpAtomicState.error
        wifiIcon := some .ok
        lines := [] } := by
  have digit := lcdPrintClockDigit_digit (lcdClearScreen {})
    (lcdDigits_drawable clock.locals.localEpoch 0)
  rw [freshPanel, lcdUpdateIcons_eq _ _ drawable]
  unfold lcdPrintClockDigit at digit ⊢
  split at digit
  · cases digit
  · rename_i visible
    rw [if_neg visible]
    rfl

/-- The first round of the loop. -/
theorem redraw_first (state : ClockState) (digits : Fin numLcds → Byte) (ntpError : NtpError) :
    (redraw state digits ntpError 0).lcdStates 0 =
      lcdUpdateIcons
        (if state.currentLcdDigits 0 ≠ digits 0 ∨ state.firstClockTick then
          lcdPrintClockDigit (lcdClearScreen {}) (digits 0)
        else state.lcdStates 0)
        state.watchdogResetError ntpError .ok := by
  by_cases changed : state.currentLcdDigits 0 ≠ digits 0 ∨ state.firstClockTick = true
  · simp [redraw, changed, ClockState.onLcd, lcdClearScreen]
  · simp [redraw, changed, ClockState.onLcd]

/-! ## Errors with an icon -/

theorem ntpOutcome_hasIcon (state : NtpState) (datagram : Datagram) :
    hasIcon (ntpOutcome state datagram).error = true := by
  simp only [ntpOutcome]
  split_ifs <;> rfl

theorem ntpAtomicStatus_hasIcon {state : NtpState} (status : NtpStatus) {error : NtpError}
    (ms : UInt32) (before : hasIcon state.error = true)
    (stored : error = .nullError ∨ hasIcon error = true) :
    hasIcon (ntpAtomicStatus state status error ms).error = true := by
  unfold ntpAtomicStatus
  dsimp only
  split
  · exact stored.resolve_left ‹_›
  · exact before

theorem ntpStartUdpRequest_hasIcon {state : NtpState} (before : hasIcon state.error = true)
    (udp : UdpReply) : hasIcon (ntpStartUdpRequest state udp).error = true := by
  cases udp with
  | noMemory | sendError => exact ntpAtomicStatus_hasIcon _ _ before (.inr rfl)
  | sent => exact before

theorem ntpDnsCallback_hasIcon {state : NtpState} (before : hasIcon state.error = true)
    (ipaddr : Option IpAddr) (udp : UdpReply) :
    hasIcon (ntpDnsCallback state ipaddr udp).error = true := by
  unfold ntpDnsCallback
  split
  · apply ntpStartUdpRequest_hasIcon
    exact before
  · exact ntpAtomicStatus_hasIcon _ _ before (.inr rfl)

/-- No statement stores an error without an icon. -/
theorem statement_hasIcon {clock next : Clock} (happened : clock.statement dns udp = some next)
    (before : hasIcon clock.state.ntpState.error = true) :
    hasIcon next.state.ntpState.error = true := by
  cases at_pc : clock.pc with
  | writeIdle =>
    simp only [Clock.statement, at_pc, Option.some.injEq] at happened
    subst happened
    exact ntpAtomicStatus_hasIcon _ _ before (.inl rfl)
  | requestPending =>
    simp only [Clock.statement, at_pc, Option.some.injEq] at happened
    subst happened
    exact ntpAtomicStatus_hasIcon _ _ before (.inr rfl)
  | requestResolve =>
    simp only [Clock.statement, at_pc] at happened
    cases dns <;>
    · cases happened
      exact before
  | requestSend =>
    simp only [Clock.statement, at_pc, Option.some.injEq] at happened
    subst happened
    exact ntpStartUdpRequest_hasIcon before udp
  | _ =>
    rw [(statement_frame happened).ntpState (by rw [at_pc]; rfl)]
    exact before

theorem step_hasIcon {clock next : Clock} {event : Event}
    (happened : running.step clock event = some next)
    (before : hasIcon clock.state.ntpState.error = true) :
    hasIcon next.state.ntpState.error = true := by
  cases event with
  | task dns udp => exact statement_hasIcon happened before
  | recv datagram =>
    cases happened
    rw [deliver_ntpState]
    exact ntpAtomicStatus_hasIcon _ _ before (.inr (ntpOutcome_hasIcon _ datagram))
  | dns ipaddr udp =>
    cases happened
    exact ntpDnsCallback_hasIcon before ipaddr udp
  | ntpTimer ntpTime | elapse ms =>
    cases happened
    exact before
  | clockTimer gpio =>
    cases happened
    obtain ⟨triggered, ticked⟩ :=
      clockTimerCallback_eq clock.state clock.buttonHoldSeconds gpio
    rw [ticked]
    exact before

/-! ## The property and its condition -/

/-- The first panel is as if it had been cleared and drawn again: it shows the
icon of the watchdog error, or none for `WATCHDOG_OK`, the icon of the NTP error
of the tick, and the icon of `WIFI_OK`. -/
structure ShowsState (clock : Clock) : Prop where
  fresh : clock.state.lcdStates 0 = freshPanel clock
  watchdog : (clock.state.lcdStates 0).watchdogIcon =
    if clock.state.watchdogResetError = .ok then none else some clock.state.watchdogResetError
  ntp : (clock.state.lcdStates 0).ntpIcon = some clock.locals.ntpAtomicState.error
  wifi : (clock.state.lcdStates 0).wifiIcon = some .ok

/-- From the redraw of a tick to the return of the call, the panel shows this. -/
def Fresh (pair : Clock × Tick) (event : Event) : Prop :=
  ∀ next ∈ ticks.step pair event, next.2.redrawn = true →
    handling next.1 = true ∨ pair.1.pc = .firstTickDone → ShowsState next.1

/-- Where the first panel is drawn it is cleared, or a new icon is drawn over
the old one, or there is no old one. -/
def Clean (pair : Clock × Tick) : Event → Prop
  | .task _ _ => pair.1.pc = .draw 0 →
      pair.1.state.currentLcdDigits 0 ≠ lcdDigits pair.1.locals.localEpoch 0 ∨
        pair.1.state.firstClockTick = true ∨ pair.1.state.watchdogResetError ≠ .ok ∨
        (pair.1.state.lcdStates 0).watchdogIcon = none
  | _ => True

instance (pair : Clock × Tick) : ∀ event, Decidable (Clean pair event)
  | .task _ _ => inferInstanceAs (Decidable (_ → _))
  | .recv _ | .dns _ _ | .ntpTimer _ | .clockTimer _ | .elapse _ => instDecidableTrue

/-- What holds whether redraws are clean or not. -/
structure Settled (clock : Clock) (tick : Tick) : Prop where
  display : DisplayRefresh.Inv clock tick
  stored : hasIcon clock.state.ntpState.error = true
  snapshot : hasIcon clock.locals.ntpAtomicState.error = true
  first : drawn clock = true → clock.state.firstClockTick = true → tick.redrawn = true
  begun : clock.pc = .expireIcon → tick.redrawn = false
  drawing : ∀ jj, clock.pc = .draw jj → jj ≠ 0 → tick.redrawn = true

/-- What holds of a clock whose redraws were all clean so far. -/
structure Inv (clock : Clock) (tick : Tick) : Prop extends Settled clock tick where
  /-- The messages of the boot are gone with the first redraw. -/
  lines : (∀ ntpError, clock.pc ≠ .reset ntpError .ok) →
    clock.state.firstClockTick = true ∨ (clock.state.lcdStates 0).lines = []
  fresh : tick.redrawn = true → handling clock = true →
    clock.state.lcdStates 0 = freshPanel clock

theorem showsState_of_fresh {clock : Clock}
    (drawable : hasIcon clock.locals.ntpAtomicState.error = true)
    (fresh : clock.state.lcdStates 0 = freshPanel clock) : ShowsState clock := by
  have panel := fresh.trans (freshPanel_eq drawable)
  exact ⟨fresh, by rw [panel], by rw [panel], by rw [panel]⟩

theorem freshPanel_frame {clock next : Clock}
    (localEpoch : next.locals.localEpoch = clock.locals.localEpoch)
    (error : next.state.watchdogResetError = clock.state.watchdogResetError)
    (snapshot : next.locals.ntpAtomicState = clock.locals.ntpAtomicState) :
    freshPanel next = freshPanel clock := by
  rw [freshPanel, freshPanel, localEpoch, error, snapshot]

/-! ## Drawing the first panel -/

/-- With the invariant, the first round leaves a fresh panel exactly if it is
clean. -/
theorem draw_first_iff {clock next : Clock} (inv : Inv clock tick) (at_pc : clock.pc = .draw 0)
    (happened : clock.statement dns udp = some next) :
    next.state.lcdStates 0 = freshPanel next ↔ Clean (clock, tick) (.task dns udp) := by
  have frame := statement_frame happened
  have same := freshPanel_frame (frame.times (by simp [at_pc])).2
    (frame.watchdogResetError (by simp [at_pc])) (frame.snapshot (by simp [at_pc])).1
  have panel : next.state.lcdStates 0 =
      lcdUpdateIcons
        (if clock.state.currentLcdDigits 0 ≠ lcdDigits clock.locals.localEpoch 0 ∨
            clock.state.firstClockTick then
          lcdPrintClockDigit (lcdClearScreen {}) (lcdDigits clock.locals.localEpoch 0)
        else clock.state.lcdStates 0)
        clock.state.watchdogResetError clock.locals.ntpAtomicState.error .ok := by
    simp only [Clock.statement, at_pc, Option.some.injEq] at happened
    rw [← happened]
    exact redraw_first _ _ _
  rw [same, panel]
  simp only [Clean, at_pc, forall_const]
  by_cases cleared : clock.state.currentLcdDigits 0 ≠ lcdDigits clock.locals.localEpoch 0 ∨
      clock.state.firstClockTick = true
  · rw [if_pos cleared]
    exact ⟨fun _ => cleared.elim .inl fun first => .inr (.inl first), fun _ => rfl⟩
  · obtain ⟨unchanged, later⟩ := not_or.mp cleared
    have digit : (clock.state.lcdStates 0).digit =
        some (lcdDigits clock.locals.localEpoch 0) := by
      have shown := (inv.display.shown.resolve_left later) 0
      rw [Shows, not_not.mp unchanged] at shown
      exact shown
    have lines := (inv.lines (by simp [at_pc])).resolve_left later
    rw [if_neg cleared, lcdUpdateIcons_eq _ _ inv.snapshot, freshPanel_eq inv.snapshot]
    simp only [digit, lines, LcdState.mk.injEq, true_and, and_true]
    by_cases gone : clock.state.watchdogResetError = .ok
    · simp only [gone, if_true, ne_eq, unchanged, later, not_true, Bool.false_eq_true, false_or]
    · simp only [gone, if_false, ne_eq, not_false_eq_true, true_or, or_true]

/-! ## Every step -/

theorem note_draw {clock : Clock} {ii : Fin numLcds} (at_pc : clock.pc = .draw ii)
    (dns : DnsReply) (udp : UdpReply) (tick : Tick) :
    (note clock (.task dns udp) tick).redrawn = true := by
  simp only [note, at_pc]

theorem statement_settled {clock next : Clock} (settled : Settled clock tick)
    (display : DisplayRefresh.Inv next (note clock (.task dns udp) tick))
    (happened : clock.statement dns udp = some next) :
    Settled next (note clock (.task dns udp) tick) := by
  have frame := statement_frame happened
  have comes := statement_comes happened
  refine ⟨display, statement_hasIcon happened settled.stored, ?_, ?_, ?_, ?_⟩
  · by_cases snapping : clock.pc = .snapshot
    · have stored := settled.stored
      simp only [Clock.statement, snapping, Option.some.injEq] at happened
      subst happened
      exact stored
    · rw [(frame.snapshot snapping).1]
      exact settled.snapshot
  · intro behind first
    rcases drawn_enters happened behind with before | ⟨comparing, on⟩ | ⟨ii, at_pc, -⟩
    · have within := handling_of_drawn before
      have away : ∀ ii, clock.pc ≠ .draw ii := by
        intro ii at_pc
        simp [drawn, at_pc] at before
      have done : clock.pc ≠ .firstTickDone := by
        intro done
        have follows := statement_follows happened
        simp only [Follows, done] at follows
        simp [drawn, handling, follows] at behind
      rw [frame.firstClockTick done] at first
      rw [note_away dns udp tick (handling_away within).2.2.2 away]
      exact settled.first before first
    · have later := (compareDigits_unchanged comparing happened on).1
      rw [frame.firstClockTick (by simp [comparing]), later] at first
      cases first
    · exact note_draw at_pc dns udp tick
  · intro expiring
    rw [expiring] at comes
    have reading : clock.pc = .readTime := comes
    simp only [note, reading]
  · intro jj drawing later
    rw [drawing] at comes
    rcases comes with ⟨zero, -⟩ | ⟨ii, -, at_pc⟩
    · exact absurd zero later
    · exact note_draw at_pc dns udp tick

theorem step_settled {pair next : Clock × Tick} (settled : Settled pair.1 pair.2)
    (stepped : ticks.step pair event = some next) : Settled next.1 next.2 := by
  have display := DisplayRefresh.step_inv settled.display stepped
  obtain ⟨clock, tick⟩ := pair
  obtain ⟨reached, tickAfter⟩ := next
  obtain ⟨happened, rfl⟩ := StepSystem.observed_step stepped
  rcases step_cases happened with ⟨interrupting, frame⟩ | ⟨dns, udp, rfl, ran⟩
  · rw [note_interrupt interrupting] at display ⊢
    refine ⟨display, step_hasIcon happened settled.stored, ?_, ?_, ?_, ?_⟩
    · rw [frame.locals]
      exact settled.snapshot
    · rw [(interrupt_handling frame).2, frame.firstClockTick]
      exact settled.first
    · rw [frame.pc]
      exact settled.begun
    · rw [frame.pc]
      exact settled.drawing
  · exact statement_settled settled display ran

/-- A statement that neither draws nor decides about the icon keeps the panel
fresh while the tick is handled and to the return. -/
theorem fresh_away {clock next : Clock} (inv : Inv clock tick)
    (happened : clock.statement dns udp = some next) (within : handling clock = true)
    (away : ∀ ii, clock.pc ≠ .draw ii) (expiring : clock.pc ≠ .expireIcon)
    (running : ∀ ntpError, next.pc ≠ .reset ntpError .ok) (redrawn : tick.redrawn = true) :
    next.state.lcdStates 0 = freshPanel next := by
  have frame := statement_frame happened
  obtain ⟨snapping, -, -, reading⟩ := handling_away within
  rw [frame.lcdStates away running, freshPanel_frame (frame.times reading).2
    (frame.watchdogResetError expiring) (frame.snapshot snapping).1]
  exact inv.fresh redrawn within

/-- Another round of the loop leaves the first panel alone. -/
theorem draw_other {clock next : Clock} {ii : Fin numLcds} (at_pc : clock.pc = .draw ii)
    (later : ii ≠ 0) (happened : clock.statement dns udp = some next) :
    next.state.lcdStates 0 = clock.state.lcdStates 0 := by
  simp only [Clock.statement, at_pc, Option.some.injEq] at happened
  rw [← happened]
  exact (redraw_other _ _ _ (Ne.symm later)).2

theorem draw_fresh {clock next : Clock} (inv : Inv clock tick) {ii : Fin numLcds}
    (at_pc : clock.pc = .draw ii) (clean : Clean (clock, tick) (.task dns udp))
    (happened : clock.statement dns udp = some next) :
    next.state.lcdStates 0 = freshPanel next := by
  by_cases first : ii = 0
  · subst first
    exact (draw_first_iff inv at_pc happened).mpr clean
  · have frame := statement_frame happened
    rw [draw_other at_pc first happened, freshPanel_frame (frame.times (by simp [at_pc])).2
      (frame.watchdogResetError (by simp [at_pc])) (frame.snapshot (by simp [at_pc])).1]
    exact inv.fresh (inv.drawing ii at_pc first) (by simp [handling, at_pc])

/-- Every clean statement keeps the invariant. -/
theorem statement_inv {clock next : Clock} (inv : Inv clock tick)
    (settled : Settled next (note clock (.task dns udp) tick))
    (clean : Clean (clock, tick) (.task dns udp))
    (happened : clock.statement dns udp = some next) :
    Inv next (note clock (.task dns udp) tick) := by
  have frame := statement_frame happened
  have follows := statement_follows happened
  have empty : next.state.lcdStates 0 = freshPanel next →
      (next.state.lcdStates 0).lines = [] := by
    intro fresh
    rw [fresh, freshPanel_eq settled.snapshot]
  refine { settled with lines := fun running => ?_, fresh := fun redrawn after => ?_ }
  · by_cases drawing : ∃ ii, clock.pc = .draw ii
    · obtain ⟨ii, at_pc⟩ := drawing
      exact .inr (empty (draw_fresh inv at_pc clean happened))
    · have away : ∀ ii, clock.pc ≠ .draw ii := fun ii at_pc => drawing ⟨ii, at_pc⟩
      have alive : ∀ ntpError, clock.pc ≠ .reset ntpError .ok := by
        intro ntpError stopped
        simp only [Follows, stopped] at follows
      by_cases done : clock.pc = .firstTickDone
      · right
        have within : drawn clock = true := by simp [drawn, handling, done]
        cases first : clock.state.firstClockTick with
        | true =>
          exact empty (fresh_away inv happened (handling_of_drawn within) away (by simp [done])
            running (inv.first within first))
        | false =>
          rw [frame.lcdStates away running]
          exact (inv.lines alive).resolve_left (by simp [first])
      · rw [frame.firstClockTick done, frame.lcdStates away running]
        exact inv.lines alive
  · by_cases drawing : ∃ ii, clock.pc = .draw ii
    · obtain ⟨ii, at_pc⟩ := drawing
      exact draw_fresh inv at_pc clean happened
    · have away : ∀ ii, clock.pc ≠ .draw ii := fun ii at_pc => drawing ⟨ii, at_pc⟩
      have reading : clock.pc ≠ .readTime := by
        intro reading
        simp [note, reading] at redrawn
      rw [note_away dns udp tick reading away] at redrawn
      have expiring : clock.pc ≠ .expireIcon := by
        intro expiring
        simp [inv.begun expiring] at redrawn
      have within := (handling_enters happened after).resolve_right reading
      have running : ∀ ntpError, next.pc ≠ .reset ntpError .ok := by
        intro ntpError stopped
        simp [handling, stopped] at after
      exact fresh_away inv happened within away expiring running redrawn

theorem step_inv {pair next : Clock × Tick} (inv : Inv pair.1 pair.2) (clean : Clean pair event)
    (stepped : ticks.step pair event = some next) : Inv next.1 next.2 := by
  have settled := step_settled inv.toSettled stepped
  obtain ⟨clock, tick⟩ := pair
  obtain ⟨reached, tickAfter⟩ := next
  obtain ⟨happened, rfl⟩ := StepSystem.observed_step stepped
  rcases step_cases happened with ⟨interrupting, frame⟩ | ⟨dns, udp, rfl, ran⟩
  · rw [note_interrupt interrupting] at settled ⊢
    refine { settled with lines := ?_, fresh := ?_ }
    · rw [frame.pc, frame.firstClockTick, frame.lcdStates]
      exact inv.lines
    · rw [(interrupt_handling frame).1, frame.lcdStates, freshPanel_frame (by rw [frame.locals])
        frame.watchdogResetError (by rw [frame.locals])]
      exact inv.fresh
  · exact statement_inv inv settled clean ran

/-- With the invariant, a step shows the state exactly if it is clean. -/
theorem fresh_iff_clean {pair : Clock × Tick} (inv : Inv pair.1 pair.2) (event : Event) :
    Fresh pair event ↔ Clean pair event := by
  constructor
  · intro fresh
    cases event with
    | task dns udp =>
      intro drawing
      obtain ⟨clock, tick⟩ := pair
      dsimp only at drawing
      obtain ⟨next, happened⟩ : ∃ next, clock.statement dns udp = some next := by
        rw [← Option.isSome_iff_exists]
        simp only [Clock.statement, drawing, Option.isSome_some]
      have on : handling next = true := by
        have follows := statement_follows happened
        simp only [Follows, drawing] at follows
        rcases follows with ⟨jj, -, at_pc⟩ | ⟨-, at_pc⟩ <;> simp [handling, at_pc]
      have stepped : ticks.step (clock, tick) (.task dns udp) =
          some (next, note clock (.task dns udp) tick) :=
        StepSystem.observed_of_step tick happened
      have shows_ := fresh _ stepped (note_draw drawing dns udp tick) (.inl on)
      exact (draw_first_iff inv drawing happened).mp shows_.fresh drawing
    | _ => trivial
  · intro clean next stepped redrawn region
    have after := step_inv inv clean stepped
    apply showsState_of_fresh after.snapshot
    rcases region with within | done
    · exact after.fresh redrawn within
    · obtain ⟨clock, tick⟩ := pair
      obtain ⟨reached, tickAfter⟩ := next
      obtain ⟨happened, rfl⟩ := StepSystem.observed_step stepped
      have within : handling clock = true := by simp_all [handling]
      rcases step_cases happened with ⟨interrupting, frame⟩ | ⟨dns, udp, rfl, ran⟩
      · exact after.fresh redrawn ((interrupt_handling frame).1.trans within)
      · have away : ∀ ii, clock.pc ≠ .draw ii := by simp_all
        have follows := statement_follows ran
        dsimp only at done
        simp only [Follows, done] at follows
        rw [note_away dns udp tick (by simp [done]) away] at redrawn
        exact fresh_away inv ran within away (by simp [done]) (by simp [follows]) redrawn

/-- In a run of a started clock, every redraw leaves the first panel as a full
clear and redraw would, icons included, exactly if every redraw without a
watchdog error clears the panel or finds no watchdog icon on it. -/
theorem first_panel_is_fresh_iff (started : Started clock) (events : List Event) :
    ticks.EveryStep Fresh (clock, .none) events ↔ ticks.EveryStep Clean (clock, .none) events := by
  have begins := started_begins started
  have clean : hasIcon clock.locals.ntpAtomicState.error = true := by
    obtain ⟨gpio, watchdog, persistent, flash, systemMs, bootMs, -, rfl⟩ := started
    rfl
  have inv : Inv clock .none := by
    refine ⟨⟨DisplayRefresh.started_inv started, ?_, clean, ?_, ?_, ?_⟩, ?_, nofun⟩
    · rw [begins.ntpState]
      rfl
    · simp [drawn, handling, begins.pc, begins.starting]
    · simp [begins.pc]
    · simp [begins.pc]
    · exact fun _ => .inl begins.firstClockTick
  exact @StepSystem.everyStep_iff_where _ _ ticks _ _ (fun pair => Inv pair.1 pair.2) _ _
    (fun _ _ _ inv clean stepped => step_inv inv clean stepped)
    (fun _ event inv => fresh_iff_clean inv event) inv

/-- The first request and the first tick, up to the return of the call. -/
def firstCall : List Event :=
  let task := Event.task (.resolved 1) .sent
  List.replicate 4 task ++ .clockTimer 1 :: List.replicate 19 task

/-- The first tick clears the panel, which then shows the error of the reset. -/
theorem first_call_is_fresh : ticks.EveryStep Fresh (warmStart, .none) firstCall :=
  (first_panel_is_fresh_iff warmStart_started firstCall).mpr (by decide +kernel)

/-- The reply to the first request sets the clock from one Thursday to another.
The next tick forgets the error and draws the hour, and the icon of the error is
still on the panel, which a full clear and redraw would remove. -/
theorem icon_outlives_error :
    Started warmStart ∧ ∃ reached tick next,
      ticks.run (warmStart, .none)
          (firstCall ++ .recv ⟨1, 123, [0x24, 1] ++ List.replicate 46 0⟩ :: .clockTimer 1 ::
            List.replicate 23 (.task .inProgress .sent)) = some (reached, tick) ∧
        reached.pc = .firstTickDone ∧ tick.redrawn = true ∧
        running.step reached (.task .inProgress .sent) = some next ∧ next.pc = .returned ∧
        next.state.watchdogResetError = .ok ∧
        (next.state.lcdStates 0).watchdogIcon = some .ntp ∧
        (freshPanel next).watchdogIcon = none :=
  ⟨warmStart_started, _, _, _, rfl, rfl, rfl, rfl, rfl, rfl, rfl, rfl⟩

end PicowDayClock.FirstPanel
