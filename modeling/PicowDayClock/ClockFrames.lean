import PicowDayClock.Firmware.ClockTask

/-! What the steps of the running clock leave alone, and where the task goes
from each statement. An invariant of the clock looks only at the statements
that write what it speaks about. -/
namespace PicowDayClock.ClockFrames
open Boot Ntp ClockTask

/-! ## Panels -/

/-- The icons are drawn beside the digit and the lines. -/
theorem lcdUpdateIcons_frame (lcd : LcdState) (watchdogError : WatchdogError)
    (ntpError : NtpError) (wifiError : WifiError) :
    (lcdUpdateIcons lcd watchdogError ntpError wifiError).digit = lcd.digit ∧
      (lcdUpdateIcons lcd watchdogError ntpError wifiError).lines = lcd.lines := by
  cases watchdogError <;> cases ntpError <;> cases wifiError <;> exact ⟨rfl, rfl⟩

/-! ## Statements -/

/-- The statements that write `ntp_state`. -/
def storesNtp : Pc → Bool
  | .writeIdle | .requestPending | .requestResolve | .requestSend => true
  | _ => false

/-- What a statement of the task may have written. -/
structure Frame (clock next : Clock) : Prop where
  flashConfig : next.state.flashConfig = clock.state.flashConfig
  lastWatchdogErrorTime :
    next.state.lastWatchdogErrorTime = clock.state.lastWatchdogErrorTime
  bootMs : next.bootMs = clock.bootMs
  systemMs : clock.pc ≠ .setTimeOfDay → next.systemMs = clock.systemMs
  ntpInterval : clock.pc ≠ .checkStatus → next.state.ntpInterval = clock.state.ntpInterval
  ntpLastSync : clock.pc ≠ .markSynced → clock.pc ≠ .markRequested →
    next.state.ntpLastSync = clock.state.ntpLastSync
  watchdogResetError : clock.pc ≠ .expireIcon →
    next.state.watchdogResetError = clock.state.watchdogResetError
  firstClockTick : clock.pc ≠ .firstTickDone →
    next.state.firstClockTick = clock.state.firstClockTick
  currentLcdDigits : (∀ ii, clock.pc ≠ .draw ii) →
    next.state.currentLcdDigits = clock.state.currentLcdDigits
  digits : (∀ ii, clock.pc ≠ .draw ii) →
    ∀ ii, (next.state.lcdStates ii).digit = (clock.state.lcdStates ii).digit
  lcdStates : (∀ ii, clock.pc ≠ .draw ii) → (∀ ntpError, next.pc ≠ .reset ntpError .ok) →
    next.state.lcdStates = clock.state.lcdStates
  ntpState : storesNtp clock.pc = false → next.state.ntpState = clock.state.ntpState
  snapshot : clock.pc ≠ .snapshot →
    next.locals.ntpAtomicState = clock.locals.ntpAtomicState ∧
      next.locals.starting = clock.locals.starting
  times : clock.pc ≠ .readTime →
    next.locals.utcNow = clock.locals.utcNow ∧ next.locals.localEpoch = clock.locals.localEpoch
  requestStartMs : clock.pc ≠ .requestStart →
    next.locals.requestStartMs = clock.locals.requestStartMs

/-- A statement that only moves on. -/
theorem Frame.goto (clock : Clock) (pc : Pc) : Frame clock (clock.goto pc) where
  flashConfig := rfl
  lastWatchdogErrorTime := rfl
  bootMs := rfl
  systemMs _ := rfl
  ntpInterval _ := rfl
  ntpLastSync _ _ := rfl
  watchdogResetError _ := rfl
  firstClockTick _ := rfl
  currentLcdDigits _ := rfl
  digits _ _ := rfl
  lcdStates _ _ := rfl
  ntpState _ := rfl
  snapshot _ := ⟨rfl, rfl⟩
  times _ := ⟨rfl, rfl⟩
  requestStartMs _ := rfl

/-- `fatal_reset` draws on the first panel and writes what lasts. -/
theorem Frame.fatalReset (clock : Clock) (ntpError : NtpError) :
    Frame clock (clock.fatalReset ntpError .ok) where
  flashConfig := rfl
  lastWatchdogErrorTime := rfl
  bootMs := rfl
  systemMs _ := rfl
  ntpInterval _ := rfl
  ntpLastSync _ _ := rfl
  watchdogResetError _ := rfl
  firstClockTick _ := rfl
  currentLcdDigits _ := rfl
  digits _ ii := by
    simp only [Clock.fatalReset, Boot.fatalReset, ClockState.onLcd]
    split
    · exact (lcdUpdateIcons_frame _ _ _ _).1
    · rfl
  lcdStates _ running := absurd rfl (running ntpError)
  ntpState _ := rfl
  snapshot _ := ⟨rfl, rfl⟩
  times _ := ⟨rfl, rfl⟩
  requestStartMs _ := rfl

/-- The check of the status writes the interval at most. -/
theorem checkStatus_frame {clock : Clock} (at_pc : clock.pc = .checkStatus) :
    Frame clock clock.checkStatus := by
  rcases checkStatus_cases clock with on | ⟨ntpError, reset⟩ | ⟨-, kod⟩ | ⟨-, success⟩
  · rw [on]
    exact .goto clock _
  · rw [reset]
    exact .fatalReset clock ntpError
  · rw [kod]
    constructor <;> intros <;> first | rfl | exact ⟨rfl, rfl⟩ | contradiction
  · rw [success]
    exact .goto clock _

/-- A round of the loop over the panels writes the panels and their digits. -/
theorem draw_frame {clock next : Clock} {ii : Fin numLcds} (at_pc : clock.pc = .draw ii)
    (happened : clock.statement dns udp = some next) : Frame clock next := by
  obtain ⟨state, persistent, hold, pc, locals, systemMs, bootMs⟩ := clock
  cases at_pc
  cases happened
  obtain ⟨lcdStates, digits, drawn⟩ := redraw_eq state (lcdDigits locals.localEpoch)
    locals.ntpAtomicState.error ii
  rw [drawn]
  constructor <;> intros <;>
    first | rfl | exact ⟨rfl, rfl⟩ | exact absurd rfl (‹∀ jj, Pc.draw ii ≠ .draw jj› ii)

/-- What every statement leaves alone. -/
theorem statement_frame {clock next : Clock} (happened : clock.statement dns udp = some next) :
    Frame clock next := by
  obtain ⟨state, persistent, hold, pc, locals, systemMs, bootMs⟩ := clock
  cases pc with
  | checkStatus =>
    cases happened
    exact checkStatus_frame rfl
  | draw ii => exact draw_frame rfl happened
  | requestResolve =>
    cases dns with
    | resolved address =>
      cases happened
      constructor <;> intros <;> first | rfl | exact ⟨rfl, rfl⟩ | contradiction
    | inProgress =>
      cases happened
      exact .goto _ _
    | failed =>
      cases happened
      exact .fatalReset _ _
  | returned =>
    simp only [Clock.statement] at happened
    split at happened
    · cases happened
      constructor <;> intros <;> first | rfl | exact ⟨rfl, rfl⟩
    · cases happened
      exact .goto _ _
  | reset ntpError wifiError => cases happened
  | accessPoint => cases happened
  | testTimeUpdated | testTick | updateWatchdog | compareDigits | testInterval =>
    cases happened
    exact .goto _ _
  | _ =>
    cases happened
    constructor <;> intros <;> first | rfl | exact ⟨rfl, rfl⟩ | contradiction

/-! ## The first state -/

/-- Where a run of the clock begins. -/
structure Begins (clock : Clock) : Prop where
  pc : clock.pc = .requestStart
  starting : clock.locals.starting = true
  firstClockTick : clock.state.firstClockTick = true
  ntpInterval : clock.state.ntpInterval = ntpSyncIntervalSec.toUInt32
  lastWatchdogErrorTime : clock.state.lastWatchdogErrorTime = 0
  ntpState : clock.state.ntpState = ntpInit clock.state.flashConfig.ntpPort

theorem started_begins (started : Started clock) : Begins clock := by
  obtain ⟨gpio, watchdog, persistent, flash, systemMs, bootMs, returned, rfl⟩ := started
  unfold clockInit at returned ⊢
  split at returned
  · cases returned
  · rename_i released
    rw [if_neg released]
    dsimp only at returned ⊢
    split at returned
    · rename_i valid
      rw [if_pos valid]
      have never : ∀ state, (reportReset (!watchdog) state persistent).1.lastWatchdogErrorTime =
          state.lastWatchdogErrorTime := by
        intro state
        cases watchdog <;> rfl
      exact ⟨rfl, rfl, rfl, rfl, never _, rfl⟩
    · cases returned

/-! ## The order of the statements -/

/-- The statements that may come after the one at hand. -/
def Follows (clock : Clock) (next : Pc) : Prop :=
  match clock.pc with
  | .snapshot => next = .testTimeUpdated
  | .testTimeUpdated => next = .clearTimeUpdated ∨ next = .testTick
  | .clearTimeUpdated => next = .readNtpTime
  | .readNtpTime => next = .setTimeOfDay
  | .setTimeOfDay => next = .markSynced
  | .markSynced => next = .testTick
  | .testTick => next = .clearTick ∨ next = .returned
  | .clearTick => next = .updateWatchdog
  | .updateWatchdog => next = .readTime
  | .readTime => next = .expireIcon
  | .expireIcon => next = .compareDigits
  | .compareDigits => next = .draw 0 ∨ next = .checkStatus
  | .draw ii =>
    (∃ jj : Fin numLcds, jj.val = ii.val + 1 ∧ next = .draw jj) ∨
      (ii.val + 1 = numLcds ∧ next = .checkStatus)
  | .checkStatus =>
    next = .testInterval ∨ next = .writeIdle ∨ ∃ ntpError, next = .reset ntpError .ok
  | .writeIdle => next = .testInterval
  | .testInterval => next = .markRequested ∨ next = .firstTickDone
  | .markRequested => next = .requestStart
  | .requestStart => next = .requestPending
  | .requestPending => next = .requestResolve
  | .requestResolve =>
    next = .requestSend ∨ next = (if clock.locals.starting then .returned else .firstTickDone) ∨
      next = .reset .dnsError .ok
  | .requestSend => next = if clock.locals.starting then .returned else .firstTickDone
  | .firstTickDone => next = .returned
  | .returned => next = .snapshot ∨ next = .accessPoint
  | .reset _ _ | .accessPoint => False

theorem checkStatus_follows {clock : Clock} (at_pc : clock.pc = .checkStatus) :
    Follows clock clock.checkStatus.pc := by
  unfold Follows
  rw [at_pc]
  rcases checkStatus_cases clock with on | ⟨ntpError, reset⟩ | ⟨-, kod⟩ | ⟨-, success⟩
  · rw [on]
    exact .inl rfl
  · rw [reset]
    exact .inr (.inr ⟨ntpError, rfl⟩)
  · rw [kod]
    exact .inr (.inl rfl)
  · rw [success]
    exact .inr (.inl rfl)

/-- The task goes on to one of the statements that follow. -/
theorem statement_follows {clock next : Clock} (happened : clock.statement dns udp = some next) :
    Follows clock next.pc := by
  obtain ⟨state, persistent, hold, pc, locals, systemMs, bootMs⟩ := clock
  cases pc with
  | testTimeUpdated | testTick | compareDigits | testInterval =>
    cases happened
    dsimp only [Follows, Clock.goto]
    split
    · exact .inl rfl
    · exact .inr rfl
  | draw ii =>
    cases happened
    dsimp only [Follows]
    split
    · exact .inl ⟨_, rfl, rfl⟩
    · exact .inr ⟨by omega, rfl⟩
  | checkStatus =>
    cases happened
    exact checkStatus_follows rfl
  | requestResolve =>
    cases dns with
    | resolved address =>
      cases happened
      exact .inl rfl
    | inProgress =>
      cases happened
      exact .inr (.inl rfl)
    | failed =>
      cases happened
      exact .inr (.inr rfl)
  | returned =>
    simp only [Clock.statement] at happened
    split at happened
    · cases happened
      exact .inr rfl
    · cases happened
      exact .inl rfl
  | reset ntpError wifiError => cases happened
  | accessPoint => cases happened
  | _ =>
    cases happened
    exact rfl

/-- The statements that may come before one. -/
def Comes (clock : Clock) : Pc → Prop
  | .testTimeUpdated => clock.pc = .snapshot
  | .clearTimeUpdated => clock.pc = .testTimeUpdated
  | .readNtpTime => clock.pc = .clearTimeUpdated
  | .setTimeOfDay => clock.pc = .readNtpTime
  | .expireIcon => clock.pc = .readTime
  | .compareDigits => clock.pc = .expireIcon
  | .draw jj => (jj = 0 ∧ clock.pc = .compareDigits) ∨
      ∃ ii : Fin numLcds, jj.val = ii.val + 1 ∧ clock.pc = .draw ii
  | .writeIdle => clock.pc = .checkStatus
  | .testInterval => clock.pc = .checkStatus ∨ clock.pc = .writeIdle
  | .markRequested => clock.pc = .testInterval
  | .requestStart => clock.pc = .markRequested
  | .requestPending => clock.pc = .requestStart
  | _ => True

theorem statement_comes {clock next : Clock} (happened : clock.statement dns udp = some next) :
    Comes clock next.pc := by
  have follows := statement_follows happened
  unfold Follows at follows
  cases at_pc : clock.pc with
  | requestResolve | requestSend =>
    simp only [at_pc] at follows
    cases starting : clock.locals.starting <;> grind [Comes]
  | reset _ _ | accessPoint => simp [at_pc] at follows
  | _ =>
    simp only [at_pc] at follows
    grind [Comes]

/-- The task goes on to a request from an idle client whose interval is over. -/
theorem testInterval_asks {clock next : Clock} (testing : clock.pc = .testInterval)
    (happened : clock.statement dns udp = some next) (asks : next.pc = .markRequested) :
    next = clock.goto .markRequested ∧ clock.locals.ntpAtomicState.status = .idle ∧
      (clock.state.ntpInterval.toNat : Int) ≤ clock.locals.utcNow - clock.state.ntpLastSync := by
  simp only [Clock.statement, testing, Option.some.injEq] at happened
  subst happened
  split at asks
  · rename_i due
    rw [if_pos due]
    exact ⟨rfl, due⟩
  · cases asks

/-! ## Handling a tick -/

/-- The clock is in a call of `clock_task` that has read the time. -/
def handling (clock : Clock) : Bool :=
  match clock.pc with
  | .expireIcon | .compareDigits | .draw _ | .checkStatus | .writeIdle | .testInterval
  | .markRequested | .firstTickDone => true
  | .requestStart | .requestPending | .requestResolve | .requestSend => !clock.locals.starting
  | _ => false

/-- The clock is in such a call, behind the loop over the panels. -/
def drawn (clock : Clock) : Bool :=
  match clock.pc with
  | .expireIcon | .compareDigits | .draw _ => false
  | _ => handling clock

theorem handling_of_drawn {clock : Clock} (behind : drawn clock = true) :
    handling clock = true := by
  unfold drawn at behind
  split at behind
  · cases behind
  · cases behind
  · cases behind
  · exact behind

/-- The time is not read or set while a tick is handled. -/
theorem handling_away {clock : Clock} (within : handling clock = true) :
    clock.pc ≠ .snapshot ∧ clock.pc ≠ .setTimeOfDay ∧ clock.pc ≠ .markSynced ∧
      clock.pc ≠ .readTime := by
  refine ⟨?_, ?_, ?_, ?_⟩ <;>
  · intro at_pc
    simp [handling, at_pc] at within

/-- It is read where the handling begins. -/
theorem handling_enters {clock next : Clock} (happened : clock.statement dns udp = some next)
    (after : handling next = true) : handling clock = true ∨ clock.pc = .readTime := by
  have follows := statement_follows happened
  have frame := statement_frame happened
  unfold Follows at follows
  cases at_pc : clock.pc with
  | readTime => exact .inr rfl
  | expireIcon | compareDigits | draw _ | checkStatus | writeIdle | testInterval
  | markRequested | firstTickDone =>
    left
    simp [handling, at_pc]
  | requestStart | requestPending | requestResolve | requestSend =>
    left
    have same := (frame.snapshot (by simp [at_pc])).2
    cases starting : clock.locals.starting with
    | false => simp [handling, at_pc, starting]
    | true =>
      simp only [at_pc, starting] at follows
      rw [starting] at same
      grind [handling]
  | _ => grind [handling]

/-- The loop is left behind its last round, or is not entered. -/
theorem drawn_enters {clock next : Clock} (happened : clock.statement dns udp = some next)
    (after : drawn next = true) :
    drawn clock = true ∨ (clock.pc = .compareDigits ∧ next.pc = .checkStatus) ∨
      ∃ ii, clock.pc = .draw ii ∧ ii.val + 1 = numLcds := by
  have follows := statement_follows happened
  unfold Follows at follows
  rcases handling_enters happened (handling_of_drawn after) with within | reading
  · cases at_pc : clock.pc with
    | expireIcon =>
      simp only [at_pc] at follows
      simp [drawn, follows] at after
    | compareDigits =>
      simp only [at_pc] at follows
      rcases follows with draws | checks
      · simp [drawn, draws] at after
      · exact .inr (.inl ⟨rfl, checks⟩)
    | draw ii =>
      simp only [at_pc] at follows
      rcases follows with ⟨jj, -, draws⟩ | ⟨last, -⟩
      · simp [drawn, draws] at after
      · exact .inr (.inr ⟨ii, rfl, last⟩)
    | _ =>
      left
      simpa [drawn, at_pc] using within
  · simp only [reading] at follows
    simp [drawn, follows] at after

/-! ## Callbacks -/

/-- What a callback or the passing of time may have written, wherever it
interrupts the task. -/
structure Interrupt (clock next : Clock) : Prop where
  pc : next.pc = clock.pc
  locals : next.locals = clock.locals
  later : clock.systemMs ≤ next.systemMs ∧ clock.bootMs ≤ next.bootMs
  requestStartMs : next.state.ntpState.requestStartMs = clock.state.ntpState.requestStartMs
  flashConfig : next.state.flashConfig = clock.state.flashConfig
  lastWatchdogErrorTime :
    next.state.lastWatchdogErrorTime = clock.state.lastWatchdogErrorTime
  ntpInterval : next.state.ntpInterval = clock.state.ntpInterval
  ntpLastSync : next.state.ntpLastSync = clock.state.ntpLastSync
  watchdogResetError : next.state.watchdogResetError = clock.state.watchdogResetError
  firstClockTick : next.state.firstClockTick = clock.state.firstClockTick
  currentLcdDigits : next.state.currentLcdDigits = clock.state.currentLcdDigits
  lcdStates : next.state.lcdStates = clock.state.lcdStates

/-- The events that are not statements of the task. -/
def interrupts : Event → Bool
  | .task _ _ => false
  | _ => true

theorem ntpDnsCallback_requestStartMs (state : NtpState) (ipaddr : Option IpAddr)
    (udp : UdpReply) :
    (ntpDnsCallback state ipaddr udp).requestStartMs = state.requestStartMs := by
  unfold ntpDnsCallback
  split
  · unfold ntpStartUdpRequest
    split <;> rfl
  · rfl

/-- What every callback leaves alone. -/
theorem interrupt_frame {clock next : Clock} (interrupting : interrupts event = true)
    (happened : running.step clock event = some next) : Interrupt clock next := by
  cases event with
  | task dns udp => cases interrupting
  | recv datagram =>
    cases happened
    cases (ntpRecvCallback clock.state.ntpState datagram).2 <;>
      exact ⟨rfl, rfl, ⟨Int.le_refl _, Nat.le_refl _⟩, rfl, rfl, rfl, rfl, rfl, rfl, rfl, rfl, rfl⟩
  | dns ipaddr udp =>
    cases happened
    exact ⟨rfl, rfl, ⟨Int.le_refl _, Nat.le_refl _⟩, ntpDnsCallback_requestStartMs _ _ _,
      rfl, rfl, rfl, rfl, rfl, rfl, rfl, rfl⟩
  | ntpTimer ntpTime =>
    cases happened
    exact ⟨rfl, rfl, ⟨Int.le_refl _, Nat.le_refl _⟩, rfl, rfl, rfl, rfl, rfl, rfl, rfl, rfl, rfl⟩
  | clockTimer gpio =>
    cases happened
    obtain ⟨triggered, ticked⟩ :=
      clockTimerCallback_eq clock.state clock.buttonHoldSeconds gpio
    rw [ticked]
    exact ⟨rfl, rfl, ⟨Int.le_refl _, Nat.le_refl _⟩, rfl, rfl, rfl, rfl, rfl, rfl, rfl, rfl, rfl⟩
  | elapse ms =>
    cases happened
    refine ⟨rfl, rfl, ⟨?_, Nat.le_add_right _ _⟩, rfl, rfl, rfl, rfl, rfl, rfl, rfl, rfl, rfl⟩
    dsimp only
    omega

/-- An event is a statement of the task or an interrupt. -/
theorem step_cases {clock next : Clock} {event : Event}
    (happened : running.step clock event = some next) :
    (interrupts event = true ∧ Interrupt clock next) ∨
      ∃ dns udp, event = .task dns udp ∧ clock.statement dns udp = some next := by
  cases event with
  | task dns udp => exact .inr ⟨dns, udp, rfl, happened⟩
  | _ => exact .inl ⟨rfl, interrupt_frame rfl happened⟩

end PicowDayClock.ClockFrames
