import PicowDayClock.Firmware.Boot
import PicowDayClock.Firmware.Daylight
import PicowDayClock.Firmware.Ntp
import PicowDayClock.Library.StepSystem

/-! The running clock: `clock_task` one statement at a time, with the timer and
the network callbacks running to completion between any two statements. The
first request, which `clock_start` makes, is part of it. -/
namespace PicowDayClock.ClockTask
open Boot Daylight Ntp

/-- `WATCHDOG_ICON_INTERVAL`. -/
def watchdogIconInterval : Int := 60 * 60 * 24

/-! ## Local time -/

/-- `calculate_local_time`. -/
def calculateLocalTime (utcNow : Int) (config : FlashConfig) : Int :=
  let localTime := utcNow + config.tzOffsetMins * 60
  if timeIsDst utcNow config ≠ 0 then localTime + 3600 else localTime

/-- `gmtime_r(&t)->tm_wday`, `tm_hour` and `tm_min`. -/
def gmtimeWday (t : Int) : Nat := ((t / 86400 + 4) % 7).toNat
def gmtimeHour (t : Int) : Nat := (t % 86400 / 3600).toNat
def gmtimeMin (t : Int) : Nat := (t % 3600 / 60).toNat

/-- The table `day_of_week_str`. -/
def dayOfWeekStr (wday : Nat) : Bytes :=
  [ascii "Sun", ascii "Mon", ascii "Tue", ascii "Wed", ascii "Thu", ascii "Fri",
    ascii "Sat"].getD wday []

/-- The digit `'0' + (char)number`. -/
def digitChar (number : Nat) : Byte := 0x30 + number.toUInt8

/-- `lcd_digits`: the day of the week, the hour and the minute. -/
def lcdDigits (localEpoch : Int) (ii : Fin numLcds) : Byte :=
  (dayOfWeekStr (gmtimeWday localEpoch) ++
    [digitChar (gmtimeHour localEpoch / 10), digitChar (gmtimeHour localEpoch % 10),
      digitChar (gmtimeMin localEpoch / 10), digitChar (gmtimeMin localEpoch % 10)]).getD ii 0

/-! ## Callbacks of the clock -/

/-- `ntp_timer_callback`. -/
def ntpTimerCallback (state : ClockState) (ntpTime : Int) : ClockState :=
  { state with ntpTime := ntpTime, ntpTimeUpdated := true }

/-- `clock_timer_callback`, with its static counter of seconds. -/
def clockTimerCallback (state : ClockState) (buttonHoldSeconds gpio : Nat) : ClockState × Nat :=
  let ticked := { state with clockTickUpdated := true }
  if gpio = 0 then
    if buttonHoldSeconds + 1 ≥ factoryResetHoldTimeMs / 1000 then
      ({ ticked with apModeTriggered := true }, 0)
    else (ticked, buttonHoldSeconds + 1)
  else (ticked, 0)

/-- One round of the loop that redraws the panels. -/
def redraw (state : ClockState) (digits : Fin numLcds → Byte) (ntpError : NtpError)
    (ii : Fin numLcds) : ClockState :=
  let state :=
    if state.currentLcdDigits ii ≠ digits ii ∨ state.firstClockTick then
      state.onLcd ii fun lcd => lcdPrintClockDigit (lcdClearScreen lcd) (digits ii)
    else state
  let state :=
    if ii = 0 then
      state.onLcd 0 fun lcd => lcdUpdateIcons lcd state.watchdogResetError ntpError .ok
    else state
  { state with currentLcdDigits := fun jj =>
      if jj = ii then digits ii else state.currentLcdDigits jj }

/-! ## Statements -/

/-- The statement that comes next. A statement of a function that is called
stands in the place of the call. -/
inductive Pc where
  | snapshot
  | testTimeUpdated | clearTimeUpdated | readNtpTime | setTimeOfDay | markSynced
  | testTick | clearTick | updateWatchdog
  | readTime | expireIcon | compareDigits
  /-- The loop over the panels, from one panel on. A round reads and writes
  nothing that a callback touches. -/
  | draw (ii : Fin numLcds)
  | checkStatus | writeIdle
  | testInterval | markRequested
  | requestStart | requestPending | requestResolve | requestSend
  | firstTickDone
  /-- Back in the loop of `main`. -/
  | returned
  /-- `fatal_reset` has been called. -/
  | reset (ntpError : NtpError) (wifiError : WifiError)
  /-- `main` has left its loop for the access point. -/
  | accessPoint
  deriving DecidableEq

/-- The local variables of `clock_task` and of the functions it calls.
`starting` says that the request is the one of `clock_start`. -/
structure Locals where
  ntpAtomicState : NtpAtomicState
  tvSec : Int
  utcNow : Int
  localEpoch : Int
  requestStartMs : UInt32
  starting : Bool

/-- The clock while it runs, with the system time and the time since boot. -/
structure Clock where
  state : ClockState
  persistent : PersistentState
  buttonHoldSeconds : Nat
  pc : Pc
  locals : Locals
  systemMs : Int
  bootMs : Nat

/-- `time(NULL)`. -/
def Clock.time (clock : Clock) : Int := clock.systemMs / 1000

/-- `to_ms_since_boot(get_absolute_time())`, 32 bits of it. -/
def Clock.msSinceBoot (clock : Clock) : UInt32 := clock.bootMs.toUInt32

/-- `clock_start` from its request on, after a boot, the Wi-Fi connection and
`ntp_init`. -/
def Clock.start (booted : Booted) (systemMs : Int) (bootMs : Nat) : Clock where
  state := { (booted.state.onLcd 0 fun lcd =>
      let lcd := if booted.state.coldBoot then lcdPrintLine lcd .wifiOk else lcd
      lcdUpdateIcons lcd booted.state.watchdogResetError .ok .ok) with
    ntpState := ntpInit booted.state.flashConfig.ntpPort
    wifiInitialized := true }
  persistent := booted.persistent
  buttonHoldSeconds := 0
  pc := .requestStart
  locals := ⟨.of .zero, 0, 0, 0, 0, true⟩
  systemMs := systemMs
  bootMs := bootMs

/-- Moves on to another statement. -/
def Clock.goto (clock : Clock) (pc : Pc) : Clock := { clock with pc := pc }

/-- `fatal_reset`, which does not return. -/
def Clock.fatalReset (clock : Clock) (ntpError : NtpError) (wifiError : WifiError) : Clock :=
  let reset := Boot.fatalReset clock.state clock.persistent ntpError wifiError
  { clock with state := reset.1, persistent := reset.2, pc := .reset ntpError wifiError }

/-- Where `ntp_request_async` returns to. -/
def Clock.requestDone (clock : Clock) : Clock :=
  clock.goto (if clock.locals.starting then .returned else .firstTickDone)

/-- The `if` chain of `clock_task` over the snapshot of the status. -/
def Clock.checkStatus (clock : Clock) : Clock :=
  match clock.locals.ntpAtomicState.status with
  | .pending =>
    let nowMs := clock.msSinceBoot
    if (nowMs - clock.locals.ntpAtomicState.requestStartMs).toNat >
        clock.state.flashConfig.ntpTimeout then
      clock.fatalReset .timeoutError .ok
    else clock.goto .testInterval
  | .failed => clock.fatalReset clock.locals.ntpAtomicState.error .ok
  | .kod =>
    { clock with
      state := { clock.state with ntpInterval := clock.state.ntpInterval * 2 }
      pc := .writeIdle }
  | .success => clock.goto .writeIdle
  | .idle | .nullStatus => clock.goto .testInterval

/-- One statement of the task. `dns` and `udp` are what lwIP would answer; only
the request looks at them. -/
def Clock.statement (clock : Clock) (dns : DnsReply) (udp : UdpReply) : Option Clock :=
  let state := clock.state
  let locals := clock.locals
  match clock.pc with
  | .snapshot =>
    some { clock with
      locals := { locals with ntpAtomicState := .of state.ntpState, starting := false }
      pc := .testTimeUpdated }
  | .testTimeUpdated =>
    some (clock.goto (if state.ntpTimeUpdated then .clearTimeUpdated else .testTick))
  | .clearTimeUpdated =>
    some { clock with state := { state with ntpTimeUpdated := false }, pc := .readNtpTime }
  | .readNtpTime =>
    some { clock with locals := { locals with tvSec := state.ntpTime }, pc := .setTimeOfDay }
  | .setTimeOfDay =>
    some { clock with systemMs := 1000 * locals.tvSec, pc := .markSynced }
  | .markSynced =>
    some { clock with state := { state with ntpLastSync := clock.time }, pc := .testTick }
  | .testTick =>
    some (clock.goto (if state.clockTickUpdated then .clearTick else .returned))
  | .clearTick =>
    some { clock with state := { state with clockTickUpdated := false }, pc := .updateWatchdog }
  | .updateWatchdog => some (clock.goto .readTime)
  | .readTime =>
    let utcNow := clock.time
    some { clock with
      locals := { locals with
        utcNow := utcNow, localEpoch := calculateLocalTime utcNow state.flashConfig }
      pc := .expireIcon }
  | .expireIcon =>
    let expired := locals.localEpoch > state.lastWatchdogErrorTime + watchdogIconInterval
    some { clock with
      state := { state with
        watchdogResetError := if expired then .ok else state.watchdogResetError }
      pc := .compareDigits }
  | .compareDigits =>
    let digitsChanged := (List.finRange numLcds).any fun ii =>
      state.currentLcdDigits ii ≠ lcdDigits locals.localEpoch ii ∨ state.firstClockTick
    some (clock.goto (if digitsChanged then .draw 0 else .checkStatus))
  | .draw ii =>
    some { clock with
      state := redraw state (lcdDigits locals.localEpoch) locals.ntpAtomicState.error ii
      pc := if next : ii + 1 < numLcds then .draw ⟨ii + 1, next⟩ else .checkStatus }
  | .checkStatus => some clock.checkStatus
  | .writeIdle =>
    some { clock with
      state := { state with ntpState := ntpAtomicStatus state.ntpState .idle .nullError 0 }
      pc := .testInterval }
  | .testInterval =>
    let due := locals.utcNow - state.ntpLastSync ≥ state.ntpInterval.toNat
    some (clock.goto (if locals.ntpAtomicState.status = .idle ∧ due then .markRequested
      else .firstTickDone))
  | .markRequested =>
    some { clock with state := { state with ntpLastSync := locals.utcNow }, pc := .requestStart }
  | .requestStart =>
    some { clock with
      locals := { locals with requestStartMs := clock.msSinceBoot }, pc := .requestPending }
  | .requestPending =>
    some { clock with
      state := { state with
        ntpState := ntpAtomicStatus state.ntpState .pending .ok locals.requestStartMs }
      pc := .requestResolve }
  | .requestResolve =>
    match dns with
    | .resolved address =>
      some { clock with
        state := { state with
          ntpState := { state.ntpState with ntpServerAddress := address } }
        pc := .requestSend }
    | .inProgress => some clock.requestDone
    | .failed => some (clock.fatalReset .dnsError .ok)
  | .requestSend =>
    some { clock with
      state := { state with ntpState := ntpStartUdpRequest state.ntpState udp } }.requestDone
  | .firstTickDone =>
    some { clock with state := { state with firstClockTick := false }, pc := .returned }
  | .returned =>
    -- behind `clock_start` the loop begins with `clock_task`
    if state.apModeTriggered ∧ locals.starting = false then
      some { clock with state := { state with apModeTriggered := false }, pc := .accessPoint }
    else some (clock.goto .snapshot)
  | .reset _ _ | .accessPoint => none

/-! ## What a step can change -/

/-- A round of the loop over the panels changes the panels and the digits kept
for them. -/
theorem redraw_eq (state : ClockState) (digits : Fin numLcds → Byte) (ntpError : NtpError)
    (ii : Fin numLcds) :
    ∃ lcdStates currentLcdDigits, redraw state digits ntpError ii =
      { state with lcdStates := lcdStates, currentLcdDigits := currentLcdDigits } := by
  unfold redraw
  dsimp only
  split <;> split <;> exact ⟨_, _, rfl⟩

/-- The timer sets its flag and perhaps the one of the access point. -/
theorem clockTimerCallback_eq (state : ClockState) (buttonHoldSeconds gpio : Nat) :
    ∃ apModeTriggered, (clockTimerCallback state buttonHoldSeconds gpio).1 =
      { state with clockTickUpdated := true, apModeTriggered := apModeTriggered } := by
  unfold clockTimerCallback
  split
  · split <;> exact ⟨_, rfl⟩
  · exact ⟨_, rfl⟩

/-- The check of the status goes on, resets the chip, or has handled a KoD or a
success. -/
theorem checkStatus_cases (clock : Clock) :
    clock.checkStatus = clock.goto .testInterval ∨
      (∃ ntpError, clock.checkStatus = clock.fatalReset ntpError .ok) ∨
      (clock.locals.ntpAtomicState.status = .kod ∧
        clock.checkStatus = { clock with
          state := { clock.state with ntpInterval := clock.state.ntpInterval * 2 }
          pc := .writeIdle }) ∨
      (clock.locals.ntpAtomicState.status = .success ∧
        clock.checkStatus = clock.goto .writeIdle) := by
  unfold Clock.checkStatus
  cases status : clock.locals.ntpAtomicState.status with
  | pending =>
    dsimp only
    split
    · exact .inr (.inl ⟨_, rfl⟩)
    · exact .inl rfl
  | failed => exact .inr (.inl ⟨_, rfl⟩)
  | kod => exact .inr (.inr (.inl ⟨rfl, rfl⟩))
  | success => exact .inr (.inr (.inr ⟨rfl, rfl⟩))
  | idle | nullStatus => exact .inl rfl

/-! ## Events -/

/-- What happens next: a statement of the task, a callback, or time passing. -/
inductive Event where
  | task (dns : DnsReply) (udp : UdpReply)
  /-- `ntp_recv_callback`. -/
  | recv (datagram : Datagram)
  /-- `ntp_dns_callback`. -/
  | dns (ipaddr : Option IpAddr) (udp : UdpReply)
  /-- `ntp_timer_callback`, called with any time. -/
  | ntpTimer (ntpTime : Int)
  /-- `clock_timer_callback`. -/
  | clockTimer (gpio : Nat)
  | elapse (ms : Nat)

/-- The time handler, where a reply has a time for it. -/
def deliver (state : ClockState) : Option Int → ClockState
  | some ntpTime => ntpTimerCallback state ntpTime
  | none => state

@[simp] theorem deliver_ntpState (state : ClockState) (time : Option Int) :
    (deliver state time).ntpState = state.ntpState := by
  cases time <;> rfl

/-- The clock and everything that may interrupt it. -/
def running : StepSystem Clock Event where
  step clock
    | .task dns udp => clock.statement dns udp
    | .recv datagram =>
      let replied := ntpRecvCallback clock.state.ntpState datagram
      some { clock with
        state := deliver { clock.state with ntpState := replied.1 } replied.2 }
    | .dns ipaddr udp =>
      some { clock with state := { clock.state with
        ntpState := ntpDnsCallback clock.state.ntpState ipaddr udp } }
    | .ntpTimer ntpTime => some { clock with state := ntpTimerCallback clock.state ntpTime }
    | .clockTimer gpio =>
      let ticked := clockTimerCallback clock.state clock.buttonHoldSeconds gpio
      some { clock with state := ticked.1, buttonHoldSeconds := ticked.2 }
    | .elapse ms =>
      some { clock with systemMs := clock.systemMs + ms, bootMs := clock.bootMs + ms }

/-- A clock that `clock_init` has returned to, wherever it came from. -/
def Started (clock : Clock) : Prop :=
  ∃ gpio watchdog persistent flash systemMs bootMs,
    (clockInit gpio watchdog persistent flash).progress = .returned ∧
      clock = .start (clockInit gpio watchdog persistent flash) systemMs bootMs

/-- A flash that holds a configuration with the usual port and timeout. -/
def plainFlash : FlashConfig where
  __ := FlashConfig.zero
  magicMarker := configMagic
  ntpTimeout := ntpDefaultTimeoutMs
  ntpPort := ntpDefaultPort

/-- The clock after power-on with such a flash and the button released. -/
def coldStart : Clock := .start (clockInit (fun _ => 1) false .zero plainFlash) 0 0

theorem coldStart_started : Started coldStart :=
  ⟨fun _ => 1, false, .zero, plainFlash, 0, 0, rfl, rfl⟩

/-- A clock after a reset for an NTP timeout, three seconds after the reset. -/
def warmStart : Clock :=
  .start (clockInit (fun _ => 1) true ⟨0x434C4F4B, 0, .timeoutError, .ok⟩ plainFlash) 3000 3000

theorem warmStart_started : Started warmStart :=
  ⟨fun _ => 1, true, ⟨0x434C4F4B, 0, .timeoutError, .ok⟩, plainFlash, 3000, 3000, rfl, rfl⟩

end PicowDayClock.ClockTask
