import PicowDayClock.AccessPoint
import PicowDayClock.Firmware.ClockTask

/-! The device over its whole life: boots, the running clock, access-point
sessions, and resets of any kind between two steps. Only flash lasts from boot
to boot here; the RAM that survives a reset may hold anything. -/
namespace PicowDayClock.DeviceLifetime
open Boot Wifi

/-- What the device is doing. -/
inductive Phase where
  | off
  /-- `clock_init` has returned. -/
  | clock (clock : ClockTask.Clock)
  /-- In `start_wifi_access_point`. -/
  | serving (session : Session) (portal : AccessPoint.Portal)

structure Device where
  flash : FlashConfig
  phase : Phase

/-- What happens to the device. The page and the address belong to the
access-point session that starts, if one does. -/
inductive Event where
  | boot (gpio : Nat → Nat) (watchdogCausedReboot : Bool) (persistent : PersistentState)
      (systemMs : Int) (bootMs : Nat) (page : Bytes) (gw : Gateway)
  | clock (event : ClockTask.Event)
  | openAccessPoint (page : Bytes) (gw : Gateway)
  | portal (event : AccessPoint.Event)
  /-- A reboot by the code or the watchdog, or a loss of power. -/
  | reset

/-- A session of `start_wifi_access_point` with `config_store_handler`, which
returns true whenever it returns. -/
def storingSession (page : Bytes) (gw : Gateway) (flashConfig : Option FlashConfig) : Session where
  htmlFormExpanded := page
  gw := gw
  flashConfig := flashConfig
  storeConfig := fun _ => true

/-- The configurations given to `store_config` while an event is handled. -/
def storesOf (session : Session) (portal : AccessPoint.Portal) :
    AccessPoint.Event → List FlashConfig
  | .accept _ _ => []
  | .report pcb report =>
    match portal.registered pcb with
    | none => []
    | some slot =>
      (AccessPoint.callback session (portal.server.connections slot) report).stores

/-- What flash holds after these calls of `config_store_handler`. -/
def flashAfter (flash : FlashConfig) (stores : List FlashConfig) : FlashConfig :=
  stores.foldl (fun _ config => configStoreHandler config false) flash

/-- `clock_init` and what follows it. -/
def afterBoot (booted : Booted) (systemMs : Int) (bootMs : Nat) (page : Bytes) (gw : Gateway) :
    Device where
  flash := booted.flash
  phase :=
    match booted.progress with
    | .returned => .clock (.start booted systemMs bootMs)
    | .accessPoint => .serving (storingSession page gw none) .opened
    | .factoryReset => .off

/-- The device and everything that may happen to it. -/
def lifetimes : StepSystem Device Event where
  step device event :=
    match event, device.phase with
    | .boot gpio watchdogCausedReboot persistent systemMs bootMs page gw, .off =>
      let booted := clockInit gpio watchdogCausedReboot persistent device.flash
      some (afterBoot booted systemMs bootMs page gw)
    | .clock event, .clock clock =>
      (ClockTask.running.step clock event).map fun next => { device with phase := .clock next }
    | .openAccessPoint page gw, .clock clock =>
      if clock.pc = .accessPoint then
        some { device with
          phase := .serving (storingSession page gw (some clock.state.flashConfig)) .opened }
      else none
    | .portal event, .serving session portal =>
      ((AccessPoint.portal session).step portal event).map fun next =>
        { flash := flashAfter device.flash (storesOf session portal event)
          phase := .serving session next }
    | .reset, _ => some { device with phase := .off }
    | _, _ => none

/-! ## What the clock leaves alone -/

/-- The check of the status keeps the configuration. -/
theorem checkStatus_flashConfig (clock : ClockTask.Clock) :
    clock.checkStatus.state.flashConfig = clock.state.flashConfig := by
  rcases ClockTask.checkStatus_cases clock with next | ⟨ntpError, next⟩ | ⟨-, next⟩ | ⟨-, next⟩ <;>
    rw [next] <;> rfl

theorem statement_flashConfig {clock next : ClockTask.Clock}
    (happened : clock.statement dns udp = some next) :
    next.state.flashConfig = clock.state.flashConfig := by
  unfold ClockTask.Clock.statement at happened
  dsimp only at happened
  cases pc : clock.pc with
  | checkStatus =>
    rw [pc] at happened
    cases happened
    exact checkStatus_flashConfig clock
  | draw ii =>
    rw [pc] at happened
    cases happened
    obtain ⟨lcdStates, currentLcdDigits, drawn⟩ := ClockTask.redraw_eq clock.state
      (ClockTask.lcdDigits clock.locals.localEpoch) clock.locals.ntpAtomicState.error ii
    dsimp only
    rw [drawn]
  | requestResolve =>
    rw [pc] at happened
    cases dns with
    | resolved address =>
      cases happened
      rfl
    | inProgress =>
      cases happened
      rfl
    | failed =>
      cases happened
      rfl
  | returned =>
    rw [pc] at happened
    dsimp only at happened
    split at happened
    · cases happened
      rfl
    · cases happened
      rfl
  | reset ntpError wifiError =>
    rw [pc] at happened
    cases happened
  | accessPoint =>
    rw [pc] at happened
    cases happened
  | _ =>
    rw [pc] at happened
    cases happened
    rfl

/-- No step of the running clock changes the configuration it loaded. -/
theorem running_flashConfig {clock next : ClockTask.Clock} {event : ClockTask.Event}
    (happened : ClockTask.running.step clock event = some next) :
    next.state.flashConfig = clock.state.flashConfig := by
  cases event with
  | task dns udp => exact statement_flashConfig happened
  | clockTimer gpio =>
    cases happened
    obtain ⟨apModeTriggered, ticked⟩ :=
      ClockTask.clockTimerCallback_eq clock.state clock.buttonHoldSeconds gpio
    dsimp only
    rw [ticked]
  | recv datagram =>
    cases happened
    dsimp only
    cases (Ntp.ntpRecvCallback clock.state.ntpState datagram).2 <;> rfl
  | dns ipaddr udp =>
    cases happened
    rfl
  | ntpTimer ntpTime =>
    cases happened
    rfl
  | elapse ms =>
    cases happened
    rfl

end PicowDayClock.DeviceLifetime
