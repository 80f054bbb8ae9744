import PicowDayClock.Firmware.ClockState

/-! Starting and ending one boot: `clock_init`, `config_store_handler` and
`fatal_reset`. `system_reboot` does not return, so a call of it ends the
function it stands in. -/
namespace PicowDayClock.Boot

/-- `FACTORY_RESET_HOLD_TIME_MS`. -/
def factoryResetHoldTimeMs : Nat := 3000

/-- `config_store_handler`: what flash holds afterwards. -/
def configStoreHandler (config : FlashConfig) (invalidate : Bool) : FlashConfig :=
  { config with magicMarker := if invalidate then 0xFFFFFFFF else configMagic }

/-- The first loop of `clock_init`: the button reads 0 in each sample. -/
def factoryResetHeld (gpio : Nat → Nat) : Bool :=
  (List.range (factoryResetHoldTimeMs / 100)).all fun ii => gpio ii = 0

/-- How far `clock_init` comes. -/
inductive Progress where
  /-- `clock_init` returns to `main`. -/
  | returned
  /-- It serves the access point, without a configuration, and then reboots. -/
  | accessPoint
  /-- It has invalidated the flash and reboots. -/
  | factoryReset
  deriving DecidableEq

/-- What `clock_init` leaves behind. -/
structure Booted where
  progress : Progress
  state : ClockState
  persistent : PersistentState
  flash : FlashConfig

/-- The cold and the warm branch of `clock_init`. -/
def reportReset (coldBoot : Bool) (state : ClockState) (persistent : PersistentState) :
    ClockState × PersistentState :=
  if coldBoot then
    (state.onLcd 0 fun lcd => lcdPrintLine lcd .initOk,
      { PersistentState.zero with magicMarker := configMagic.toUInt32 })
  else
    let watchdogError : WatchdogError :=
      if persistent.ntpError ≠ .ok then .ntp
      else if persistent.wifiError ≠ .ok then .wifi
      else .reset
    let shown := state.onLcd 0 fun lcd =>
      lcdUpdateIcons lcd watchdogError persistent.ntpError persistent.wifiError
    ({ shown with
        watchdogResetError := watchdogError
        ntpResetError := persistent.ntpError
        wifiResetError := persistent.wifiError },
      { persistent with
        bootCount := persistent.bootCount + 1
        ntpError := .ok
        wifiError := .ok })

/-- `clock_init`. Nothing in it reads the magic marker of `persistent_state`. -/
def clockInit (gpio : Nat → Nat) (watchdogCausedReboot : Bool) (persistent : PersistentState)
    (flash : FlashConfig) : Booted :=
  let coldBoot := !watchdogCausedReboot
  let state := { ClockState.zero with coldBoot := coldBoot }
  if factoryResetHeld gpio then
    { progress := .factoryReset, state := state, persistent := persistent
      flash := configStoreHandler .zero true }
  else
    let (state, persistent) := reportReset coldBoot state persistent
    if flash.magicMarker = configMagic then
      { progress := .returned
        state := { state with
          flashConfig := flash
          ntpLastSync := state.ntpTime
          ntpInterval := ntpSyncIntervalSec.toUInt32
          firstClockTick := true }
        persistent := persistent, flash := flash }
    else
      let state := state.onLcd 0 fun lcd =>
        lcdPrintLine (lcdPrintLine lcd .flashError) .wifiError
      { progress := .accessPoint, state := state, persistent := persistent, flash := flash }

theorem reportReset_ntpTimeUpdated (coldBoot : Bool) (state : ClockState)
    (persistent : PersistentState) :
    (reportReset coldBoot state persistent).1.ntpTimeUpdated = state.ntpTimeUpdated := by
  cases coldBoot <;> rfl

/-- No branch raises the flag of the NTP callback. -/
theorem clockInit_ntpTimeUpdated :
    (clockInit gpio watchdog persistent flash).state.ntpTimeUpdated = false := by
  unfold clockInit
  split
  · rfl
  · split
    · exact reportReset_ntpTimeUpdated ..
    · exact reportReset_ntpTimeUpdated ..

/-- What `clock_init` leaves when it returns. -/
theorem clockInit_eq (returned : (clockInit gpio watchdog persistent flash).progress = .returned) :
    let reported := reportReset (!watchdog) { ClockState.zero with coldBoot := !watchdog } persistent
    clockInit gpio watchdog persistent flash =
      { progress := .returned
        state := { reported.1 with
          flashConfig := flash
          ntpLastSync := reported.1.ntpTime
          ntpInterval := ntpSyncIntervalSec.toUInt32
          firstClockTick := true }
        persistent := reported.2, flash := flash } := by
  unfold clockInit at returned ⊢
  dsimp only at returned ⊢
  split at returned
  · cases returned
  · rename_i released
    rw [if_neg released]
    split at returned
    · rename_i valid
      rw [if_pos valid]
    · cases returned

/-- The writes of `fatal_reset`, before the watchdog reboots the chip. -/
def fatalReset (state : ClockState) (persistent : PersistentState) (ntpError : NtpError)
    (wifiError : WifiError) : ClockState × PersistentState :=
  (state.onLcd 0 fun lcd => lcdUpdateIcons lcd .reset ntpError wifiError,
    { persistent with ntpError := ntpError, wifiError := wifiError })

end PicowDayClock.Boot
