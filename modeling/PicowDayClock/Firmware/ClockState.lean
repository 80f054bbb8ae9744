import PicowDayClock.Firmware.Lcd

/-! The state records of `clock.h`, `ntp.h` and `flash_config.h`. Handles of the
SDK (timers, the UDP pcb) and back pointers are left out. -/
namespace PicowDayClock

/-- An IPv4 address; 0 is no address. -/
abbrev IpAddr := UInt32

/-- `ntp_state_t`. -/
structure NtpState where
  ntpPort : Nat
  ntpServerAddress : IpAddr
  requestStartMs : UInt32
  error : NtpError
  status : NtpStatus
  deriving DecidableEq

/-- `memset(state, 0, sizeof(ntp_state_t))`. -/
def NtpState.zero : NtpState where
  ntpPort := 0
  ntpServerAddress := 0
  requestStartMs := 0
  error := .ok
  status := .idle

/-- `clock_state_t`. The flags are C truth values. -/
structure ClockState where
  ntpTime : Int
  clockTickUpdated : Bool
  ntpTimeUpdated : Bool
  apModeTriggered : Bool
  ntpState : NtpState
  ntpLastSync : Int
  ntpInterval : UInt32
  lcdStates : Fin numLcds → LcdState
  currentLcdDigits : Fin numLcds → Byte
  flashConfig : FlashConfig
  coldBoot : Bool
  lastWatchdogErrorTime : Int
  watchdogResetError : WatchdogError
  ntpResetError : NtpError
  wifiResetError : WifiError
  firstClockTick : Bool
  wifiInitialized : Bool

/-- `memset(state, 0, sizeof(clock_state_t))`, with the panels cleared as
`clock_init` does next. -/
def ClockState.zero : ClockState where
  ntpTime := 0
  clockTickUpdated := false
  ntpTimeUpdated := false
  apModeTriggered := false
  ntpState := .zero
  ntpLastSync := 0
  ntpInterval := 0
  lcdStates := fun _ => lcdClearScreen {}
  currentLcdDigits := fun _ => 0
  flashConfig := .zero
  coldBoot := false
  lastWatchdogErrorTime := 0
  watchdogResetError := .ok
  ntpResetError := .ok
  wifiResetError := .ok
  firstClockTick := false
  wifiInitialized := false

/-- `persistent_state_t`, which lies in RAM that no reset clears. -/
structure PersistentState where
  magicMarker : UInt32
  bootCount : UInt32
  ntpError : NtpError
  wifiError : WifiError
  deriving DecidableEq

/-- `memset(&persistent_state, 0, sizeof(persistent_state_t))`. -/
def PersistentState.zero : PersistentState where
  magicMarker := 0
  bootCount := 0
  ntpError := .ok
  wifiError := .ok

/-- Changes the panel of one LCD. -/
def ClockState.onLcd (state : ClockState) (index : Fin numLcds) (draw : LcdState → LcdState) :
    ClockState :=
  { state with lcdStates := fun ii =>
      if ii = index then draw (state.lcdStates ii) else state.lcdStates ii }

@[simp] theorem ClockState.onLcd_flashConfig (state : ClockState) (index : Fin numLcds)
    (draw : LcdState → LcdState) : (state.onLcd index draw).flashConfig = state.flashConfig := rfl

@[simp] theorem ClockState.onLcd_ntpResetError (state : ClockState) (index : Fin numLcds)
    (draw : LcdState → LcdState) :
    (state.onLcd index draw).ntpResetError = state.ntpResetError := rfl

@[simp] theorem ClockState.onLcd_wifiResetError (state : ClockState) (index : Fin numLcds)
    (draw : LcdState → LcdState) :
    (state.onLcd index draw).wifiResetError = state.wifiResetError := rfl

end PicowDayClock
