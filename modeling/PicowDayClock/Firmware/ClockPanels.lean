import PicowDayClock.Firmware.ClockTask
import PicowDayClock.Firmware.LcdPanels

/-! The calls of `lcd.h` in `clock.c`, from the end of the loop that initialises
the panels on, each with the panel it is for. -/
namespace PicowDayClock.ClockPanels
open Boot ClockTask LcdDriver LcdPanels

/-- The colour of the digit on a panel: `(ii < 3) ? CYAN : GREEN`. -/
def digitColor (ii : Fin numLcds) : Color := if ii < 3 then .cyan else .green

/-- The cold and the warm branch of `clock_init`. -/
def reportCalls (booted : Booted) (persistent : PersistentState) : List (Fin numLcds × LcdCall) :=
  if booted.state.coldBoot then [(0, .printLine .green .initOk)]
  else [(0, .updateIcons booted.state.watchdogResetError persistent.ntpError persistent.wifiError)]

/-- `clock_start` behind the Wi-Fi connection. -/
def startCalls (booted : Booted) : List (Fin numLcds × LcdCall) :=
  (if booted.state.coldBoot then [(0, .printLine .green .wifiOk)] else []) ++
    [(0, .updateIcons booted.state.watchdogResetError .ok .ok)]

/-- A round of the loop that redraws the panels. -/
def redrawCalls (state : ClockState) (digits : Fin numLcds → Byte) (ntpError : NtpError)
    (ii : Fin numLcds) : List (Fin numLcds × LcdCall) :=
  (if state.currentLcdDigits ii ≠ digits ii ∨ state.firstClockTick then
    [(ii, .clearScreen 0), (ii, .printClockDigit (digitColor ii) (digits ii))] else []) ++
    if ii = 0 then [(0, .updateIcons state.watchdogResetError ntpError .ok)] else []

/-- `fatal_reset`. -/
def resetCalls : Pc → List (Fin numLcds × LcdCall)
  | .reset ntpError wifiError => [(0, .updateIcons .reset ntpError wifiError)]
  | _ => []

/-- The calls of the next statement. Callbacks make none. -/
def nextCalls (clock : Clock) : Event → List (Fin numLcds × LcdCall)
  | .task dns udp =>
    match clock.pc, clock.statement dns udp with
    | .draw ii, _ => redrawCalls clock.state (lcdDigits clock.locals.localEpoch)
        clock.locals.ntpAtomicState.error ii
    | _, some next => resetCalls next.pc
    | _, none => []
  | _ => []

end PicowDayClock.ClockPanels
