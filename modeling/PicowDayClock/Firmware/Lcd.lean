import PicowDayClock.Firmware.Config

/-! What `lcd.c` leaves visible on one panel: the digit, the three icons and
the diagnostic lines drawn since the last clear. Colours, fonts and the SPI
traffic are a matter of the driver. -/
namespace PicowDayClock

/-- `NUM_LCDS`. -/
abbrev numLcds : Nat := 7

instance : NeZero numLcds := ⟨by decide⟩

/-- `lcd_status_message_t`. -/
inductive LcdStatusMessage where
  | initOk | flashError | wifiError | wifiOk
  deriving DecidableEq

/-- The panel behind an `lcd_state_t`. -/
structure LcdState where
  digit : Option Byte := none
  watchdogIcon : Option WatchdogError := none
  ntpIcon : Option NtpError := none
  wifiIcon : Option WifiError := none
  lines : List LcdStatusMessage := []
  deriving DecidableEq

/-- `lcd_clear_screen`. -/
def lcdClearScreen (_ : LcdState) : LcdState := {}

/-- `lcd_print_line`. -/
def lcdPrintLine (lcd : LcdState) (message : LcdStatusMessage) : LcdState :=
  { lcd with lines := lcd.lines ++ [message] }

/-- `lcd_print_clock_digit`, which draws printable characters only. -/
def lcdPrintClockDigit (lcd : LcdState) (asciiChar : Byte) : LcdState :=
  if asciiChar < 0x20 ∨ asciiChar > 0x7E then lcd else { lcd with digit := some asciiChar }

/-- The first switch of `lcd_update_icons`. -/
def LcdState.drawWatchdogIcon (lcd : LcdState) : WatchdogError → LcdState
  | .ok => lcd
  | error => { lcd with watchdogIcon := some error }

/-- The second switch: a value outside the enumeration, or the null error,
draws nothing. -/
def LcdState.drawNtpIcon (lcd : LcdState) : NtpError → LcdState
  | .nullError | .other _ => lcd
  | error => { lcd with ntpIcon := some error }

/-- The third switch. -/
def LcdState.drawWifiIcon (lcd : LcdState) : WifiError → LcdState
  | .other _ => lcd
  | error => { lcd with wifiIcon := some error }

/-- `lcd_update_icons`: what is drawn replaces only the icon in the same place. -/
def lcdUpdateIcons (lcd : LcdState) (watchdogError : WatchdogError) (ntpError : NtpError)
    (wifiError : WifiError) : LcdState :=
  ((lcd.drawWatchdogIcon watchdogError).drawNtpIcon ntpError).drawWifiIcon wifiError

end PicowDayClock
