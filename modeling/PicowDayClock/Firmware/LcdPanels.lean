import PicowDayClock.Firmware.LcdDriver

/-! The calls of `lcd.h` over the driver: clearing, digits, icons and the
initialisation, for seven panels on one bus. The panels share the data, clock,
data/command and reset lines; each has a chip select of its own. Delays, and the
line of the backlight, carry no picture. -/
namespace PicowDayClock.LcdPanels
open Checked LcdDriver

/-- What happens on the lines of the bus. -/
inductive Signal where
  | rst (level : Bool)
  | dc (level : Bool)
  | cs (lcd : Fin numLcds) (level : Bool)
  | spi (bytes : Bytes)
  deriving DecidableEq

/-- The lines behind the pins of one `lcd_state_t`. -/
def signal (lcd : Fin numLcds) : Wire → Signal
  | .dc level => .dc level
  | .cs level => .cs lcd level
  | .spi bytes => .spi bytes

/-! ## Rectangles -/

/-- The index into `color_table` of a colour given as a number. -/
def tableColor (color : Nat) : Color :=
  match color % 4 with
  | 0 => .black
  | 1 => .red
  | 2 => .green
  | _ => .cyan

/-- `lcd_draw_rectangle`. -/
def lcdDrawRectangle (panel : Panel) (xStart yStart width height fgColor : Nat) :
    Checked Panel := do
  let panel := st7789SetCommandWindows panel xStart yStart width height
  let panel := panel.put [.dc true, .cs false]
  let linebuf ← forRange width
    (fun x linebuf => setColumn linebuf x (tableColor fgColor)) panel.linebuf
  let panel ← forRange height (fun _ panel => sendLine panel width)
    { panel with linebuf := linebuf }
  .ok (panel.put [.cs true])

/-- `lcd_clear_screen`, without `line_number`. -/
def lcdClearScreen (panel : Panel) (color : Nat) : Checked Panel :=
  lcdDrawRectangle panel 0 0 lcdWidth lcdHeight color

/-! ## Digits and icons -/

/-- `lcd_print_clock_digit`. -/
def lcdPrintClockDigit (panel : Panel) (clockDigitFont : Font) (color : Color)
    (asciiChar : Byte) : Checked Panel :=
  if printable asciiChar then do
    let entry := clockDigitFont.glyph asciiChar
    let xPoint := (((lcdWidth : Int) - entry.width).tdiv 2 % 2 ^ 16).toNat
    let (_, panel) ← lcdWriteChar panel xPoint 0 asciiChar clockDigitFont color .black
    .ok panel
  else .ok panel

/-- `ICON_SIZE` and `ICON_BYTES`. -/
def iconSize : Nat := 36
def iconBytes : Nat := (iconSize + 7) / 8 * iconSize

/-- `WATCHDOG_ICON_X_OFFSET`, `NTP_ICON_X_OFFSET` and `WIFI_ICON_X_OFFSET`. -/
def watchdogIconXOffset : Nat := lcdWidth - 5 - iconSize * 3
def ntpIconXOffset : Nat := lcdWidth - 5 - iconSize * 2
def wifiIconXOffset : Nat := lcdWidth - 5 - iconSize * 1

/-- An icon: a square bitmap. -/
structure Icon where
  bytes : Bytes
  size : bytes.length = iconBytes

/-- The icons of `bitmap.h` that are drawn. -/
structure Icons where
  watchdogIcon : Icon
  watchdogNtpIcon : Icon
  watchdogWifiIcon : Icon
  ntpIcon : Icon
  ntpInitIcon : Icon
  ntpDnsIcon : Icon
  ntpMemoryIcon : Icon
  ntpErrorIcon : Icon
  ntpTimeoutIcon : Icon
  wifiIcon : Icon
  wifiInitIcon : Icon
  wifiTimeoutIcon : Icon
  wifiPasswordIcon : Icon
  wifiConnectIcon : Icon
  wifiErrorIcon : Icon

/-- The three switches of `lcd_update_icons`: the icon and its colour, if there
is one for the status. -/
def Icons.watchdog (icons : Icons) : WatchdogError → Option (Icon × Color)
  | .reset => some (icons.watchdogIcon, .red)
  | .ntp => some (icons.watchdogNtpIcon, .red)
  | .wifi => some (icons.watchdogWifiIcon, .red)
  | .ok => none

def Icons.ntp (icons : Icons) : NtpError → Option (Icon × Color)
  | .ok => some (icons.ntpIcon, .green)
  | .initError => some (icons.ntpInitIcon, .red)
  | .dnsError => some (icons.ntpDnsIcon, .red)
  | .memoryError => some (icons.ntpMemoryIcon, .red)
  | .protocolError => some (icons.ntpErrorIcon, .red)
  | .timeoutError => some (icons.ntpTimeoutIcon, .red)
  | .nullError | .other _ => none

def Icons.wifi (icons : Icons) : WifiError → Option (Icon × Color)
  | .ok => some (icons.wifiIcon, .green)
  | .initError => some (icons.wifiInitIcon, .red)
  | .timeoutError => some (icons.wifiTimeoutIcon, .red)
  | .authError => some (icons.wifiPasswordIcon, .red)
  | .connectError => some (icons.wifiConnectIcon, .red)
  | .unknownError => some (icons.wifiErrorIcon, .red)
  | .other _ => none

/-- One case of a switch, `ICON_CASE`. -/
def iconCase (panel : Panel) (xOffset : Nat) : Option (Icon × Color) → Checked Panel
  | some (icon, color) =>
    lcdWriteImage panel (icon.bytes.map some) xOffset 0 iconSize iconSize color
  | none => .ok panel

/-- `lcd_update_icons`. -/
def lcdUpdateIcons (panel : Panel) (icons : Icons) (watchdogError : WatchdogError)
    (ntpError : NtpError) (wifiError : WifiError) : Checked Panel := do
  let panel ← iconCase panel watchdogIconXOffset (icons.watchdog watchdogError)
  let panel ← iconCase panel ntpIconXOffset (icons.ntp ntpError)
  iconCase panel wifiIconXOffset (icons.wifi wifiError)

/-! ## Initialisation -/

/-- The commands of `st7789_init`, each with its data bytes. -/
def initSequence : List (Byte × Bytes) :=
  [(0x11, []), (0x36, [0x00]), (0x3A, [0x05]), (0xB2, [0x0C, 0x0C, 0x00, 0x33, 0x33]),
    (0xB7, [0x35]), (0xBB, [0x35]), (0xC0, [0x2C]), (0xC2, [0x01]), (0xC3, [0x13]),
    (0xC4, [0x20]), (0xC6, [0x0F]), (0xD0, [0xA4, 0xA1]), (0xD6, [0xA1]),
    (0xE0, [0xF0, 0x00, 0x04, 0x04, 0x04, 0x05, 0x33, 0x3E, 0x38, 0x12, 0x12, 0x28, 0x30]),
    (0xE1, [0xF0, 0x07, 0x0A, 0x0D, 0x0B, 0x07, 0x28, 0x33, 0x3E, 0x36, 0x14, 0x14, 0x32]),
    (0x21, []), (0x11, []), (0x29, [])]

/-- A command with its data bytes. -/
def st7789Send (panel : Panel) (step : Byte × Bytes) : Panel :=
  step.2.foldl st7789DataByte (st7789Command panel step.1)

/-- `st7789_init`. -/
def st7789Init (panel : Panel) : Panel := initSequence.foldl st7789Send panel

/-- `lcd_init_peripherals`: a pin that becomes an output is low at first. -/
def lcdInitPeripherals (lcd : Fin numLcds) (reset : Bool) : List Signal :=
  (if reset then [.rst false] else []) ++
    [.dc false, .cs lcd false, .cs lcd true, .dc false]

/-- `lcd_reset`. -/
def lcdReset : List Signal := [.rst true, .rst false, .rst true]

/-! ## Calls -/

/-- The calls that `clock.c` makes for a panel. -/
inductive LcdCall where
  | init (reset : Bool)
  | clearScreen (color : Nat)
  | drawRectangle (xStart yStart width height fgColor : Nat)
  | printClockDigit (color : Color) (asciiChar : Byte)
  | updateIcons (watchdogError : WatchdogError) (ntpError : NtpError) (wifiError : WifiError)
  | printLine (color : Color) (msg : LcdStatusMessage)
  deriving DecidableEq

/-- The generated tables: `text_font`, `clock_digit_font` and the icons. -/
structure Bitmaps where
  textFont : Font
  clockDigitFont : Font
  icons : Icons

/-- The variables of `lcd.c`: the line buffer and `line_number`. -/
structure Driver where
  linebuf : Memory
  lineNumber : Nat
  deriving DecidableEq

/-- What a call draws, and `line_number` after it. -/
def LcdCall.draw (bitmaps : Bitmaps) (panel : Panel) (lineNumber : Nat) :
    LcdCall → Checked (Panel × Nat)
  | .init _ => do
    -- `line_number` is cleared with the screen
    let panel ← lcdClearScreen (st7789Init panel) 0
    .ok (panel, 0)
  | .clearScreen color => do
    let panel ← lcdClearScreen panel color
    .ok (panel, 0)
  | .drawRectangle xStart yStart width height fgColor => do
    let panel ← lcdDrawRectangle panel xStart yStart width height fgColor
    .ok (panel, lineNumber)
  | .printClockDigit color asciiChar => do
    let panel ← lcdPrintClockDigit panel bitmaps.clockDigitFont color asciiChar
    .ok (panel, lineNumber)
  | .updateIcons watchdogError ntpError wifiError => do
    let panel ← lcdUpdateIcons panel bitmaps.icons watchdogError ntpError wifiError
    .ok (panel, lineNumber)
  | .printLine color msg => LcdDriver.lcdPrintLine panel bitmaps.textFont lineNumber color msg

/-- What comes before the drawing: the start of `lcd_init`. -/
def LcdCall.prepare (lcd : Fin numLcds) : LcdCall → List Signal
  | .init reset => lcdInitPeripherals lcd reset ++ if reset then lcdReset else []
  | _ => []

/-- A call for a panel: the driver afterwards, and what has happened on the bus. -/
def Driver.call (bitmaps : Bitmaps) (driver : Driver) (lcd : Fin numLcds) (call : LcdCall) :
    Checked (Driver × List Signal) := do
  let (panel, lineNumber) ← call.draw bitmaps { linebuf := driver.linebuf, wires := [] }
    driver.lineNumber
  .ok ({ linebuf := panel.linebuf, lineNumber := lineNumber },
    call.prepare lcd ++ panel.wires.map (signal lcd))

end PicowDayClock.LcdPanels
