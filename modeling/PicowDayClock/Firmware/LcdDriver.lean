import PicowDayClock.Firmware.Lcd
import PicowDayClock.Library.Checked

/-! The driver in `lcd.c` underneath the panels: what goes over the wires for a
bitmap or a character, byte by byte, and where `lcd_print_line` puts the
characters of a diagnostic line. -/
namespace PicowDayClock.LcdDriver
open Checked

/-- `LCD_WIDTH`, `LCD_HEIGHT`, `LCD_ROW_START` and `LCD_COL_START`. -/
def lcdWidth : Nat := 172
def lcdHeight : Nat := 320
def lcdRowStart : Nat := 34
def lcdColStart : Nat := 0

/-- `color_t`. -/
inductive Color where
  | black | red | green | cyan
  deriving DecidableEq

/-- `color_table`. -/
def colorTable : Color → UInt16
  | .black => 0x0000
  | .red => 0xF800
  | .green => 0x07E0
  | .cyan => 0x07FF

/-- What the driver does to the wires of a panel. -/
inductive Wire where
  | dc (level : Bool)
  | cs (level : Bool)
  | spi (bytes : Bytes)
  deriving DecidableEq

/-- `linebuf`, and all that has been done to the wires so far. -/
structure Panel where
  linebuf : Memory
  wires : List Wire
  deriving DecidableEq

def Panel.put (panel : Panel) (wires : List Wire) : Panel :=
  { panel with wires := panel.wires ++ wires }

/-- `st7789_command`. -/
def st7789Command (panel : Panel) (reg : Byte) : Panel :=
  panel.put [.dc false, .cs false, .spi [reg], .cs true]

/-- `st7789_data_byte`. -/
def st7789DataByte (panel : Panel) (data : Byte) : Panel :=
  panel.put [.dc true, .cs false, .spi [data], .cs true]

/-- An address of the panel, as the two data bytes that give it. -/
def dataAddress (panel : Panel) (address : Int) : Panel :=
  st7789DataByte (st7789DataByte panel (.ofInt (address >>> 8))) (.ofInt (address % 256))

/-- `st7789_set_command_windows`. -/
def st7789SetCommandWindows (panel : Panel) (xStart yStart width height : Nat) : Panel :=
  let panel := st7789Command panel 0x2A
  let panel := dataAddress panel (xStart + lcdRowStart)
  let panel := dataAddress panel (xStart + width + lcdRowStart - 1)
  let panel := st7789Command panel 0x2B
  let panel := dataAddress panel (yStart + lcdColStart)
  let panel := dataAddress panel (yStart + height + lcdColStart - 1)
  st7789Command panel 0x2C

/-- Both bytes of a column in the line buffer. -/
def setColumn (linebuf : Memory) (column : Nat) (color : Color) : Checked Memory :=
  linebuf.write (column * 2)
    [(colorTable color >>> 8).toUInt8, (colorTable color &&& 0xFF).toUInt8]

/-- `spi_write_blocking` of the first columns of the line buffer. -/
def sendLine (panel : Panel) (width : Nat) : Checked Panel := do
  let row ← panel.linebuf.read 0 (width * 2)
  .ok (panel.put [.spi row])

/-! ## Images -/

/-- The eight columns of one byte; those behind the width are not written. -/
def imageBits (xStart imageWidth byteIdx : Nat) (fgColor : Color) (byte : Byte)
    (linebuf : Memory) : Checked Memory :=
  forRange 8 (fun bit linebuf =>
    let x := xStart + byteIdx * 8 + bit
    if x < xStart + imageWidth then
      setColumn linebuf (x - xStart)
        (if byte &&& (1 <<< (7 - bit.toUInt8)) ≠ 0 then fgColor else .black)
    else .ok linebuf) linebuf

/-- The bytes of one row. `offset` is what `image` has been advanced by. -/
def imageRow (image : Memory) (xStart imageWidth : Nat) (fgColor : Color)
    (linebuf : Memory) (offset : Nat) : Checked (Memory × Nat) :=
  forRange ((imageWidth + 7) / 8) (fun byteIdx (linebuf, offset) => do
    let byte ← image.load offset
    let linebuf ← imageBits xStart imageWidth byteIdx fgColor byte linebuf
    .ok (linebuf, offset + 1)) (linebuf, offset)

/-- One round of `lcd_write_image`: a row is filled in and sent. -/
def sendImageRow (image : Memory) (xStart imageWidth : Nat) (fgColor : Color)
    (panel : Panel) (offset : Nat) : Checked (Panel × Nat) := do
  let (linebuf, offset) ← imageRow image xStart imageWidth fgColor panel.linebuf offset
  let panel ← sendLine { panel with linebuf := linebuf } imageWidth
  .ok (panel, offset)

/-- `lcd_write_image`. -/
def lcdWriteImage (panel : Panel) (image : Memory) (xStart yStart imageWidth imageHeight : Nat)
    (fgColor : Color) : Checked Panel := do
  let panel := st7789SetCommandWindows panel xStart yStart imageWidth imageHeight
  let panel := panel.put [.dc true, .cs false]
  let (panel, _) ← forRange imageHeight
    (fun _ now => sendImageRow image xStart imageWidth fgColor now.1 now.2) (panel, 0)
  .ok (panel.put [.cs true])

/-! ## Characters -/

/-- `font_glyph_t`. -/
structure FontGlyph where
  table : Bytes
  width : Nat

/-- `font_t`: a glyph for each character from the blank to the tilde. -/
structure Font where
  table : Fin 95 → FontGlyph
  byteWidth : Nat
  height : Nat

/-- The characters that are drawn at all. -/
def printable (asciiChar : Byte) : Bool := ¬ (asciiChar < 0x20 ∨ asciiChar > 0x7E)

def Font.glyph (font : Font) (asciiChar : Byte) : FontGlyph :=
  font.table (Fin.ofNat 95 (asciiChar.toNat - 0x20))

/-- The columns of one row of a glyph; `ptr` is the offset of the row. -/
def glyphRow (entry : FontGlyph) (fgColor bgColor : Color) (ptr : Nat) (linebuf : Memory) :
    Checked Memory :=
  forRange entry.width (fun glyphColumn linebuf => do
    let glyphPixels ← Memory.load (entry.table.map some) (ptr + glyphColumn / 8)
    setColumn linebuf glyphColumn
      (if glyphPixels &&& (0x80 >>> (glyphColumn % 8).toUInt8) ≠ 0 then fgColor else bgColor))
    linebuf

/-- One round of `lcd_write_char`. -/
def sendGlyphRow (entry : FontGlyph) (byteWidth : Nat) (fgColor bgColor : Color)
    (panel : Panel) (ptr : Nat) : Checked (Panel × Nat) := do
  let linebuf ← glyphRow entry fgColor bgColor ptr panel.linebuf
  let panel ← sendLine { panel with linebuf := linebuf } entry.width
  .ok (panel, ptr + byteWidth)

/-- `lcd_write_char`: the width it returns, and the panel. -/
def lcdWriteChar (panel : Panel) (xPoint yPoint : Nat) (asciiChar : Byte) (font : Font)
    (fgColor bgColor : Color) : Checked (Nat × Panel) :=
  if printable asciiChar then do
    let entry := font.glyph asciiChar
    let panel := st7789SetCommandWindows panel xPoint yPoint entry.width font.height
    let panel := panel.put [.dc true, .cs false]
    let (panel, _) ← forRange font.height
      (fun _ now => sendGlyphRow entry font.byteWidth fgColor bgColor now.1 now.2) (panel, 0)
    .ok (entry.width, panel.put [.cs true])
  else .ok (0, panel)

/-! ## Diagnostic lines -/

/-- What `lcd_write_char` returns, which depends on the font alone. -/
def charWidth (font : Font) (asciiChar : Byte) : Nat :=
  if printable asciiChar then (font.glyph asciiChar).width else 0

/-- A call of `lcd_write_char` in `lcd_print_line`. -/
structure CharWrite where
  xPoint : Nat
  yPoint : Nat
  asciiChar : Byte
  deriving DecidableEq

/-- The loop of `lcd_print_line` as the calls it makes. `width` is that of the
character before. -/
def charWrites (textFont : Font) (xPoint yPoint width : Nat) : Bytes → List CharWrite
  | [] => []
  | asciiChar :: rest =>
    let wrapped := xPoint + width > lcdWidth
    let xPoint := if wrapped then 0 else xPoint
    let yPoint := if wrapped then (yPoint + textFont.height) % 2 ^ 16 else yPoint
    let bottom := yPoint + textFont.height > lcdHeight
    let xPoint := if bottom then 0 else xPoint
    let yPoint := if bottom then 0 else yPoint
    let width := charWidth textFont asciiChar
    { xPoint := xPoint, yPoint := yPoint, asciiChar := asciiChar } ::
      charWrites textFont ((xPoint + width) % 2 ^ 16) yPoint width rest

/-- The calls for a text on a line. -/
def lineWrites (textFont : Font) (lineNumber : Nat) (text : Bytes) : List CharWrite :=
  charWrites textFont 0 ((lineNumber + 3) * textFont.height % 2 ^ 16) 0 text

/-- `msg_str`. -/
def msgStr : LcdStatusMessage → Bytes
  | .initOk => ascii "LCD init successful"
  | .flashError => ascii "Flash config corrupt"
  | .wifiError => ascii "Config mode started"
  | .wifiOk => ascii "Connected to WiFi"

/-- `lcd_print_line`: the panel and the next `line_number`. -/
def lcdPrintLine (panel : Panel) (textFont : Font) (lineNumber : Nat) (color : Color)
    (msg : LcdStatusMessage) : Checked (Panel × Nat) := do
  let panel ← (lineWrites textFont lineNumber (msgStr msg)).foldlM (fun panel call => do
    let (_, panel) ← lcdWriteChar panel call.xPoint call.yPoint call.asciiChar textFont color .black
    .ok panel) panel
  .ok (panel, (lineNumber + 1) % 2 ^ 8)

/-- `charWidth` is what `lcd_write_char` returns. -/
theorem lcdWriteChar_returns {panel next : Panel} {xPoint yPoint width : Nat} {asciiChar : Byte}
    {font : Font} {fgColor bgColor : Color}
    (written : lcdWriteChar panel xPoint yPoint asciiChar font fgColor bgColor = .ok (width, next)) :
    width = charWidth font asciiChar := by
  unfold lcdWriteChar at written
  unfold charWidth
  split at written
  · rename_i drawn
    obtain ⟨_, -, last⟩ := bind_eq_ok_iff.mp written
    cases last
    rw [if_pos drawn]
  · rename_i skipped
    cases written
    rw [if_neg skipped]

end PicowDayClock.LcdDriver
