import PicowDayClock.PanelDrawings
import PicowDayClock.Library.StepSystem

/-! The calls of `lcd.h` on seven pictures. Each call is some rectangles painted
on the panel it is for; the six others keep their pictures, although all seven
hang on the same lines. -/
namespace PicowDayClock.PanelCalls
open Checked LcdDriver LcdPanels PanelController BitmapRenderers PanelDrawings

/-! ## Functions that draw -/

/-- A function of the driver draws these rectangles, and touches nothing outside
its tables and the line buffer. -/
def DrawsAll (draw : Panel → Checked Panel) (strokes : List Stroke) : Prop :=
  ∀ panel : Panel, panel.linebuf.length = lcdWidth * 2 →
    ∃ next, draw panel = .ok next ∧ next.linebuf.length = lcdWidth * 2 ∧
      next.wires = panel.wires ++ strokes.flatMap Stroke.wires

theorem DrawsAll.nothing : DrawsAll .ok [] :=
  fun panel long => ⟨panel, rfl, long, (List.append_nil _).symm⟩

theorem DrawsAll.single {draw : Panel → Checked Panel} {stroke : Stroke}
    (draws : Draws draw stroke.left stroke.top stroke.width stroke.height stroke.columns) :
    DrawsAll draw [stroke] := by
  intro panel long
  rw [List.flatMap_singleton]
  exact draws panel long

theorem DrawsAll.andThen {draw later : Panel → Checked Panel} {strokes more : List Stroke}
    (first : DrawsAll draw strokes) (second : DrawsAll later more) :
    DrawsAll (fun panel => draw panel >>= later) (strokes ++ more) := by
  intro panel long
  obtain ⟨between, drawn, still, wired⟩ := first panel long
  obtain ⟨next, also, length, wiredAll⟩ := second between still
  refine ⟨next, ?_, length, ?_⟩
  · dsimp only
    rw [drawn, ok_bind, also]
  · rw [wiredAll, wired, List.flatMap_append, List.append_assoc]

theorem DrawsAll.each {Item : Type} {draw : Panel → Item → Checked Panel}
    {strokes : Item → List Stroke} {items : List Item}
    (draws : ∀ item ∈ items, DrawsAll (fun panel => draw panel item) (strokes item)) :
    DrawsAll (fun panel => items.foldlM draw panel) (items.flatMap strokes) := by
  induction items with
  | nil => exact .nothing
  | cons item items ih =>
    rw [List.forall_mem_cons] at draws
    exact draws.1.andThen (ih draws.2)

/-! ## Rectangles -/

/-- The line buffer filled with one colour. -/
theorem filled_shows {linebuf : Memory} (long : linebuf.length = lcdWidth * 2) {width : Nat}
    (fits : width ≤ lcdWidth) (color : Color) :
    ∃ next, forRange width (fun x linebuf => setColumn linebuf x color) linebuf = .ok next ∧
      Shows next ((List.range width).map fun _ => color) := by
  apply forRange_rule fun x now => Shows now ((List.range x).map fun _ => color)
  · exact shows_nothing long
  · intro x inside now shown
    obtain ⟨next, written, shownNext⟩ := setColumn_shows shown
      (by rw [List.length_map, List.length_range]; omega) color
    rw [List.length_map, List.length_range] at written
    refine ⟨next, written, ?_⟩
    rw [List.range_succ, List.map_append, List.map_singleton]
    exact shownNext

/-- One line sent again and again. -/
theorem lines_sent (panel : Panel) {columns : List Color} (shown : Shows panel.linebuf columns)
    (height : Nat) :
    forRange height (fun _ panel => sendLine panel columns.length) panel =
      .ok (panel.put (rowWires (fun _ => columns) height)) := by
  have ran : ∃ final, forRange height (fun _ panel => sendLine panel columns.length) panel =
      .ok final ∧ final = panel.put (rowWires (fun _ => columns) height) := by
    apply forRange_rule fun row now => now = panel.put (rowWires (fun _ => columns) row)
    · rw [rowWires, List.range_zero, List.map_nil, Panel.put, List.append_nil]
    · rintro row - now rfl
      refine ⟨_, sendLine_shown shown, ?_⟩
      simp only [Panel.put, rowWires, List.range_succ, List.map_append, List.map_singleton,
        List.append_assoc]
  obtain ⟨final, ran, same⟩ := ran
  rw [ran, same]

def rectangleStroke (xStart yStart width height fgColor : Nat) : Stroke where
  left := xStart
  top := yStart
  width := width
  height := height
  pixels := fun _ _ => tableColor fgColor

theorem lcdDrawRectangle_draws {width : Nat} (fits : width ≤ lcdWidth)
    (xStart yStart height fgColor : Nat) :
    DrawsAll (fun panel => lcdDrawRectangle panel xStart yStart width height fgColor)
      [rectangleStroke xStart yStart width height fgColor] := by
  apply DrawsAll.single
  intro panel long
  obtain ⟨linebuf, filled, shown⟩ := filled_shows long fits (tableColor fgColor)
  let opened : Panel := { (st7789SetCommandWindows panel xStart yStart width height).put
    [.dc true, .cs false] with linebuf := linebuf }
  have sent := lines_sent opened shown height
  rw [List.length_map, List.length_range] at sent
  refine ⟨(opened.put (rowWires (rectangleStroke xStart yStart width height fgColor).columns
    height)).put [.cs true], ?_, shown.1, ?_⟩
  · dsimp only
    rw [lcdDrawRectangle, put_linebuf, window_linebuf, filled, ok_bind, sent, ok_bind]
    rfl
  · simp only [Panel.put, opened, drawing, window_wires panel, List.append_assoc]
    rfl

/-- A picture of one colour. -/
def clearStroke (color : Nat) : Stroke := rectangleStroke 0 0 lcdWidth lcdHeight color

theorem lcdClearScreen_draws (color : Nat) :
    DrawsAll (fun panel => LcdPanels.lcdClearScreen panel color) [clearStroke color] :=
  lcdDrawRectangle_draws (Nat.le_refl lcdWidth) 0 0 lcdHeight color

/-! ## Characters -/

/-- A font that the panels can be given: no glyph is larger than a panel, and its
rows are whole, as the generator makes them. It does not look at the width of
the panel. A character that the font leaves out has no width. -/
structure WellFormed (font : Font) : Prop where
  height : font.height ≤ lcdHeight
  narrow : ∀ index, (font.table index).width ≤ lcdWidth
  packed : ∀ index, (font.table index).width ≤ font.byteWidth * 8
  whole : ∀ index, 0 < (font.table index).width →
    font.height * font.byteWidth ≤ (font.table index).table.length

/-- A character on black, with the corner of its glyph. -/
def glyphStroke (font : Font) (color : Color) (call : CharWrite) : Stroke where
  left := call.xPoint
  top := call.yPoint
  width := (font.glyph call.asciiChar).width
  height := font.height
  pixels := fun column row =>
    pixelAt (font.glyph call.asciiChar).table font.byteWidth color row column

/-- Only printable characters are drawn. -/
def charStrokes (font : Font) (color : Color) (call : CharWrite) : List Stroke :=
  if printable call.asciiChar then [glyphStroke font color call] else []

theorem lcdWriteChar_strokes {font : Font} (formed : WellFormed font) (color : Color)
    (call : CharWrite) :
    DrawsAll (fun panel => do
      let (_, panel) ← lcdWriteChar panel call.xPoint call.yPoint call.asciiChar font color .black
      .ok panel) (charStrokes font color call) := by
  intro panel long
  by_cases drawn : printable call.asciiChar
  · obtain ⟨next, wrote, length, wired⟩ := lcdWriteChar_draws color drawn
      (formed.narrow _) (formed.packed _) (formed.whole _) call.xPoint call.yPoint long
    refine ⟨next, ?_, length, ?_⟩
    · simp only [wrote, ok_bind]
    · rw [wired, charStrokes, if_pos drawn, List.flatMap_singleton]
      rfl
  · refine ⟨panel, ?_, long, ?_⟩
    · simp only [lcdWriteChar, if_neg drawn, ok_bind]
    · rw [charStrokes, if_neg drawn, List.flatMap_nil, List.append_nil]

/-- The place of a digit: in the middle of the panel, at its top. -/
def digitPlace (font : Font) (asciiChar : Byte) : CharWrite where
  xPoint := (lcdWidth - (font.glyph asciiChar).width) / 2
  yPoint := 0
  asciiChar := asciiChar

theorem lcdPrintClockDigit_draws {font : Font} (formed : WellFormed font) (color : Color)
    (asciiChar : Byte) :
    DrawsAll (fun panel => LcdPanels.lcdPrintClockDigit panel font color asciiChar)
      (charStrokes font color (digitPlace font asciiChar)) := by
  by_cases drawn : printable asciiChar
  · have narrow : (font.glyph asciiChar).width ≤ lcdWidth := formed.narrow _
    have middle : (((lcdWidth : Int) - (font.glyph asciiChar).width).tdiv 2 % 2 ^ 16).toNat =
        (lcdWidth - (font.glyph asciiChar).width) / 2 := by
      rw [← Int.natCast_sub narrow]
      change (((((lcdWidth - (font.glyph asciiChar).width) / 2 : Nat) : Int)) % 2 ^ 16).toNat = _
      unfold lcdWidth at *
      omega
    have draws := lcdWriteChar_strokes formed color (digitPlace font asciiChar)
    intro panel long
    obtain ⟨next, wrote, rest⟩ := draws panel long
    refine ⟨next, ?_, rest⟩
    rw [← wrote]
    simp only [LcdPanels.lcdPrintClockDigit, if_pos drawn, middle]
    rfl
  · have left_out : charStrokes font color (digitPlace font asciiChar) = [] := if_neg drawn
    rw [left_out]
    intro panel long
    refine ⟨panel, ?_, long, (List.append_nil _).symm⟩
    simp only [LcdPanels.lcdPrintClockDigit, if_neg drawn]

/-- The characters of a line start on the panel. -/
theorem charWrites_place {font : Font} {text : Bytes} {xPoint yPoint width : Nat}
    {call : CharWrite} (written : call ∈ charWrites font xPoint yPoint width text) :
    call.xPoint ≤ lcdWidth ∧ (call.yPoint + font.height ≤ lcdHeight ∨ call.yPoint = 0) := by
  induction text generalizing xPoint yPoint width with
  | nil => cases written
  | cons asciiChar text ih =>
    rcases List.mem_cons.mp written with rfl | later
    · dsimp only
      split <;> split <;> omega
    · exact ih later

/-! ## Icons -/

def iconStroke (xOffset : Nat) (icon : Icon) (color : Color) : Stroke where
  left := xOffset
  top := 0
  width := iconSize
  height := iconSize
  pixels := fun column row => pixelAt icon.bytes ((iconSize + 7) / 8) color row column

def iconStrokes (xOffset : Nat) : Option (Icon × Color) → List Stroke
  | some (icon, color) => [iconStroke xOffset icon color]
  | none => []

theorem iconCase_draws (xOffset : Nat) (case : Option (Icon × Color)) :
    DrawsAll (fun panel => iconCase panel xOffset case) (iconStrokes xOffset case) := by
  cases case with
  | none => exact .nothing
  | some pair =>
    have fits : iconSize ≤ lcdWidth := by decide
    have size : pair.1.bytes.length = iconSize * ((iconSize + 7) / 8) := pair.1.size
    exact .single (lcdWriteImage_draws pair.2 fits size xOffset 0)

/-! ## Calls -/

/-- The rectangles that a call paints. -/
def LcdCall.strokes (bitmaps : Bitmaps) (lineNumber : Nat) : LcdCall → List Stroke
  | .init _ => [clearStroke 0]
  | .clearScreen color => [clearStroke color]
  | .drawRectangle xStart yStart width height fgColor =>
    [rectangleStroke xStart yStart width height fgColor]
  | .printClockDigit color asciiChar =>
    charStrokes bitmaps.clockDigitFont color (digitPlace bitmaps.clockDigitFont asciiChar)
  | .updateIcons watchdogError ntpError wifiError =>
    iconStrokes watchdogIconXOffset (bitmaps.icons.watchdog watchdogError) ++
      (iconStrokes ntpIconXOffset (bitmaps.icons.ntp ntpError) ++
        iconStrokes wifiIconXOffset (bitmaps.icons.wifi wifiError))
  | .printLine color msg =>
    (lineWrites bitmaps.textFont lineNumber (msgStr msg)).flatMap
      (charStrokes bitmaps.textFont color)

/-- The transfers of a command with its data, and of the whole initialisation. -/
def stepWires (step : Byte × Bytes) : List Wire :=
  (st7789Command ⟨[], []⟩ step.1).wires ++
    step.2.flatMap fun byte => (st7789DataByte ⟨[], []⟩ byte).wires

def initWires : List Wire := initSequence.flatMap stepWires

/-- What the initialisation sends before the screen is cleared. -/
def LcdCall.startWires : LcdCall → List Wire
  | .init _ => initWires
  | _ => []

/-- `line_number` after a call. -/
def LcdCall.nextLine (lineNumber : Nat) : LcdCall → Nat
  | .init _ | .clearScreen _ => 0
  | .printLine _ _ => (lineNumber + 1) % 2 ^ 8
  | _ => lineNumber

/-- A rectangle is drawn on the panel; the other calls choose their own. -/
def LcdCall.Fits : LcdCall → Prop
  | .drawRectangle xStart yStart width height _ =>
    width ≤ lcdWidth ∧ (rectangleStroke xStart yStart width height 0).Addressable
  | _ => True

/-- The generated tables are well formed. -/
structure WellFormedBitmaps (bitmaps : Bitmaps) : Prop where
  textFont : WellFormed bitmaps.textFont
  clockDigitFont : WellFormed bitmaps.clockDigitFont

/-- Functions that only add transfers, one after the other. -/
theorem foldl_put {Item : Type} {send : Panel → Item → Panel} {wires : Item → List Wire}
    (puts : ∀ panel item, send panel item = panel.put (wires item)) (items : List Item)
    (panel : Panel) : items.foldl send panel = panel.put (items.flatMap wires) := by
  induction items generalizing panel with
  | nil => simp [Panel.put]
  | cons item items ih =>
    rw [List.foldl_cons, ih, puts, List.flatMap_cons, Panel.put, Panel.put, Panel.put,
      List.append_assoc]

/-- The initialisation leaves the line buffer alone. -/
theorem st7789Init_eq (panel : Panel) : st7789Init panel = panel.put initWires := by
  refine foldl_put (fun panel step => ?_) initSequence panel
  have data : ∀ panel : Panel, step.2.foldl st7789DataByte panel =
      panel.put (step.2.flatMap fun byte => (st7789DataByte ⟨[], []⟩ byte).wires) :=
    foldl_put (fun _ _ => rfl) step.2
  rw [st7789Send, data]
  simp only [st7789Command, Panel.put, stepWires, List.append_assoc, List.nil_append]

/-- What a call of `lcd.h` does. -/
theorem draw_spec {bitmaps : Bitmaps} (formed : WellFormedBitmaps bitmaps) {call : LcdCall}
    (fits : LcdCall.Fits call) (lineNumber : Nat) {panel : Panel}
    (long : panel.linebuf.length = lcdWidth * 2) :
    ∃ next, call.draw bitmaps panel lineNumber = .ok (next, LcdCall.nextLine lineNumber call) ∧
      next.linebuf.length = lcdWidth * 2 ∧
      next.wires = panel.wires ++ (LcdCall.startWires call ++
        (LcdCall.strokes bitmaps lineNumber call).flatMap Stroke.wires) := by
  -- a function that draws, and leaves the line number to the call
  have plain : ∀ {draw : Panel → Checked Panel} {strokes : List Stroke} (line : Nat),
      DrawsAll draw strokes → ∃ next, (draw panel >>= fun panel => .ok (panel, line)) =
        .ok (next, line) ∧ next.linebuf.length = lcdWidth * 2 ∧
          next.wires = panel.wires ++ ([] ++ strokes.flatMap Stroke.wires) := by
    intro draw strokes line draws
    obtain ⟨next, drawn, length, wired⟩ := draws panel long
    exact ⟨next, by rw [drawn, ok_bind], length, by rw [wired, List.nil_append]⟩
  cases call with
  | init reset =>
    have cleared := lcdClearScreen_draws 0 (panel.put initWires) long
    obtain ⟨next, drawn, length, wired⟩ := cleared
    dsimp only at drawn
    refine ⟨next, ?_, length, ?_⟩
    · simp only [LcdCall.draw, LcdCall.nextLine, st7789Init_eq, drawn, ok_bind]
    · rw [wired, Panel.put, List.append_assoc]
      rfl
  | clearScreen color => exact plain 0 (lcdClearScreen_draws color)
  | drawRectangle xStart yStart width height fgColor =>
    exact plain lineNumber (lcdDrawRectangle_draws fits.1 xStart yStart height fgColor)
  | printClockDigit color asciiChar =>
    exact plain lineNumber (lcdPrintClockDigit_draws formed.clockDigitFont color asciiChar)
  | updateIcons watchdogError ntpError wifiError =>
    have draws := (iconCase_draws watchdogIconXOffset (bitmaps.icons.watchdog watchdogError)).andThen
      ((iconCase_draws ntpIconXOffset (bitmaps.icons.ntp ntpError)).andThen
        (iconCase_draws wifiIconXOffset (bitmaps.icons.wifi wifiError)))
    exact plain lineNumber draws
  | printLine color msg =>
    exact plain _ (DrawsAll.each fun call _ =>
      lcdWriteChar_strokes formed.textFont color call)

end PicowDayClock.PanelCalls
