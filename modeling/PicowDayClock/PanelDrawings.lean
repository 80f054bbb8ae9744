import PicowDayClock.BitmapRenderers
import PicowDayClock.PanelController

/-! What a drawing does to the panel it is for: the window is opened, the pixels
come in row by row, and the rectangle is painted, nothing else. Every call of the
driver is a list of such drawings. -/
namespace PicowDayClock.PanelDrawings
open Checked LcdDriver LcdPanels PanelController BitmapRenderers

/-! ## Commands -/

theorem takeAll_command (link : Link) (panel : Panel) (reg : Byte) :
    link.takeAll (st7789Command panel reg).wires =
      ⟨false, false, (link.takeAll panel.wires).port.controller.start reg⟩ := by
  rw [st7789Command, Panel.put, Link.takeAll_append]
  rfl

theorem takeAll_data (link : Link) (panel : Panel) (byte : Byte) :
    link.takeAll (st7789DataByte panel byte).wires =
      ⟨true, false, (link.takeAll panel.wires).port.controller.supply byte⟩ := by
  rw [st7789DataByte, Panel.put, Link.takeAll_append]
  rfl

theorem columns_set (controller : Controller) (a b c d : Byte) :
    ((((controller.start 0x2A).supply a).supply b).supply c).supply d =
      { controller with
        command := 0x2A, data := [a, b, c, d]
        raster := { controller.raster with
          columns := (BigEndian.read [a, b], BigEndian.read [c, d]) } } := rfl

theorem rows_set (controller : Controller) (a b c d : Byte) :
    ((((controller.start 0x2B).supply a).supply b).supply c).supply d =
      { controller with
        command := 0x2B, data := [a, b, c, d]
        raster := { controller.raster with
          rows := (BigEndian.read [a, b], BigEndian.read [c, d]) } } := rfl

/-- The address that two bytes from `dataAddress` give. -/
def sentAddress (address : Int) : Nat :=
  BigEndian.read [.ofInt (address >>> 8), .ofInt (address % 256)]

theorem sentAddress_eq {address : Int} (low : 0 ≤ address) (high : address < 2 ^ 16) :
    sentAddress address = address.toNat := by
  obtain ⟨number, rfl⟩ := Int.eq_ofNat_of_zero_le low
  have shifted : (number : Int) >>> 8 = ((number / 256 : Nat) : Int) :=
    (Int.shiftRight_natCast number 8).trans (congrArg _ (Nat.shiftRight_eq_div_pow number 8))
  have masked : (number : Int) % 256 = ((number % 256 : Nat) : Int) := rfl
  have byte : ∀ part : Nat, UInt8.ofInt part = UInt8.ofNat (part % 256) := fun _ => rfl
  have bytes : ([.ofInt ((number : Int) >>> 8), .ofInt ((number : Int) % 256)] : Bytes) =
      BigEndian.write 2 number := by
    rw [shifted, masked, byte, byte, Nat.mod_mod]
    rfl
  rw [sentAddress, bytes, BigEndian.read_write_of_lt (by omega), Int.toNat_natCast]

theorem takeAll_address (link : Link) (panel : Panel) (address : Int) :
    link.takeAll (dataAddress panel address).wires =
      ⟨true, false, ((link.takeAll panel.wires).port.controller.supply
        (.ofInt (address >>> 8))).supply (.ofInt (address % 256))⟩ := by
  rw [dataAddress, takeAll_data, takeAll_data]

/-- The controller with its window set and ready for the first pixel. -/
def Controller.window (controller : Controller) (columns rows : Nat × Nat) : Controller :=
  { controller with
    command := 0x2C
    data := []
    raster :=
      { canvas := controller.raster.canvas, columns := columns, rows := rows
        column := columns.1, row := rows.1 } }

/-- The columns and the rows that `st7789_set_command_windows` gives. -/
def sentColumns (xStart width : Nat) : Nat × Nat :=
  (sentAddress (xStart + lcdRowStart), sentAddress (xStart + width + lcdRowStart - 1))

def sentRows (yStart height : Nat) : Nat × Nat :=
  (sentAddress (yStart + lcdColStart), sentAddress (yStart + height + lcdColStart - 1))

/-- The window commands, whatever the panel was doing. -/
theorem takeAll_window (link : Link) (xStart yStart width height : Nat) :
    link.takeAll (st7789SetCommandWindows ⟨[], []⟩ xStart yStart width height).wires =
      ⟨false, false, Controller.window link.port.controller (sentColumns xStart width)
        (sentRows yStart height)⟩ := by
  simp only [st7789SetCommandWindows, takeAll_command, takeAll_address, columns_set, rows_set]
  rfl

theorem sentColumns_eq {xStart width : Nat} (fits : xStart + width + lcdRowStart ≤ 2 ^ 16)
    (wide : 0 < width) :
    sentColumns xStart width = (xStart + lcdRowStart, xStart + lcdRowStart + width - 1) := by
  simp only [sentColumns, lcdRowStart] at fits ⊢
  rw [sentAddress_eq (by omega) (by omega), sentAddress_eq (by omega) (by omega)]
  simp only [Prod.mk.injEq]
  omega

theorem sentRows_eq {yStart height : Nat} (fits : yStart + height + lcdColStart ≤ 2 ^ 16)
    (tall : 0 < height) :
    sentRows yStart height = (yStart + lcdColStart, yStart + lcdColStart + height - 1) := by
  simp only [sentRows, lcdColStart] at fits ⊢
  rw [sentAddress_eq (by omega) (by omega), sentAddress_eq (by omega) (by omega)]
  simp only [Prod.mk.injEq]
  omega

/-! ## Pixels -/

theorem pixel_put {controller : Controller} (writing : controller.command = 0x2C)
    (format : controller.colmod = 0x05) (none_ : controller.data = []) (color : Color) :
    (colorBytes color).foldl (Controller.byte true) controller =
      { controller with raster := controller.raster.write (colorTable color) } := by
  have bytes : ∃ high low, colorBytes color = [high, low] ∧
      (BigEndian.read [high, low]).toUInt16 = colorTable color := by
    cases color <;> exact ⟨_, _, rfl, rfl⟩
  obtain ⟨high, low, split, value⟩ := bytes
  obtain ⟨asleep, on, inverted, madctl, colmod, command, data, raster⟩ := controller
  cases writing
  cases format
  cases none_
  rw [split, ← value]
  rfl

/-- A stream of colours is put down pixel by pixel. -/
theorem stream_put (controller : Controller) (writing : controller.command = 0x2C)
    (format : controller.colmod = 0x05) (none_ : controller.data = []) (colors : List Color) :
    (colors.flatMap colorBytes).foldl (Controller.byte true) controller =
      { controller with raster := controller.raster.writeAll (colors.map colorTable) } := by
  induction colors generalizing controller with
  | nil => rfl
  | cons color colors ih =>
    rw [List.flatMap_cons, List.foldl_append, pixel_put writing format none_]
    exact ih _ writing format none_

/-- So are rows that are sent one by one. -/
theorem rows_put (controller : Controller) (writing : controller.command = 0x2C)
    (format : controller.colmod = 0x05) (none_ : controller.data = [])
    (columns : Nat → List Color) (height : Nat) :
    Link.takeAll ⟨true, true, controller⟩ (rowWires columns height) =
      ⟨true, true, { controller with
        raster := controller.raster.writeAll
          ((List.range height).flatMap fun row => (columns row).map colorTable) }⟩ := by
  induction height with
  | zero => rfl
  | succ height ih =>
    rw [rowWires, List.range_succ, List.map_append, Link.takeAll_append, ← rowWires, ih,
      List.flatMap_append, List.flatMap_singleton, Raster.writeAll_append]
    simp only [List.map_cons, List.map_nil, Link.takeAll, List.foldl_cons, List.foldl_nil,
      Link.take, Port.spi, if_true, Link.mk.injEq, Port.mk.injEq, true_and]
    generalize controller.raster.writeAll _ = raster
    exact stream_put { controller with raster := raster } writing format none_
      (columns height)

/-! ## Drawings -/

/-- A panel that has been initialised and waits for the next call. -/
structure Ready (port : Port) : Prop where
  selected : port.selected = false
  awake : port.controller.asleep = false
  on : port.controller.on = true
  inverted : port.controller.inverted = true
  madctl : port.controller.madctl = 0x00
  colmod : port.controller.colmod = 0x05

/-- A rectangle of a drawing. -/
structure Stroke where
  left : Nat
  top : Nat
  width : Nat
  height : Nat
  pixels : Canvas Color

/-- The columns of a row. -/
def Stroke.columns (stroke : Stroke) (row : Nat) : List Color :=
  (List.range stroke.width).map fun column => stroke.pixels column row

/-- The transfers for the rectangle. -/
def Stroke.wires (stroke : Stroke) : List Wire :=
  drawing stroke.left stroke.top stroke.width stroke.height stroke.columns

/-- Its addresses have 16 bits. -/
def Stroke.Addressable (stroke : Stroke) : Prop :=
  stroke.left + stroke.width + lcdRowStart ≤ 2 ^ 16 ∧
    stroke.top + stroke.height + lcdColStart ≤ 2 ^ 16

/-- A picture with the rectangle painted over it. -/
def Stroke.over (canvas : Canvas Color) (stroke : Stroke) : Canvas Color :=
  canvas.paint stroke.left stroke.top stroke.width stroke.height stroke.pixels

/-- The rectangle has been painted into the picture memory. -/
def Painted (port next : Port) (stroke : Stroke) : Prop :=
  next.controller.raster.canvas = port.controller.raster.canvas.paint
    (stroke.left + lcdRowStart) (stroke.top + lcdColStart) stroke.width stroke.height
    fun column row => colorTable (stroke.pixels column row)

/-- A drawing paints its rectangle on the panel it is for. -/
theorem stroke_paints {link : Link} (ready : Ready link.port) {stroke : Stroke}
    (addressable : stroke.Addressable) :
    Ready (link.takeAll stroke.wires).port ∧
      Painted link.port (link.takeAll stroke.wires).port stroke := by
  let opened := Controller.window link.port.controller (sentColumns stroke.left stroke.width)
    (sentRows stroke.top stroke.height)
  have selected : Link.takeAll ⟨false, false, opened⟩ [.dc true, .cs false] =
      ⟨true, true, opened⟩ := rfl
  have sent : link.takeAll stroke.wires = ⟨true, false, { opened with
      raster := opened.raster.writeAll ((List.range stroke.height).flatMap fun row =>
        (stroke.columns row).map colorTable) }⟩ := by
    rw [Stroke.wires, drawing, Link.takeAll_append, Link.takeAll_append, Link.takeAll_append,
      takeAll_window, selected,
      rows_put opened rfl ready.colmod rfl stroke.columns stroke.height]
    rfl
  rw [sent]
  refine ⟨⟨rfl, ready.awake, ready.on, ready.inverted, ready.madctl, ready.colmod⟩, ?_⟩
  rw [Painted]
  by_cases empty : stroke.width = 0 ∨ stroke.height = 0
  · have nothing : ((List.range stroke.height).flatMap fun row =>
        (stroke.columns row).map colorTable) = [] := by
      rcases empty with narrow | low
      · simp [Stroke.columns, narrow]
      · simp [low]
    rw [nothing, Canvas.paint_nothing _ _ empty]
    rfl
  · obtain ⟨narrow, low⟩ := not_or.mp empty
    have wide := Nat.pos_of_ne_zero narrow
    have filled := Raster.writeAll_rectangle link.port.controller.raster.canvas
      (fun column row => colorTable (stroke.pixels column row)) (stroke.left + lcdRowStart)
      (stroke.top + lcdColStart) stroke.height wide
    have corner : opened.raster = .opened link.port.controller.raster.canvas
        (stroke.left + lcdRowStart) (stroke.top + lcdColStart) stroke.width stroke.height := by
      simp only [opened, Controller.window, sentColumns_eq addressable.1 wide,
        sentRows_eq addressable.2 (Nat.pos_of_ne_zero low), Raster.opened]
    simp only [corner, Stroke.columns, List.map_map, Function.comp_def]
    exact congrArg Raster.canvas filled

/-! ## Pictures -/

/-- The picture is what can be seen on the panel, which shows a part of the
picture memory. -/
def Displays (port : Port) (canvas : Canvas Color) : Prop :=
  ∀ column row, column < lcdWidth → row < lcdHeight →
    port.controller.raster.canvas (column + lcdRowStart) (row + lcdColStart) =
      colorTable (canvas column row)

/-- What is seen after a rectangle has been painted. -/
theorem Painted.displays {port next : Port} {stroke : Stroke} (painted : Painted port next stroke)
    {canvas : Canvas Color} (shown : Displays port canvas) :
    Displays next (stroke.over canvas) := by
  intro column row narrow low
  rw [painted, Stroke.over]
  by_cases inside :
      Canvas.Inside stroke.left stroke.top stroke.width stroke.height column row
  · have moved : Canvas.Inside (stroke.left + lcdRowStart) (stroke.top + lcdColStart)
        stroke.width stroke.height (column + lcdRowStart) (row + lcdColStart) := by
      unfold Canvas.Inside at *
      omega
    rw [Canvas.paint_inside _ _ inside, Canvas.paint_inside _ _ moved, Nat.add_sub_add_right,
      Nat.add_sub_add_right]
  · have moved : ¬ Canvas.Inside (stroke.left + lcdRowStart) (stroke.top + lcdColStart)
        stroke.width stroke.height (column + lcdRowStart) (row + lcdColStart) := by
      unfold Canvas.Inside at *
      omega
    rw [Canvas.paint_outside _ _ inside, Canvas.paint_outside _ _ moved]
    exact shown column row narrow low

/-- A rectangle as large as the panel is all that is seen. -/
theorem Painted.displays_whole {port next : Port} {pixels : Canvas Color}
    (painted : Painted port next ⟨0, 0, lcdWidth, lcdHeight, pixels⟩) : Displays next pixels := by
  intro column row narrow low
  have inside : Canvas.Inside (0 + lcdRowStart) (0 + lcdColStart) lcdWidth lcdHeight
      (column + lcdRowStart) (row + lcdColStart) := by
    unfold Canvas.Inside
    omega
  rw [painted, Canvas.paint_inside _ _ inside]
  simp only [Nat.zero_add, Nat.add_sub_cancel]

/-- Rectangles drawn one after the other. -/
theorem strokes_paint {link : Link} (ready : Ready link.port) {canvas : Canvas Color}
    (shown : Displays link.port canvas) {strokes : List Stroke}
    (addressable : ∀ stroke ∈ strokes, stroke.Addressable) :
    Ready (link.takeAll (strokes.flatMap Stroke.wires)).port ∧
      Displays (link.takeAll (strokes.flatMap Stroke.wires)).port
        (strokes.foldl Stroke.over canvas) := by
  induction strokes generalizing link canvas with
  | nil => exact ⟨ready, shown⟩
  | cons stroke strokes ih =>
    rw [List.forall_mem_cons] at addressable
    obtain ⟨still, painted⟩ := stroke_paints ready addressable.1
    rw [List.flatMap_cons, Link.takeAll_append]
    exact ih still (painted.displays shown) addressable.2

end PicowDayClock.PanelDrawings
