import PicowDayClock.Firmware.LcdPanels
import PicowDayClock.Library.BigEndian
import PicowDayClock.Library.RasterWindow

/-! What the panels make of the bus: the ST7789 controller behind each chip
select, as far as the driver's commands go, and seven of them side by side. A
command and each of its data bytes may come in transfers of their own. -/
namespace PicowDayClock.PanelController
open LcdDriver LcdPanels

/-- The controller of a panel: its settings, the command at hand with the data
bytes that have come for it, and the picture memory. -/
structure Controller where
  asleep : Bool
  on : Bool
  inverted : Bool
  madctl : Byte
  colmod : Byte
  command : Byte
  data : Bytes
  raster : Raster UInt16

/-- The controller after the reset line has been low. The picture memory is not
cleared. -/
def Controller.reset (controller : Controller) : Controller where
  asleep := true
  on := false
  inverted := false
  madctl := 0x00
  colmod := 0x06
  command := 0x00
  data := []
  raster := controller.raster

/-- A command byte. `RAMWR` takes the cursor to the corner of the window. -/
def Controller.start (controller : Controller) (reg : Byte) : Controller :=
  let controller := { controller with command := reg, data := [] }
  if reg = 0x11 then { controller with asleep := false }
  else if reg = 0x21 then { controller with inverted := true }
  else if reg = 0x29 then { controller with on := true }
  else if reg = 0x2C then
    { controller with raster := { controller.raster with
        column := controller.raster.columns.1, row := controller.raster.rows.1 } }
  else controller

/-- The data bytes of the command at hand, with one more. A pixel has two bytes
where the format is that of 16 bits; no other format is used. -/
def Controller.supply (controller : Controller) (byte : Byte) : Controller :=
  let controller := { controller with data := controller.data ++ [byte] }
  match controller.command, controller.data with
  | 0x2A, [a, b, c, d] =>
    { controller with raster := { controller.raster with
        columns := (BigEndian.read [a, b], BigEndian.read [c, d]) } }
  | 0x2B, [a, b, c, d] =>
    { controller with raster := { controller.raster with
        rows := (BigEndian.read [a, b], BigEndian.read [c, d]) } }
  | 0x36, [a] => { controller with madctl := a }
  | 0x3A, [a] => { controller with colmod := a }
  | 0x2C, [a, b] =>
    if controller.colmod = 0x05 then
      { controller with
        data := [], raster := controller.raster.write (BigEndian.read [a, b]).toUInt16 }
    else controller
  | _, _ => controller

/-- A byte on the data line, with the level of the data/command line. -/
def Controller.byte (dc : Bool) (controller : Controller) (byte : Byte) : Controller :=
  if dc then controller.supply byte else controller.start byte

/-- A panel on the bus: its controller, and whether its chip select is low. -/
structure Port where
  selected : Bool
  controller : Controller

/-- The bus with its panels. -/
structure Bus where
  dc : Bool
  ports : Fin numLcds → Port

/-- One panel alone on the bus, as the driver's functions see it. -/
structure Link where
  dc : Bool
  port : Port

/-- The panel takes bytes while its chip select is low. -/
def Port.spi (port : Port) (dc : Bool) (bytes : Bytes) : Port :=
  if port.selected then { port with controller := bytes.foldl (Controller.byte dc) port.controller }
  else port

def Bus.take (bus : Bus) : Signal → Bus
  | .rst level =>
    if level then bus
    else { bus with ports := fun lcd =>
      { bus.ports lcd with controller := (bus.ports lcd).controller.reset } }
  | .dc level => { bus with dc := level }
  | .cs lcd level =>
    { bus with ports := Function.update bus.ports lcd { bus.ports lcd with selected := !level } }
  | .spi bytes => { bus with ports := fun lcd => (bus.ports lcd).spi bus.dc bytes }

def Bus.takeAll (bus : Bus) (signals : List Signal) : Bus := signals.foldl Bus.take bus

def Link.take (link : Link) : Wire → Link
  | .dc level => { link with dc := level }
  | .cs level => { link with port := { link.port with selected := !level } }
  | .spi bytes => { link with port := link.port.spi link.dc bytes }

def Link.takeAll (link : Link) (wires : List Wire) : Link := wires.foldl Link.take link

/-! ## One panel and the others -/

theorem Link.takeAll_append (link : Link) (before after : List Wire) :
    link.takeAll (before ++ after) = (link.takeAll before).takeAll after := List.foldl_append

theorem Bus.takeAll_append (bus : Bus) (before after : List Signal) :
    bus.takeAll (before ++ after) = (bus.takeAll before).takeAll after := List.foldl_append

/-- A panel sees what is done to it as if it were alone. -/
theorem Bus.takeAll_own (bus : Bus) (lcd : Fin numLcds) (wires : List Wire) :
    let after := bus.takeAll (wires.map (signal lcd))
    (⟨after.dc, after.ports lcd⟩ : Link) = Link.takeAll ⟨bus.dc, bus.ports lcd⟩ wires := by
  induction wires generalizing bus with
  | nil => rfl
  | cons wire wires ih =>
    have one : (⟨(bus.take (signal lcd wire)).dc, (bus.take (signal lcd wire)).ports lcd⟩ : Link) =
        Link.take ⟨bus.dc, bus.ports lcd⟩ wire := by
      cases wire with
      | cs level => simp only [signal, take, Link.take, Function.update_self]
      | _ => rfl
    have later := ih (bus.take (signal lcd wire))
    rw [one] at later
    exact later

/-- While it is not selected, it does not see what is done to another one. -/
theorem Bus.takeAll_other (bus : Bus) {lcd other : Fin numLcds} (apart : other ≠ lcd)
    (idle : (bus.ports other).selected = false) (wires : List Wire) :
    (bus.takeAll (wires.map (signal lcd))).ports other = bus.ports other := by
  induction wires generalizing bus with
  | nil => rfl
  | cons wire wires ih =>
    have one : (bus.take (signal lcd wire)).ports other = bus.ports other := by
      cases wire with
      | dc level => rfl
      | cs level => exact Function.update_of_ne apart _ _
      | spi bytes => exact if_neg (by rw [idle]; decide)
    have later := ih (bus.take (signal lcd wire)) (by rw [one]; exact idle)
    rw [one] at later
    exact later

end PicowDayClock.PanelController
