import PicowDayClock.PanelCalls

/-! Whole runs of calls on the bus. Seven pictures, each changed by the calls for
its own panel alone, are what the panels display, from the initialisation on. -/
namespace PicowDayClock.PanelRuns
open Checked LcdDriver LcdPanels PanelController PanelDrawings PanelCalls

/-! ## Addresses -/

theorem charStrokes_addressable {font : Font} (formed : WellFormed font) {color : Color}
    {call : CharWrite} (place : call.xPoint ≤ lcdWidth)
    (top : call.yPoint + font.height ≤ lcdHeight ∨ call.yPoint = 0) :
    ∀ stroke ∈ charStrokes font color call, stroke.Addressable := by
  intro stroke drawn
  unfold charStrokes at drawn
  split at drawn
  · cases List.mem_singleton.mp drawn
    have narrow : (font.glyph call.asciiChar).width ≤ lcdWidth := formed.narrow _
    have low := formed.height
    simp only [Stroke.Addressable, glyphStroke, lcdWidth, lcdHeight, lcdRowStart,
      lcdColStart] at *
    omega
  · cases drawn

theorem iconStrokes_addressable {xOffset : Nat} (place : xOffset ≤ lcdWidth)
    (case : Option (Icon × Color)) : ∀ stroke ∈ iconStrokes xOffset case, stroke.Addressable := by
  intro stroke drawn
  cases case with
  | none => cases drawn
  | some pair =>
    cases List.mem_singleton.mp drawn
    simp only [Stroke.Addressable, iconStroke, iconSize, lcdWidth, lcdRowStart,
      lcdColStart] at *
    omega

theorem clearStroke_addressable (color : Nat) : (clearStroke color).Addressable := by
  constructor
  · exact Nat.le_of_ble_eq_true rfl
  · exact Nat.le_of_ble_eq_true rfl

/-- Every rectangle of a call has addresses that the panel can be given. -/
theorem strokes_addressable {bitmaps : Bitmaps} (formed : WellFormedBitmaps bitmaps)
    {call : LcdCall} (fits : LcdCall.Fits call) (lineNumber : Nat) :
    ∀ stroke ∈ LcdCall.strokes bitmaps lineNumber call, stroke.Addressable := by
  cases call with
  | init reset => exact List.forall_mem_singleton.mpr (clearStroke_addressable 0)
  | clearScreen color => exact List.forall_mem_singleton.mpr (clearStroke_addressable color)
  | drawRectangle xStart yStart width height fgColor =>
    exact List.forall_mem_singleton.mpr fits.2
  | printClockDigit color asciiChar =>
    apply charStrokes_addressable formed.clockDigitFont
    · exact (Nat.div_le_self _ _).trans (Nat.sub_le _ _)
    · exact .inr rfl
  | updateIcons watchdogError ntpError wifiError =>
    intro stroke drawn
    rcases List.mem_append.mp drawn with first | drawn
    · exact iconStrokes_addressable (by decide) _ stroke first
    · rcases List.mem_append.mp drawn with second | third
      · exact iconStrokes_addressable (by decide) _ stroke second
      · exact iconStrokes_addressable (by decide) _ stroke third
  | printLine color msg =>
    intro stroke drawn
    obtain ⟨write, written, drawn⟩ := List.mem_flatMap.mp drawn
    obtain ⟨place, top⟩ := charWrites_place written
    exact charStrokes_addressable formed.textFont place top stroke drawn

/-! ## Initialisation -/

/-- A command with its data bytes, as the controller takes them. -/
def Controller.obey (controller : Controller) (step : Byte × Bytes) : Controller :=
  step.2.foldl Controller.supply (controller.start step.1)

theorem takeAll_stepWires (link : Link) (step : Byte × Bytes) :
    (link.takeAll (stepWires step)).port =
      ⟨false, Controller.obey link.port.controller step⟩ := by
  have data : ∀ (bytes : Bytes) (dc : Bool) (controller : Controller),
      (Link.takeAll ⟨dc, false, controller⟩
        (bytes.flatMap fun byte => (st7789DataByte ⟨[], []⟩ byte).wires)).port =
      ⟨false, bytes.foldl Controller.supply controller⟩ := by
    intro bytes
    induction bytes with
    | nil => intros; rfl
    | cons byte bytes ih =>
      intro dc controller
      rw [List.flatMap_cons, Link.takeAll_append, takeAll_data]
      exact ih true _
  rw [stepWires, Link.takeAll_append, takeAll_command]
  exact data step.2 false _

/-- The first command selects the panel, so it does not matter whether it has
been selected before. -/
theorem takeAll_steps (link : Link) (step : Byte × Bytes) (steps : List (Byte × Bytes)) :
    (link.takeAll ((step :: steps).flatMap stepWires)).port =
      ⟨false, (step :: steps).foldl Controller.obey link.port.controller⟩ := by
  induction steps generalizing link step with
  | nil =>
    rw [List.flatMap_singleton]
    exact takeAll_stepWires link step
  | cons next steps ih =>
    rw [List.flatMap_cons, Link.takeAll_append, ih, takeAll_stepWires]
    rfl

/-- The commands of `st7789_init` leave the same settings on every controller. -/
theorem initSequence_obeyed (controller : Controller) :
    initSequence.foldl Controller.obey controller =
      { controller with
        asleep := false, on := true, inverted := true, madctl := 0x00, colmod := 0x05
        command := 0x29, data := [] } := by
  simp [initSequence, Controller.obey, Controller.start, Controller.supply]

theorem initWires_ready (link : Link) : Ready (link.takeAll initWires).port := by
  rw [initWires, initSequence, takeAll_steps, ← initSequence, initSequence_obeyed]
  exact ⟨rfl, rfl, rfl, rfl, rfl, rfl⟩

/-- A cleared panel. -/
def blank : Canvas Color := fun _ _ => .black

/-- A panel is black after its initialisation, whatever was there before. -/
theorem init_blank (link : Link) :
    let wires := initWires ++ [clearStroke 0].flatMap Stroke.wires
    Ready (link.takeAll wires).port ∧ Displays (link.takeAll wires).port blank := by
  dsimp only
  rw [Link.takeAll_append, List.flatMap_singleton]
  obtain ⟨ready, painted⟩ := stroke_paints (initWires_ready link) (clearStroke_addressable 0)
  exact ⟨ready, painted.displays_whole⟩

theorem inside_panel {column row : Nat} (narrow : column < lcdWidth) (low : row < lcdHeight) :
    Canvas.Inside 0 0 lcdWidth lcdHeight column row := by
  unfold Canvas.Inside
  omega

/-! ## One call -/

/-- The driver with the bus of the panels. -/
structure Display where
  driver : Driver
  bus : Bus

/-- A call of `lcd.h` for a panel. -/
def Display.call (bitmaps : Bitmaps) (display : Display) (event : Fin numLcds × LcdCall) :
    Checked Display := do
  let (driver, signals) ← display.driver.call bitmaps event.1 event.2
  .ok ⟨driver, display.bus.takeAll signals⟩

/-- One call after the other. -/
def Display.run (bitmaps : Bitmaps) (display : Display) (events : List (Fin numLcds × LcdCall)) :
    Checked Display := events.foldlM (Display.call bitmaps) display

/-- Seven pictures, each of its own panel, and the line of the next message. -/
structure Screens where
  lineNumber : Nat
  pictures : Fin numLcds → Canvas Color

/-- What a call means for the pictures: its rectangles, on one of them. -/
def Screens.call (bitmaps : Bitmaps) (screens : Screens) (event : Fin numLcds × LcdCall) :
    Screens where
  lineNumber := LcdCall.nextLine screens.lineNumber event.2
  pictures := Function.update screens.pictures event.1
    ((LcdCall.strokes bitmaps screens.lineNumber event.2).foldl Stroke.over
      (screens.pictures event.1))

@[simp] theorem Screens.call_own (bitmaps : Bitmaps) (screens : Screens) (lcd : Fin numLcds)
    (call : LcdCall) : (screens.call bitmaps (lcd, call)).pictures lcd =
      (LcdCall.strokes bitmaps screens.lineNumber call).foldl Stroke.over (screens.pictures lcd) :=
  Function.update_self ..

@[simp] theorem Screens.call_other (bitmaps : Bitmaps) (screens : Screens)
    {lcd other : Fin numLcds} (apart : other ≠ lcd) (call : LcdCall) :
    (screens.call bitmaps (lcd, call)).pictures other = screens.pictures other :=
  Function.update_of_ne apart ..

def Screens.run (bitmaps : Bitmaps) (screens : Screens) (events : List (Fin numLcds × LcdCall)) :
    Screens := events.foldl (Screens.call bitmaps) screens

theorem Screens.run_append (bitmaps : Bitmaps) (screens : Screens)
    (before after : List (Fin numLcds × LcdCall)) :
    screens.run bitmaps (before ++ after) = (screens.run bitmaps before).run bitmaps after :=
  List.foldl_append

/-- A panel that no call is for. -/
theorem Screens.run_other (bitmaps : Bitmaps) (screens : Screens) {other : Fin numLcds}
    {events : List (Fin numLcds × LcdCall)} (apart : ∀ event ∈ events, other ≠ event.1) :
    (screens.run bitmaps events).pictures other = screens.pictures other := by
  induction events generalizing screens with
  | nil => rfl
  | cons event events ih =>
    rw [List.forall_mem_cons] at apart
    exact (ih (screens.call bitmaps event) apart.2).trans
      (screens.call_other bitmaps apart.1 event.2)

/-- The panels display the pictures, and all of them wait for a call. -/
structure Shown (display : Display) (screens : Screens) : Prop where
  linebuf : display.driver.linebuf.length = lcdWidth * 2
  lineNumber : display.driver.lineNumber = screens.lineNumber
  ready : ∀ lcd, Ready (display.bus.ports lcd)
  pictures : ∀ lcd, Displays (display.bus.ports lcd) (screens.pictures lcd)

/-- The transfers of a call to its own panel. -/
def LcdCall.wires (bitmaps : Bitmaps) (lineNumber : Nat) (call : LcdCall) : List Wire :=
  LcdCall.startWires call ++ (LcdCall.strokes bitmaps lineNumber call).flatMap Stroke.wires

/-- A call has a result, and this is what it does to the bus. -/
theorem call_result {bitmaps : Bitmaps} (formed : WellFormedBitmaps bitmaps) {display : Display}
    (long : display.driver.linebuf.length = lcdWidth * 2) (lcd : Fin numLcds) (call : LcdCall)
    (fits : LcdCall.Fits call) :
    ∃ next, display.call bitmaps (lcd, call) = .ok next ∧
      next.driver.linebuf.length = lcdWidth * 2 ∧
      next.driver.lineNumber = LcdCall.nextLine display.driver.lineNumber call ∧
      next.bus = (display.bus.takeAll (call.prepare lcd)).takeAll
        ((LcdCall.wires bitmaps display.driver.lineNumber call).map (signal lcd)) := by
  obtain ⟨panel, drawn, length, wired⟩ := @draw_spec _ formed _ fits display.driver.lineNumber
    { linebuf := display.driver.linebuf, wires := [] } long
  rw [List.nil_append] at wired
  refine ⟨⟨⟨panel.linebuf, LcdCall.nextLine display.driver.lineNumber call⟩,
    display.bus.takeAll (call.prepare lcd ++ panel.wires.map (signal lcd))⟩, ?_, length, rfl, ?_⟩
  · simp only [Display.call, Driver.call, drawn, ok_bind]
  · simp only [wired, LcdCall.wires, Bus.takeAll_append]

/-- The panel after transfers to it. -/
theorem own_port (bus : Bus) (lcd : Fin numLcds) (wires : List Wire) :
    (bus.takeAll (wires.map (signal lcd))).ports lcd =
      (Link.takeAll ⟨bus.dc, bus.ports lcd⟩ wires).port :=
  congrArg Link.port (bus.takeAll_own lcd wires)

/-- The initialisation of a panel. Without the reset line no other one takes
notice, if it has been initialised before. -/
theorem init_call {bitmaps : Bitmaps} (formed : WellFormedBitmaps bitmaps) {display : Display}
    (long : display.driver.linebuf.length = lcdWidth * 2) (lcd : Fin numLcds) (reset : Bool) :
    ∃ next, display.call bitmaps (lcd, .init reset) = .ok next ∧
      next.driver.linebuf.length = lcdWidth * 2 ∧ next.driver.lineNumber = 0 ∧
      Ready (next.bus.ports lcd) ∧ Displays (next.bus.ports lcd) blank ∧
      (reset = false → ∀ other, other ≠ lcd → Ready (display.bus.ports other) →
        next.bus.ports other = display.bus.ports other) := by
  obtain ⟨next, called, length, line, bus⟩ :=
    call_result formed long lcd (.init reset) trivial
  have own := init_blank ⟨(display.bus.takeAll (LcdCall.prepare lcd (.init reset))).dc,
    (display.bus.takeAll (LcdCall.prepare lcd (.init reset))).ports lcd⟩
  refine ⟨next, called, length, line, ?_, ?_, ?_⟩
  · rw [bus, own_port]
    exact own.1
  · rw [bus, own_port]
    exact own.2
  · rintro rfl other apart ready
    have prepared : LcdCall.prepare lcd (.init false) =
        ([.dc false, .cs false, .cs true, .dc false] : List Wire).map (signal lcd) := rfl
    rw [bus, prepared, ← Bus.takeAll_append, ← List.map_append,
      Bus.takeAll_other _ apart ready.selected]

/-- A call after the initialisation, which may initialise a panel again but does
not use the reset line. -/
def Later (call : LcdCall) : Prop := LcdCall.Fits call ∧ call ≠ .init true

theorem call_shown {bitmaps : Bitmaps} (formed : WellFormedBitmaps bitmaps) {display : Display}
    {screens : Screens} (shown : Shown display screens) {event : Fin numLcds × LcdCall}
    (later : Later event.2) :
    ∃ next, display.call bitmaps event = .ok next ∧ Shown next (screens.call bitmaps event) := by
  obtain ⟨lcd, call⟩ := event
  -- from the port of the panel alone to all seven
  have whole : ∀ next : Display, next.driver.linebuf.length = lcdWidth * 2 →
      next.driver.lineNumber = LcdCall.nextLine display.driver.lineNumber call →
      Ready (next.bus.ports lcd) →
      Displays (next.bus.ports lcd) ((screens.call bitmaps (lcd, call)).pictures lcd) →
      (∀ other, other ≠ lcd → next.bus.ports other = display.bus.ports other) →
      Shown next (screens.call bitmaps (lcd, call)) := by
    intro next length line ready displays others
    refine ⟨length, by rw [line, shown.lineNumber]; rfl, fun other => ?_, fun other => ?_⟩
    · by_cases same : other = lcd
      · rw [same]
        exact ready
      · rw [others other same]
        exact shown.ready other
    · by_cases same : other = lcd
      · rw [same]
        exact displays
      · rw [others other same, Screens.call_other bitmaps screens same]
        exact shown.pictures other
  by_cases initial : ∃ reset, call = .init reset
  · obtain ⟨reset, rfl⟩ := initial
    cases reset with
    | true => exact absurd rfl later.2
    | false =>
      obtain ⟨next, called, length, line, ready, displays, others⟩ :=
        init_call formed shown.linebuf lcd false
      refine ⟨next, called, whole next length line ready ?_ fun other apart =>
        others rfl other apart (shown.ready other)⟩
      intro column row narrow low
      rw [displays column row narrow low, Screens.call_own]
      exact congrArg colorTable (Canvas.paint_inside _ _ (inside_panel narrow low)).symm
  · obtain ⟨next, called, length, line, bus⟩ := call_result formed shown.linebuf lcd call later.1
    have prepared : call.prepare lcd = [] := by
      cases call with
      | init reset => exact absurd ⟨reset, rfl⟩ initial
      | _ => rfl
    have started : LcdCall.startWires call = [] := by
      cases call with
      | init reset => exact absurd ⟨reset, rfl⟩ initial
      | _ => rfl
    have drawn : next.bus = display.bus.takeAll
        (((LcdCall.strokes bitmaps display.driver.lineNumber call).flatMap Stroke.wires).map
          (signal lcd)) := by
      rw [bus, prepared, LcdCall.wires, started, List.nil_append]
      rfl
    obtain ⟨ready, displays⟩ := @strokes_paint ⟨display.bus.dc, display.bus.ports lcd⟩
      (shown.ready lcd) _ (shown.pictures lcd) _
      (strokes_addressable formed later.1 display.driver.lineNumber)
    rw [← own_port, ← drawn] at ready displays
    refine ⟨next, called, whole next length line ready ?_ fun other apart => ?_⟩
    · rw [Screens.call_own, ← shown.lineNumber]
      exact displays
    · rw [drawn, Bus.takeAll_other _ apart (shown.ready other).selected]

/-! ## Runs -/

/-- Calls in any order. -/
theorem run_shown {bitmaps : Bitmaps} (formed : WellFormedBitmaps bitmaps)
    {display : Display} {screens : Screens} (shown : Shown display screens)
    {events : List (Fin numLcds × LcdCall)} (later : ∀ event ∈ events, Later event.2) :
    ∃ reached, display.run bitmaps events = .ok reached ∧
      Shown reached (screens.run bitmaps events) := by
  induction events generalizing display screens with
  | nil => exact ⟨display, rfl, shown⟩
  | cons event events ih =>
    rw [List.forall_mem_cons] at later
    obtain ⟨next, called, still⟩ := call_shown formed shown later.1
    obtain ⟨reached, ran, final⟩ := ih still later.2
    refine ⟨reached, ?_, final⟩
    rw [Display.run, List.foldlM_cons, called, ok_bind]
    exact ran

/-- The calls of a round of the loop in `clock_init`. -/
def initCalls (ii : Fin numLcds) : List (Fin numLcds × LcdCall) :=
  [(ii, .init (ii = 0)), (ii, .clearScreen 0)]

/-- The whole loop. -/
def clockInitCalls : List (Fin numLcds × LcdCall) := (List.finRange numLcds).flatMap initCalls

/-- A panel that has been through a round. -/
def Cleared (port : Port) : Prop := Ready port ∧ Displays port blank

/-- A round of the loop, which leaves the panels of the rounds before as they
are. Only the first round uses the reset line. -/
theorem round_clears {bitmaps : Bitmaps} (formed : WellFormedBitmaps bitmaps) {display : Display}
    (long : display.driver.linebuf.length = lcdWidth * 2) (ii : Fin numLcds) :
    ∃ next, display.run bitmaps (initCalls ii) = .ok next ∧
      next.driver.linebuf.length = lcdWidth * 2 ∧ next.driver.lineNumber = 0 ∧
      Cleared (next.bus.ports ii) ∧
      (ii ≠ 0 → ∀ other, other ≠ ii → Cleared (display.bus.ports other) →
        Cleared (next.bus.ports other)) := by
  obtain ⟨between, initialised, length, -, ready, displays, others⟩ :=
    init_call formed long ii (ii = 0)
  obtain ⟨next, called, final, line, bus⟩ :=
    call_result formed length ii (.clearScreen 0) trivial
  have drawn : next.bus = between.bus.takeAll
      (((([clearStroke 0] : List Stroke)).flatMap Stroke.wires).map (signal ii)) := bus
  have painted := @strokes_paint ⟨between.bus.dc, between.bus.ports ii⟩ ready _ displays _
    (List.forall_mem_singleton.mpr (clearStroke_addressable 0))
  have still : [clearStroke 0].foldl Stroke.over blank = blank := by
    funext column row
    exact ite_self _
  rw [← own_port, ← drawn, still] at painted
  refine ⟨next, ?_, final, line, painted, fun behind other apart cleared => ?_⟩
  · simp only [Display.run, initCalls, List.foldlM_cons, List.foldlM_nil, initialised, ok_bind,
      called]
    rfl
  · have kept := others (decide_eq_false behind) other apart cleared.1
    rw [drawn, Bus.takeAll_other _ apart (by rw [kept]; exact cleared.1.selected), kept]
    exact cleared

/-- The rounds after the first one. -/
theorem rounds_clear {bitmaps : Bitmaps} (formed : WellFormedBitmaps bitmaps) {display : Display}
    (long : display.driver.linebuf.length = lcdWidth * 2)
    (line : display.driver.lineNumber = 0) {panels : List (Fin numLcds)} (behind : 0 ∉ panels) :
    ∃ next, display.run bitmaps (panels.flatMap initCalls) = .ok next ∧
      next.driver.linebuf.length = lcdWidth * 2 ∧ next.driver.lineNumber = 0 ∧
      ∀ lcd, lcd ∈ panels ∨ Cleared (display.bus.ports lcd) → Cleared (next.bus.ports lcd) := by
  induction panels generalizing display with
  | nil => exact ⟨display, rfl, long, line, fun lcd cleared => cleared.resolve_left (by simp)⟩
  | cons ii panels ih =>
    rw [List.mem_cons, not_or] at behind
    obtain ⟨between, first, length, reset, own, others⟩ := round_clears formed long ii
    obtain ⟨next, rest, final, last, cleared⟩ := ih length reset behind.2
    refine ⟨next, ?_, final, last, fun lcd before => cleared lcd ?_⟩
    · rw [Display.run, List.flatMap_cons, List.foldlM_append, ← Display.run, first, ok_bind]
      exact rest
    · by_cases same : lcd = ii
      · rw [same]
        exact .inr own
      · rcases before with listed | already
        · exact .inl (List.mem_of_ne_of_mem same listed)
        · exact .inr (others (Ne.symm behind.1) lcd same already)

/-- Whatever state the panels and the bus are in, with chip selects low or
high, `clock_init` brings all seven up, and each of them is black. -/
theorem clock_init_clears {bitmaps : Bitmaps} (formed : WellFormedBitmaps bitmaps)
    {display : Display} (long : display.driver.linebuf.length = lcdWidth * 2) :
    ∃ reached, display.run bitmaps clockInitCalls = .ok reached ∧
      Shown reached ⟨0, fun _ => blank⟩ := by
  obtain ⟨between, first, length, line, own, -⟩ := round_clears formed long 0
  have behind : (0 : Fin numLcds) ∉ (List.finRange numLcds).tail := by decide
  obtain ⟨reached, rest, final, last, cleared⟩ := rounds_clear formed length line behind
  have all : ∀ lcd, Cleared (reached.bus.ports lcd) := by
    intro lcd
    by_cases front : lcd = 0
    · rw [front]
      exact cleared 0 (.inr own)
    · exact cleared lcd (.inl (List.mem_of_ne_of_mem front (List.mem_finRange lcd)))
  refine ⟨reached, ?_, final, last, fun lcd => (all lcd).1, fun lcd => (all lcd).2⟩
  have split : clockInitCalls = initCalls 0 ++ (List.finRange numLcds).tail.flatMap initCalls := rfl
  rw [Display.run, split, List.foldlM_append, ← Display.run, first, ok_bind]
  exact rest

/-- From any state of the panels, of the bus and of the line buffer: after the
loop of `clock_init`, whatever is drawn on whichever panels and in any order, each
call has a result, all seven panels are ready for the next one, and each displays
the rectangles of its own calls on black and nothing else. -/
theorem panels_display_pictures {bitmaps : Bitmaps} (formed : WellFormedBitmaps bitmaps)
    {display : Display} (long : display.driver.linebuf.length = lcdWidth * 2)
    {events : List (Fin numLcds × LcdCall)} (later : ∀ event ∈ events, Later event.2) :
    ∃ reached, display.run bitmaps (clockInitCalls ++ events) = .ok reached ∧
      reached.driver.linebuf.length = lcdWidth * 2 ∧
      ∀ lcd, Ready (reached.bus.ports lcd) ∧
        Displays (reached.bus.ports lcd)
          ((Screens.run bitmaps ⟨0, fun _ => blank⟩ events).pictures lcd) := by
  obtain ⟨cleared, first, shown⟩ := clock_init_clears formed long
  obtain ⟨reached, rest, final⟩ := run_shown formed shown later
  refine ⟨reached, ?_, final.linebuf, fun lcd => ⟨final.ready lcd, final.pictures lcd⟩⟩
  rw [Display.run, List.foldlM_append, ← Display.run, first, ok_bind]
  exact rest

/-- A font of one glyph, for every character. -/
def stripedFont (width byteWidth height : Nat) : Font where
  table := fun _ => ⟨List.replicate (height * byteWidth) 0xAA, width⟩
  byteWidth := byteWidth
  height := height

theorem stripedFont_formed {width byteWidth height : Nat} (narrow : width ≤ lcdWidth)
    (packed : width ≤ byteWidth * 8) (low : height ≤ lcdHeight) :
    WellFormed (stripedFont width byteWidth height) :=
  ⟨low, fun _ => narrow, fun _ => packed, fun _ _ => Nat.le_of_eq List.length_replicate.symm⟩

def fullIcon : Icon := ⟨List.replicate iconBytes 0xFF, List.length_replicate⟩

def stripedBitmaps : Bitmaps where
  textFont := stripedFont 10 2 20
  clockDigitFont := stripedFont 150 19 240
  icons := ⟨fullIcon, fullIcon, fullIcon, fullIcon, fullIcon, fullIcon, fullIcon, fullIcon,
    fullIcon, fullIcon, fullIcon, fullIcon, fullIcon, fullIcon, fullIcon⟩

theorem stripedBitmaps_formed : WellFormedBitmaps stripedBitmaps :=
  ⟨stripedFont_formed (by decide) (by decide) (by decide),
    stripedFont_formed (by decide) (by decide) (by decide)⟩

/-- All chip selects low, the controllers asleep, and the picture memory full. -/
def poweredOn : Display where
  driver := ⟨List.replicate (lcdWidth * 2) (some 0), 0⟩
  bus := ⟨false, fun _ => ⟨true, true, false, false, 0, 6, 0, [], fun _ _ => 0xFFFF, (0, 239),
    (0, 319), 0, 0⟩⟩

theorem poweredOn_linebuf : poweredOn.driver.linebuf.length = lcdWidth * 2 :=
  List.length_replicate

/-- Two panels in turn, and then a line on the first one. -/
def mixedCalls : List (Fin numLcds × LcdCall) :=
  [(3, .printClockDigit .green 0x31), (0, .updateIcons .reset .dnsError .ok),
    (3, .drawRectangle 10 300 20 20 1), (0, .printLine .red .wifiError)]

theorem mixed_calls_are_displayed :
    ∃ reached, poweredOn.run stripedBitmaps (clockInitCalls ++ mixedCalls) = .ok reached ∧
      reached.driver.linebuf.length = lcdWidth * 2 ∧
      ∀ lcd, Ready (reached.bus.ports lcd) ∧
        Displays (reached.bus.ports lcd)
          ((Screens.run stripedBitmaps ⟨0, fun _ => blank⟩ mixedCalls).pictures lcd) := by
  refine panels_display_pictures stripedBitmaps_formed poweredOn_linebuf ?_
  have fits : LcdCall.Fits (.drawRectangle 10 300 20 20 1) := by
    simp [LcdCall.Fits, Stroke.Addressable, rectangleStroke, lcdWidth, lcdRowStart, lcdColStart]
  simp only [mixedCalls, List.forall_mem_cons]
  refine ⟨⟨trivial, ?_⟩, ⟨trivial, ?_⟩, ⟨fits, ?_⟩, ⟨trivial, ?_⟩, List.forall_mem_nil _⟩ <;> simp

end PicowDayClock.PanelRuns
