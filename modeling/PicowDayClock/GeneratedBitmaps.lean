import PicowDayClock.ClockPictures
import PicowDayClock.Scripts.Bitmaps

/-! From the font file to the panels. The tables of the generators are what the
driver needs, every character that the clock prints is in the table of its font,
and the panels display the images that the generators were given. -/
namespace PicowDayClock.GeneratedBitmaps
open Boot Checked LcdDriver LcdPanels ClockTask ClockPanels BitmapRenderers PanelController
open PanelDrawings PanelCalls PanelRuns ClockPictures Scripts Ticks

/-! ## Tables -/

/-- The characters with a table fit on a panel. The script does not see to it. -/
def Sized (font : TrueTypeFont) (clock : Bool) : Prop :=
  ∀ index, included clock index = true →
    (font.getbbox index).left ≤ (font.getbbox index).right ∧
      (font.getbbox index).right - (font.getbbox index).left ≤ lcdWidth

/-- The columns of a character that are drawn. -/
def imageWidth (font : TrueTypeFont) (index : Fin 95) : Nat :=
  ((font.getbbox index).right - (font.getbbox index).left).toNat

theorem glyphEntry_width {font : TrueTypeFont} {clock : Bool} (sized : Sized font clock)
    (charHeight : Nat) {index : Fin 95} (listed : included clock index = true) :
    (glyphEntry font charHeight clock index).width = imageWidth font index ∧
      imageWidth font index ≤ lcdWidth := by
  obtain ⟨ordered, narrow⟩ := sized index listed
  rw [glyphEntry, if_pos listed]
  simp only [imageWidth, lcdWidth] at narrow ⊢
  omega

/-- No character is wider than the rows of the tables. -/
theorem imageWidth_le (font : TrueTypeFont) (index : Fin 95) :
    imageWidth font index ≤ bytesPerRow font * 8 := by
  have right := Finset.le_sup' (fun index => (font.getbbox index).right) (Finset.mem_univ index)
  have left := Finset.inf'_le (fun index => (font.getbbox index).left) (Finset.mem_univ index)
  have wide : (font.getbbox index).right - (font.getbbox index).left ≤ maxWidth font :=
    Int.sub_le_sub right left
  simp only [imageWidth, bytesPerRow]
  omega

/-- What the driver needs of an entry, with a table or without one. -/
theorem glyphEntry_formed {font : TrueTypeFont} {clock : Bool} (sized : Sized font clock)
    (charHeight : Nat) (index : Fin 95) :
    let entry := glyphEntry font charHeight clock index
    entry.width ≤ lcdWidth ∧ entry.width ≤ bytesPerRow font * 8 ∧
      (0 < entry.width → charHeight * bytesPerRow font ≤ entry.table.length) := by
  dsimp only
  by_cases listed : included clock index = true
  · obtain ⟨width, narrow⟩ := glyphEntry_width sized charHeight listed
    rw [width]
    refine ⟨narrow, imageWidth_le font index, fun _ => ?_⟩
    rw [glyphEntry, if_pos listed, PackedBits.pack_length]
  · rw [glyphEntry, if_neg listed]
    exact ⟨Nat.zero_le _, Nat.zero_le _, nofun⟩

theorem generated_eq {font : TrueTypeFont} {charHeight : Nat} {clock : Bool} {table : Font}
    (generated : generateVariableWidthFont font charHeight clock = some table) :
    table = ⟨glyphEntry font charHeight clock, bytesPerRow font, charHeight⟩ := by
  unfold generateVariableWidthFont at generated
  split at generated
  · cases generated
  · exact (Option.some.inj generated).symm

/-- A font from the generator is well formed, if it is not too large for a panel. -/
theorem generated_formed {font : TrueTypeFont} {charHeight : Nat} {clock : Bool} {table : Font}
    (generated : generateVariableWidthFont font charHeight clock = some table)
    (low : charHeight ≤ lcdHeight) (sized : Sized font clock) : WellFormed table := by
  rw [generated_eq generated]
  refine ⟨low, fun index => ?_, fun index => ?_, fun index => ?_⟩ <;> dsimp only <;>
    obtain ⟨narrow, packed, whole⟩ := glyphEntry_formed sized charHeight index
  · exact narrow
  · exact packed
  · exact whole

/-- A pixel of a table is the pixel of the image. -/
theorem generated_pixel {font : TrueTypeFont} {charHeight : Nat} {clock : Bool} {index : Fin 95}
    (listed : included clock index = true) (color : Color) {column row : Nat}
    (inside : column < imageWidth font index) (low : row < charHeight) :
    pixelAt (glyphEntry font charHeight clock index).table (bytesPerRow font) color row column =
      if glyphImage font charHeight index column row then color else .black := by
  have narrow := Nat.lt_of_lt_of_le inside (imageWidth_le font index)
  rw [glyphEntry, if_pos listed, pixelAt, PackedBits.pack_pixel _ low narrow]

/-! ## Characters of the clock -/

/-- The place of a character in `ASCII_CHAR_RANGE`. -/
def charIndex (character : Byte) : Fin 95 :=
  ⟨(character.toNat - 0x20) % 95, Nat.mod_lt _ (Nat.succ_pos 94)⟩

theorem asciiChar_charIndex {character : Byte} (visible : DisplayRefresh.drawable character = true) :
    asciiChar (charIndex character) = character := by
  have range : 0x20 ≤ character.toNat ∧ character.toNat ≤ 0x7E := by
    simp only [DisplayRefresh.drawable, Bool.not_eq_true', decide_eq_false_iff_not, not_or,
      UInt8.not_lt, UInt8.le_iff_toNat_le, GT.gt] at visible
    exact visible
  have place : 32 + (character.toNat - 0x20) % 95 = character.toNat := by omega
  rw [asciiChar, charIndex, place]
  exact UInt8.ofNat_toNat

set_option maxRecDepth 2000 in
theorem dayNames_in_range : ∀ index < 7,
    (DisplayRefresh.dayNames.getD index []).all clockCharRange.contains = true := by decide

theorem twoDigits_in_range (number : Nat) (small : number < 100) :
    (DisplayRefresh.twoDigits number).all clockCharRange.contains = true := by
  have single : ∀ digit < 10,
      clockCharRange.contains ((ascii "0123456789").getD digit 0) = true := by decide
  rw [DisplayRefresh.twoDigits, List.all_cons, single (number / 10) (by omega), List.all_cons,
    single (number % 10) (by omega)]
  rfl

/-- Whatever the time is, its characters are in the table of the clock font. -/
theorem lcdDigits_included (localEpoch : Int) (ii : Fin numLcds) :
    included true (charIndex (lcdDigits localEpoch ii)) = true := by
  obtain ⟨day, hour, minute, second, -, early, below, -, text⟩ :=
    DisplayRefresh.digitText_reads localEpoch
  have all : (DisplayRefresh.digitText localEpoch).all clockCharRange.contains = true := by
    rw [text, List.all_append, List.all_append, dayNames_in_range (day % 7).toNat (by omega),
      twoDigits_in_range hour (by omega), twoDigits_in_range minute (by omega)]
    rfl
  rw [List.all_eq_true] at all
  rw [included, asciiChar_charIndex (DisplayRefresh.lcdDigits_drawable localEpoch ii)]
  exact all _ (List.mem_of_getElem? (DisplayRefresh.lcdDigits_eq localEpoch ii))

/-- The image of a character in the middle of a panel, on black. -/
def digitImage (font : TrueTypeFont) (ii : Fin numLcds) (character : Byte) : Canvas Color :=
  fun column row =>
    let width := imageWidth font (charIndex character)
    let left := (lcdWidth - width) / 2
    if left ≤ column ∧ column < left + width ∧
        glyphImage font lcdHeight (charIndex character) (column - left) row then digitColor ii
    else .black

/-- It is what the rectangles of a digit look like. -/
theorem digitStrokes_alike {font : TrueTypeFont} {bitmaps : Bitmaps}
    (generated : generateVariableWidthFont font lcdHeight true = some bitmaps.clockDigitFont)
    (sized : Sized font true) (localEpoch : Int) (ii : Fin numLcds) :
    Alike ((digitStrokes bitmaps ii (some (lcdDigits localEpoch ii))).foldl Stroke.over blank)
      (digitImage font ii (lcdDigits localEpoch ii)) := by
  have listed := lcdDigits_included localEpoch ii
  have drawn := DisplayRefresh.lcdDigits_drawable localEpoch ii
  generalize lcdDigits localEpoch ii = character at listed drawn ⊢
  obtain ⟨width, narrow⟩ := glyphEntry_width sized lcdHeight listed
  have visible : printable character = true := by
    simpa [DisplayRefresh.drawable, printable] using drawn
  have single : digitStrokes bitmaps ii (some character) =
      [glyphStroke bitmaps.clockDigitFont (digitColor ii)
        (digitPlace bitmaps.clockDigitFont character)] := if_pos visible
  have glyph : bitmaps.clockDigitFont.glyph character =
      glyphEntry font lcdHeight true (charIndex character) := by
    rw [Font.glyph, generated_eq generated, charIndex]
    rfl
  have stride : bitmaps.clockDigitFont.byteWidth = bytesPerRow font := by
    rw [generated_eq generated]
  have height : bitmaps.clockDigitFont.height = lcdHeight := by rw [generated_eq generated]
  intro column row _ low
  rw [single, List.foldl_cons, List.foldl_nil, Stroke.over]
  simp only [glyphStroke, digitPlace, glyph, width, stride, height, digitImage]
  by_cases inside : Canvas.Inside ((lcdWidth - imageWidth font (charIndex character)) / 2) 0
      (imageWidth font (charIndex character)) lcdHeight column row
  · obtain ⟨left, before, -, -⟩ := id inside
    have within : column - (lcdWidth - imageWidth font (charIndex character)) / 2 <
        imageWidth font (charIndex character) := by omega
    rw [Canvas.paint_inside _ _ inside, Nat.sub_zero,
      generated_pixel listed (digitColor ii) within low]
    simp only [left, before, true_and]
  · have outside : ¬ ((lcdWidth - imageWidth font (charIndex character)) / 2 ≤ column ∧
        column < (lcdWidth - imageWidth font (charIndex character)) / 2 +
          imageWidth font (charIndex character)) := by
      rintro ⟨left, before⟩
      exact inside ⟨left, before, Nat.zero_le _, by rw [Nat.zero_add]; exact low⟩
    rw [Canvas.paint_outside _ _ inside, if_neg fun lit => outside ⟨lit.1, lit.2.1⟩]
    rfl

/-! ## Icons -/

/-- The squares of the three icons on the first panel. -/
def InIcons (ii : Fin numLcds) (column row : Nat) : Prop :=
  ii = 0 ∧ row < iconSize ∧ watchdogIconXOffset ≤ column ∧ column < wifiIconXOffset + iconSize

theorem inPlace_outside {xOffset : Nat} (case : Option (Icon × Color)) (canvas : Canvas Color)
    {column row : Nat} (outside : ¬ Canvas.Inside xOffset 0 iconSize iconSize column row) :
    inPlace xOffset case canvas column row = canvas column row := by
  cases case with
  | none => rfl
  | some icon => exact Canvas.paint_outside _ _ outside

/-- Nothing else is behind icons. -/
theorem withIcons_outside (bitmaps : Bitmaps) {ii : Fin numLcds} {lcd : LcdState}
    (bare : ii ≠ 0 → NoIcons lcd) (canvas : Canvas Color) {column row : Nat}
    (outside : ¬ InIcons ii column row) :
    withIcons bitmaps lcd canvas column row = canvas column row := by
  by_cases first : ii = 0
  · have apart : ∀ xOffset, watchdogIconXOffset ≤ xOffset → xOffset ≤ wifiIconXOffset →
        ¬ Canvas.Inside xOffset 0 iconSize iconSize column row := by
      rintro xOffset left right ⟨from_, before, -, low⟩
      exact outside ⟨first, by omega, by omega, by omega⟩
    rw [withIcons, inPlaces, inPlace_outside _ _ (apart _ (by decide) (by decide)),
      inPlace_outside _ _ (apart _ (by decide) (by decide)),
      inPlace_outside _ _ (apart _ (by decide) (by decide))]
  · obtain ⟨watchdog, ntp, wifi⟩ := bare first
    rw [withIcons, watchdog, ntp, wifi]
    rfl

/-- The three places with their icons. -/
def iconPlaces (bitmaps : Bitmaps) (lcd : LcdState) : List (Nat × Option (Icon × Color)) :=
  [(watchdogIconXOffset, lcd.watchdogIcon.bind bitmaps.icons.watchdog),
    (ntpIconXOffset, lcd.ntpIcon.bind bitmaps.icons.ntp),
    (wifiIconXOffset, lcd.wifiIcon.bind bitmaps.icons.wifi)]

theorem inPlace_inside (xOffset : Nat) (icon : Icon) (color : Color) (canvas : Canvas Color)
    {x y : Nat} (narrow : x < iconSize) (low : y < iconSize) :
    inPlace xOffset (some (icon, color)) canvas (xOffset + x) y =
      pixelAt icon.bytes ((iconSize + 7) / 8) color y x := by
  have inside : Canvas.Inside xOffset 0 iconSize iconSize (xOffset + x) y :=
    ⟨Nat.le_add_right _ _, Nat.add_lt_add_left narrow _, Nat.zero_le _, by rwa [Nat.zero_add]⟩
  refine (Canvas.paint_inside _ _ inside).trans ?_
  rw [Nat.add_sub_cancel_left, Nat.sub_zero]
  rfl

/-- An icon is not covered by the others. -/
theorem withIcons_place {bitmaps : Bitmaps} {lcd : LcdState} {xOffset : Nat} {icon : Icon}
    {color : Color} (placed : (xOffset, some (icon, color)) ∈ iconPlaces bitmaps lcd)
    (canvas : Canvas Color) {x y : Nat} (narrow : x < iconSize) (low : y < iconSize) :
    withIcons bitmaps lcd canvas (xOffset + x) y =
      pixelAt icon.bytes ((iconSize + 7) / 8) color y x := by
  have beside : ∀ {right}, xOffset + iconSize ≤ right →
      ¬ Canvas.Inside right 0 iconSize iconSize (xOffset + x) y := by
    rintro right left ⟨from_, -, -, -⟩
    omega
  simp only [iconPlaces, List.mem_cons, Prod.mk.injEq, List.not_mem_nil, or_false] at placed
  rcases placed with ⟨rfl, drawn⟩ | ⟨rfl, drawn⟩ | ⟨rfl, drawn⟩
  · rw [withIcons, inPlaces, inPlace_outside _ _ (beside (by decide)),
      inPlace_outside _ _ (beside (by decide)), ← drawn]
    exact inPlace_inside _ icon color canvas narrow low
  · rw [withIcons, inPlaces, inPlace_outside _ _ (beside (by decide)), ← drawn]
    exact inPlace_inside _ icon color _ narrow low
  · rw [withIcons, inPlaces, ← drawn]
    exact inPlace_inside _ icon color _ narrow low

/-- A pixel of an icon is one of the image: dark ones have the colour. -/
theorem imageToBitmap_pixel (image : Nat → Nat → Nat) {size : Nat} (color : Color) {x y : Nat}
    (narrow : x < size) (low : y < size) :
    pixelAt (imageToBitmap image size) ((size + 7) / 8) color y x =
      if image x y > 128 then .black else color := by
  rw [pixelAt, imageToBitmap, PackedBits.pack_pixel _ low (by omega), decide_eq_true narrow]
  by_cases light : image x y > 128 <;> simp [light]

/-! ## Runs of the clock -/

/-- With fonts of the build whose characters fit on a panel, from any state of
the panels and in every state of every run: a panel that has a digit displays
the image of this character, in the middle, in its colour and on black, but for
the squares of the icons on the first panel. When a tick has been handled, the
digits are the characters of its local time. -/
theorem panels_display_font_images {textTtf clockTtf : TrueTypeFont} {bitmaps : Bitmaps}
    (textFont : generateVariableWidthFont textTtf 20 false = some bitmaps.textFont)
    (textSized : Sized textTtf false)
    (clockFont : generateVariableWidthFont clockTtf lcdHeight true = some bitmaps.clockDigitFont)
    (clockSized : Sized clockTtf true)
    {display : Display} (long : display.driver.linebuf.length = lcdWidth * 2)
    {gpio : Nat → Nat} {watchdog : Bool} {persistent : PersistentState} {flash : FlashConfig}
    (returned : (clockInit gpio watchdog persistent flash).progress = .returned)
    (ran : drawing.run
      ((Clock.start (clockInit gpio watchdog persistent flash) systemMs bootMs, .none),
        bootCalls (clockInit gpio watchdog persistent flash) persistent) events =
      some ((reached, tick), calls)) :
    ∃ panels, display.run bitmaps (clockInitCalls ++ calls) = .ok panels ∧
      (∀ ii character, (reached.state.lcdStates ii).digit = some character →
        ∀ column row, column < lcdWidth → row < lcdHeight → ¬ InIcons ii column row →
          (panels.bus.ports ii).controller.raster.canvas (column + lcdRowStart)
              (row + lcdColStart) =
            colorTable (digitImage clockTtf ii character column row)) ∧
      (reached.pc = .firstTickDone → ∃ text,
        DisplayRefresh.Reads (DisplayRefresh.localTime tick.utcNow flash) text ∧
        ∀ ii : Fin numLcds, ∃ character, text[ii.val]? = some character ∧
          (reached.state.lcdStates ii).digit = some character) := by
  have low : 20 ≤ lcdHeight := by decide
  have formed : WellFormedBitmaps bitmaps :=
    ⟨generated_formed textFont low textSized,
      generated_formed clockFont (Nat.le_refl lcdHeight) clockSized⟩
  obtain ⟨panels, screens, called, shown, drawn⟩ := run_on_panels formed long returned ran
  refine ⟨panels, called, ?_, fun last => ?_⟩
  · intro ii character digit column row narrow low outside
    obtain ⟨localEpoch, rfl⟩ := (drawn ii).timed character digit
    have plain := (drawn ii).plain (by rw [digit]; exact Option.some_ne_none _)
    have alike := (drawn ii).pictured column row narrow low
    have image := digitStrokes_alike clockFont clockSized localEpoch ii column row narrow low
    rw [shown.pictures ii column row narrow low, alike, picture,
      withIcons_outside bitmaps (drawn ii).bare _ outside, background, plain, digit]
    exact congrArg colorTable image
  · obtain ⟨localEpoch, digits⟩ := handled_digits returned (StepSystem.run_of_observed ran) last
    refine ⟨DisplayRefresh.digitText reached.locals.localEpoch, ?_, fun ii => ?_⟩
    · rw [← localEpoch]
      exact DisplayRefresh.digitText_reads _
    · exact ⟨_, DisplayRefresh.lcdDigits_eq _ ii, digits ii⟩

/-- With icons of the build, from any state of the panels and in every state of
every run: each icon that the first panel has displays its image, dark pixels in
the colour of the icon. -/
theorem first_panel_displays_icon_images {bitmaps : Bitmaps} (formed : WellFormedBitmaps bitmaps)
    {display : Display} (long : display.driver.linebuf.length = lcdWidth * 2)
    {gpio : Nat → Nat} {watchdog : Bool} {persistent : PersistentState} {flash : FlashConfig}
    (returned : (clockInit gpio watchdog persistent flash).progress = .returned)
    (ran : drawing.run
      ((Clock.start (clockInit gpio watchdog persistent flash) systemMs bootMs, .none),
        bootCalls (clockInit gpio watchdog persistent flash) persistent) events =
      some ((reached, tick), calls)) :
    ∃ panels, display.run bitmaps (clockInitCalls ++ calls) = .ok panels ∧
      ∀ xOffset icon color, ∀ image : Nat → Nat → Nat,
        (xOffset, some (icon, color)) ∈ iconPlaces bitmaps (reached.state.lcdStates 0) →
        icon.bytes = imageToBitmap image iconSize →
        ∀ x y, x < iconSize → y < iconSize →
          (panels.bus.ports 0).controller.raster.canvas (xOffset + x + lcdRowStart)
              (y + lcdColStart) =
            colorTable (if image x y > 128 then .black else color) := by
  obtain ⟨panels, screens, called, shown, drawn⟩ := run_on_panels formed long returned ran
  refine ⟨panels, called, fun xOffset icon color image placed generated x y narrow low => ?_⟩
  have right : xOffset + x < lcdWidth := by
    have last : wifiIconXOffset + iconSize ≤ lcdWidth := by decide
    have order : watchdogIconXOffset ≤ wifiIconXOffset ∧ ntpIconXOffset ≤ wifiIconXOffset := by
      decide
    simp only [iconPlaces, List.mem_cons, Prod.mk.injEq, List.not_mem_nil, or_false] at placed
    omega
  have bottom : y < lcdHeight := Nat.lt_of_lt_of_le low (by decide)
  have alike := (drawn 0).pictured (xOffset + x) y right bottom
  rw [shown.pictures 0 (xOffset + x) y right bottom, alike, picture,
    withIcons_place placed _ narrow low, generated, imageToBitmap_pixel image color narrow low]

/-- A font with boxes of one size, and slanted lines in them. -/
def slantedTtf (width height : Nat) : TrueTypeFont where
  getbbox := fun _ => ⟨0, width, height⟩
  text := fun _ _ _ char x y => (x + y + char.val) % 3 = 0

theorem slantedTtf_generated (width height : Nat) (clock : Bool) :
    generateVariableWidthFont (slantedTtf width height) height clock =
      some ⟨glyphEntry (slantedTtf width height) height clock,
        bytesPerRow (slantedTtf width height), height⟩ := by
  have fits : maxHeight (slantedTtf width height) ≤ height :=
    Finset.sup'_le _ _ fun _ _ => Int.le_refl _
  exact if_neg (Int.not_lt.mpr fits)

theorem slantedTtf_sized {width : Nat} (narrow : width ≤ lcdWidth) (height : Nat) (clock : Bool) :
    Sized (slantedTtf width height) clock := by
  intro index _
  simp only [slantedTtf]
  omega

/-- An image that is lighter to the right, as an icon. -/
def shadedImage (x _ : Nat) : Nat := 7 * x

def shadedIcon : Icon := ⟨imageToBitmap shadedImage iconSize, PackedBits.pack_length ..⟩

def slantedBitmaps : Bitmaps where
  textFont := ⟨glyphEntry (slantedTtf 9 20) 20 false, bytesPerRow (slantedTtf 9 20), 20⟩
  clockDigitFont := ⟨glyphEntry (slantedTtf 140 lcdHeight) lcdHeight true,
    bytesPerRow (slantedTtf 140 lcdHeight), lcdHeight⟩
  icons := ⟨shadedIcon, shadedIcon, shadedIcon, shadedIcon, shadedIcon, shadedIcon, shadedIcon,
    shadedIcon, shadedIcon, shadedIcon, shadedIcon, shadedIcon, shadedIcon, shadedIcon,
    shadedIcon⟩

theorem first_tick_displays_slants :
    ∃ reached tick calls panels,
      drawing.run ((coldStart, .none), bootCalls (clockInit (fun _ => 1) false .zero plainFlash)
        .zero) DisplayRefresh.firstTick = some ((reached, tick), calls) ∧
      poweredOn.run slantedBitmaps (clockInitCalls ++ calls) = .ok panels ∧
      ∃ text, DisplayRefresh.Reads (DisplayRefresh.localTime tick.utcNow plainFlash) text ∧
        ∀ ii : Fin numLcds, ∃ character, text[ii.val]? = some character ∧
          ∀ column row, column < lcdWidth → row < lcdHeight → ¬ InIcons ii column row →
            (panels.bus.ports ii).controller.raster.canvas (column + lcdRowStart)
                (row + lcdColStart) =
              colorTable (digitImage (slantedTtf 140 lcdHeight) ii character column row) := by
  obtain ⟨reached, tick, calls, ran, last⟩ : ∃ reached tick calls,
      drawing.run ((coldStart, .none), bootCalls (clockInit (fun _ => 1) false .zero plainFlash)
        .zero) DisplayRefresh.firstTick = some ((reached, tick), calls) ∧
      reached.pc = .firstTickDone := ⟨_, _, _, rfl, rfl⟩
  have returned : (clockInit (fun _ => 1) false .zero plainFlash).progress = .returned := rfl
  have narrow : 9 ≤ lcdWidth ∧ 140 ≤ lcdWidth := by decide
  have textFont : generateVariableWidthFont (slantedTtf 9 20) 20 false =
      some slantedBitmaps.textFont := slantedTtf_generated 9 20 false
  have clockFont : generateVariableWidthFont (slantedTtf 140 lcdHeight) lcdHeight true =
      some slantedBitmaps.clockDigitFont := slantedTtf_generated 140 lcdHeight true
  obtain ⟨panels, called, shown, handled⟩ := panels_display_font_images textFont
    (slantedTtf_sized narrow.1 20 false) clockFont (slantedTtf_sized narrow.2 lcdHeight true)
    poweredOn_linebuf returned ran
  obtain ⟨text, reads, digits⟩ := handled last
  refine ⟨reached, tick, calls, panels, ran, called, text, reads, fun ii => ?_⟩
  obtain ⟨character, there, digit⟩ := digits ii
  exact ⟨character, there, shown ii character digit⟩

/-- The first panel has its icons right after a cold boot, over the two lines,
and with the digits of the first tick. -/
theorem first_tick_displays_icons :
    (∃ panels, poweredOn.run slantedBitmaps (clockInitCalls ++
        bootCalls (clockInit (fun _ => 1) false .zero plainFlash) .zero) = .ok panels ∧
      ∀ x y, x < iconSize → y < iconSize →
        (panels.bus.ports 0).controller.raster.canvas (wifiIconXOffset + x + lcdRowStart)
            (y + lcdColStart) =
          colorTable (if shadedImage x y > 128 then .black else .green)) ∧
    ∃ reached tick calls panels,
      drawing.run ((coldStart, .none), bootCalls (clockInit (fun _ => 1) false .zero plainFlash)
        .zero) DisplayRefresh.firstTick = some ((reached, tick), calls) ∧
      poweredOn.run slantedBitmaps (clockInitCalls ++ calls) = .ok panels ∧
      ∀ x y, x < iconSize → y < iconSize →
        (panels.bus.ports 0).controller.raster.canvas (ntpIconXOffset + x + lcdRowStart)
            (y + lcdColStart) =
          colorTable (if shadedImage x y > 128 then .black else .green) := by
  have returned : (clockInit (fun _ => 1) false .zero plainFlash).progress = .returned := rfl
  have low : 20 ≤ lcdHeight := by decide
  have narrow : 9 ≤ lcdWidth ∧ 140 ≤ lcdWidth := by decide
  have formed : WellFormedBitmaps slantedBitmaps :=
    ⟨generated_formed (slantedTtf_generated 9 20 false) low (slantedTtf_sized narrow.1 20 false),
      generated_formed (slantedTtf_generated 140 lcdHeight true) (Nat.le_refl lcdHeight)
        (slantedTtf_sized narrow.2 lcdHeight true)⟩
  constructor
  · have ran : drawing.run
        ((coldStart, .none), bootCalls (clockInit (fun _ => 1) false .zero plainFlash) .zero) [] =
        some ((coldStart, .none), _) := rfl
    have icon : (coldStart.state.lcdStates 0).wifiIcon = some .ok := rfl
    obtain ⟨panels, called, shown⟩ :=
      first_panel_displays_icon_images formed poweredOn_linebuf returned ran
    refine ⟨panels, called, shown wifiIconXOffset shadedIcon .green shadedImage ?_ rfl⟩
    simp only [iconPlaces, icon]
    exact List.mem_cons_of_mem _ (List.mem_cons_of_mem _ List.mem_cons_self)
  · obtain ⟨reached, tick, calls, ran, icon⟩ : ∃ reached tick calls,
        drawing.run ((coldStart, .none), bootCalls (clockInit (fun _ => 1) false .zero plainFlash)
          .zero) DisplayRefresh.firstTick = some ((reached, tick), calls) ∧
        (reached.state.lcdStates 0).ntpIcon = some .ok := ⟨_, _, _, rfl, rfl⟩
    obtain ⟨panels, called, shown⟩ :=
      first_panel_displays_icon_images formed poweredOn_linebuf returned ran
    refine ⟨reached, tick, calls, panels, ran, called, ?_⟩
    refine shown ntpIconXOffset shadedIcon .green shadedImage ?_ rfl
    simp only [iconPlaces, icon]
    exact List.mem_cons_of_mem _ List.mem_cons_self

end PicowDayClock.GeneratedBitmaps
