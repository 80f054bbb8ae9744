import PicowDayClock.Firmware.LcdDriver
import PicowDayClock.Library.BigEndian

/-! Images and characters go over the wires in one format: row by row and column
by column, two bytes for the colour of each pixel. Both renderers fill one line
buffer, whose front holds the columns of the row so far. -/
namespace PicowDayClock.BitmapRenderers
open Checked LcdDriver

/-! ## The format -/

/-- The colour of a pixel: its bit decides, the most significant one of a byte
being left-most. -/
def pixelAt (image : Bytes) (bytesPerRow : Nat) (fgColor : Color) (row column : Nat) : Color :=
  if (image.getD (row * bytesPerRow + column / 8) 0).toNat.testBit (7 - column % 8) then fgColor
  else .black

/-- A colour as two bytes, the high one first. -/
def colorBytes (color : Color) : Bytes := BigEndian.write 2 (colorTable color).toNat

/-- The columns of one row in front of a column. -/
def pixels (image : Bytes) (bytesPerRow : Nat) (fgColor : Color) (row columns : Nat) : List Color :=
  (List.range columns).map (pixelAt image bytesPerRow fgColor row)

/-- All bytes of a bitmap with `width` columns and `height` rows. -/
def bitmapStream (image : Bytes) (width height : Nat) (fgColor : Color) : Bytes :=
  (List.range height).flatMap fun row =>
    (pixels image ((width + 7) / 8) fgColor row width).flatMap colorBytes

/-- What has gone over the wires. -/
def sent (wires : List Wire) : Bytes :=
  wires.flatMap fun
    | .spi bytes => bytes
    | _ => []

theorem pixels_length (image : Bytes) (bytesPerRow : Nat) (fgColor : Color) (row columns : Nat) :
    (pixels image bytesPerRow fgColor row columns).length = columns := by
  rw [pixels, List.length_map, List.length_range]

theorem pixels_succ (image : Bytes) (bytesPerRow : Nat) (fgColor : Color) (row columns : Nat) :
    pixels image bytesPerRow fgColor row (columns + 1) =
      pixels image bytesPerRow fgColor row columns ++
        [pixelAt image bytesPerRow fgColor row columns] := by
  rw [pixels, List.range_succ, List.map_append, List.map_singleton, ← pixels]

theorem sent_append (before after : List Wire) : sent (before ++ after) = sent before ++ sent after :=
  List.flatMap_append

/-! ## One bit of a byte -/

theorem and_mask_iff (byte : Byte) {mask : Byte} {bit : Nat} (single : mask.toNat = 2 ^ bit) :
    byte &&& mask ≠ 0 ↔ byte.toNat.testBit bit = true := by
  rw [Ne, ← UInt8.toNat_inj, UInt8.toNat_and, single, Nat.and_two_pow]
  cases byte.toNat.testBit bit <;> simp

theorem image_mask : ∀ bit < 8, ((1 : Byte) <<< (7 - bit.toUInt8)).toNat = 2 ^ (7 - bit) := by
  decide

theorem glyph_mask : ∀ bit < 8, ((0x80 : Byte) >>> bit.toUInt8).toNat = 2 ^ (7 - bit) := by
  decide

/-! ## The line buffer -/

/-- The line buffer holds these columns in front. -/
def Shows (linebuf : Memory) (columns : List Color) : Prop :=
  linebuf.length = lcdWidth * 2 ∧ linebuf.Holds (columns.flatMap colorBytes)

theorem colorBytes_length (color : Color) : (colorBytes color).length = 2 := by
  cases color <;> rfl

theorem colorBytes_eq (color : Color) :
    [(colorTable color >>> 8).toUInt8, (colorTable color &&& 0xFF).toUInt8] = colorBytes color := by
  cases color <;> decide

theorem stream_length (columns : List Color) :
    (columns.flatMap colorBytes).length = columns.length * 2 := by
  induction columns with
  | nil => rfl
  | cons color columns ih =>
    rw [List.flatMap_cons, List.length_append, ih, colorBytes_length, List.length_cons]
    omega

theorem shows_nothing {linebuf : Memory} (size : linebuf.length = lcdWidth * 2) :
    Shows linebuf [] := ⟨size, List.nil_prefix⟩

/-- The next column goes right behind those shown. -/
theorem setColumn_shows {linebuf : Memory} {columns : List Color} (shown : Shows linebuf columns)
    (fits : columns.length < lcdWidth) (color : Color) :
    ∃ next, setColumn linebuf columns.length color = .ok next ∧
      Shows next (columns ++ [color]) := by
  obtain ⟨size, holds⟩ := shown
  have room : (columns.flatMap colorBytes).length + (colorBytes color).length ≤ linebuf.length := by
    rw [stream_length, colorBytes_length]
    omega
  obtain ⟨next, written, length, held⟩ := holds.write room
  refine ⟨next, ?_, length.trans size, ?_⟩
  · rw [setColumn, colorBytes_eq, ← stream_length]
    exact written
  · rw [List.flatMap_append, List.flatMap_singleton]
    exact held

/-- A row that is shown in full is what is sent. -/
theorem sendLine_shown {panel : Panel} {columns : List Color}
    (shown : Shows panel.linebuf columns) :
    sendLine panel columns.length = .ok (panel.put [.spi (columns.flatMap colorBytes)]) := by
  have length := stream_length columns
  rw [sendLine, Memory.read_ok shown.2 (by omega), ok_bind, List.drop_zero,
    List.take_of_length_le (by omega)]

/-! ## One row -/

variable {image : Bytes} {width height row : Nat} {fgColor : Color}

/-- A byte of the image shows the columns of its bits, as far as there are any. -/
theorem imageBits_shows {linebuf : Memory} (fits : width ≤ lcdWidth) (xStart byteIdx : Nat)
    {bytesPerRow : Nat}
    (shown : Shows linebuf (pixels image bytesPerRow fgColor row (min width (byteIdx * 8)))) :
    ∃ next, imageBits xStart width byteIdx fgColor
        (image.getD (row * bytesPerRow + byteIdx) 0) linebuf = .ok next ∧
      Shows next (pixels image bytesPerRow fgColor row (min width ((byteIdx + 1) * 8))) := by
  rw [imageBits, Nat.succ_mul]
  apply forRange_rule fun bit linebuf =>
    Shows linebuf (pixels image bytesPerRow fgColor row (min width (byteIdx * 8 + bit)))
  · exact shown
  · intro bit small now shownNow
    by_cases inside : byteIdx * 8 + bit < width
    · have column : xStart + byteIdx * 8 + bit - xStart = byteIdx * 8 + bit := by omega
      have place : (byteIdx * 8 + bit) / 8 = byteIdx ∧ (byteIdx * 8 + bit) % 8 = bit := by omega
      have color : (if image.getD (row * bytesPerRow + byteIdx) 0 &&&
            (1 <<< (7 - bit.toUInt8)) ≠ 0 then fgColor else .black) =
          pixelAt image bytesPerRow fgColor row (byteIdx * 8 + bit) := by
        rw [pixelAt, place.1, place.2]
        simp only [and_mask_iff _ (image_mask bit small)]
      rw [Nat.min_eq_right (Nat.le_of_lt inside)] at shownNow
      obtain ⟨next, written, shownNext⟩ := setColumn_shows shownNow
        (by rw [pixels_length]; omega) (pixelAt image bytesPerRow fgColor row (byteIdx * 8 + bit))
      rw [pixels_length] at written
      refine ⟨next, ?_, ?_⟩
      · dsimp only
        rw [if_pos (by omega), column, color]
        exact written
      · rw [Nat.min_eq_right (by omega), ← Nat.add_assoc, pixels_succ]
        exact shownNext
    · refine ⟨now, if_neg (by omega), ?_⟩
      rw [Nat.min_eq_left (by omega)] at shownNow ⊢
      exact shownNow

/-- The bytes of a row show all its columns. -/
theorem imageRow_shows {linebuf : Memory} (fits : width ≤ lcdWidth)
    (size : image.length = height * ((width + 7) / 8)) (inside : row < height) (xStart : Nat)
    (long : linebuf.length = lcdWidth * 2) :
    ∃ next, imageRow (image.map some) xStart width fgColor linebuf (row * ((width + 7) / 8)) =
        .ok (next, (row + 1) * ((width + 7) / 8)) ∧
      Shows next (pixels image ((width + 7) / 8) fgColor row width) := by
  have rows : (row + 1) * ((width + 7) / 8) ≤ image.length := by
    rw [size]
    exact Nat.mul_le_mul_right _ inside
  have ran : ∃ final, imageRow (image.map some) xStart width fgColor linebuf
      (row * ((width + 7) / 8)) = .ok final ∧
        final.2 = row * ((width + 7) / 8) + (width + 7) / 8 ∧
        Shows final.1
          (pixels image ((width + 7) / 8) fgColor row (min width ((width + 7) / 8 * 8))) := by
    rw [imageRow]
    apply forRange_rule fun byteIdx (now : Memory × Nat) => now.2 = row * ((width + 7) / 8) + byteIdx ∧
      Shows now.1 (pixels image ((width + 7) / 8) fgColor row (min width (byteIdx * 8)))
    · refine ⟨rfl, ?_⟩
      rw [Nat.zero_mul, Nat.min_zero]
      exact shows_nothing long
    · rintro byteIdx before ⟨now, offset⟩ ⟨place, shown⟩
      dsimp only at place shown
      subst place
      have there : row * ((width + 7) / 8) + byteIdx < image.length := by
        rw [Nat.succ_mul] at rows
        omega
      have loaded : Memory.load (image.map some) (row * ((width + 7) / 8) + byteIdx) =
          .ok (image.getD (row * ((width + 7) / 8) + byteIdx) 0) := by
        apply Memory.load_ok (List.prefix_refl _)
        rw [List.getElem?_eq_getElem there, List.getD_eq_getElem _ _ there]
      obtain ⟨next, drawn, shownNext⟩ := imageBits_shows fits xStart byteIdx shown
      refine ⟨(next, row * ((width + 7) / 8) + byteIdx + 1), ?_, rfl, shownNext⟩
      simp only [loaded, ok_bind, drawn]
  obtain ⟨⟨next, offset⟩, drawn, place, shown⟩ := ran
  rw [Nat.min_eq_left (by omega)] at shown
  refine ⟨next, ?_, shown⟩
  rw [drawn, Nat.succ_mul]
  dsimp only at place
  rw [place]

/-- One row of a glyph shows the columns of the glyph, whose rows may be longer
than its width. -/
theorem glyphRow_shows {entry : FontGlyph} {bytesPerRow : Nat} {linebuf : Memory}
    (fits : entry.width ≤ lcdWidth) (stride : entry.width ≤ bytesPerRow * 8)
    (size : 0 < entry.width → height * bytesPerRow ≤ entry.table.length) (inside : row < height)
    (long : linebuf.length = lcdWidth * 2) :
    ∃ next, glyphRow entry fgColor .black (row * bytesPerRow) linebuf = .ok next ∧
      Shows next (pixels entry.table bytesPerRow fgColor row entry.width) := by
  rw [glyphRow]
  apply forRange_rule fun glyphColumn now =>
    Shows now (pixels entry.table bytesPerRow fgColor row glyphColumn)
  · exact shows_nothing long
  · intro glyphColumn before now shown
    have rows : (row + 1) * bytesPerRow ≤ entry.table.length :=
      Nat.le_trans (Nat.mul_le_mul_right _ inside) (size (Nat.zero_lt_of_lt before))
    have there : row * bytesPerRow + glyphColumn / 8 < entry.table.length := by
      rw [Nat.succ_mul] at rows
      omega
    have loaded : Memory.load (entry.table.map some) (row * bytesPerRow + glyphColumn / 8) =
        .ok (entry.table.getD (row * bytesPerRow + glyphColumn / 8) 0) := by
      apply Memory.load_ok (List.prefix_refl _)
      rw [List.getElem?_eq_getElem there, List.getD_eq_getElem _ _ there]
    obtain ⟨next, written, shownNext⟩ := setColumn_shows shown (by rw [pixels_length]; omega)
      (pixelAt entry.table bytesPerRow fgColor row glyphColumn)
    rw [pixels_length] at written
    refine ⟨next, ?_, ?_⟩
    · have small : glyphColumn % 8 < 8 := Nat.mod_lt _ (by decide)
      simp only [loaded, ok_bind, and_mask_iff _ (glyph_mask _ small)]
      exact written
    · rw [pixels_succ]
      exact shownNext

/-! ## All rows -/

/-- What one round does that shows a row and sends it. -/
def Sends (round : Panel → Nat → Checked (Panel × Nat)) (stride row : Nat) (columns : List Color) :
    Prop :=
  ∀ now : Panel, now.linebuf.length = lcdWidth * 2 →
    ∃ linebuf, Shows linebuf columns ∧ round now (row * stride) =
      .ok ({ now with linebuf := linebuf }.put [.spi (columns.flatMap colorBytes)],
        (row + 1) * stride)

theorem sendImageRow_sends (fgColor : Color) (fits : width ≤ lcdWidth)
    (size : image.length = height * ((width + 7) / 8)) (inside : row < height) (xStart : Nat) :
    Sends (sendImageRow (image.map some) xStart width fgColor) ((width + 7) / 8) row
      (pixels image ((width + 7) / 8) fgColor row width) := by
  intro now length
  obtain ⟨linebuf, drawn, shown⟩ := imageRow_shows fits size inside xStart length
  have whole : sendLine { now with linebuf := linebuf } _ = _ := sendLine_shown shown
  rw [pixels_length] at whole
  refine ⟨linebuf, shown, ?_⟩
  rw [sendImageRow, drawn, ok_bind]
  simp only [whole, ok_bind]

theorem sendGlyphRow_sends (fgColor : Color) {entry : FontGlyph} {bytesPerRow : Nat}
    (fits : entry.width ≤ lcdWidth) (stride : entry.width ≤ bytesPerRow * 8)
    (size : 0 < entry.width → height * bytesPerRow ≤ entry.table.length) (inside : row < height) :
    Sends (sendGlyphRow entry bytesPerRow fgColor .black) bytesPerRow row
      (pixels entry.table bytesPerRow fgColor row entry.width) := by
  intro now length
  obtain ⟨linebuf, filled, shown⟩ := glyphRow_shows fits stride size inside length
  have whole : sendLine { now with linebuf := linebuf } _ = _ := sendLine_shown shown
  rw [pixels_length] at whole
  refine ⟨linebuf, shown, ?_⟩
  rw [sendGlyphRow, filled, ok_bind, whole, ok_bind, Nat.succ_mul]

/-- The transfers of some rows. -/
def rowWires (columns : Nat → List Color) (height : Nat) : List Wire :=
  (List.range height).map fun row => .spi ((columns row).flatMap colorBytes)

/-- A loop over rows each of which is shown and sent sends each in a transfer. -/
theorem rows_wired {round : Panel → Nat → Checked (Panel × Nat)} {stride : Nat}
    {columns : Nat → List Color} (each : ∀ row < height, Sends round stride row (columns row))
    {panel : Panel} (long : panel.linebuf.length = lcdWidth * 2) :
    ∃ final, forRange height (fun _ now => round now.1 now.2) (panel, 0) = .ok final ∧
      final.1.linebuf.length = lcdWidth * 2 ∧
        final.1.wires = panel.wires ++ rowWires columns height := by
  have ran : ∃ final, forRange height (fun _ now => round now.1 now.2) (panel, 0) = .ok final ∧
      final.2 = height * stride ∧ final.1.linebuf.length = lcdWidth * 2 ∧
        final.1.wires = panel.wires ++ rowWires columns height := by
    apply forRange_rule fun row (now : Panel × Nat) => now.2 = row * stride ∧
      now.1.linebuf.length = lcdWidth * 2 ∧
        now.1.wires = panel.wires ++ rowWires columns row
    · exact ⟨(Nat.zero_mul stride).symm, long, (List.append_nil _).symm⟩
    · rintro row inside ⟨now, offset⟩ ⟨place, length, soFar⟩
      dsimp only at place length soFar
      subst place
      obtain ⟨linebuf, shown, drawn⟩ := each row inside now length
      refine ⟨_, drawn, rfl, shown.1, ?_⟩
      simp only [Panel.put, soFar, rowWires, List.range_succ, List.map_append, List.map_singleton,
        List.append_assoc]
  obtain ⟨final, ran, -, length, wired⟩ := ran
  exact ⟨final, ran, length, wired⟩

theorem sent_rowWires (columns : Nat → List Color) (height : Nat) :
    sent (rowWires columns height) =
      (List.range height).flatMap fun row => (columns row).flatMap colorBytes := by
  rw [sent, rowWires, List.flatMap_map]

theorem put_linebuf (panel : Panel) (wires : List Wire) : (panel.put wires).linebuf = panel.linebuf :=
  rfl

/-- Opening a window leaves the line buffer alone. -/
theorem window_linebuf (panel : Panel) (xStart yStart width height : Nat) :
    (st7789SetCommandWindows panel xStart yStart width height).linebuf = panel.linebuf := by
  simp only [st7789SetCommandWindows, st7789Command, dataAddress, st7789DataByte, put_linebuf]

/-- The transfers of a drawing: the window, and the rows in between two changes
of the chip select. -/
def drawing (xStart yStart width height : Nat) (columns : Nat → List Color) : List Wire :=
  (st7789SetCommandWindows { linebuf := [], wires := [] } xStart yStart width height).wires ++
    [.dc true, .cs false] ++ rowWires columns height ++ [.cs true]

theorem window_wires (panel : Panel) (xStart yStart width height : Nat) :
    (st7789SetCommandWindows panel xStart yStart width height).wires = panel.wires ++
      (st7789SetCommandWindows { linebuf := [], wires := [] } xStart yStart width height).wires := by
  simp only [st7789SetCommandWindows, st7789Command, dataAddress, st7789DataByte, Panel.put,
    List.append_assoc, List.nil_append]

theorem sent_drawing (panel : Panel) (xStart yStart width height : Nat)
    (columns : Nat → List Color) :
    sent (panel.wires ++ drawing xStart yStart width height columns) =
      sent (st7789SetCommandWindows panel xStart yStart width height).wires ++
        (List.range height).flatMap fun row => (columns row).flatMap colorBytes := by
  rw [window_wires, drawing]
  simp only [sent_append, sent_rowWires, List.append_assoc]
  simp [sent]

/-- A call draws these rows in a window, and touches nothing outside its tables
and the line buffer. -/
def Draws (draw : Panel → Checked Panel) (xStart yStart width height : Nat)
    (columns : Nat → List Color) : Prop :=
  ∀ panel : Panel, panel.linebuf.length = lcdWidth * 2 →
    ∃ next, draw panel = .ok next ∧ next.linebuf.length = lcdWidth * 2 ∧
      next.wires = panel.wires ++ drawing xStart yStart width height columns

theorem lcdWriteImage_draws (fgColor : Color) (fits : width ≤ lcdWidth)
    (size : image.length = height * ((width + 7) / 8)) (xStart yStart : Nat) :
    Draws (fun panel => lcdWriteImage panel (image.map some) xStart yStart width height fgColor)
      xStart yStart width height (pixels image ((width + 7) / 8) fgColor · width) := by
  intro panel long
  let opened := (st7789SetCommandWindows panel xStart yStart width height).put
    [.dc true, .cs false]
  have buffer : opened.linebuf.length = lcdWidth * 2 := by
    rw [put_linebuf, window_linebuf]
    exact long
  obtain ⟨final, ran, length, wired⟩ :=
    rows_wired (fun row inside => sendImageRow_sends fgColor fits size inside xStart) buffer
  refine ⟨final.1.put [.cs true], ?_, length, ?_⟩
  · dsimp only
    rw [lcdWriteImage, ran, ok_bind]
  · simp only [Panel.put, wired, opened, drawing, window_wires panel, List.append_assoc]

theorem lcdWriteChar_draws {font : Font} {asciiChar : Byte} (fgColor : Color)
    (drawn : printable asciiChar)
    (fits : (font.glyph asciiChar).width ≤ lcdWidth)
    (stride : (font.glyph asciiChar).width ≤ font.byteWidth * 8)
    (size : 0 < (font.glyph asciiChar).width →
      font.height * font.byteWidth ≤ (font.glyph asciiChar).table.length)
    (xPoint yPoint : Nat) {panel : Panel} (long : panel.linebuf.length = lcdWidth * 2) :
    ∃ next, lcdWriteChar panel xPoint yPoint asciiChar font fgColor .black =
        .ok ((font.glyph asciiChar).width, next) ∧ next.linebuf.length = lcdWidth * 2 ∧
      next.wires = panel.wires ++ drawing xPoint yPoint (font.glyph asciiChar).width font.height
        (pixels (font.glyph asciiChar).table font.byteWidth fgColor ·
          (font.glyph asciiChar).width) := by
  let opened := (st7789SetCommandWindows panel xPoint yPoint (font.glyph asciiChar).width
    font.height).put [.dc true, .cs false]
  have buffer : opened.linebuf.length = lcdWidth * 2 := by
    rw [put_linebuf, window_linebuf]
    exact long
  obtain ⟨final, ran, length, wired⟩ :=
    rows_wired (fun row inside => sendGlyphRow_sends fgColor fits stride size inside) buffer
  refine ⟨final.1.put [.cs true], ?_, length, ?_⟩
  · rw [lcdWriteChar, if_pos drawn]
    simp only [ran, ok_bind, opened]
  · simp only [Panel.put, wired, opened, drawing, window_wires panel, List.append_assoc]

theorem lcdWriteImage_sends {panel : Panel} (long : panel.linebuf.length = lcdWidth * 2)
    (fits : width ≤ lcdWidth) (size : image.length = height * ((width + 7) / 8))
    (xStart yStart : Nat) :
    ∃ next, lcdWriteImage panel (image.map some) xStart yStart width height fgColor = .ok next ∧
      sent next.wires = sent (st7789SetCommandWindows panel xStart yStart width height).wires ++
        bitmapStream image width height fgColor := by
  obtain ⟨next, drawn, -, wired⟩ := lcdWriteImage_draws fgColor fits size xStart yStart panel long
  exact ⟨next, drawn, by rw [wired, sent_drawing]; rfl⟩

theorem lcdWriteChar_sends {panel : Panel} (long : panel.linebuf.length = lcdWidth * 2)
    {font : Font} {asciiChar : Byte} (drawn : printable asciiChar)
    (fits : (font.glyph asciiChar).width ≤ lcdWidth)
    (stride : font.byteWidth = ((font.glyph asciiChar).width + 7) / 8)
    (size : (font.glyph asciiChar).table.length =
      font.height * (((font.glyph asciiChar).width + 7) / 8)) (xPoint yPoint : Nat) :
    ∃ next, lcdWriteChar panel xPoint yPoint asciiChar font fgColor .black =
        .ok ((font.glyph asciiChar).width, next) ∧
      sent next.wires = sent (st7789SetCommandWindows panel xPoint yPoint
          (font.glyph asciiChar).width font.height).wires ++
        bitmapStream (font.glyph asciiChar).table (font.glyph asciiChar).width font.height
          fgColor := by
  obtain ⟨next, wrote, -, wired⟩ := lcdWriteChar_draws fgColor drawn fits
    (by rw [stride]; omega) (fun _ => by rw [stride, size]) xPoint yPoint long
  refine ⟨next, wrote, ?_⟩
  rw [wired, sent_drawing, stride]
  rfl

/-- A packed bitmap that is drawn as an image, or as the glyph of a character on
black, goes over the wires pixel by pixel. No byte behind the bitmap is read,
and none behind the line buffer written. -/
theorem renderers_send_bitmap {panel : Panel} (long : panel.linebuf.length = lcdWidth * 2)
    (fits : width ≤ lcdWidth)
    (size : image.length = height * ((width + 7) / 8)) (fgColor : Color) (xStart yStart : Nat) :
    (∃ next, lcdWriteImage panel (image.map some) xStart yStart width height fgColor = .ok next ∧
      sent next.wires = sent (st7789SetCommandWindows panel xStart yStart width height).wires ++
        bitmapStream image width height fgColor) ∧
    ∀ (font : Font) (asciiChar : Byte), printable asciiChar →
      font.glyph asciiChar = { table := image, width := width } → font.height = height →
      font.byteWidth = (width + 7) / 8 →
      ∃ next, lcdWriteChar panel xStart yStart asciiChar font fgColor .black = .ok (width, next) ∧
        sent next.wires = sent (st7789SetCommandWindows panel xStart yStart width height).wires ++
          bitmapStream image width height fgColor := by
  refine ⟨lcdWriteImage_sends long fits size xStart yStart, ?_⟩
  intro font asciiChar drawn glyph tall stride
  subst tall
  have sends : ∃ next, lcdWriteChar panel xStart yStart asciiChar font fgColor .black = _ ∧ _ :=
    lcdWriteChar_sends long drawn (by rw [glyph]; exact fits) (by rw [glyph]; exact stride)
      (by rw [glyph]; exact size) xStart yStart
  rw [glyph] at sends
  exact sends

/-- Nine columns take two bytes a row, the second with one bit only. -/
theorem nine_columns_sent :
    let panel : Panel := { linebuf := List.replicate 344 (some 0), wires := [] }
    let font : Font :=
      { table := fun _ => { table := [0xA5, 0x80], width := 9 }, byteWidth := 2, height := 1 }
    (∃ next, lcdWriteImage panel ([0xA5, 0x80].map some) 10 20 9 1 .green = .ok next ∧
      sent next.wires = sent (st7789SetCommandWindows panel 10 20 9 1).wires ++
        bitmapStream [0xA5, 0x80] 9 1 .green) ∧
    (∃ next, lcdWriteChar panel 10 20 0x41 font .green .black = .ok (9, next) ∧
      sent next.wires = sent (st7789SetCommandWindows panel 10 20 9 1).wires ++
        bitmapStream [0xA5, 0x80] 9 1 .green) ∧
    bitmapStream [0xA5, 0x80] 9 1 .green =
      [0x07, 0xE0, 0, 0, 0x07, 0xE0, 0, 0, 0, 0, 0x07, 0xE0, 0, 0, 0x07, 0xE0, 0x07, 0xE0] := by
  intro panel font
  have long : panel.linebuf.length = lcdWidth * 2 := List.length_replicate
  obtain ⟨imaged, drawn⟩ :=
    renderers_send_bitmap long (show 9 ≤ lcdWidth by decide)
      (show ([0xA5, 0x80] : Bytes).length = 1 * ((9 + 7) / 8) by decide) .green 10 20
  exact ⟨imaged, drawn font 0x41 (by decide) rfl rfl rfl, by decide⟩

end PicowDayClock.BitmapRenderers
