import Mathlib.Data.Finset.Lattice.Fold
import Mathlib.Data.Fintype.Basic
import PicowDayClock.Firmware.LcdPanels
import PicowDayClock.Library.PackedBits

/-! The tables that the build generates: `create-font-bitmaps.py` and
`create-icon-bitmaps.py`. Pillow, which draws the characters and scales the
images, is not part of the repository: a font and an image are what it makes of
them. -/
namespace PicowDayClock.Scripts
open LcdDriver LcdPanels

/-! ## Fonts -/

/-- `font.getbbox(char)` without its top. -/
structure BBox where
  left : Int
  right : Int
  bottom : Int

/-- `ImageFont.truetype`: the box of each character of `ASCII_CHAR_RANGE`, and
the pixels of a new image of a size behind `draw.text((x_offset, 0), char)`. -/
structure TrueTypeFont where
  getbbox : Fin 95 → BBox
  text : (width height : Nat) → (xOffset : Int) → (char : Fin 95) → Nat → Nat → Bool

/-- `CLOCK_CHAR_RANGE`: the letters of `DAYS_OF_WEEK`, and the digits. -/
def clockCharRange : Bytes := ascii "MonTueWedThuFriSatSun" ++ ascii "0123456789"

/-- A character of `ASCII_CHAR_RANGE`. -/
def asciiChar (index : Fin 95) : Byte := (32 + index.val).toUInt8

/-- `char` gets a table: in the clock font only those of the range do. -/
def included (clock : Bool) (index : Fin 95) : Bool :=
  !clock || clockCharRange.contains (asciiChar index)

/-- `max_x - min_x` and `max_height` over all characters. -/
def maxWidth (font : TrueTypeFont) : Int :=
  Finset.univ.sup' ⟨0, Finset.mem_univ 0⟩ (fun index => (font.getbbox index).right) -
    Finset.univ.inf' ⟨0, Finset.mem_univ 0⟩ (fun index => (font.getbbox index).left)

def maxHeight (font : TrueTypeFont) : Int :=
  Finset.univ.sup' ⟨0, Finset.mem_univ 0⟩ fun index => (font.getbbox index).bottom

/-- `math.ceil(max_width / 8)`. -/
def bytesPerRow (font : TrueTypeFont) : Nat := ((maxWidth font + 7) / 8).toNat

/-- The image of a character. Its left offset is not negative. -/
def glyphImage (font : TrueTypeFont) (charHeight : Nat) (index : Fin 95) : Nat → Nat → Bool :=
  font.text (bytesPerRow font * 8) charHeight (max 0 (font.getbbox index).left) index

/-- An entry of the table. `width` is an `uint8_t`. -/
def glyphEntry (font : TrueTypeFont) (charHeight : Nat) (clock : Bool) (index : Fin 95) :
    FontGlyph :=
  if included clock index then
    { table := PackedBits.pack (glyphImage font charHeight index) (bytesPerRow font) charHeight
      width := (((font.getbbox index).right - (font.getbbox index).left) % 2 ^ 8).toNat }
  else { table := [], width := 0 }

/-- `generate_variable_width_font`, behind `max_font_size`. It raises an error
for a font that is too high. -/
def generateVariableWidthFont (font : TrueTypeFont) (charHeight : Nat) (clock : Bool) :
    Option Font :=
  if maxHeight font > charHeight then none
  else some
    { table := glyphEntry font charHeight clock
      byteWidth := bytesPerRow font
      height := charHeight }

/-! ## Icons -/

/-- `image_to_bitmap`, of an image that has been made grey and resized. Pixels
up to 128 are set, and `tobytes` fills each row up with clear ones. -/
def imageToBitmap (image : Nat → Nat → Nat) (size : Nat) : Bytes :=
  PackedBits.pack (fun x y => decide (x < size) && !decide (image x y > 128)) ((size + 7) / 8) size

end PicowDayClock.Scripts
