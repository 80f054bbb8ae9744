import Mathlib.Data.List.Range
import Mathlib.Tactic.Common

/-! Pictures that are filled through a window: a cursor goes along the rows of
the window, and each pixel that comes in is put down under it. A rectangle sent
row by row through a window of its size is painted into the picture, and nothing
else changes. -/
namespace PicowDayClock

/-- A picture gives each column and row a pixel. -/
abbrev Canvas (Pixel : Type) := Nat → Nat → Pixel

namespace Canvas

variable {Pixel : Type}

/-- The columns and rows of a rectangle. -/
def Inside (left top width height column row : Nat) : Prop :=
  left ≤ column ∧ column < left + width ∧ top ≤ row ∧ row < top + height

instance : Decidable (Inside left top width height column row) :=
  inferInstanceAs (Decidable (_ ∧ _ ∧ _ ∧ _))

/-- A rectangle of pixels, given from its own corner, over a picture. -/
def paint (canvas : Canvas Pixel) (left top width height : Nat) (pixels : Canvas Pixel) :
    Canvas Pixel := fun column row =>
  if Inside left top width height column row then pixels (column - left) (row - top)
  else canvas column row

theorem paint_inside (canvas pixels : Canvas Pixel)
    (inside : Inside left top width height column row) :
    canvas.paint left top width height pixels column row = pixels (column - left) (row - top) :=
  if_pos inside

theorem paint_outside (canvas pixels : Canvas Pixel)
    (outside : ¬ Inside left top width height column row) :
    canvas.paint left top width height pixels column row = canvas column row :=
  if_neg outside

/-- A rectangle without columns or without rows is no change. -/
theorem paint_nothing (canvas pixels : Canvas Pixel) (empty : width = 0 ∨ height = 0) :
    canvas.paint left top width height pixels = canvas := by
  funext column row
  apply paint_outside
  unfold Inside
  omega

/-- Only the last of two rectangles in one place is left. -/
theorem paint_again (canvas before pixels : Canvas Pixel) (left top width height : Nat) :
    (canvas.paint left top width height before).paint left top width height pixels =
      canvas.paint left top width height pixels := by
  funext column row
  by_cases inside : Inside left top width height column row
  · rw [paint_inside _ _ inside, paint_inside _ _ inside]
  · rw [paint_outside _ _ inside, paint_outside _ _ inside, paint_outside _ _ inside]

/-- Rectangles beside each other can be painted in any order. -/
theorem paint_beside (canvas pixels others : Canvas Pixel) {left width right : Nat}
    (beside : left + width ≤ right) (top height wide otherTop high : Nat) :
    (canvas.paint left top width height pixels).paint right otherTop wide high others =
      (canvas.paint right otherTop wide high others).paint left top width height pixels := by
  funext column row
  by_cases inside : Inside left top width height column row
  · have outside : ¬ Inside right otherTop wide high column row := by
      unfold Inside at *
      omega
    rw [paint_outside _ _ outside, paint_inside _ _ inside, paint_inside _ _ inside]
  · rw [paint_outside _ _ inside]
    by_cases other : Inside right otherTop wide high column row
    · rw [paint_inside _ _ other, paint_inside _ _ other]
    · rw [paint_outside _ _ other, paint_outside _ _ other, paint_outside _ _ inside]

/-- Painting row by row from the top: one row more. -/
theorem paint_row (canvas pixels : Canvas Pixel) (left top width height : Nat) :
    (canvas.paint left top width height pixels).paint left (top + height) width 1
        (fun column _ => pixels column height) =
      canvas.paint left top width (height + 1) pixels := by
  funext column row
  by_cases last : Inside left (top + height) width 1 column row
  · have inside : Inside left top width (height + 1) column row := by
      unfold Inside at *
      omega
    have place : row - top = height := by
      unfold Inside at last
      omega
    rw [paint_inside _ _ last, paint_inside _ _ inside, place]
  · rw [paint_outside _ _ last]
    by_cases above : Inside left top width height column row
    · have inside : Inside left top width (height + 1) column row := by
        unfold Inside at *
        omega
      rw [paint_inside _ _ above, paint_inside _ _ inside]
    · have outside : ¬ Inside left top width (height + 1) column row := by
        unfold Inside at *
        omega
      rw [paint_outside _ _ above, paint_outside _ _ outside]

/-- And one column more of a row. -/
theorem paint_column (canvas pixels : Canvas Pixel) (left top width : Nat) :
    (canvas.paint left top width 1 pixels).paint (left + width) top 1 1
        (fun _ row => pixels width row) =
      canvas.paint left top (width + 1) 1 pixels := by
  funext column row
  by_cases last : Inside (left + width) top 1 1 column row
  · have inside : Inside left top (width + 1) 1 column row := by
      unfold Inside at *
      omega
    have place : column - left = width := by
      unfold Inside at last
      omega
    rw [paint_inside _ _ last, paint_inside _ _ inside, place]
  · rw [paint_outside _ _ last]
    by_cases before : Inside left top width 1 column row
    · have inside : Inside left top (width + 1) 1 column row := by
        unfold Inside at *
        omega
      rw [paint_inside _ _ before, paint_inside _ _ inside]
    · have outside : ¬ Inside left top (width + 1) 1 column row := by
        unfold Inside at *
        omega
      rw [paint_outside _ _ before, paint_outside _ _ outside]

end Canvas

/-! ## The cursor -/

/-- A picture with its window, from the first to the last column and row, and
the place of the next pixel. -/
structure Raster (Pixel : Type) where
  canvas : Canvas Pixel
  columns : Nat × Nat
  rows : Nat × Nat
  column : Nat
  row : Nat

namespace Raster

variable {Pixel : Type}

/-- Puts a pixel down and moves on: to the next column, behind the last one to
the next row, and behind the last row to the top again. -/
def write (raster : Raster Pixel) (pixel : Pixel) : Raster Pixel where
  canvas := raster.canvas.paint raster.column raster.row 1 1 fun _ _ => pixel
  columns := raster.columns
  rows := raster.rows
  column := if raster.column = raster.columns.2 then raster.columns.1 else raster.column + 1
  row :=
    if raster.column = raster.columns.2 then
      if raster.row = raster.rows.2 then raster.rows.1 else raster.row + 1
    else raster.row

/-- Pixels put down one after the other. -/
def writeAll (raster : Raster Pixel) (pixels : List Pixel) : Raster Pixel :=
  pixels.foldl write raster

/-- The picture with the cursor in the corner of a window of this size. -/
def opened (canvas : Canvas Pixel) (left top width height : Nat) : Raster Pixel where
  canvas := canvas
  columns := (left, left + width - 1)
  rows := (top, top + height - 1)
  column := left
  row := top

theorem writeAll_append (raster : Raster Pixel) (before after : List Pixel) :
    raster.writeAll (before ++ after) = (raster.writeAll before).writeAll after :=
  List.foldl_append

section rectangle

variable (canvas pixels : Canvas Pixel) (left top : Nat) {width height : Nat}

/-- The columns of one row, as far as the last one. -/
theorem writeAll_columns {row count : Nat} (inside : count < width) :
    writeAll { opened canvas left top width height with row := top + row }
        ((List.range count).map fun column => pixels column row) =
      { opened canvas left top width height with
        canvas := canvas.paint left (top + row) count 1 fun column _ => pixels column row
        column := left + count
        row := top + row } := by
  induction count with
  | zero =>
    rw [Canvas.paint_nothing _ _ (.inl rfl)]
    rfl
  | succ count ih =>
    rw [List.range_succ, List.map_append, writeAll_append, ih (Nat.lt_of_succ_lt inside)]
    have next : left + count ≠ left + width - 1 := by omega
    simp only [List.map_cons, List.map_nil, writeAll, List.foldl_cons, List.foldl_nil, write,
      opened, if_neg next]
    rw [← Canvas.paint_column canvas (fun column _ => pixels column row) left (top + row) count,
      Nat.add_assoc]

/-- A whole row takes the cursor to the next one, or from the last to the top. -/
theorem writeAll_row {row : Nat} (wide : 0 < width) (inside : row < height) :
    writeAll { opened canvas left top width height with row := top + row }
        ((List.range width).map fun column => pixels column row) =
      { opened canvas left top width height with
        canvas := canvas.paint left (top + row) width 1 fun column _ => pixels column row
        row := if row + 1 = height then top else top + (row + 1) } := by
  obtain ⟨last, rfl⟩ := Nat.exists_eq_add_of_lt wide
  rw [Nat.zero_add, List.range_succ, List.map_append, writeAll_append,
    writeAll_columns canvas pixels left top (Nat.lt_succ_self last)]
  have right : left + last = left + (last + 1) - 1 := by omega
  have bottom : top + row = top + height - 1 ↔ row + 1 = height := by omega
  simp only [List.map_cons, List.map_nil, writeAll, List.foldl_cons, List.foldl_nil, write,
    opened, if_pos right, bottom]
  rw [← Canvas.paint_column canvas (fun column _ => pixels column row) left (top + row) last,
    Nat.add_assoc top row 1]

/-- A rectangle sent through a window of its size is painted, and the cursor is
back in the corner. -/
theorem writeAll_rectangle (height : Nat) (wide : 0 < width) :
    writeAll (opened canvas left top width height)
        ((List.range height).flatMap fun row =>
          (List.range width).map fun column => pixels column row) =
      opened (canvas.paint left top width height pixels) left top width height := by
  have rows : ∀ count ≤ height, writeAll (opened canvas left top width height)
      ((List.range count).flatMap fun row =>
        (List.range width).map fun column => pixels column row) =
      { opened (canvas.paint left top width count pixels) left top width height with
        row := if count = height then top else top + count } := by
    intro count inside
    induction count with
    | zero =>
      rw [Canvas.paint_nothing _ _ (.inr rfl)]
      simp only [List.range_zero, List.flatMap_nil, Nat.add_zero, ite_self]
      rfl
    | succ count ih =>
      have more : count ≠ height := Nat.ne_of_lt inside
      have row := writeAll_row (canvas.paint left top width count pixels) pixels left top wide inside
      rw [List.range_succ, List.flatMap_append, List.flatMap_singleton, writeAll_append,
        ih (Nat.le_of_succ_le inside), if_neg more, row,
        Canvas.paint_row canvas pixels left top width count]
      rfl
  rw [rows height (Nat.le_refl height), if_pos rfl]
  rfl

end rectangle
end Raster
end PicowDayClock
