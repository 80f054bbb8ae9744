import PicowDayClock.Library.CharArray

/-! Pictures of one bit a pixel, packed into bytes row by row: eight pixels in a
byte, the first one in its most significant bit. Each pixel can be read back from
its byte. -/
namespace PicowDayClock.PackedBits

/-- A byte of a row, from `byte |= 1 << (7 - bit)` for each pixel that is set. -/
def byte (row : Nat → Bool) (index : Nat) : Nat :=
  (List.range 8).foldl (fun byte bit =>
    if row (index * 8 + bit) then byte ||| 1 <<< (7 - bit) else byte) 0

/-- A picture with rows of so many bytes. -/
def pack (pixels : Nat → Nat → Bool) (bytesPerRow height : Nat) : Bytes :=
  (List.range height).flatMap fun y =>
    (List.range bytesPerRow).map fun index => (byte (fun x => pixels x y) index).toUInt8

/-- The bits that the first pixels have set. -/
theorem testBit_foldl (row : Nat → Bool) (index : Nat) {count : Nat} (few : count ≤ 8)
    {place : Nat} (inside : place < 8) :
    ((List.range count).foldl (fun byte bit =>
      if row (index * 8 + bit) then byte ||| 1 <<< (7 - bit) else byte) 0).testBit (7 - place) =
      (decide (place < count) && row (index * 8 + place)) := by
  induction count with
  | zero => simp
  | succ count ih =>
    rw [List.range_succ, List.foldl_append, List.foldl_cons, List.foldl_nil]
    by_cases here : place = count
    · subst here
      have before := ih (Nat.le_of_succ_le few)
      split
      · rename_i set
        rw [Nat.testBit_or, Nat.one_shiftLeft, Nat.testBit_two_pow_self, set]
        simp
      · rename_i clear
        rw [before]
        simp [clear]
    · have apart : 7 - count ≠ 7 - place := by omega
      have same : (decide (place < count + 1)) = decide (place < count) := by
        simp only [decide_eq_decide]
        omega
      rw [same, ← ih (Nat.le_of_succ_le few)]
      split
      · rw [Nat.testBit_or, Nat.one_shiftLeft, Nat.testBit_two_pow_of_ne apart, Bool.or_false]
      · rfl

theorem byte_lt (row : Nat → Bool) (index : Nat) : byte row index < 256 := by
  have bits : ∀ bits : List Nat, ∀ start < 2 ^ 8, bits.foldl (fun byte bit =>
      if row (index * 8 + bit) then byte ||| 1 <<< (7 - bit) else byte) start < 2 ^ 8 := by
    intro bits
    induction bits with
    | nil => exact fun start small => small
    | cons bit bits ih =>
      intro start small
      apply ih
      dsimp only
      split
      · apply Nat.or_lt_two_pow small
        rw [Nat.one_shiftLeft]
        exact Nat.pow_lt_pow_right (by decide) (by omega)
      · exact small
  exact bits _ 0 (by decide)

/-- A pixel is the bit in its place. -/
theorem testBit_byte (row : Nat → Bool) (x : Nat) :
    (byte row (x / 8)).toUInt8.toNat.testBit (7 - x % 8) = row x := by
  have small : (byte row (x / 8)).toUInt8.toNat = byte row (x / 8) :=
    Nat.mod_eq_of_lt (byte_lt row (x / 8))
  have inside : x % 8 < 8 := Nat.mod_lt x (by decide)
  rw [small, byte, testBit_foldl row (x / 8) (Nat.le_refl 8) inside, decide_eq_true inside,
    Bool.true_and, Nat.div_add_mod']

theorem pack_length (pixels : Nat → Nat → Bool) (bytesPerRow height : Nat) :
    (pack pixels bytesPerRow height).length = height * bytesPerRow := by
  simp [pack, List.length_flatMap]

/-- The byte of a row and its place in it. -/
theorem pack_getD (pixels : Nat → Nat → Bool) {bytesPerRow height y index : Nat}
    (low : y < height) (inside : index < bytesPerRow) :
    (pack pixels bytesPerRow height).getD (y * bytesPerRow + index) 0 =
      (byte (fun x => pixels x y) index).toUInt8 := by
  induction height with
  | zero => cases low
  | succ height ih =>
    have split : pack pixels bytesPerRow (height + 1) = pack pixels bytesPerRow height ++
        (List.range bytesPerRow).map fun index =>
          (byte (fun x => pixels x height) index).toUInt8 := by
      rw [pack, List.range_succ, List.flatMap_append, List.flatMap_singleton, ← pack]
    have length := pack_length pixels bytesPerRow height
    rw [split]
    by_cases last : y = height
    · subst last
      rw [List.getD_append_right _ _ _ _ (by omega), length, Nat.add_sub_cancel_left]
      simp [List.getD, inside]
    · have above : y < height := by omega
      have before : y * bytesPerRow + index < height * bytesPerRow := by
        calc y * bytesPerRow + index < y * bytesPerRow + bytesPerRow := by omega
          _ = (y + 1) * bytesPerRow := (Nat.succ_mul _ _).symm
          _ ≤ height * bytesPerRow := Nat.mul_le_mul_right _ above
      rw [List.getD_append _ _ _ _ (by omega)]
      exact ih above

/-- Every pixel of a packed picture is found again. -/
theorem pack_pixel (pixels : Nat → Nat → Bool) {bytesPerRow height x y : Nat}
    (low : y < height) (inside : x < bytesPerRow * 8) :
    ((pack pixels bytesPerRow height).getD (y * bytesPerRow + x / 8) 0).toNat.testBit (7 - x % 8) =
      pixels x y := by
  rw [pack_getD pixels low (by omega), testBit_byte (fun x => pixels x y)]

end PicowDayClock.PackedBits
