import PicowDayClock.Firmware.LcdDriver

/-! Where the characters of a diagnostic line end up. The wrap looks at the width
of the character before, so that a line ends with the first character that does
not fit a second time, and a wider one behind a narrow one can stick out. -/
namespace PicowDayClock.DiagnosticText
open LcdDriver

/-- The glyph that this call draws lies inside the panel. -/
def Inside (font : Font) (call : CharWrite) : Prop :=
  call.xPoint + charWidth font call.asciiChar ≤ lcdWidth ∧ call.yPoint + font.height ≤ lcdHeight

instance (font : Font) (call : CharWrite) : Decidable (Inside font call) :=
  inferInstanceAs (Decidable (_ ∧ _))

/-- The widths of a text cut into lines: each ends with the first width that does
not fit once more behind those of its line. -/
def linesFrom (line : List Nat) : List Nat → List (List Nat)
  | [] => [line]
  | width :: rest =>
    if line.sum + width + width > lcdWidth then (line ++ [width]) :: linesFrom [] rest
    else linesFrom (line ++ [width]) rest

/-- No line of the text is wider than the panel. -/
def LinesFit (font : Font) (text : Bytes) : Prop :=
  ∀ line ∈ linesFrom [] (text.map (charWidth font)), line.sum ≤ lcdWidth

instance (font : Font) (text : Bytes) : Decidable (LinesFit font text) :=
  inferInstanceAs (Decidable (∀ _ ∈ _, _))

theorem charWidth_le {font : Font} (narrow : ∀ index, (font.table index).width ≤ lcdWidth)
    (asciiChar : Byte) : charWidth font asciiChar ≤ lcdWidth := by
  unfold charWidth
  split
  · exact narrow _
  · exact Nat.zero_le _

/-- Where the width before does not fit again, the rest goes to the next line. -/
theorem charWrites_wrapped (font : Font) {xPoint width : Nat} (yPoint : Nat) (text : Bytes)
    (full : xPoint + width > lcdWidth) :
    charWrites font xPoint yPoint width text =
      charWrites font 0 ((yPoint + font.height) % 2 ^ 16) 0 text := by
  cases text with
  | nil => rfl
  | cons asciiChar rest =>
    have empty : ¬ (0 + 0 > lcdWidth) := by decide
    simp only [charWrites, if_pos full, if_neg empty]

/-- Where it does, the next character stands right behind, on the same line or
on the first one of the screen. -/
theorem charWrites_behind {font : Font} {xPoint yPoint width : Nat} {asciiChar : Byte}
    (fits : xPoint + width ≤ lcdWidth)
    (placed : yPoint + font.height ≤ lcdHeight ∨ xPoint = 0) (rest : Bytes) :
    let line := if yPoint + font.height > lcdHeight then 0 else yPoint
    charWrites font xPoint yPoint width (asciiChar :: rest) =
      { xPoint := xPoint, yPoint := line, asciiChar := asciiChar } ::
        charWrites font ((xPoint + charWidth font asciiChar) % 2 ^ 16) line
          (charWidth font asciiChar) rest := by
  have wide : ¬ (xPoint + width > lcdWidth) := Nat.not_lt.mpr fits
  have column : (if yPoint + font.height > lcdHeight then 0 else xPoint) = xPoint := by
    split
    · rcases placed with low | left
      · omega
      · exact left.symm
    · rfl
  simp only [charWrites, if_neg wide, column]

/-- From any place inside a line: the rest of the text stays inside exactly if
the lines cut from here fit. -/
theorem charWrites_inside_iff {font : Font}
    (narrow : ∀ index, (font.table index).width ≤ lcdWidth) (low : font.height ≤ lcdHeight / 2)
    (text : Bytes) (line : List Nat) (yPoint width : Nat) (short : line.sum ≤ lcdWidth)
    (fits : line.sum + width ≤ lcdWidth)
    (placed : yPoint + font.height ≤ lcdHeight ∨ line.sum = 0) :
    (∀ call ∈ charWrites font line.sum yPoint width text,
        printable call.asciiChar → Inside font call) ↔
      ∀ other ∈ linesFrom line (text.map (charWidth font)), other.sum ≤ lcdWidth := by
  induction text generalizing line yPoint width with
  | nil =>
    simp only [charWrites, linesFrom, List.map_nil, List.not_mem_nil, false_implies, implies_true,
      List.mem_singleton, forall_eq, short]
  | cons asciiChar rest ih =>
    have high : (if yPoint + font.height > lcdHeight then 0 else yPoint) + font.height ≤
        lcdHeight := by
      split <;> omega
    have wide : charWidth font asciiChar ≤ lcdWidth := charWidth_le narrow asciiChar
    have added : (line ++ [charWidth font asciiChar]).sum =
        line.sum + charWidth font asciiChar := by
      rw [List.sum_append, List.sum_singleton]
    have panel : lcdWidth = 172 := rfl
    rw [charWrites_behind fits placed, List.forall_mem_cons, List.map_cons,
      Nat.mod_eq_of_lt (by omega)]
    by_cases inside : line.sum + charWidth font asciiChar ≤ lcdWidth
    · have here : printable asciiChar → Inside font
          { xPoint := line.sum
            yPoint := if yPoint + font.height > lcdHeight then 0 else yPoint
            asciiChar := asciiChar } := fun _ => ⟨inside, high⟩
      rw [iff_true_intro here, true_and]
      by_cases full : line.sum + charWidth font asciiChar + charWidth font asciiChar > lcdWidth
      · -- the next character starts a line
        rw [charWrites_wrapped font _ rest full, linesFrom, if_pos full, List.forall_mem_cons,
          added, iff_true_intro inside, true_and]
        exact ih [] _ 0 (Nat.zero_le _) (Nat.zero_le _) (.inr rfl)
      · rw [linesFrom, if_neg full, ← added]
        apply ih
        · rw [added]
          exact inside
        · rw [added]
          exact Nat.not_lt.mp full
        · exact .inl high
    · -- the character itself sticks out, and so does the line it ends
      have drawn : printable asciiChar = true := by
        by_contra skipped
        rw [charWidth, if_neg skipped] at inside
        exact inside short
      have full : line.sum + charWidth font asciiChar + charWidth font asciiChar > lcdWidth := by
        omega
      rw [linesFrom, if_pos full, List.forall_mem_cons, added]
      constructor
      · intro all
        exact absurd (all.1 drawn).1 inside
      · intro all
        exact absurd all.1 inside

/-- Every glyph that `lcd_print_line` draws lies inside the panel exactly if no
line of the text, each ended by the first character that does not fit a second
time, is wider than the panel. -/
theorem line_stays_inside_iff {font : Font}
    (narrow : ∀ index, (font.table index).width ≤ lcdWidth) (low : font.height ≤ lcdHeight / 2)
    (lineNumber : Nat) (text : Bytes) :
    (∀ call ∈ lineWrites font lineNumber text, printable call.asciiChar → Inside font call) ↔
      LinesFit font text :=
  charWrites_inside_iff narrow low text [] _ 0 (Nat.zero_le _) (Nat.zero_le _) (.inr rfl)

/-- A font of 16 rows with a narrow f and a wide u. -/
def unevenFont : Font where
  table index :=
    { table := List.replicate (16 * 3) 0xFF
      width := if index.val = 0x66 - 0x20 then 1 else if index.val = 0x75 - 0x20 then 20 else 9 }
  byteWidth := 3
  height := 16

theorem unevenFont_fits :
    (∀ index, (unevenFont.table index).width ≤ lcdWidth) ∧
      unevenFont.height ≤ lcdHeight / 2 := by
  decide

/-- The message of a connection fits in that font, here on the last line of the
counter. -/
theorem connected_stays_inside :
    LinesFit unevenFont (msgStr .wifiOk) ∧ ∀ call ∈ lineWrites unevenFont 255 (msgStr .wifiOk),
      printable call.asciiChar → Inside unevenFont call := by
  have fits : LinesFit unevenFont (msgStr .wifiOk) := by decide
  refine ⟨fits, ?_⟩
  apply (line_stays_inside_iff unevenFont_fits.1 unevenFont_fits.2 255 _).mpr
  exact fits

/-- The last u of "LCD init successful" starts at column 156, behind the f, and
ends at column 176. -/
theorem successful_sticks_out :
    ¬ ∀ font : Font, (∀ index, (font.table index).width ≤ lcdWidth) →
      font.height ≤ lcdHeight / 2 → ∀ lineNumber text,
        ∀ call ∈ lineWrites font lineNumber text, printable call.asciiChar → Inside font call := by
  intro all
  have drawn : { xPoint := 156, yPoint := 48, asciiChar := 0x75 } ∈
      lineWrites unevenFont 0 (msgStr .initOk) := by decide +kernel
  have inside := all unevenFont unevenFont_fits.1 unevenFont_fits.2 0 _ _ drawn (by decide)
  exact absurd inside (by decide)

end PicowDayClock.DiagnosticText
