import Mathlib

/-! Fixed-size `char` arrays and the NUL-terminated text they hold. Reading is
what the C string functions do: everything up to the first NUL. -/
namespace PicowDayClock

abbrev Byte := UInt8
abbrev Bytes := List Byte

/-- The bytes of an ASCII string literal, without its terminator. -/
def ascii (literal : String) : Bytes := literal.toList.map fun letter => letter.toNat.toUInt8

/-- The text that starts at the first of these cells: all before the first NUL. -/
def cstr (cells : Bytes) : Bytes := cells.takeWhile (· ≠ 0)

/-- Bytes that can be the text of a C string. -/
def NulFree (text : Bytes) : Prop := 0 ∉ text

instance (text : Bytes) : Decidable (NulFree text) := inferInstanceAs (Decidable (_ ∉ _))

/-- A `char` array of exactly `size` cells. -/
structure CharArray (size : Nat) where
  cells : Bytes
  cells_length : cells.length = size
  deriving DecidableEq

/-! ## Texts -/

theorem nulFree_cstr (cells : Bytes) : NulFree (cstr cells) := by
  intro member
  have := List.mem_takeWhile_imp member
  simp at this

theorem cstr_of_nulFree (free : NulFree text) : cstr text = text := by
  simp only [cstr, List.takeWhile_eq_self_iff]
  intro byte member
  have : byte ≠ 0 := fun zero => free (zero ▸ member)
  simpa using this

/-- A text ends at the terminator behind it, whatever follows. -/
theorem cstr_append_nul (free : NulFree text) (rest : Bytes) : cstr (text ++ 0 :: rest) = text := by
  induction text with
  | nil => simp [cstr]
  | cons byte text ih =>
    simp only [NulFree, List.mem_cons, not_or] at free
    simp only [cstr, List.cons_append] at ih ⊢
    rw [List.takeWhile_cons_of_pos (by simpa using Ne.symm free.1), ih free.2]

theorem cstr_append_of_nulFree (free : NulFree text) (rest : Bytes) :
    cstr (text ++ rest) = text ++ cstr rest := by
  simp only [cstr]
  rw [List.takeWhile_append_of_pos]
  intro byte member
  have : byte ≠ 0 := fun zero => free (zero ▸ member)
  simpa using this

/-- Where a NUL is among the cells, the text in front of it is followed by one. -/
theorem cstr_split (present : 0 ∈ cells) : ∃ rest, cells = cstr cells ++ 0 :: rest := by
  induction cells with
  | nil => simp at present
  | cons byte cells ih =>
    by_cases zero : byte = 0
    · subst zero
      exact ⟨cells, by simp [cstr]⟩
    · have later : 0 ∈ cells := by
        rcases List.mem_cons.mp present with same | later
        · exact absurd same.symm zero
        · exact later
      obtain ⟨rest, shape⟩ := ih later
      refine ⟨rest, ?_⟩
      simp only [cstr] at shape ⊢
      rw [List.takeWhile_cons_of_pos (by simpa using zero), List.cons_append, ← shape]

theorem cstr_length_le (cells : Bytes) : (cstr cells).length ≤ cells.length :=
  (List.takeWhile_prefix _).length_le

theorem cstr_length_lt (present : 0 ∈ cells) : (cstr cells).length < cells.length := by
  obtain ⟨rest, shape⟩ := cstr_split present
  have := congrArg List.length shape
  simp only [List.length_append, List.length_cons] at this
  omega

theorem NulFree.append (first : NulFree text) (second : NulFree more) : NulFree (text ++ more) := by
  simp only [NulFree, List.mem_append, not_or]
  exact ⟨first, second⟩

theorem NulFree.left (free : NulFree (text ++ more)) : NulFree text :=
  fun member => free (List.mem_append_left more member)

theorem NulFree.right (free : NulFree (text ++ more)) : NulFree more :=
  fun member => free (List.mem_append_right text member)

theorem NulFree.take (free : NulFree text) (count : Nat) : NulFree (text.take count) :=
  fun member => free (List.mem_of_mem_take member)

theorem NulFree.drop (free : NulFree text) (count : Nat) : NulFree (text.drop count) :=
  fun member => free (List.mem_of_mem_drop member)

namespace CharArray

variable {size : Nat}

/-- The array `memset` to zero. -/
def zero (size : Nat) : CharArray size := ⟨List.replicate size 0, List.length_replicate⟩

/-- The text held: up to the first NUL. -/
def text (array : CharArray size) : Bytes := cstr array.cells

/-- A NUL ends the text inside the array. -/
def Terminated (array : CharArray size) : Prop := 0 ∈ array.cells

instance (array : CharArray size) : Decidable array.Terminated :=
  inferInstanceAs (Decidable (_ ∈ _))

/-- `memcpy` of `data` to `offset`. What would fall past the end is not
written, so callers have to show that nothing does. -/
def copyAt (array : CharArray size) (offset : Nat) (data : Bytes) : CharArray size where
  cells := (array.cells.take offset ++ data ++ array.cells.drop (offset + data.length)).take size
  cells_length := by
    have := array.cells_length
    simp only [List.length_take, List.length_append, List.length_drop]
    omega

/-- `strncpy(array, source, count)`: at most `count` bytes, filled up with NULs;
the cells from `count` on keep what they held. -/
def strncpy (array : CharArray size) (source : Bytes) (count : Nat) : CharArray size :=
  array.copyAt 0 (source.take count ++ List.replicate (count - source.length) 0)

/-- The array that holds a text and nothing but NULs behind it. -/
def ofText (size : Nat) (text : Bytes) : CharArray size :=
  (zero size).copyAt 0 (text.take size)

theorem nulFree_text (array : CharArray size) : NulFree array.text := nulFree_cstr _

theorem copyAt_cells (array : CharArray size) {offset : Nat} {data : Bytes}
    (fits : offset + data.length ≤ size) :
    (array.copyAt offset data).cells =
      array.cells.take offset ++ data ++ array.cells.drop (offset + data.length) := by
  have := array.cells_length
  simp only [copyAt]
  apply List.take_of_length_le
  simp only [List.length_append, List.length_take, List.length_drop]
  omega

/-- Writing behind the text, terminator included, extends the text. -/
theorem text_copyAt_end (array : CharArray size) {data : Bytes}
    (fits : array.text.length + data.length + 1 ≤ size) :
    (array.copyAt array.text.length (data ++ [0])).text = array.text ++ cstr data := by
  have before : array.cells.take array.text.length = array.text := by
    have present := array.cells.takeWhile_append_dropWhile (p := (· ≠ 0))
    conv => lhs; arg 2; rw [← present]
    exact List.take_left' rfl
  rw [text, copyAt_cells array (by simp only [List.length_append, List.length_singleton]; omega),
    before, List.append_assoc, cstr_append_of_nulFree array.nulFree_text]
  congr 1
  by_cases free : NulFree data
  · rw [List.append_assoc, List.singleton_append, cstr_append_nul free, cstr_of_nulFree free]
  · obtain ⟨rest, shape⟩ := @cstr_split data (by simpa [NulFree] using free)
    conv => lhs; rw [shape]
    simp only [List.append_assoc, List.cons_append]
    exact cstr_append_nul (nulFree_cstr _) _

/-! ## Texts of a bounded length -/

/-- The first `count` cells hold a text, cut to `count` bytes and with NULs
behind it; the cells from `count` on are left alone. -/
def overwritten (array : CharArray size) (count : Nat) (fits : count ≤ size) (text : Bytes) :
    CharArray size where
  cells := (text ++ List.replicate count 0).take count ++ array.cells.drop count
  cells_length := by
    have := array.cells_length
    simp only [List.length_append, List.length_take, List.length_replicate, List.length_drop]
    omega

theorem overwritten_cells (array : CharArray size) {count : Nat} (fits : count ≤ size)
    (text : Bytes) : (array.overwritten count fits text).cells =
      (text ++ List.replicate count 0).take count ++ array.cells.drop count := rfl

/-- The last cell holds a NUL. -/
def EndsInNul (array : CharArray size) : Prop := array.cells.getLast? = some 0

instance (array : CharArray size) : Decidable array.EndsInNul :=
  inferInstanceAs (Decidable (_ = _))

theorem EndsInNul.terminated {array : CharArray size} (ended : array.EndsInNul) :
    array.Terminated := List.mem_of_getLast? ended

/-- `strncpy` of at most as many bytes as there are cells. -/
theorem strncpy_eq_overwritten (array : CharArray size) {count : Nat} (fits : count ≤ size)
    (text : Bytes) : array.strncpy text count = array.overwritten count fits text := by
  have data : text.take count ++ List.replicate (count - text.length) 0 =
      (text ++ List.replicate count 0).take count := by
    rw [List.take_append, List.take_replicate, Nat.min_eq_left (Nat.sub_le _ _)]
  have length : ((text ++ List.replicate count (0 : Byte)).take count).length = count := by
    simp only [List.length_take, List.length_append, List.length_replicate]
    omega
  have cells : (array.strncpy text count).cells = (array.overwritten count fits text).cells := by
    rw [strncpy, data, copyAt_cells _ (by omega), length, Nat.zero_add]
    rfl
  cases written : array.strncpy text count
  cases wanted : array.overwritten count fits text
  simpa [written, wanted] using cells

theorem overwritten_endsInNul {array : CharArray size} (ended : array.EndsInNul) {count : Nat}
    (spared : count < size) (text : Bytes) :
    (array.overwritten count (Nat.le_of_lt spared) text).EndsInNul := by
  have rest : (array.cells.drop count).getLast? = some 0 := by
    rw [List.getLast?_drop, if_neg (by rw [array.cells_length]; omega)]
    exact ended
  rw [EndsInNul, overwritten_cells, List.getLast?_append, rest]
  rfl

/-- With only the terminator behind them, the text cut to the first cells is
the text held. -/
theorem overwritten_text {array : CharArray size} (ended : array.EndsInNul) {count : Nat}
    {text : Bytes} (spared : count + 1 = size) (free : NulFree text) :
    (array.overwritten count (by omega) text).text = text.take count := by
  have last : array.cells.drop count = [0] := by
    have length : (array.cells.drop count).length = 1 := by
      rw [List.length_drop, array.cells_length]
      omega
    obtain ⟨byte, only⟩ := List.length_eq_one_iff.mp length
    have same : (array.cells.drop count).getLast? = some 0 := by
      rw [List.getLast?_drop, if_neg (by rw [array.cells_length]; omega)]
      exact ended
    rw [only] at same ⊢
    simpa using same
  have cells : (text ++ List.replicate count 0).take count ++ [0] =
      text.take count ++ 0 :: List.replicate (count - text.length) 0 := by
    rw [List.take_append, List.take_replicate, Nat.min_eq_left (Nat.sub_le _ _),
      List.append_assoc, ← List.replicate_succ']
    rfl
  rw [CharArray.text, overwritten_cells, last, cells]
  exact cstr_append_nul (free.take count) _

/-- The text held, written over the array that holds it, is still the text held. -/
theorem text_strncpy_self {array : CharArray size} (ended : array.Terminated) {count : Nat}
    (fits : count ≤ size) (holds : array.text.length ≤ count) :
    (array.strncpy array.text count).text = array.text := by
  obtain ⟨rest, shape⟩ := cstr_split ended
  have cells : (array.strncpy array.text count).cells =
      array.text ++ (List.replicate (count - array.text.length) 0 ++
        (0 :: rest).drop (count - array.text.length)) := by
    have behind : array.cells.drop count = (0 :: rest).drop (count - array.text.length) := by
      rw [shape, ← text, List.drop_append, List.drop_eq_nil_of_le holds, List.nil_append]
    rw [strncpy_eq_overwritten _ fits, overwritten_cells, behind, List.take_append,
      List.take_of_length_le holds, List.take_replicate, Nat.min_eq_left (Nat.sub_le _ _),
      List.append_assoc]
  rw [text, cells]
  cases count - array.text.length with
  | zero => exact cstr_append_nul array.nulFree_text rest
  | succ more => exact cstr_append_nul array.nulFree_text _

@[simp] theorem text_zero (size : Nat) : (zero size).text = [] := by
  cases size <;> simp [zero, text, cstr, List.replicate_succ]

/-- Two writes, one right behind the other, are one. -/
theorem copyAt_copyAt (array : CharArray size) {offset : Nat} {data more : Bytes}
    (fits : offset + data.length + more.length ≤ size) :
    (array.copyAt offset data).copyAt (offset + data.length) more =
      array.copyAt offset (data ++ more) := by
  have length : (array.cells.take offset ++ data).length = offset + data.length := by
    rw [List.length_append, List.length_take, array.cells_length]
    omega
  have cells : ((array.copyAt offset data).copyAt (offset + data.length) more).cells =
      (array.copyAt offset (data ++ more)).cells := by
    rw [copyAt_cells _ fits, copyAt_cells _ (by omega),
      copyAt_cells _ (by rw [List.length_append]; omega), List.take_left' length,
      ← List.drop_drop, List.drop_left' length, List.drop_drop, List.length_append,
      ← Nat.add_assoc, ← List.append_assoc]
  cases written : (array.copyAt offset data).copyAt (offset + data.length) more
  cases wanted : array.copyAt offset (data ++ more)
  simpa [written, wanted] using cells

/-- A text written to the front of an array of NULs is the text held. -/
theorem copyAt_zero {data : Bytes} (free : NulFree data) (short : data.length < size) :
    ((zero size).copyAt 0 data).Terminated ∧ ((zero size).copyAt 0 data).text = data := by
  obtain ⟨more, rest⟩ := Nat.exists_eq_add_of_lt short
  have cells : ((zero size).copyAt 0 data).cells = data ++ 0 :: List.replicate more 0 := by
    rw [copyAt_cells _ (by omega), zero, List.drop_replicate, ← List.replicate_succ,
      List.take_zero, List.nil_append]
    congr 2
    omega
  rw [Terminated, text, cells]
  exact ⟨by simp, cstr_append_nul free _⟩

theorem text_length_lt (array : CharArray size) (ended : array.Terminated) :
    array.text.length < size := by
  have := cstr_length_lt ended
  rwa [array.cells_length] at this

end CharArray
end PicowDayClock
