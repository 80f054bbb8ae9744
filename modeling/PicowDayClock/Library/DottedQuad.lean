import PicowDayClock.Library.BigEndian
import PicowDayClock.Library.CString

/-! Addresses of the Internet protocol as text: four numbers below 256 with dots
between them. What is printed is read as the same address. -/
namespace PicowDayClock.DottedQuad
open BigEndian (Ip4Addr)

def dot : Byte := 0x2E

/-! ## One number -/

/-- A number below ten as its digit. -/
def digit (number : Nat) : Byte := UInt8.ofNat (0x30 + number)

/-- A byte in decimal, without leading zeros. -/
def byteText (byte : Byte) : Bytes :=
  (if byte.toNat ≥ 100 then [digit (byte.toNat / 100)] else []) ++
    (if byte.toNat ≥ 10 then [digit (byte.toNat / 10 % 10)] else []) ++ [digit (byte.toNat % 10)]

/-- The byte that up to three decimal digits spell. -/
def byteOf (digits : Bytes) : Option Byte :=
  if digits ≠ [] ∧ digits.length ≤ 3 ∧ digits.all isdigit ∧ decimalValue digits < 256 then
    some (UInt8.ofNat (decimalValue digits))
  else none

theorem digit_value {number : Nat} (small : number < 10) :
    (digit number - 0x30).toNat = number ∧ isdigit (digit number) = true := by
  have all : ∀ number < 10, (digit number - 0x30).toNat = number ∧
      isdigit (digit number) = true := by decide
  exact all number small

theorem byteText_spells (byte : Byte) :
    decimalValue (byteText byte) = byte.toNat ∧ (∀ sign ∈ byteText byte, isdigit sign = true) ∧
      byteText byte ≠ [] ∧ (byteText byte).length ≤ 3 := by
  have bound := byte.toNat_lt
  obtain ⟨ones, onesDigit⟩ := digit_value (show byte.toNat % 10 < 10 by omega)
  obtain ⟨tens, tensDigit⟩ := digit_value (show byte.toNat / 10 % 10 < 10 by omega)
  obtain ⟨hundreds, hundredsDigit⟩ := digit_value (show byte.toNat / 100 < 10 by omega)
  unfold byteText
  by_cases three : byte.toNat ≥ 100
  · have two : byte.toNat ≥ 10 := Nat.le_trans (by decide) three
    rw [if_pos three, if_pos two]
    refine ⟨?_, ?_, List.cons_ne_nil _ _, Nat.le_refl 3⟩
    · simp only [decimalValue, List.cons_append, List.nil_append, List.foldl_cons, List.foldl_nil,
        ones, tens, hundreds]
      omega
    · simp only [List.cons_append, List.nil_append, List.forall_mem_cons, onesDigit, tensDigit,
        hundredsDigit]
      simp
  · rw [if_neg three]
    by_cases two : byte.toNat ≥ 10
    · rw [if_pos two]
      refine ⟨?_, ?_, List.cons_ne_nil _ _, Nat.le_succ 2⟩
      · simp only [decimalValue, List.cons_append, List.nil_append, List.foldl_cons,
          List.foldl_nil, ones, tens]
        omega
      · simp only [List.cons_append, List.nil_append, List.forall_mem_cons, onesDigit, tensDigit]
        simp
    · rw [if_neg two]
      refine ⟨?_, ?_, List.cons_ne_nil _ _, Nat.le_add_left 1 2⟩
      · simp only [decimalValue, List.nil_append, List.foldl_cons, List.foldl_nil, ones]
        omega
      · simp only [List.nil_append, List.forall_mem_cons, onesDigit]
        simp

theorem byteOf_text (byte : Byte) : byteOf (byteText byte) = some byte := by
  obtain ⟨value, digits, nonempty, short⟩ := byteText_spells byte
  have bound := byte.toNat_lt
  rw [byteOf, if_pos, value, UInt8.ofNat_toNat]
  refine ⟨nonempty, short, List.all_eq_true.mpr digits, ?_⟩
  rw [value]
  exact bound

/-! ## Four numbers -/

/-- An address as text. -/
def text (ip : Ip4Addr) : Bytes := [dot].intercalate (ip.bytes.map byteText)

/-- The address that a text spells. -/
def address (text : Bytes) : Option Bytes :=
  if (text.splitOn dot).length = 4 then (text.splitOn dot).mapM byteOf else none

theorem dot_no_digit {sign : Byte} (decimal : isdigit sign = true) : sign ≠ dot := by
  rintro rfl
  cases decimal

theorem text_splitOn (ip : Ip4Addr) : (text ip).splitOn dot = ip.bytes.map byteText := by
  have several : ip.bytes.map byteText ≠ [] := by
    apply List.ne_nil_of_length_pos
    rw [List.length_map, ip.four]
    decide
  refine List.splitOn_intercalate dot ?_ several
  intro part member
  obtain ⟨byte, -, rfl⟩ := List.mem_map.mp member
  intro dotted
  exact dot_no_digit ((byteText_spells byte).2.1 dot dotted) rfl

theorem address_text (ip : Ip4Addr) : address (text ip) = some ip.bytes := by
  have read : (ip.bytes.map byteText).mapM byteOf = some ip.bytes := by
    generalize ip.bytes = bytes
    induction bytes with
    | nil => rfl
    | cons byte bytes ih =>
      rw [List.map_cons, List.mapM_cons, byteOf_text, ih]
      rfl
  rw [address, text_splitOn, List.length_map, ip.four, if_pos rfl, read]

/-- Only digits and dots are printed. -/
theorem text_plain (ip : Ip4Addr) : ∀ sign ∈ text ip, isdigit sign = true ∨ sign = dot := by
  obtain ⟨bytes, four⟩ := ip
  match bytes, four with
  | [a, b, c, d], _ =>
    intro sign member
    simp only [text, List.map_cons, List.map_nil, List.intercalate, List.intersperse,
      List.flatten_cons, List.flatten_nil, List.mem_append, List.mem_singleton,
      List.append_nil] at member
    rcases member with first | point | second | point | third | point | last
    · exact .inl ((byteText_spells a).2.1 sign first)
    · exact .inr point
    · exact .inl ((byteText_spells b).2.1 sign second)
    · exact .inr point
    · exact .inl ((byteText_spells c).2.1 sign third)
    · exact .inr point
    · exact .inl ((byteText_spells d).2.1 sign last)

theorem text_length_le (ip : Ip4Addr) : (text ip).length ≤ 15 := by
  obtain ⟨bytes, four⟩ := ip
  match bytes, four with
  | [a, b, c, d], _ =>
    have first := (byteText_spells a).2.2.2
    have second := (byteText_spells b).2.2.2
    have third := (byteText_spells c).2.2.2
    have last := (byteText_spells d).2.2.2
    simp only [text, List.map_cons, List.map_nil, List.intercalate, List.intersperse,
      List.flatten_cons, List.flatten_nil, List.length_append, List.length_singleton,
      List.length_nil]
    omega

end PicowDayClock.DottedQuad
