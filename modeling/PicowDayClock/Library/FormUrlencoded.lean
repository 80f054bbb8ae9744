import PicowDayClock.Library.CharArray

/-! `application/x-www-form-urlencoded`, from the side of whoever encodes. A byte
has several spellings, so encoding is a relation: every choice of the bytes that
are escaped and of the case of the digits is one of its texts. -/
namespace PicowDayClock.FormUrlencoded

/-- A hexadecimal digit of either case for a number below 16. -/
def HexDigit (number : Nat) (digit : Byte) : Prop :=
  (ascii "0123456789ABCDEF")[number]? = some digit ∨
    (ascii "0123456789abcdef")[number]? = some digit

instance (number : Nat) (digit : Byte) : Decidable (HexDigit number digit) :=
  inferInstanceAs (Decidable (_ ∨ _))

/-- The bytes that cannot stand for themselves: `%`, `+` and `&`. -/
def reserved : Bytes := ascii "%+&"

/-- `Encoded value text`: the text is an encoding of the value. -/
inductive Encoded : Bytes → Bytes → Prop where
  | nil : Encoded [] []
  | itself (byte : Byte) (plain : byte ∉ reserved) (rest : Encoded value text) :
      Encoded (byte :: value) (byte :: text)
  | space (rest : Encoded value text) : Encoded (0x20 :: value) (0x2B :: text)
  | escaped (byte hi lo : Byte) (high : HexDigit (byte.toNat / 16) hi)
      (low : HexDigit (byte.toNat % 16) lo) (rest : Encoded value text) :
      Encoded (byte :: value) (0x25 :: hi :: lo :: text)

/-- The piece of one name and value. -/
def EncodedPair (pair : Bytes × Bytes) (piece : Bytes) : Prop :=
  ∃ text, Encoded pair.2 text ∧ piece = pair.1 ++ 0x3D :: text

/-- The body for a list of names and values: `name=value` pieces joined by `&`. -/
def EncodedForm (pairs : List (Bytes × Bytes)) (body : Bytes) : Prop :=
  ∃ pieces, List.Forall₂ EncodedPair pairs pieces ∧ body = [0x26].intercalate pieces

/-- The digits of either case. -/
def hexDigits : Bytes := ascii "0123456789ABCDEFabcdef"

theorem hexDigit_mem {number : Nat} {digit : Byte} (spelt : HexDigit number digit) :
    digit ∈ hexDigits := by
  have either : hexDigits = ascii "0123456789" ++ ascii "ABCDEF" ++ ascii "abcdef" ∧
      ascii "0123456789ABCDEF" = ascii "0123456789" ++ ascii "ABCDEF" ∧
      ascii "0123456789abcdef" = ascii "0123456789" ++ ascii "abcdef" := ⟨rfl, rfl, rfl⟩
  rw [either.1, List.mem_append]
  rcases spelt with upper | lower
  · left
    rw [← either.2.1]
    exact List.mem_of_getElem? upper
  · have member := List.mem_of_getElem? lower
    rw [either.2.2, List.mem_append] at member
    exact member.imp_left (List.mem_append_left _)

/-- What is no digit is none of the digits of an escape. -/
theorem hexDigit_ne {number : Nat} {digit byte : Byte} (spelt : HexDigit number digit)
    (other : byte ∉ hexDigits) : byte ≠ digit := by
  rintro rfl
  exact other (hexDigit_mem spelt)

/-- An encoding has no `&`, and no NUL if its value has none. -/
theorem Encoded.clean (encoded : Encoded value text) :
    0x26 ∉ text ∧ (NulFree value → NulFree text) := by
  induction encoded with
  | nil => exact ⟨List.not_mem_nil, fun free => free⟩
  | itself byte plain rest ih =>
    have other : (0x26 : Byte) ≠ byte := by
      rintro rfl
      exact plain (by decide)
    refine ⟨List.not_mem_cons_of_ne_of_not_mem other ih.1, fun free => ?_⟩
    simp only [NulFree, List.mem_cons, not_or] at free ⊢
    exact ⟨free.1, ih.2 free.2⟩
  | space rest ih =>
    refine ⟨List.not_mem_cons_of_ne_of_not_mem (by decide) ih.1, fun free => ?_⟩
    simp only [NulFree, List.mem_cons, not_or] at free ⊢
    exact ⟨by decide, ih.2 free.2⟩
  | escaped byte hi lo high low rest ih =>
    have amp : 0x26 ∉ hexDigits := by decide
    have nul : 0 ∉ hexDigits := by decide
    simp only [NulFree, List.mem_cons, not_or]
    exact ⟨⟨by decide, hexDigit_ne high amp, hexDigit_ne low amp, ih.1⟩, fun free =>
      ⟨by decide, hexDigit_ne high nul, hexDigit_ne low nul, ih.2 free.2⟩⟩

/-- A text without reserved bytes is an encoding of itself. -/
theorem encoded_itself (plain : ¬ reserved.any (· ∈ text)) : Encoded text text := by
  induction text with
  | nil => exact .nil
  | cons byte text ih =>
    simp only [List.any_eq_true, decide_eq_true_eq, List.mem_cons, not_exists, not_and,
      not_or] at plain ih
    apply Encoded.itself
    · exact fun member => (plain byte member).1 rfl
    · exact ih fun other member => (plain other member).2

/-- Values without reserved bytes are sent as they are. -/
theorem encodedForm_itself {pairs : List (Bytes × Bytes)}
    (plain : ∀ pair ∈ pairs, ¬ reserved.any (· ∈ pair.2)) :
    EncodedForm pairs ([0x26].intercalate (pairs.map fun pair => pair.1 ++ 0x3D :: pair.2)) := by
  refine ⟨_, ?_, rfl⟩
  induction pairs with
  | nil => exact .nil
  | cons pair pairs ih =>
    rw [List.forall_mem_cons] at plain
    exact .cons ⟨pair.2, encoded_itself plain.1, rfl⟩ (ih plain.2)

theorem Encoded.append (first : Encoded value text) (second : Encoded more later) :
    Encoded (value ++ more) (text ++ later) := by
  induction first with
  | nil => exact second
  | itself byte plain rest ih => exact .itself byte plain ih
  | space rest ih => exact .space ih
  | escaped byte hi lo high low rest ih => exact .escaped byte hi lo high low ih

/-- The pieces of a form can be told apart again. -/
theorem pieces_shape {pairs : List (Bytes × Bytes)} (spelt : List.Forall₂ EncodedPair pairs pieces)
    (plain : ∀ pair ∈ pairs, 0x26 ∉ pair.1) : ∀ piece ∈ pieces, piece ≠ [] ∧ 0x26 ∉ piece := by
  induction spelt with
  | nil => simp
  | cons first rest ih =>
    obtain ⟨text, encoded, rfl⟩ := first
    rw [List.forall_mem_cons] at plain ⊢
    refine ⟨⟨by simp, ?_⟩, ih plain.2⟩
    simp only [List.mem_append, List.mem_cons, not_or]
    exact ⟨plain.1, by decide, encoded.clean.1⟩

/-- A form has no NUL if its names and values have none. -/
theorem EncodedForm.nulFree {pairs : List (Bytes × Bytes)} (encoded : EncodedForm pairs body)
    (free : ∀ pair ∈ pairs, NulFree pair.1 ∧ NulFree pair.2) : NulFree body := by
  obtain ⟨pieces, spelt, rfl⟩ := encoded
  have pieceFree : ∀ piece ∈ pieces, NulFree piece := by
    induction spelt with
    | nil => simp
    | cons first rest ih =>
      obtain ⟨text, spelling, rfl⟩ := first
      rw [List.forall_mem_cons] at free ⊢
      refine ⟨?_, ih free.2⟩
      have textFree : NulFree (0x3D :: text) := by
        simp only [NulFree, List.mem_cons, not_or]
        exact ⟨by decide, spelling.clean.2 free.1.2⟩
      exact free.1.1.append textFree
  clear spelt
  induction pieces with
  | nil => simp [List.intercalate, NulFree]
  | cons piece pieces ih =>
    rw [List.forall_mem_cons] at pieceFree
    cases pieces with
    | nil => simpa [List.intercalate] using pieceFree.1
    | cons next pieces =>
      have rest := ih pieceFree.2
      rw [List.intercalate] at rest ⊢
      rw [List.intersperse_cons_cons, List.flatten_cons, List.flatten_cons]
      exact pieceFree.1.append (NulFree.append (by decide) rest)

end PicowDayClock.FormUrlencoded
