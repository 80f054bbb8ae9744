import PicowDayClock.Library.CharArray

/-! The string functions of C on NUL-free texts. A pointer into a text is an
offset from its start. -/
namespace PicowDayClock

/-! ## Searching -/

/-- `strstr`: the offset of the first occurrence. -/
def strstr : Bytes → Bytes → Option Nat
  | [], needle => if needle = [] then some 0 else none
  | byte :: rest, needle =>
    if needle <+: byte :: rest then some 0 else (strstr rest needle).map (· + 1)

/-- `strncmp(text, literal, strlen(literal)) == 0`. -/
def startsWith (text literal : Bytes) : Bool := literal.isPrefixOf text

/-- `strchr`: the offset of the first such byte. -/
def strchr (text : Bytes) (byte : Byte) : Option Nat := text.findIdx? (· = byte)

/-- The offset found is the first at which the needle stands. -/
theorem strstr_eq_some_iff {haystack needle : Bytes} {offset : Nat} :
    strstr haystack needle = some offset ↔
      offset ≤ haystack.length ∧ needle <+: haystack.drop offset ∧
        ∀ earlier < offset, ¬ needle <+: haystack.drop earlier := by
  induction haystack generalizing offset with
  | nil =>
    cases offset with
    | zero => simp [strstr]
    | succ offset => simp [strstr]
  | cons byte rest ih =>
    simp only [strstr]
    by_cases here : needle <+: byte :: rest
    · rw [if_pos here]
      constructor
      · intro found
        cases found
        exact ⟨by simp, here, by simp⟩
      · rintro ⟨-, -, first⟩
        cases offset with
        | zero => rfl
        | succ offset => exact absurd here (first 0 (Nat.succ_pos offset))
    · rw [if_neg here]
      cases offset with
      | zero => simp [here]
      | succ offset =>
        simp only [Option.map_eq_some_iff, Nat.add_right_cancel_iff, exists_eq_right, ih,
          List.length_cons, List.drop_succ_cons, Nat.add_le_add_iff_right]
        constructor
        · rintro ⟨within, stands, first⟩
          refine ⟨within, stands, fun earlier before => ?_⟩
          cases earlier with
          | zero => exact here
          | succ earlier => exact first earlier (Nat.lt_of_succ_lt_succ before)
        · rintro ⟨within, stands, first⟩
          exact ⟨within, stands, fun earlier before => first (earlier + 1) (Nat.succ_lt_succ before)⟩

theorem strstr_eq_none_iff {haystack needle : Bytes} :
    strstr haystack needle = none ↔
      ∀ offset ≤ haystack.length, ¬ needle <+: haystack.drop offset := by
  induction haystack with
  | nil => simp [strstr]
  | cons byte rest ih =>
    simp only [strstr]
    by_cases here : needle <+: byte :: rest
    · rw [if_pos here]
      simp only [reduceCtorEq, false_iff]
      exact fun never => never 0 (Nat.zero_le _) here
    · rw [if_neg here, Option.map_eq_none_iff, ih]
      constructor
      · intro never offset within
        cases offset with
        | zero => exact here
        | succ offset => exact never offset (Nat.le_of_succ_le_succ within)
      · intro never offset within
        exact never (offset + 1) (Nat.succ_le_succ within)

/-- A needle that stands somewhere is found, if only in front of that. -/
theorem strstr_found {haystack needle : Bytes} (within : needle <:+: haystack) :
    strstr haystack needle ≠ none := by
  obtain ⟨before, after, rfl⟩ := within
  intro gone
  refine strstr_eq_none_iff.mp gone before.length (by simp) ?_
  rw [List.append_assoc, List.drop_left]
  exact List.prefix_append needle after

theorem occurs_of_strstr {haystack needle : Bytes} (found : strstr haystack needle ≠ none) :
    needle <:+: haystack := by
  obtain ⟨offset, found⟩ := Option.ne_none_iff_exists'.mp found
  exact (strstr_eq_some_iff.mp found).2.1.isInfix.trans (List.drop_suffix offset haystack).isInfix

/-- In the first bytes of a text, a needle stands where it stands in the text,
if it ends in time. -/
theorem prefix_drop_take {haystack needle : Bytes} {offset count : Nat} (nonempty : needle ≠ []) :
    needle <+: (haystack.take count).drop offset ↔
      needle <+: haystack.drop offset ∧ offset + needle.length ≤ count := by
  have long : 0 < needle.length := List.length_pos_iff.mpr nonempty
  rw [List.drop_take, List.prefix_take_iff]
  constructor
  · rintro ⟨stands, fits⟩
    exact ⟨stands, by omega⟩
  · rintro ⟨stands, fits⟩
    exact ⟨stands, by omega⟩

/-- Searching only the first bytes of a text finds the first occurrence in the
text, or nothing. -/
theorem strstr_take {haystack needle : Bytes} (nonempty : needle ≠ []) (count : Nat) :
    strstr (haystack.take count) needle =
      (strstr haystack needle).filter (· + needle.length ≤ count) := by
  cases whole : strstr haystack needle with
  | none =>
    rw [strstr_eq_none_iff] at whole
    rw [Option.filter_none, strstr_eq_none_iff]
    intro offset within stands
    have bound : offset ≤ haystack.length := by
      have := List.length_take_le count haystack
      simp only [List.length_take] at within
      omega
    exact whole offset bound ((prefix_drop_take nonempty).mp stands).1
  | some offset =>
    rw [strstr_eq_some_iff] at whole
    obtain ⟨within, stands, first⟩ := whole
    by_cases fits : offset + needle.length ≤ count
    · rw [Option.filter_some_pos (by simpa using fits), strstr_eq_some_iff]
      refine ⟨?_, (prefix_drop_take nonempty).mpr ⟨stands, fits⟩, ?_⟩
      · simp only [List.length_take]
        omega
      · intro earlier before found
        exact first earlier before ((prefix_drop_take nonempty).mp found).1
    · rw [Option.filter_some_neg (by simpa using fits), strstr_eq_none_iff]
      intro other _ found
      obtain ⟨found, ends⟩ := (prefix_drop_take nonempty).mp found
      have later : offset ≤ other := by
        by_contra before
        exact first other (by omega) found
      omega

/-- The needle that was found ends inside the text. -/
theorem strstr_bound {haystack needle : Bytes} {offset : Nat}
    (found : strstr haystack needle = some offset) :
    offset + needle.length ≤ haystack.length := by
  obtain ⟨within, stands, -⟩ := strstr_eq_some_iff.mp found
  have := stands.length_le
  rw [List.length_drop] at this
  omega

/-- A needle stands behind a text that its first byte is not in. -/
theorem strstr_behind {line haystack needle : Bytes} {first : Byte} {offset : Nat}
    (plain : first ∉ line) (starts : line <+: haystack)
    (stands : first :: needle <+: haystack.drop offset) : line.length ≤ offset := by
  by_contra inside
  obtain ⟨rest, rfl⟩ := starts
  obtain ⟨after, shape⟩ := stands
  rw [List.drop_append_of_le_length (by omega)] at shape
  have head : (line.drop offset).head? = some first := by
    cases dropped : line.drop offset with
    | nil =>
      rw [List.drop_eq_nil_iff] at dropped
      omega
    | cons byte later =>
      rw [dropped] at shape
      injection shape with same
      simp [same]
  exact plain (List.mem_of_mem_drop (List.mem_of_mem_head? head))

/-- Directly behind such a text is the first place for it. -/
theorem strstr_line {line needle : Bytes} {first : Byte} (plain : first ∉ line) (rest : Bytes) :
    strstr (line ++ (first :: needle ++ rest)) (first :: needle) = some line.length := by
  rw [strstr_eq_some_iff]
  refine ⟨by simp, ?_, fun earlier before stands => ?_⟩
  · rw [List.drop_left]
    exact List.prefix_append _ rest
  · have := strstr_behind plain (List.prefix_append line _) stands
    omega

/-- Behind a text that it does not occur in, a needle is found where it stands,
if its first byte is not in the rest of it. -/
theorem strstr_past {piece needle : Bytes} {first : Byte}
    (absent : strstr piece (first :: needle) = none) (once : first ∉ needle) (rest : Bytes) :
    strstr (piece ++ (first :: needle ++ rest)) (first :: needle) = some piece.length := by
  rw [strstr_eq_some_iff]
  refine ⟨by simp, ?_, fun earlier before stands => ?_⟩
  · rw [List.drop_left]
    exact List.prefix_append _ rest
  · by_cases inside : earlier + (needle.length + 1) ≤ piece.length
    · have found : first :: needle <+: piece.drop earlier := by
        have part : first :: needle <+:
            ((piece ++ (first :: needle ++ rest)).take piece.length).drop earlier :=
          (prefix_drop_take (List.cons_ne_nil first needle)).mpr ⟨stands, by simpa using inside⟩
        rwa [List.take_left] at part
      exact strstr_eq_none_iff.mp absent earlier (Nat.le_of_lt before) found
    · -- the needle would reach into the one that follows, whose first byte it has only in front
      have late : piece.length - earlier - 1 < needle.length := by omega
      obtain ⟨after, shape⟩ := stands
      have here : (piece ++ (first :: needle ++ rest))[piece.length]? = some first := by simp
      have there : (first :: needle ++ after)[piece.length - earlier]? = some first := by
        rw [shape, List.getElem?_drop, Nat.add_sub_cancel' (Nat.le_of_lt before)]
        exact here
      have count : piece.length - earlier = piece.length - earlier - 1 + 1 := by omega
      rw [count, List.cons_append, List.getElem?_cons_succ, List.getElem?_append_left late] at there
      exact once (List.mem_of_getElem? there)

/-- What follows a text does not change what is found first in it. -/
theorem strstr_append {haystack needle : Bytes} {offset : Nat} (nonempty : needle ≠ [])
    (found : strstr haystack needle = some offset) (rest : Bytes) :
    strstr (haystack ++ rest) needle = some offset := by
  have part : strstr ((haystack ++ rest).take haystack.length) needle =
      (strstr (haystack ++ rest) needle).filter (· + needle.length ≤ haystack.length) :=
    strstr_take nonempty haystack.length
  rw [List.take_left, found] at part
  exact (Option.filter_eq_some_iff.mp part.symm).1

/-- A text that a needle is found in, taken apart where it was found. -/
theorem strstr_split {haystack needle : Bytes} {offset : Nat} (nonempty : needle ≠ [])
    (found : strstr haystack needle = some offset) :
    ∃ before rest, haystack = before ++ (needle ++ rest) ∧ before.length = offset ∧
      strstr before needle = none := by
  obtain ⟨within, ⟨rest, shape⟩, -⟩ := strstr_eq_some_iff.mp found
  refine ⟨haystack.take offset, rest, ?_, ?_, ?_⟩
  · rw [shape, List.take_append_drop]
  · rw [List.length_take, Nat.min_eq_left within]
  · have long : 0 < needle.length := List.length_pos_iff.mpr nonempty
    have late : ¬ offset + needle.length ≤ offset := by omega
    rw [strstr_take nonempty, found, Option.filter_some_neg (by simpa using late)]

/-- A byte stands behind a text that it is not in. -/
theorem strchr_behind {before : Bytes} {byte : Byte} (plain : byte ∉ before) (after : Bytes) :
    strchr (before ++ byte :: after) byte = some before.length := by
  have absent : before.findIdx? (· = byte) = none := by
    rw [List.findIdx?_eq_none_iff]
    intro other member
    have : other ≠ byte := fun same => plain (same ▸ member)
    simpa using this
  simp [strchr, List.findIdx?_append, absent, List.findIdx?_cons]

theorem strchr_eq_none_iff {text : Bytes} {byte : Byte} : strchr text byte = none ↔ byte ∉ text := by
  rw [strchr, List.findIdx?_eq_none_iff]
  constructor
  · intro other member
    simpa using other byte member
  · intro absent other member
    have : other ≠ byte := fun same => absent (same ▸ member)
    simpa using this

/-- A text that a byte is found in, taken apart where it was found. -/
theorem strchr_split {text : Bytes} {byte : Byte} {offset : Nat}
    (found : strchr text byte = some offset) :
    ∃ before after, text = before ++ byte :: after ∧ before.length = offset ∧ byte ∉ before := by
  have present : byte ∈ text := by
    by_contra absent
    rw [strchr_eq_none_iff.mpr absent] at found
    cases found
  obtain ⟨before, after, shape, plain⟩ := List.eq_append_cons_of_mem present
  subst shape
  rw [strchr_behind plain] at found
  cases found
  exact ⟨before, after, rfl, rfl, plain⟩

/-! ## Numbers -/

/-- `isspace` in the C locale. -/
def isspace (byte : Byte) : Bool :=
  byte = 0x20 ∨ 0x09 ≤ byte ∧ byte ≤ 0x0D

/-- `isdigit`. -/
def isdigit (byte : Byte) : Bool := 0x30 ≤ byte ∧ byte ≤ 0x39

/-- The number that decimal digits spell. -/
def decimalValue (digits : Bytes) : Nat :=
  digits.foldl (fun number digit => 10 * number + (digit - 0x30).toNat) 0

/-- `LONG_MIN` and `LONG_MAX` of a 32-bit `long`, and `INT_MAX`. -/
def longMin : Int := -2147483648
def longMax : Int := 2147483647
def intMax : Int := 2147483647

/-- What `strtol` skips and reads before the digits: white space and one sign.
Gives the sign and the rest. -/
def strtolSign (text : Bytes) : Int × Bytes :=
  match text.dropWhile isspace with
  | [] => (1, [])
  | byte :: rest =>
    if byte = 0x2D then (-1, rest)
    else if byte = 0x2B then (1, rest)
    else (1, byte :: rest)

/-- `strtol(text, &endptr, 10)`: the value, kept inside a `long`, and the text
at `endptr`. Without digits nothing is consumed. -/
def strtol (text : Bytes) : Int × Bytes :=
  let (sign, rest) := strtolSign text
  let digits := rest.takeWhile isdigit
  if digits = [] then (0, text)
  else (max longMin (min longMax (sign * decimalValue digits)), rest.dropWhile isdigit)

/-- Digits alone are read to their end. -/
theorem strtol_digits {digits : Bytes} (nonempty : digits ≠ [])
    (decimal : ∀ digit ∈ digits, isdigit digit = true)
    (small : (decimalValue digits : Int) ≤ longMax) :
    strtol digits = ((decimalValue digits : Int), []) := by
  obtain ⟨first, rest, rfl⟩ := List.exists_cons_of_ne_nil nonempty
  have digit : isdigit first = true := decimal first List.mem_cons_self
  have visible : isspace first = false := by
    simp only [isdigit, isspace, decide_eq_true_eq, decide_eq_false_iff_not, not_or, not_and] at *
    refine ⟨fun same => ?_, fun _ => ?_⟩
    · subst same
      exact absurd digit.1 (by decide)
    · exact UInt8.not_le.mpr (UInt8.lt_of_lt_of_le (by decide) digit.1)
  have unsigned : first ≠ 0x2D ∧ first ≠ 0x2B := by
    constructor <;>
    · rintro rfl
      exact absurd digit (by decide)
  have sign : strtolSign (first :: rest) = (1, first :: rest) := by
    simp [strtolSign, visible, unsigned]
  have all : (first :: rest).takeWhile isdigit = first :: rest :=
    List.takeWhile_eq_self_iff.mpr decimal
  have none_ : (first :: rest).dropWhile isdigit = [] := List.dropWhile_eq_nil_iff.mpr decimal
  have low : longMin ≤ (decimalValue (first :: rest) : Int) := by
    have : longMin ≤ 0 := by decide
    omega
  simp only [strtol, sign, all, none_, reduceCtorEq, if_false, Int.one_mul]
  rw [Int.min_eq_right small, Int.max_eq_right low]

/-! ## Tokens -/

/-- The tokens `strtok_r` gives one after the other for one delimiter: the
non-empty pieces between delimiters. -/
def strtokTokens (text : Bytes) (delimiter : Byte) : List Bytes :=
  (text.splitOn delimiter).filter (· ≠ [])

/-- Pieces put together with a delimiter are its tokens again. -/
theorem strtokTokens_intercalate {pieces : List Bytes} {delimiter : Byte}
    (nonempty : ∀ piece ∈ pieces, piece ≠ []) (plain : ∀ piece ∈ pieces, delimiter ∉ piece) :
    strtokTokens ([delimiter].intercalate pieces) delimiter = pieces := by
  unfold strtokTokens
  by_cases none_ : pieces = []
  · subst none_
    simp [List.intercalate]
  · rw [List.splitOn_intercalate delimiter plain none_, List.filter_eq_self]
    simpa using nonempty

/-- `snprintf(array, size, ...)` with a finished text: as much of it as fits
with its terminator. The length returned is that of the whole text. -/
def CharArray.snprintf (array : CharArray size) (text : Bytes) : CharArray size × Nat :=
  (array.copyAt 0 (text.take (size - 1) ++ [0]), text.length)

end PicowDayClock
