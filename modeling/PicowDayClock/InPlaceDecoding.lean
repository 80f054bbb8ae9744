import PicowDayClock.Firmware.UrlDecode

/-! Decoding in place against decoding into a buffer of its own. What has been
decoded lies over the beginning of the text, which has been read at least as
far; so the text still to be read is the one that was there, and its NUL stops
every look ahead. -/
namespace PicowDayClock.InPlaceDecoding
open Checked ConfigForm UrlDecode

/-! ## One character or escape -/

/-- From `src` on, the memory holds this text and its NUL. -/
def Shows (memory : Memory) (src : Nat) (remaining : Bytes) : Prop :=
  ∀ i byte, (remaining ++ [0])[i]? = some byte → memory.load (src + i) = .ok byte

theorem Shows.here {memory : Memory} {src : Nat} {remaining : Bytes} {byte : Byte}
    (shows_ : Shows memory src remaining) (first : (remaining ++ [0])[0]? = some byte) :
    memory.load src = .ok byte := shows_ 0 byte first

theorem urldecode_plain {c : Byte} {rest : Bytes}
    (plain : c ≠ 0x25 ∨ rest.length < 2) : urldecode (c :: rest) = decodePlain c :: urldecode rest := by
  rcases rest with _ | ⟨hi, _ | ⟨lo, more⟩⟩
  · rfl
  · rfl
  · have other : c ≠ 0x25 := plain.resolve_right (by simp)
    rw [urldecode, if_neg other]

section Round

variable {memory : Memory} {src : Nat} {c : Byte} {rest : Bytes}

/-- The condition looks no further than the NUL. -/
theorem isEscape_eq (shows_ : Shows memory src (c :: rest)) (free : NulFree rest) :
    isEscape memory src c = .ok (decide (c = 0x25 ∧ 2 ≤ rest.length)) := by
  by_cases percent : c = 0x25
  · rw [isEscape, if_neg (not_not.mpr percent)]
    rcases rest with _ | ⟨hi, _ | ⟨lo, more⟩⟩
    · rw [shows_ 1 0 rfl, ok_bind, if_pos rfl]
      simp
    · have nonzero : hi ≠ 0 := fun zero => free (by simp [zero])
      rw [shows_ 1 hi rfl, ok_bind, if_neg nonzero, shows_ 2 0 rfl, ok_bind]
      simp
    · have nonzero : hi ≠ 0 := fun zero => free (by simp [zero])
      have alsoNonzero : lo ≠ 0 := fun zero => free (by simp [zero])
      rw [shows_ 1 hi rfl, ok_bind, if_neg nonzero, shows_ 2 lo rfl, ok_bind]
      simp [percent, alsoNonzero]
  · rw [isEscape, if_pos percent]
    simp [percent]

/-- A round takes one character or one escape off the text and writes what the
decoder makes of it. -/
theorem decodeAt_decodes (shows_ : Shows memory src (c :: rest)) (free : NulFree rest) :
    ∃ byte moved, decodeAt memory src c = .ok (byte, moved) ∧ 0 < moved ∧
      moved ≤ rest.length + 1 ∧
      urldecode (c :: rest) = byte :: urldecode ((c :: rest).drop moved) := by
  rw [decodeAt, isEscape_eq shows_ free, ok_bind]
  by_cases escape : c = 0x25 ∧ 2 ≤ rest.length
  · obtain ⟨rfl, long⟩ := escape
    rcases rest with _ | ⟨hi, _ | ⟨lo, more⟩⟩
    · simp at long
    · simp at long
    · refine ⟨(hexToInt hi <<< 4) ||| hexToInt lo, 3, ?_, Nat.succ_pos 2, by simp, ?_⟩
      · rw [if_pos (by simp), shows_ 1 hi rfl, ok_bind, shows_ 2 lo rfl, ok_bind]
      · rw [urldecode, if_pos rfl]
        rfl
  · have plain : c ≠ 0x25 ∨ rest.length < 2 := by
      rw [not_and_or, Nat.not_le] at escape
      exact escape
    refine ⟨decodePlain c, 1, ?_, Nat.one_pos, Nat.le_add_left 1 _, urldecode_plain plain⟩
    rw [if_neg (by simpa using escape), decodePlain]
    by_cases plus : c = 0x2B
    · rw [if_pos plus, if_pos plus]
    · rw [if_neg plus, if_neg plus]

end Round

/-! ## The first loop -/

/-- The buffer with bytes written over the beginning of the text. -/
def overwritten (text written : Bytes) : Bytes := written ++ (text ++ [0]).drop written.length

theorem overwritten_length {text written : Bytes} (inside : written.length ≤ text.length) :
    (overwritten text written).length = text.length + 1 := by
  simp only [overwritten, List.length_append, List.length_drop, List.length_singleton]
  omega

/-- Behind what was written the text is as it was. -/
theorem overwritten_behind {text written : Bytes} {i : Nat} (behind : written.length ≤ i) :
    (overwritten text written)[i]? = (text ++ [0])[i]? := by
  rw [overwritten, List.getElem?_append_right behind, List.getElem?_drop,
    Nat.add_sub_cancel' behind]

theorem overwritten_set {text written : Bytes} (inside : written.length < text.length)
    (byte : Byte) :
    (overwritten text written).set written.length byte = overwritten text (written ++ [byte]) := by
  have more : written.length < (text ++ [0]).length := by
    rw [List.length_append]
    omega
  rw [overwritten, List.set_append_right _ _ (Nat.le_refl _), Nat.sub_self,
    List.drop_eq_getElem_cons more, List.set_cons_zero, overwritten, List.append_assoc,
    List.length_append]
  rfl

section Loop

variable (before after : Memory) (text : Bytes)

/-- The memory around the text, and the pointers, when so much of it has been
read and these bytes have been written. -/
def pointersAt (written : Bytes) (consumed : Nat) : Pointers where
  memory := before ++ (overwritten text written).map some ++ after
  dst := before.length + written.length
  src := before.length + consumed

/-- How far the loop is: no more was written than read, and the rest of the text
decodes to the rest of the result. -/
def Halfway (now : Pointers) : Prop :=
  ∃ written consumed, now = pointersAt before after text written consumed ∧
    written.length ≤ consumed ∧ consumed ≤ text.length ∧
    written ++ urldecode (text.drop consumed) = urldecode text

variable {text}

theorem pointersAt_shows {written : Bytes} {consumed : Nat} (apart : written.length ≤ consumed)
    (inside : consumed ≤ text.length) :
    Shows (pointersAt before after text written consumed).memory
      (pointersAt before after text written consumed).src (text.drop consumed) := by
  intro i byte there
  rw [← List.drop_append_of_le_length inside, List.getElem?_drop,
    ← overwritten_behind (Nat.le_trans apart (Nat.le_add_right consumed i))] at there
  simp only [pointersAt, Nat.add_assoc]
  exact Memory.load_between before after there

/-- The loop ends at the NUL, with the whole text decoded, or goes on. -/
theorem decodeRound_halfway (free : NulFree text) {now : Pointers}
    (halfway : Halfway before after text now) :
    (decodeRound now = .ok none ∧
      now = pointersAt before after text (urldecode text) text.length) ∨
    ∃ next, decodeRound now = .ok (some next) ∧ Halfway before after text next := by
  obtain ⟨written, consumed, rfl, apart, inside, whole⟩ := halfway
  have shows_ := pointersAt_shows before after apart inside
  cases remaining : text.drop consumed with
  | nil =>
    left
    have ended : consumed = text.length :=
      Nat.le_antisymm inside (List.drop_eq_nil_iff.mp remaining)
    rw [remaining] at shows_ whole
    rw [decodeRound, shows_.here rfl, ok_bind, if_pos rfl]
    rw [urldecode, List.append_nil] at whole
    exact ⟨rfl, by rw [whole, ended]⟩
  | cons c rest =>
    right
    have length := congrArg List.length remaining
    rw [List.length_drop, List.length_cons] at length
    have remainingFree : NulFree (text.drop consumed) := fun member =>
      free (List.mem_of_mem_drop member)
    rw [remaining] at shows_ whole remainingFree
    obtain ⟨nonzero, restFree⟩ := not_or.mp (mt List.mem_cons.mpr remainingFree)
    obtain ⟨byte, moved, ran, moves, short, decodes⟩ := decodeAt_decodes shows_ restFree
    have stored := Memory.store_between before after
      (show written.length < (overwritten text written).length by
        rw [overwritten_length (by omega)]
        omega) byte
    rw [overwritten_set (by omega)] at stored
    refine ⟨pointersAt before after text (written ++ [byte]) (consumed + moved), ?_,
      written ++ [byte], consumed + moved, rfl, ?_, by omega, ?_⟩
    · rw [decodeRound, shows_.here rfl, ok_bind, if_neg (Ne.symm nonzero), ran, ok_bind]
      simp only [pointersAt, stored, ok_bind, List.length_append, List.length_singleton,
        Nat.add_assoc]
    · rw [List.length_append, List.length_singleton]
      omega
    · rw [decodes, ← remaining, List.drop_drop] at whole
      rw [List.append_assoc, List.singleton_append, whole]

end Loop

/-! ## The second loop -/

section Trim

variable (before after : Memory) {bytes decoded : Bytes}

/-- How far the second loop is: only line ends have been given up. -/
def Trimmed (bytes decoded : Bytes) (dst : Nat) : Prop :=
  ∃ kept, kept <+: bytes ∧ dst = before.length + kept.length ∧
    kept.rdropWhile isCrLf = decoded.rdropWhile isCrLf

theorem trimRound_trimmed {dst : Nat} (trimmed : Trimmed before bytes decoded dst) :
    (trimRound (before ++ bytes.map some ++ after) before.length dst = .ok none ∧
      dst = before.length + (decoded.rdropWhile isCrLf).length) ∨
    ∃ next, trimRound (before ++ bytes.map some ++ after) before.length dst = .ok (some next) ∧
      Trimmed before bytes decoded next := by
  obtain ⟨kept, front, rfl, same⟩ := trimmed
  rw [trimRound]
  rcases List.eq_nil_or_concat' kept with rfl | ⟨init, c, rfl⟩
  · -- the scan has come to the beginning of the string
    left
    rw [← same]
    exact ⟨if_neg (Nat.lt_irrefl _), rfl⟩
  · have long : (init ++ [c]).length = init.length + 1 := by
      rw [List.length_append, List.length_singleton]
    have there : bytes[init.length]? = some c := by
      obtain ⟨rest, rfl⟩ := front
      simp
    have loaded := Memory.load_between before after there
    rw [long, if_pos (by omega), ← Nat.add_assoc, Nat.add_sub_cancel, loaded, ok_bind]
    by_cases lineEnd : isCrLf c = true
    · right
      refine ⟨before.length + init.length, if_pos lineEnd, init,
        (List.prefix_append init [c]).trans front, rfl, ?_⟩
      rw [← same, List.rdropWhile_concat_pos isCrLf init c lineEnd]
    · left
      rw [← same, List.rdropWhile_concat_neg isCrLf init c lineEnd, long]
      exact ⟨if_neg lineEnd, rfl⟩

/-- The scan back over what was decoded ends at the last byte that stays, or at
the beginning of the string. -/
theorem trimLoop_trims (front : decoded <+: bytes) :
    (trimLoop (before ++ bytes.map some ++ after) before.length).run
        (before.length + decoded.length) =
      .ok (before.length + (decoded.rdropWhile isCrLf).length) := by
  have begun : Trimmed before bytes decoded (before.length + decoded.length) :=
    ⟨decoded, front, rfl, rfl⟩
  have ends : ∃ final, (trimLoop (before ++ bytes.map some ++ after) before.length).run
        (before.length + decoded.length) = .ok final ∧
      final = before.length + (decoded.rdropWhile isCrLf).length :=
    WhileLoop.run_rule (fun _ trimmed => trimRound_trimmed before after trimmed) begun
  obtain ⟨final, ran, rfl⟩ := ends
  exact ran

end Trim

/-! ## The function -/

/-- The loop from its first round on. -/
theorem begins_halfway (before after : Memory) (text : Bytes) :
    Halfway before after text (pointersAt before after text [] 0) :=
  ⟨[], 0, rfl, Nat.le_refl 0, Nat.zero_le _, rfl⟩

section Run

variable {text : Bytes} (free : NulFree text) (before after : Memory)
include free

theorem decodeLoop_decodes :
    decodeLoop.run (pointersAt before after text [] 0) =
      .ok (pointersAt before after text (urldecode text) text.length) := by
  have ends : ∃ final, decodeLoop.run (pointersAt before after text [] 0) = .ok final ∧
      final = pointersAt before after text (urldecode text) text.length :=
    WhileLoop.run_rule (fun _ halfway => decodeRound_halfway before after free halfway)
      (begins_halfway before after text)
  obtain ⟨final, ran, rfl⟩ := ends
  exact ran

/-- In every round `dst` is no further than `src`, and `src` no further than the NUL. -/
theorem decodeLoop_stays {now : Pointers}
    (reached : decodeLoop.Reaches (pointersAt before after text [] 0) now) :
    now.dst ≤ now.src ∧ now.src ≤ before.length + text.length := by
  have halfway : Halfway before after text now :=
    WhileLoop.reaches_rule (fun _ halfway => decodeRound_halfway before after free halfway)
      (begins_halfway before after text) reached
  obtain ⟨written, consumed, rfl, apart, inside, -⟩ := halfway
  simp only [pointersAt]
  omega

end Run

theorem urldecode_length_le (text : Bytes) : (urldecode text).length ≤ text.length := by
  induction text using urldecode.induct with
  | case1 hi lo rest ih =>
    rw [urldecode, if_pos rfl]
    simp only [List.length_cons]
    omega
  | case2 c hi lo rest other ih =>
    rw [urldecode, if_neg other]
    simp only [List.length_cons] at *
    omega
  | case3 c rest short ih =>
    rw [urldecode_plain (.inr ?_)]
    · simp only [List.length_cons]
      omega
    · rcases rest with _ | ⟨hi, _ | ⟨lo, more⟩⟩
      · decide
      · simp
      · exact absurd rfl (short hi lo more)
  | case4 => exact Nat.le_refl 0

/-- What is left of the buffer when the NUL is written, whatever lies around it. -/
theorem store_nul {text kept : Bytes} (front : kept <+: urldecode text) :
    ∃ left, kept.length + left.length = text.length ∧
      (overwritten text (urldecode text)).set kept.length 0 = kept ++ 0 :: left := by
  have length := overwritten_length (urldecode_length_le text)
  have fits := Nat.le_trans front.length_le (urldecode_length_le text)
  obtain ⟨tail, whole⟩ := front
  have parts : overwritten text (urldecode text) =
      kept ++ (tail ++ (text ++ [0]).drop (urldecode text).length) := by
    rw [overwritten, ← List.append_assoc, whole]
  rw [parts, List.length_append] at length
  cases behind : tail ++ (text ++ [0]).drop (urldecode text).length with
  | nil =>
    rw [behind, List.length_nil] at length
    omega
  | cons cell left =>
    rw [behind, List.length_cons] at length
    refine ⟨left, by omega, ?_⟩
    rw [parts, behind, List.set_append_right _ _ (Nat.le_refl _), Nat.sub_self,
      List.set_cons_zero]

/-- The text in front of the first NUL, where there is one. -/
theorem cstr_before_nul (front left : Bytes) :
    ∃ rest, front ++ 0 :: left = cstr front ++ 0 :: rest := by
  by_cases free : 0 ∈ front
  · obtain ⟨rest, shape⟩ := cstr_split free
    exact ⟨rest ++ 0 :: left, by
      conv => lhs; rw [shape]
      rw [List.append_assoc, List.cons_append]⟩
  · exact ⟨left, by rw [cstr_of_nulFree free]⟩

/-- The whole function: what it leaves depends on the string alone. -/
theorem urldecodeInplace_leaves {text : Bytes} (free : NulFree text) :
    let kept := (urldecode text).rdropWhile isCrLf
    ∃ left : Bytes, kept.length + left.length = text.length ∧ ∀ before after : Memory,
      UrlDecode.urldecodeInplace (before ++ (text ++ [0]).map some ++ after) before.length =
        .ok (before ++ (kept ++ 0 :: left).map some ++ after, before.length + kept.length) := by
  intro kept
  have front : kept <+: urldecode text := List.rdropWhile_prefix isCrLf (urldecode text)
  obtain ⟨left, same, stored⟩ := store_nul front
  refine ⟨left, same, fun before after => ?_⟩
  have decoded : decodeLoop.run ⟨before ++ (text ++ [0]).map some ++ after, before.length,
      before.length⟩ = _ := decodeLoop_decodes free before after
  have trimmed := trimLoop_trims before after
    (show urldecode text <+: overwritten text (urldecode text) from List.prefix_append _ _)
  have inside : kept.length < (overwritten text (urldecode text)).length := by
    rw [overwritten_length (urldecode_length_le text)]
    omega
  have ended := Memory.store_between before after inside 0
  rw [stored] at ended
  rw [UrlDecode.urldecodeInplace, decoded, ok_bind]
  simp only [pointersAt]
  rw [trimmed, ok_bind, ended, ok_bind]

/-- As a C string, what is left is the text that the form goes on with. -/
theorem urldecodeInplace_text {text : Bytes} (free : NulFree text) (before after : Memory) :
    ∃ memory dst, UrlDecode.urldecodeInplace
        (before ++ (text ++ [0]).map some ++ after) before.length = .ok (memory, dst) ∧
      Memory.string (memory.drop before.length) = .ok (ConfigForm.urldecodeInplace text) := by
  obtain ⟨left, -, leaves⟩ := urldecodeInplace_leaves free
  refine ⟨_, _, leaves before after, ?_⟩
  rw [List.append_assoc, List.drop_left, ConfigForm.urldecodeInplace]
  obtain ⟨rest, ended⟩ := cstr_before_nul ((urldecode text).rdropWhile isCrLf) left
  refine Memory.Holds.string (nulFree_cstr _) ⟨rest.map some ++ after, ?_⟩
  rw [ended, ← List.append_assoc, ← List.map_append, List.append_assoc]
  rfl

/-! ## A decoder with a buffer of its own -/

/-- The number a hexadecimal digit of either case stands for. Any other
character counts as 0. -/
def digitValue (digit : Byte) : Nat :=
  if digit ∈ ascii "0123456789ABCDEF" then (ascii "0123456789ABCDEF").idxOf digit
  else if digit ∈ ascii "abcdef" then 10 + (ascii "abcdef").idxOf digit
  else 0

/-- A `%` with two more characters is one byte, a `+` is a space, and everything
else is copied. -/
def percentDecode : Bytes → Bytes
  | [] => []
  | [c] => [if c = 0x2B then 0x20 else c]
  | [c, d] => (if c = 0x2B then 0x20 else c) :: percentDecode [d]
  | c :: hi :: lo :: rest =>
    if c = 0x25 then UInt8.ofNat (16 * digitValue hi + digitValue lo) :: percentDecode rest
    else (if c = 0x2B then 0x20 else c) :: percentDecode (hi :: lo :: rest)

/-- Without the carriage returns and line feeds at its end. -/
def withoutLineEnds (text : Bytes) : Bytes :=
  text.rdropWhile fun byte => byte = 0x0D ∨ byte = 0x0A

theorem hexToInt_eq (c : Byte) : hexToInt c = UInt8.ofNat (digitValue c) := by
  have all : ∀ number < 256,
      hexToInt (UInt8.ofNat number) = UInt8.ofNat (digitValue (UInt8.ofNat number)) := by
    decide +kernel
  simpa using all c.toNat c.toNat_lt

theorem digitValue_lt (c : Byte) : digitValue c < 16 := by
  have all : ∀ number < 256, digitValue (UInt8.ofNat number) < 16 := by decide +kernel
  simpa using all c.toNat c.toNat_lt

/-- Shifted and joined, two digits are the number they are written for. -/
theorem escape_eq (hi lo : Byte) :
    (hexToInt hi <<< 4) ||| hexToInt lo = UInt8.ofNat (16 * digitValue hi + digitValue lo) := by
  have all : ∀ high < 16, ∀ low < 16,
      (UInt8.ofNat high <<< 4) ||| UInt8.ofNat low = UInt8.ofNat (16 * high + low) := by decide
  rw [hexToInt_eq, hexToInt_eq]
  exact all _ (digitValue_lt hi) _ (digitValue_lt lo)

theorem urldecode_eq (text : Bytes) : urldecode text = percentDecode text := by
  induction text using percentDecode.induct with
  | case1 => rfl
  | case2 c => rfl
  | case3 c d ih =>
    rw [urldecode_plain (.inr (Nat.lt_succ_self [d].length)), ih, percentDecode]
    rfl
  | case4 hi lo rest ih => rw [urldecode, if_pos rfl, ih, escape_eq, percentDecode, if_pos rfl]
  | case5 c hi lo rest other ih =>
    rw [urldecode_plain (.inl other), ih, percentDecode, if_neg other]
    rfl

/-- On every string, with whatever lies around it, both loops end without an
access outside the string and its NUL; `dst` never overtakes `src`; and in front
of the NUL that is written stands what a decoder with a buffer of its own gives,
without the line ends behind it. Nothing behind the string matters: where
nothing lies there, an access to it would be a fault. -/
theorem urldecode_in_place {text : Bytes} (free : NulFree text) :
    let kept := withoutLineEnds (percentDecode text)
    ∃ left : Bytes, kept.length + left.length = text.length ∧ ∀ before after : Memory,
      let memory := before ++ (text ++ [0]).map some ++ after
      UrlDecode.urldecodeInplace memory before.length =
          .ok (before ++ (kept ++ 0 :: left).map some ++ after, before.length + kept.length) ∧
        ∀ now, decodeLoop.Reaches ⟨memory, before.length, before.length⟩ now →
          now.dst ≤ now.src ∧ now.src ≤ before.length + text.length := by
  intro kept
  have same : kept = (urldecode text).rdropWhile isCrLf := by
    rw [urldecode_eq]
    rfl
  obtain ⟨left, length, leaves⟩ := urldecodeInplace_leaves free
  rw [same]
  exact ⟨left, length, fun before after =>
    ⟨leaves before after, fun now => decodeLoop_stays free before after⟩⟩

/-- An escape that is none gives a NUL in the middle, and the line end goes. -/
theorem malformed_escape_is_decoded :
    withoutLineEnds (percentDecode (ascii "Abc%ZZd%0D")) = ascii "Abc" ++ 0 :: ascii "d" ∧
      ∃ left : Bytes, 5 + left.length = 10 ∧ ∀ before after : Memory,
        let memory := before ++ (ascii "Abc%ZZd%0D" ++ [0]).map some ++ after
        UrlDecode.urldecodeInplace memory before.length =
            .ok (before ++ (ascii "Abc" ++ 0 :: ascii "d" ++ 0 :: left).map some ++ after,
              before.length + 5) ∧
          ∀ now, decodeLoop.Reaches ⟨memory, before.length, before.length⟩ now →
            now.dst ≤ now.src ∧ now.src ≤ before.length + 10 :=
  ⟨by decide, urldecode_in_place (show NulFree (ascii "Abc%ZZd%0D") by decide)⟩

end PicowDayClock.InPlaceDecoding
