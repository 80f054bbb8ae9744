import PicowDayClock.Firmware.ConfigForm
import PicowDayClock.Library.Checked

/-! `urldecode_inplace` of `wifi.c` as it runs: `src` and `dst` go through one
buffer, and each access to it is checked. -/
namespace PicowDayClock.UrlDecode
open Checked ConfigForm

/-- The buffer and the two pointers into it. -/
structure Pointers where
  memory : Memory
  dst : Nat
  src : Nat

/-- `(*src == '%') && src[1] && src[2]`, with `c` at `*src`. -/
def isEscape (memory : Memory) (src : Nat) (c : Byte) : Checked Bool := do
  if c ≠ 0x25 then .ok false
  else
    let hi ← memory.load (src + 1)
    if hi = 0 then .ok false
    else
      let lo ← memory.load (src + 2)
      .ok (lo ≠ 0)

/-- The byte that a round writes, and how far `src` moves on. -/
def decodeAt (memory : Memory) (src : Nat) (c : Byte) : Checked (Byte × Nat) := do
  let escape ← isEscape memory src c
  if escape then
    let hi ← memory.load (src + 1)
    let lo ← memory.load (src + 2)
    .ok ((hexToInt hi <<< 4) ||| hexToInt lo, 3)
  else if c = 0x2B then .ok (0x20, 1)
  else .ok (c, 1)

/-- `while (*src)` and its body. -/
def decodeRound (now : Pointers) : Checked (Option Pointers) := do
  let c ← now.memory.load now.src
  if c = 0 then .ok none
  else
    let (byte, moved) ← decodeAt now.memory now.src c
    let memory ← now.memory.store now.dst byte
    .ok (some { memory := memory, dst := now.dst + 1, src := now.src + moved })

theorem decodeAt_moves {memory : Memory} {src : Nat} {c byte : Byte} {moved : Nat}
    (decoded : decodeAt memory src c = .ok (byte, moved)) : 0 < moved := by
  obtain ⟨escape, -, rest⟩ := bind_eq_ok_iff.mp decoded
  split at rest
  · obtain ⟨hi, -, rest⟩ := bind_eq_ok_iff.mp rest
    obtain ⟨lo, -, rest⟩ := bind_eq_ok_iff.mp rest
    cases rest
    exact Nat.succ_pos 2
  · split at rest <;> cases rest <;> exact Nat.one_pos

/-- The first loop. What is left of the buffer behind `src` grows shorter. -/
def decodeLoop : WhileLoop Pointers where
  round := decodeRound
  variant now := now.memory.length - now.src
  shrinks {now next} taken := by
    obtain ⟨c, loaded, rest⟩ := bind_eq_ok_iff.mp taken
    have inside := Memory.load_lt loaded
    split at rest
    · cases rest
    · obtain ⟨⟨byte, moved⟩, decoded, rest⟩ := bind_eq_ok_iff.mp rest
      obtain ⟨memory, stored, rest⟩ := bind_eq_ok_iff.mp rest
      cases rest
      have moves := decodeAt_moves decoded
      dsimp only
      rw [Memory.store_length stored]
      omega

/-- `while (dst > str && (*(dst - 1) == '\r' || *(dst - 1) == '\n'))` and its body. -/
def trimRound (memory : Memory) (str dst : Nat) : Checked (Option Nat) := do
  if dst > str then
    let c ← memory.load (dst - 1)
    if isCrLf c then .ok (some (dst - 1)) else .ok none
  else .ok none

/-- The second loop. -/
def trimLoop (memory : Memory) (str : Nat) : WhileLoop Nat where
  round := trimRound memory str
  variant dst := dst
  shrinks {dst next} taken := by
    unfold trimRound at taken
    split at taken
    · obtain ⟨c, -, rest⟩ := bind_eq_ok_iff.mp taken
      split at rest
      · cases rest
        omega
      · cases rest
    · cases taken

/-- `urldecode_inplace`: the buffer it leaves, and where `dst` ends. -/
def urldecodeInplace (memory : Memory) (str : Nat) : Checked (Memory × Nat) := do
  let decoded ← decodeLoop.run { memory := memory, dst := str, src := str }
  let dst ← (trimLoop decoded.memory str).run decoded.dst
  let memory ← decoded.memory.store dst 0
  .ok (memory, dst)

end PicowDayClock.UrlDecode
