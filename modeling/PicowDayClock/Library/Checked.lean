import PicowDayClock.Library.CharArray

/-! Arrays every access to which is checked. A program over them either has a
result or a fault, so that one without a fault has kept every index in range. -/
namespace PicowDayClock

/-- What a program must not do: read a cell that is not there or holds nothing
yet, write a cell that is not there, take more from a size than it has. -/
inductive Fault where
  | read | write | underflow
  deriving DecidableEq

abbrev Checked := Except Fault

/-- The cells of an array. One that nothing has been written to holds none. -/
abbrev Memory := List (Option Byte)

namespace Checked

variable {State Item : Type}

@[simp] theorem ok_bind (item : Item) (next : Item → Checked State) :
    (Except.ok item : Checked Item) >>= next = next item := rfl

@[simp] theorem error_bind (fault : Fault) (next : Item → Checked State) :
    (Except.error fault : Checked Item) >>= next = .error fault := rfl

theorem bind_eq_ok_iff {first : Checked Item} {next : Item → Checked State} {result : State} :
    first >>= next = .ok result ↔ ∃ item, first = .ok item ∧ next item = .ok result := by
  cases first with
  | error fault => simp
  | ok item => simp

/-- The difference of two sizes. -/
def sub (size less : Nat) : Checked Nat := if less ≤ size then .ok (size - less) else .error .underflow

theorem sub_ok {size less : Nat} (fits : less ≤ size) : sub size less = .ok (size - less) :=
  if_pos fits

/-! ## Loops -/

/-- `for (i = 0; i < count; i++)`. -/
def forRange (count : Nat) (body : Nat → State → Checked State) (state : State) : Checked State :=
  (List.range count).foldlM (fun state i => body i state) state

theorem forRange_succ (count : Nat) (body : Nat → State → Checked State) (state : State) :
    forRange (count + 1) body state = forRange count body state >>= body count := by
  rw [forRange, List.range_succ, List.foldlM_append, forRange]
  simp

/-- A loop all rounds of which have a result and keep what is said of the
rounds so far has a result, of which it is said. -/
theorem forRange_rule {count : Nat} {body : Nat → State → Checked State} {state : State}
    (Inv : Nat → State → Prop) (begun : Inv 0 state)
    (round : ∀ i < count, ∀ now, Inv i now → ∃ next, body i now = .ok next ∧ Inv (i + 1) next) :
    ∃ final, forRange count body state = .ok final ∧ Inv count final := by
  induction count with
  | zero => exact ⟨state, rfl, begun⟩
  | succ count ih =>
    obtain ⟨now, ran, kept⟩ := ih fun i before => round i (Nat.lt_succ_of_lt before)
    obtain ⟨next, last, done⟩ := round count (Nat.lt_succ_self count) now kept
    refine ⟨next, ?_, done⟩
    rw [forRange_succ, ran, ok_bind, last]

/-- A `while` loop. A round tests the condition, which may read, and goes through
the body; no state comes next where the condition fails. The variant goes down,
so that every run ends. -/
structure WhileLoop (State : Type) where
  round : State → Checked (Option State)
  variant : State → Nat
  shrinks : round state = .ok (some next) → variant next < variant state

namespace WhileLoop

variable (loop : WhileLoop State)

/-- The state behind the loop. -/
def run (state : State) : Checked State :=
  match _taken : loop.round state with
  | .error fault => .error fault
  | .ok none => .ok state
  | .ok (some next) => run next
termination_by loop.variant state
decreasing_by exact loop.shrinks _taken

/-- States in which the loop tests its condition. -/
abbrev Reaches : State → State → Prop :=
  Relation.ReflTransGen fun state next => loop.round state = .ok (some next)

variable {loop}

theorem run_done (failed : loop.round state = .ok none) : loop.run state = .ok state := by
  rw [run]
  split
  · rename_i fault taken
    rw [failed] at taken
    cases taken
  · rfl
  · rename_i next taken
    rw [failed] at taken
    cases taken

theorem run_next (taken : loop.round state = .ok (some next)) : loop.run state = loop.run next := by
  rw [run]
  split
  · rename_i fault other
    rw [taken] at other
    cases other
  · rename_i other
    rw [taken] at other
    cases other
  · rename_i later other
    rw [taken] at other
    cases other
    rfl

/-- A loop each round of which either ends well or keeps an invariant ends well. -/
theorem run_rule {Inv Done : State → Prop}
    (round : ∀ state, Inv state → (loop.round state = .ok none ∧ Done state) ∨
      ∃ next, loop.round state = .ok (some next) ∧ Inv next)
    (begun : Inv state) : ∃ final, loop.run state = .ok final ∧ Done final := by
  induction distance : loop.variant state using Nat.strong_induction_on generalizing state with
  | _ distance ih =>
    rcases round state begun with ⟨failed, done⟩ | ⟨next, taken, kept⟩
    · exact ⟨state, run_done failed, done⟩
    · rw [run_next taken]
      exact ih _ (distance ▸ loop.shrinks taken) kept rfl

/-- And every state it comes to on the way keeps the invariant. -/
theorem reaches_rule {Inv Done : State → Prop}
    (round : ∀ state, Inv state → (loop.round state = .ok none ∧ Done state) ∨
      ∃ next, loop.round state = .ok (some next) ∧ Inv next)
    (begun : Inv state) (reached : loop.Reaches state now) : Inv now := by
  induction reached with
  | refl => exact begun
  | tail _ taken ih =>
    rcases round _ ih with ⟨failed, -⟩ | ⟨next, other, kept⟩
    · rw [failed] at taken
      cases taken
    · rw [other] at taken
      cases taken
      exact kept

end WhileLoop
end Checked

/-! ## Bytes written over others -/

/-- `data` in place of as many bytes from `offset` on. -/
def patch (bytes : Bytes) (offset : Nat) (data : Bytes) : Bytes :=
  bytes.take offset ++ data ++ bytes.drop (offset + data.length)

section patch

variable {bytes data : Bytes} {offset : Nat} (inside : offset + data.length ≤ bytes.length)
include inside

theorem patch_length : (patch bytes offset data).length = bytes.length := by
  simp only [patch, List.length_append, List.length_take, List.length_drop]
  omega

/-- In front of the data nothing changes. -/
theorem patch_take {count : Nat} (before : count ≤ offset) :
    (patch bytes offset data).take count = bytes.take count := by
  rw [patch, List.append_assoc, List.take_append_of_le_length, List.take_take,
    Nat.min_eq_left before]
  rw [List.length_take]
  omega

/-- Nor does anything behind them. -/
theorem patch_drop {count : Nat} (behind : offset + data.length ≤ count) :
    (patch bytes offset data).drop count = bytes.drop count := by
  have front : (bytes.take offset ++ data).length = offset + data.length := by
    rw [List.length_append, List.length_take]
    omega
  obtain ⟨more, rfl⟩ := Nat.exists_eq_add_of_le behind
  rw [patch, ← front, ← List.drop_drop, List.drop_left, List.drop_drop]

theorem patch_data : ((patch bytes offset data).drop offset).take data.length = data := by
  have front : (bytes.take offset).length = offset := by
    rw [List.length_take]
    omega
  conv => lhs; arg 2; arg 1; rw [← front]
  rw [patch, front, List.append_assoc, List.drop_left' front, List.take_left]

end patch

namespace Memory
open Checked

/-! ## Reading -/

/-- `memory[offset]`, read. -/
def load (memory : Memory) (offset : Nat) : Checked Byte :=
  match memory[offset]? with
  | some (some byte) => .ok byte
  | _ => .error .read

/-- `memcpy` of `count` cells from `offset`. -/
def read (memory : Memory) (offset : Nat) : Nat → Checked Bytes
  | 0 => .ok []
  | count + 1 => do
    let byte ← memory.load offset
    let rest ← read memory (offset + 1) count
    .ok (byte :: rest)

/-- The cells before `offset` hold these bytes. -/
def Holds (memory : Memory) (bytes : Bytes) : Prop := bytes.map some <+: memory

theorem load_ok {memory : Memory} {bytes : Bytes} (holds : memory.Holds bytes) {offset : Nat}
    {byte : Byte} (there : bytes[offset]? = some byte) : memory.load offset = .ok byte := by
  obtain ⟨rest, rfl⟩ := holds
  have inside : offset < (bytes.map some).length := by
    rw [List.length_map]
    exact (List.getElem?_eq_some_iff.mp there).1
  rw [load, List.getElem?_append_left inside, List.getElem?_map, there]
  rfl

/-- What is read is there. -/
theorem load_lt {memory : Memory} {offset : Nat} {byte : Byte}
    (loaded : memory.load offset = .ok byte) : offset < memory.length := by
  by_contra beyond
  rw [load, List.getElem?_eq_none (Nat.not_lt.mp beyond)] at loaded
  cases loaded

/-- A byte of a stretch of memory. -/
theorem load_between (before after : Memory) {bytes : Bytes} {i : Nat} {byte : Byte}
    (there : bytes[i]? = some byte) :
    load (before ++ bytes.map some ++ after) (before.length + i) = .ok byte := by
  have inside : i < (bytes.map some).length := by
    rw [List.length_map]
    exact (List.getElem?_eq_some_iff.mp there).1
  rw [load, List.append_assoc, List.getElem?_append_right (Nat.le_add_right _ i),
    Nat.add_sub_cancel_left, List.getElem?_append_left inside, List.getElem?_map, there]
  rfl

theorem read_ok {memory : Memory} {bytes : Bytes} (holds : memory.Holds bytes)
    {offset count : Nat} (inside : offset + count ≤ bytes.length) :
    memory.read offset count = .ok ((bytes.drop offset).take count) := by
  induction count generalizing offset with
  | zero => simp [read]
  | succ count ih =>
    have there : offset < bytes.length := by omega
    rw [read, load_ok holds (List.getElem?_eq_getElem there), ok_bind, ih (by omega), ok_bind,
      List.drop_eq_getElem_cons there, List.take_succ_cons]

/-- An array that has received these bytes, as many as fit. -/
def receive (size : Nat) (data : Bytes) : Memory :=
  (data.take size).map some ++ List.replicate (size - data.length) none

theorem receive_holds (size : Nat) (data : Bytes) : (receive size data).Holds (data.take size) :=
  List.prefix_append _ _

theorem receive_length (size : Nat) (data : Bytes) : (receive size data).length = size := by
  simp only [receive, List.length_append, List.length_map, List.length_take, List.length_replicate]
  omega

/-! ## Writing -/

/-- `memory[offset]`, written. -/
def store (memory : Memory) (offset : Nat) (byte : Byte) : Checked Memory :=
  if offset < memory.length then .ok (memory.set offset (some byte)) else .error .write

/-- `memcpy` to `offset`. -/
def write (memory : Memory) (offset : Nat) : Bytes → Checked Memory
  | [] => .ok memory
  | byte :: data => do
    let memory ← memory.store offset byte
    write memory (offset + 1) data

theorem store_ok {memory : Memory} {offset : Nat} (inside : offset < memory.length) (byte : Byte) :
    memory.store offset byte = .ok (memory.set offset (some byte)) := if_pos inside

theorem store_length {memory next : Memory} {offset : Nat} {byte : Byte}
    (stored : memory.store offset byte = .ok next) : next.length = memory.length := by
  unfold store at stored
  split at stored
  · cases stored
    exact List.length_set
  · cases stored

theorem write_length {memory next : Memory} {offset : Nat} {data : Bytes}
    (written : memory.write offset data = .ok next) : next.length = memory.length := by
  induction data generalizing memory offset with
  | nil =>
    cases written
    rfl
  | cons byte data ih =>
    obtain ⟨between, stored, rest⟩ := bind_eq_ok_iff.mp written
    exact (ih rest).trans (store_length stored)

/-- A byte of a stretch of memory, written. -/
theorem store_between (before after : Memory) {bytes : Bytes} {i : Nat} (inside : i < bytes.length)
    (byte : Byte) :
    store (before ++ bytes.map some ++ after) (before.length + i) byte =
      .ok (before ++ (bytes.set i byte).map some ++ after) := by
  have long : i < (bytes.map some).length := by rwa [List.length_map]
  rw [store_ok (by simp only [List.length_append]; omega), List.append_assoc,
    List.set_append_right _ _ (Nat.le_add_right _ i), Nat.add_sub_cancel_left,
    List.set_append_left _ _ long, List.map_set, List.append_assoc]

/-- Cells are overwritten where they are, and the others are left alone. -/
theorem write_append (before middle after : Memory) {data : Bytes}
    (same : middle.length = data.length) :
    write (before ++ middle ++ after) before.length data =
      .ok (before ++ data.map some ++ after) := by
  induction data generalizing before middle with
  | nil =>
    rw [List.length_nil, List.length_eq_zero_iff] at same
    subst same
    rfl
  | cons byte data ih =>
    obtain ⟨cell, middle, rfl⟩ := List.exists_cons_of_length_eq_add_one same
    have next := ih (before ++ [some byte]) middle (by simpa using same)
    have stored : store (before ++ cell :: middle ++ after) before.length byte =
        .ok (before ++ some byte :: middle ++ after) := by
      rw [store_ok (by simp)]
      simp
    rw [write, stored, ok_bind]
    simpa using next

theorem write_ok {memory : Memory} {offset : Nat} {data : Bytes}
    (fits : offset + data.length ≤ memory.length) :
    memory.write offset data =
      .ok (memory.take offset ++ data.map some ++ memory.drop (offset + data.length)) := by
  have parts : memory = memory.take offset ++ (memory.drop offset).take data.length ++
      memory.drop (offset + data.length) := by
    rw [List.append_assoc, ← List.drop_drop, List.take_append_drop, List.take_append_drop]
  have place : (memory.take offset).length = offset := by
    rw [List.length_take]
    omega
  have same : ((memory.drop offset).take data.length).length = data.length := by
    rw [List.length_take, List.length_drop]
    omega
  have written := write_append (memory.take offset) ((memory.drop offset).take data.length)
    (memory.drop (offset + data.length)) same
  rwa [← parts, place] at written

/-- Two writes, one right behind the other, are one. -/
theorem write_write (memory : Memory) (offset : Nat) (data more : Bytes) :
    memory.write offset (data ++ more) =
      memory.write offset data >>= fun next => next.write (offset + data.length) more := by
  induction data generalizing memory offset with
  | nil => rfl
  | cons byte data ih =>
    rw [List.cons_append, write, write]
    cases memory.store offset byte with
    | error fault => rfl
    | ok next =>
      have place : offset + (byte :: data).length = offset + 1 + data.length := by
        rw [List.length_cons]
        omega
      rw [ok_bind, ok_bind, ih, place]

/-- Bytes written over some of those held. -/
theorem Holds.overwrite {memory : Memory} {bytes data : Bytes} (holds : memory.Holds bytes)
    {offset : Nat} (inside : offset + data.length ≤ bytes.length) :
    ∃ next, memory.write offset data = .ok next ∧ next.length = memory.length ∧
      next.Holds (patch bytes offset data) := by
  obtain ⟨rest, rfl⟩ := holds
  have long : (bytes.map some).length = bytes.length := List.length_map some
  refine ⟨_, write_ok (by rw [List.length_append, long]; omega), ?_, rest, ?_⟩
  · simp only [List.length_append, List.length_take, List.length_map, List.length_drop]
    omega
  · rw [List.take_append_of_le_length (by omega), List.drop_append_of_le_length (by omega),
      ← List.map_take, ← List.map_drop, patch, List.map_append, List.map_append,
      List.append_assoc]

theorem Holds.take {memory : Memory} {bytes : Bytes} (holds : memory.Holds bytes) (count : Nat) :
    memory.Holds (bytes.take count) := by
  rw [Holds, List.map_take]
  exact (List.take_prefix count _).trans holds

/-- Bytes written right behind those held are held with them. -/
theorem Holds.write {memory : Memory} {bytes data : Bytes} (holds : memory.Holds bytes)
    (fits : bytes.length + data.length ≤ memory.length) :
    ∃ next, memory.write bytes.length data = .ok next ∧ next.length = memory.length ∧
      next.Holds (bytes ++ data) := by
  have front : memory.take bytes.length = bytes.map some := by
    have := List.prefix_iff_eq_take.mp holds
    rw [List.length_map] at this
    exact this.symm
  refine ⟨_, write_ok fits, ?_, ?_⟩
  · simp only [List.length_append, List.length_take, List.length_map, List.length_drop]
    omega
  · rw [Holds, front, List.map_append]
    exact List.prefix_append _ _

/-- So is one more byte. -/
theorem Holds.store {memory : Memory} {bytes : Bytes} (holds : memory.Holds bytes)
    (fits : bytes.length < memory.length) (byte : Byte) :
    ∃ next, memory.store bytes.length byte = .ok next ∧ next.length = memory.length ∧
      next.Holds (bytes ++ [byte]) := by
  obtain ⟨next, written, length, held⟩ := holds.write (show bytes.length + [byte].length ≤ _ from fits)
  rw [Memory.write, store_ok fits, ok_bind] at written
  exact ⟨next, (store_ok fits byte).trans written, length, held⟩

/-- What is held behind the first of the bytes. -/
theorem Holds.drop {memory : Memory} {bytes : Bytes} (holds : memory.Holds bytes) (count : Nat) :
    Holds (memory.drop count) (bytes.drop count) := by
  rw [Holds, List.map_drop]
  exact List.IsPrefix.drop holds count

/-! ## Texts -/

/-- The text in front of the first NUL, as `strlen` looks for it. -/
def string : Memory → Checked Bytes
  | some byte :: rest =>
    if byte = 0 then .ok []
    else do
      let text ← string rest
      .ok (byte :: text)
  | _ => .error .read

/-- A text and its NUL are in the array. -/
theorem string_length_lt {memory : Memory} {text : Bytes} (read : memory.string = .ok text) :
    text.length < memory.length := by
  induction memory generalizing text with
  | nil => cases read
  | cons cell rest ih =>
    cases cell with
    | none => cases read
    | some byte =>
      rw [Memory.string] at read
      split at read
      · cases read
        exact Nat.succ_pos _
      · obtain ⟨later, more, same⟩ := bind_eq_ok_iff.mp read
        cases same
        exact Nat.succ_lt_succ (ih more)

theorem Holds.string {memory : Memory} {text : Bytes} (free : NulFree text)
    (holds : memory.Holds (text ++ [0])) : memory.string = .ok text := by
  obtain ⟨rest, rfl⟩ := holds
  induction text with
  | nil => rfl
  | cons byte text ih =>
    obtain ⟨nonzero, later⟩ := not_or.mp (mt List.mem_cons.mpr free)
    rw [List.cons_append, List.map_cons, List.cons_append, Memory.string, if_neg (Ne.symm nonzero),
      ih later, ok_bind]

end Memory

/-- The cells of an array all of which have been written. -/
def CharArray.memory (array : CharArray size) : Memory := array.cells.map some

/-- The bytes of the text, and its terminator, are there. -/
theorem CharArray.memory_holds {array : CharArray size} (ended : array.Terminated) :
    array.memory.Holds (array.text ++ [0]) := by
  obtain ⟨rest, shape⟩ := cstr_split ended
  have behind : array.cells = array.text ++ [0] ++ rest := by
    rw [List.append_assoc]
    exact shape
  rw [Memory.Holds, CharArray.memory]
  conv => rhs; rw [behind, List.map_append]
  exact List.prefix_append _ _

theorem CharArray.memory_string {array : CharArray size} (ended : array.Terminated) :
    array.memory.string = .ok array.text :=
  (memory_holds ended).string array.nulFree_text

/-- `copyAt` where all of the data has to fall into the array. -/
def CharArray.put (array : CharArray size) (offset : Nat) (data : Bytes) :
    Checked (CharArray size) :=
  if offset + data.length ≤ size then .ok (array.copyAt offset data) else .error .write

theorem CharArray.put_ok (array : CharArray size) {offset : Nat} {data : Bytes}
    (fits : offset + data.length ≤ size) : array.put offset data = .ok (array.copyAt offset data) :=
  if_pos fits

end PicowDayClock
