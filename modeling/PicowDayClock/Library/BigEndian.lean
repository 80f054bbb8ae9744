import PicowDayClock.Library.CharArray

/-! Numbers as bytes, the most significant one first. -/
namespace PicowDayClock.BigEndian

/-- The number that the bytes spell. -/
def read (bytes : Bytes) : Nat := bytes.foldl (fun number byte => 256 * number + byte.toNat) 0

/-- The last `width` bytes of a number. -/
def write : Nat → Nat → Bytes
  | 0, _ => []
  | width + 1, number => write width (number / 256) ++ [UInt8.ofNat (number % 256)]

/-- An address of the Internet protocol, in the order of the network. -/
structure Ip4Addr where
  bytes : Bytes
  four : bytes.length = 4

theorem read_append (bytes : Bytes) (byte : Byte) :
    read (bytes ++ [byte]) = 256 * read bytes + byte.toNat := by
  rw [read, List.foldl_append]
  rfl

theorem read_lt (bytes : Bytes) : read bytes < 256 ^ bytes.length := by
  induction bytes using List.reverseRecOn with
  | nil => simp [read]
  | append_singleton bytes byte ih =>
    rw [read_append, List.length_append, List.length_singleton, Nat.pow_succ]
    have := byte.toNat_lt
    omega

/-- What was written is read again, as far as it fits. -/
theorem read_write (width number : Nat) : read (write width number) = number % 256 ^ width := by
  induction width generalizing number with
  | zero => simp [write, read, Nat.mod_one]
  | succ width ih =>
    have low : (UInt8.ofNat (number % 256)).toNat = number % 256 := by
      rw [UInt8.toNat_ofNat', Nat.mod_eq_of_lt]
      omega
    rw [write, read_append, ih, low, Nat.pow_succ, Nat.mul_comm (256 ^ width), Nat.mod_mul]
    omega

theorem read_write_of_lt {width number : Nat} (fits : number < 256 ^ width) :
    read (write width number) = number := by
  rw [read_write, Nat.mod_eq_of_lt fits]

end PicowDayClock.BigEndian
