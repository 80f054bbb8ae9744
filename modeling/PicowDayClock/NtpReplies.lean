import PicowDayClock.Firmware.Ntp
import PicowDayClock.Library.BigEndian

/-! Which datagrams `ntp_recv_callback` accepts and the time it reads from them,
against the layout of an NTP header. -/
namespace PicowDayClock.NtpReplies
open Ntp

/-! ## The header -/

/-- A byte of the datagram as a number; past the end it is 0. -/
def byteAt (payload : Bytes) (offset : Nat) : Nat := (payload.getD offset 0).toNat

/-- The lowest three bits of the first byte. -/
def modeOf (payload : Bytes) : Nat := byteAt payload 0 % 8

/-- The highest two bits of the first byte. -/
def leapOf (payload : Bytes) : Nat := byteAt payload 0 / 64

def stratumOf (payload : Bytes) : Nat := byteAt payload 1

/-- The seconds of the transmit timestamp: the big-endian word at offset 40. -/
def transmitSeconds (payload : Bytes) : Nat := BigEndian.read ((payload.drop 40).take 4)

/-- The datagram is an answer of the server that was asked. -/
structure FromServer (state : NtpState) (datagram : Datagram) : Prop where
  address : datagram.addr = state.ntpServerAddress
  port : datagram.port = state.ntpPort
  length : datagram.payload.length = 48
  mode : modeOf datagram.payload = 4

/-- An answer with a time in it. -/
structure Accepted (state : NtpState) (datagram : Datagram) : Prop
    extends FromServer state datagram where
  stratum : stratumOf datagram.payload ≠ 0
  leap : leapOf datagram.payload ≠ 3

/-- A kiss of death. -/
structure KissOfDeath (state : NtpState) (datagram : Datagram) : Prop
    extends FromServer state datagram where
  stratum : stratumOf datagram.payload = 0

/-- The Unix time that belongs to a timestamp: the only one from 1970 to 2106
that is, in seconds since 1900 and in 32 bits, the word in the datagram. -/
def IsTimeOf (time : Int) (seconds : Nat) : Prop :=
  (0 ≤ time ∧ time < 2 ^ 32 ∧ (time + 2208988800) % 2 ^ 32 = seconds) ∧
    ∀ other : Int, 0 ≤ other → other < 2 ^ 32 → (other + 2208988800) % 2 ^ 32 = seconds →
      other = time

/-! ## Bits -/

theorem mode_eq (byte : Byte) : byte &&& 0x07 = 0x4 ↔ byte.toNat % 8 = 4 := by
  have value : (byte &&& 0x07).toNat = byte.toNat % 8 := by
    rw [UInt8.toNat_and]
    exact Nat.and_two_pow_sub_one_eq_mod byte.toNat 3
  rw [← UInt8.toNat_inj, value]
  rfl

theorem leap_eq (byte : Byte) : (byte >>> 6) &&& 0x03 = 3 ↔ byte.toNat / 64 = 3 := by
  have value : ((byte >>> 6) &&& 0x03).toNat = byte.toNat / 64 % 4 := by
    rw [UInt8.toNat_and, UInt8.toNat_shiftRight]
    change byte.toNat >>> 6 &&& 2 ^ 2 - 1 = _
    rw [Nat.and_two_pow_sub_one_eq_mod, Nat.shiftRight_eq_div_pow]
  have below := byte.toNat_lt
  rw [← UInt8.toNat_inj, value]
  change byte.toNat / 64 % 4 = 3 ↔ _
  omega

theorem stratum_eq (payload : Bytes) : pbufGetAt payload 1 = 0 ↔ stratumOf payload = 0 := by
  rw [stratumOf, byteAt, ← UInt8.toNat_inj]
  rfl

/-! ## The timestamp -/

/-- In a whole message the four bytes are the word. -/
theorem secondsSince1900_eq {payload : Bytes} (whole : payload.length = 48) :
    secondsSince1900 payload = transmitSeconds payload := by
  have four : (payload.drop 40).take 4 =
      [payload.getD 40 0, payload.getD 41 0, payload.getD 42 0, payload.getD 43 0] := by
    apply List.ext_getElem
    · simp [whole]
    · intro index first second
      simp only [List.length_cons, List.length_nil] at second
      interval_cases index <;> simp [whole]
  rw [transmitSeconds, four]
  simp only [secondsSince1900, pbufGetAt, BigEndian.read, List.foldl_cons, List.foldl_nil]
  omega

theorem transmitSeconds_lt (payload : Bytes) : transmitSeconds payload < 2 ^ 32 := by
  have bound := BigEndian.read_lt ((payload.drop 40).take 4)
  have short : ((payload.drop 40).take 4).length ≤ 4 := List.length_take_le 4 _
  calc transmitSeconds payload < 256 ^ ((payload.drop 40).take 4).length := bound
    _ ≤ 256 ^ 4 := Nat.pow_le_pow_right (by omega) short
    _ = 2 ^ 32 := by norm_num

/-- Both eras give the time of the word. -/
theorem secondsSince1970_isTimeOf {seconds : Nat} (word : seconds < 2 ^ 32) :
    IsTimeOf (secondsSince1970 seconds) seconds := by
  have range : 0 ≤ secondsSince1970 seconds ∧ secondsSince1970 seconds < 2 ^ 32 ∧
      (secondsSince1970 seconds + 2208988800) % 2 ^ 32 = seconds := by
    unfold secondsSince1970 ntpDelta
    split <;> omega
  refine ⟨range, fun other low high same => ?_⟩
  obtain ⟨lowTime, highTime, word⟩ := range
  omega

/-- A time from 1970 to 2106 comes back from its timestamp. -/
theorem secondsSince1970_of_timestamp {payload : Bytes} {time : Nat} (small : time < 2 ^ 32)
    (spelt : (payload.drop 40).take 4 = BigEndian.write 4 ((time + 2208988800) % 2 ^ 32)) :
    secondsSince1970 (transmitSeconds payload) = time := by
  have seconds : transmitSeconds payload = (time + 2208988800) % 2 ^ 32 := by
    rw [transmitSeconds, spelt]
    exact BigEndian.read_write_of_lt (Nat.mod_lt _ (by norm_num))
  obtain ⟨-, unique⟩ := secondsSince1970_isTimeOf (transmitSeconds_lt payload)
  refine (unique time (Int.natCast_nonneg time) (by exact_mod_cast small) ?_).symm
  rw [seconds]
  push_cast
  rfl

/-! ## The callback -/

/-- The outcome of a datagram by what it is. -/
theorem ntpOutcome_cases (state : NtpState) (datagram : Datagram) :
    (Accepted state datagram ∧ ntpOutcome state datagram =
      ⟨.success, .ok, some (secondsSince1970 (transmitSeconds datagram.payload))⟩) ∨
    (KissOfDeath state datagram ∧ ntpOutcome state datagram = ⟨.kod, .ok, none⟩) ∨
    (¬ Accepted state datagram ∧ ¬ KissOfDeath state datagram ∧ ntpOutcome state datagram =
      ⟨.failed, if datagram.addr = state.ntpServerAddress then .protocolError else .dnsError,
        none⟩) := by
  have mode := mode_eq (pbufGetAt datagram.payload 0)
  have leap := leap_eq (pbufGetAt datagram.payload 0)
  have stratum := stratum_eq datagram.payload
  simp only [ntpOutcome]
  by_cases address : datagram.addr = state.ntpServerAddress
  · rw [if_neg (not_not.mpr address), if_pos address]
    by_cases valid : datagram.port = state.ntpPort ∧ datagram.payload.length = ntpMsgLen ∧
        pbufGetAt datagram.payload 0 &&& 0x07 = 0x4
    · have server : FromServer state datagram :=
        ⟨address, valid.1, valid.2.1, mode.mp valid.2.2⟩
      rw [if_neg (not_not.mpr valid)]
      by_cases kiss : pbufGetAt datagram.payload 1 = 0
      · rw [if_pos kiss]
        exact .inr (.inl ⟨⟨server, stratum.mp kiss⟩, rfl⟩)
      · rw [if_neg kiss]
        by_cases unsynchronised : (pbufGetAt datagram.payload 0 >>> 6) &&& 0x03 = 3
        · rw [if_pos unsynchronised]
          refine .inr (.inr ⟨fun accepted => ?_, fun death => ?_, rfl⟩)
          · exact accepted.leap (leap.mp unsynchronised)
          · exact kiss (stratum.mpr death.stratum)
        · rw [if_neg unsynchronised, secondsSince1900_eq server.length]
          refine .inl ⟨⟨server, fun zero => kiss (stratum.mpr zero), fun all => ?_⟩, rfl⟩
          exact unsynchronised (leap.mpr all)
    · rw [if_pos valid]
      have foreign : ¬ FromServer state datagram := fun server =>
        valid ⟨server.port, server.length, mode.mpr server.mode⟩
      exact .inr (.inr ⟨fun accepted => foreign accepted.toFromServer,
        fun death => foreign death.toFromServer, rfl⟩)
  · rw [if_pos address, if_neg address]
    exact .inr (.inr ⟨fun accepted => address accepted.address,
      fun death => address death.address, rfl⟩)

/-- No datagram is both. -/
theorem Accepted.not_kissOfDeath (accepted : Accepted state datagram) :
    ¬ KissOfDeath state datagram :=
  fun death => accepted.stratum death.stratum

/-- For every datagram and every state of the client: the time handler is called
exactly for an answer of the server that was asked, of 48 bytes, mode 4, a
stratum other than 0 and a leap indicator other than 3. The time it gets is the
one Unix time from 1970 to 2106 that the timestamp stands for, so that any such
time comes back from its timestamp. Such an answer is a success, one of stratum
0 a kiss of death, and everything else a failure. -/
theorem replies_are_decoded (state : NtpState) (datagram : Datagram) :
    let answer := ntpRecvCallback state datagram
    (answer.2 ≠ none ↔ Accepted state datagram) ∧
    (∀ time ∈ answer.2, IsTimeOf time (transmitSeconds datagram.payload)) ∧
    (Accepted state datagram → ∀ time : Nat, time < 2 ^ 32 →
      (datagram.payload.drop 40).take 4 =
        BigEndian.write 4 ((time + 2208988800) % 2 ^ 32) → answer.2 = some (time : Int)) ∧
    (Accepted state datagram → answer.1.status = .success ∧ answer.1.error = .ok) ∧
    (answer.1.status = .kod ↔ KissOfDeath state datagram) ∧
    (KissOfDeath state datagram → answer.1.error = .ok) ∧
    (¬ Accepted state datagram → ¬ KissOfDeath state datagram →
      answer.1.status = .failed ∧
        answer.1.error =
          if datagram.addr = state.ntpServerAddress then .protocolError else .dnsError) := by
  obtain ⟨status, error⟩ := ntpRecvCallback_stores state datagram
  have timed := secondsSince1970_isTimeOf (transmitSeconds_lt datagram.payload)
  dsimp only
  rw [status, error, show (ntpRecvCallback state datagram).2 =
    (ntpOutcome state datagram).time from rfl]
  rcases ntpOutcome_cases state datagram with
    ⟨accepted, outcome⟩ | ⟨death, outcome⟩ | ⟨refused, alive, outcome⟩
  · rw [outcome]
    have alive := accepted.not_kissOfDeath
    refine ⟨by simpa using accepted, ?_, fun _ time small spelt => ?_, fun _ => ⟨rfl, rfl⟩,
      by simpa using alive, fun death => absurd death alive, fun refused => absurd accepted refused⟩
    · intro time delivered
      cases delivered
      exact timed
    · exact congrArg some (secondsSince1970_of_timestamp small spelt)
  · rw [outcome]
    have refused : ¬ Accepted state datagram := fun accepted => accepted.not_kissOfDeath death
    exact ⟨by simpa using refused, nofun, fun accepted => absurd accepted refused,
      fun accepted => absurd accepted refused, by simpa using death, fun _ => rfl,
      fun _ alive => absurd death alive⟩
  · rw [outcome]
    exact ⟨by simpa using refused, nofun, fun accepted => absurd accepted refused,
      fun accepted => absurd accepted refused, by simpa using alive,
      fun death => absurd death alive, fun _ _ => ⟨rfl, rfl⟩⟩

end PicowDayClock.NtpReplies
