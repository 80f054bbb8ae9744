import PicowDayClock.DhcpMessages

/-! Who has which address, and for how long. The table keeps only the upper half
of a tick count that wraps; filled up, it never lies behind the end of the
lease, nor so far after it that the comparison would turn over. -/
namespace PicowDayClock.DhcpLeases
open BigEndian (Ip4Addr)
open Dhcp DhcpOptions DhcpMessages

/-- The time of a lease. -/
def leaseTimeMs : Nat := defaultLeaseTimeS * 1000

/-- An address acknowledged to a client. -/
structure Acknowledgement where
  timeMs : Nat
  mac : Bytes
  address : Bytes
  deriving DecidableEq

/-- The acknowledgements sent for messages that arrive one after the other, each
with its time, of which the tick counter shows the lower 32 bits. -/
def acknowledgements (d : DhcpServer) : List (Nat × Bytes) → List Acknowledgement
  | [] => []
  | (timeMs, p) :: later =>
    match dhcpServerProcess d (timeMs % 2 ^ 32) p with
    | .error _ => []
    | .ok (next, answer) =>
      ((answer.bind acknowledged).toList.map fun (mac, address) =>
        { timeMs := timeMs, mac := mac, address := address }) ++ acknowledgements next later

/-! ## The comparison -/

/-- Rounded up to the upper half, the end of a lease is ahead of the counter by
no more than the time of the lease and one turn of the lower half. -/
theorem rounded_ahead {renewed now lease : Nat} (short : lease < 2 ^ 27) (since : renewed ≤ now)
    (within : now < renewed + lease) :
    (((renewed % 2 ^ 32 + lease) % 2 ^ 32 / 2 ^ 16 * 2 ^ 16 + 0xFFFF + 2 ^ 32 -
      now % 2 ^ 32) % 2 ^ 32) < 2 ^ 31 := by
  have turns := Nat.mod_add_div renewed (2 ^ 32)
  omega

/-- Within its time a lease is not found expired. -/
theorem not_expired {renewed now : Nat} (since : renewed ≤ now)
    (within : now < renewed + leaseTimeMs) :
    expired (newExpiry (renewed % 2 ^ 32)) (now % 2 ^ 32) = false := by
  have ahead := rounded_ahead (show leaseTimeMs < 2 ^ 27 by decide) since within
  exact decide_eq_false (Nat.not_le.mpr ahead)

/-! ## One message -/

/-- A lease that a client has had since a time: it was last renewed then or
later. -/
def Held (since now : Nat) (mac : Bytes) (lease : DhcpServerLease) : Prop :=
  lease.mac = mac ∧
    ∃ renewed, since ≤ renewed ∧ renewed ≤ now ∧ lease.expiry = newExpiry (renewed % 2 ^ 32)

/-- A lease that is given now. -/
theorem held_from_now (d : DhcpServer) {yi : Nat} (inside : yi < dhcpsMaxIp) (mac : Bytes)
    (now : Nat) :
    Held now now mac ((d.withLease yi
      { mac := mac, expiry := newExpiry (now % 2 ^ 32) }).lease ⟨yi, inside⟩) := by
  have lease := d.withLease_same (show (⟨yi, inside⟩ : Fin dhcpsMaxIp).val = yi from rfl)
    { mac := mac, expiry := newExpiry (now % 2 ^ 32) }
  rw [lease]
  exact ⟨rfl, now, Nat.le_refl now, Nat.le_refl now, rfl⟩

/-- The addresses of two leases differ. -/
theorem addressOf_inj {ip : Ip4Addr} {yi other : Nat} (inside : yi < dhcpsMaxIp)
    (otherInside : other < dhcpsMaxIp) (same : addressOf ip yi = addressOf ip other) :
    yi = other := by
  have hosts := List.append_cancel_left same
  have bytes := congrArg UInt8.toNat (List.cons.inj hosts).1
  rw [UInt8.toNat_ofNat', UInt8.toNat_ofNat'] at bytes
  simp only [dhcpsMaxIp, dhcpsBaseIp] at *
  omega

/-- Within its time a lease stays with its client, and its address is
acknowledged to no other. -/
theorem handled_keeps {d next : DhcpServer} {answer : Option Bytes} {since before now : Nat}
    {mac : Bytes} {slot : Fin dhcpsMaxIp} (handled : Handled d (now % 2 ^ 32) next answer)
    (held : Held since before mac (d.lease slot)) (real : mac ≠ noMac) (forward : before ≤ now)
    (within : now < since + leaseTimeMs) :
    Held since now mac (next.lease slot) ∧ next.ip = d.ip ∧
      ∀ client address, answer.bind acknowledged = some (client, address) →
        address = addressOf d.ip slot → client = mac := by
  obtain ⟨owner, renewed, after, until_, expiry⟩ := held
  cases handled with
  | other cleared quiet =>
    refine ⟨?_, cleared.ip, fun client address acks => ?_⟩
    · rcases cleared.lease slot with same | ⟨old, -⟩
      · rw [same]
        exact ⟨owner, renewed, after, Nat.le_trans until_ forward, expiry⟩
      · have valid := not_expired (Nat.le_trans until_ forward)
          (Nat.lt_of_lt_of_le within (Nat.add_le_add_right after _))
        rw [expiry, valid] at old
        cases old
    · rw [quiet] at acks
      cases acks
  | @given yi chaddr reply inside free acks =>
    by_cases here : slot.val = yi
    · subst here
      have client : chaddr = mac := by
        rcases free with same | empty
        · exact same.symm.trans owner
        · exact absurd (owner.symm.trans empty) real
      refine ⟨?_, rfl, fun other address again _ => ?_⟩
      · rw [d.withLease_same rfl]
        exact ⟨client, now, Nat.le_trans after (Nat.le_trans until_ forward), Nat.le_refl now, rfl⟩
      · rw [Option.bind_some, acks] at again
        cases again
        exact client
    · refine ⟨?_, rfl, fun other address again same => ?_⟩
      · rw [d.withLease_other here]
        exact ⟨owner, renewed, after, Nat.le_trans until_ forward, expiry⟩
      · rw [Option.bind_some, acks] at again
        cases again
        exact absurd (addressOf_inj slot.isLt inside same.symm) here

/-! ## Any number of messages -/

/-- One message more. -/
theorem acknowledgements_of {d next : DhcpServer} {timeMs : Nat} {p : Bytes}
    {answer : Option Bytes}
    (ran : dhcpServerProcess d (timeMs % 2 ^ 32) p = .ok (next, answer))
    (later : List (Nat × Bytes)) :
    acknowledgements d ((timeMs, p) :: later) =
      ((answer.bind acknowledged).toList.map fun (mac, address) =>
        { timeMs := timeMs, mac := mac, address := address }) ++ acknowledgements next later := by
  rw [acknowledgements, ran]

/-- And what it leaves for those that follow. -/
theorem acknowledgements_cons (d : DhcpServer) (timeMs : Nat) (p : Bytes)
    (later : List (Nat × Bytes)) :
    ∃ next answer, Handled d (timeMs % 2 ^ 32) next answer ∧
      acknowledgements d ((timeMs, p) :: later) =
        ((answer.bind acknowledged).toList.map fun (mac, address) =>
          { timeMs := timeMs, mac := mac, address := address }) ++
            acknowledgements next later := by
  obtain ⟨next, answer, ran, handled, -⟩ := dhcpServerProcess_handles d (timeMs % 2 ^ 32) p
  exact ⟨next, answer, handled, acknowledgements_of ran later⟩

/-- An acknowledgement has the time of a message. -/
theorem acknowledgement_time {d : DhcpServer} {events : List (Nat × Bytes)}
    {ack : Acknowledgement} (sent : ack ∈ acknowledgements d events) :
    ∃ event ∈ events, event.1 = ack.timeMs := by
  induction events generalizing d with
  | nil => cases sent
  | cons event later ih =>
    obtain ⟨next, answer, -, shape⟩ := acknowledgements_cons d event.1 event.2 later
    rw [shape] at sent
    rcases List.mem_append.mp sent with now | after
    · obtain ⟨_, -, rfl⟩ := List.mem_map.mp now
      exact ⟨event, List.mem_cons_self, rfl⟩
    · obtain ⟨other, member, same⟩ := ih after
      exact ⟨other, List.mem_cons_of_mem event member, same⟩

/-- Messages in the order of their times. -/
def Ordered (events : List (Nat × Bytes)) : Prop :=
  events.Pairwise fun first second => first.1 ≤ second.1

/-- Within the time of a held lease, its address is acknowledged to its client
only. -/
theorem held_address_is_exclusive {d : DhcpServer} {events : List (Nat × Bytes)}
    {since before : Nat} {mac : Bytes} {slot : Fin dhcpsMaxIp}
    (held : Held since before mac (d.lease slot)) (real : mac ≠ noMac) (ordered : Ordered events)
    (forward : ∀ event ∈ events, before ≤ event.1) :
    ∀ ack ∈ acknowledgements d events, ack.timeMs < since + leaseTimeMs →
      ack.address = addressOf d.ip slot → ack.mac = mac := by
  induction events generalizing d before with
  | nil =>
    intro ack sent
    cases sent
  | cons event later ih =>
    obtain ⟨first, rest⟩ := List.pairwise_cons.mp ordered
    intro ack sent within same
    -- the first message is no later than the one acknowledged
    have inTime : event.1 < since + leaseTimeMs := by
      obtain ⟨other, member, time⟩ := acknowledgement_time sent
      rcases List.mem_cons.mp member with rfl | after
      · omega
      · have := first other after
        omega
    obtain ⟨next, answer, handled, shape⟩ := acknowledgements_cons d event.1 event.2 later
    obtain ⟨heldNext, ip, only⟩ := handled_keeps handled held real
      (forward event List.mem_cons_self) inTime
    rw [shape] at sent
    rcases List.mem_append.mp sent with now | after
    · obtain ⟨⟨client, address⟩, acks, rfl⟩ := List.mem_map.mp now
      exact only client address (Option.mem_toList.mp acks) same
    · rw [← ip] at same
      exact ih heldNext rest first ack after within same

/-- Two acknowledgements of one address within the time of a lease are for one
client. -/
def Exclusive (first second : Acknowledgement) : Prop :=
  first.mac ≠ noMac → second.mac ≠ noMac → first.address = second.address →
    first.timeMs < second.timeMs + leaseTimeMs → second.timeMs < first.timeMs + leaseTimeMs →
      first.mac = second.mac

instance : Std.Symm Exclusive where
  symm _ _ exclusive real otherReal same within otherWithin :=
    (exclusive otherReal real same.symm otherWithin within).symm

theorem acknowledgements_exclusive {events : List (Nat × Bytes)} (ordered : Ordered events)
    (d : DhcpServer) : (acknowledgements d events).Pairwise Exclusive := by
  induction events generalizing d with
  | nil => exact .nil
  | cons event later ih =>
    obtain ⟨first, rest⟩ := List.pairwise_cons.mp ordered
    obtain ⟨next, answer, handled, shape⟩ := acknowledgements_cons d event.1 event.2 later
    rw [shape, List.pairwise_append]
    refine ⟨?_, ih rest next, ?_⟩
    · cases answer.bind acknowledged with
      | none => exact .nil
      | some ack => exact List.pairwise_singleton _ _
    · intro ack now other after real _ same _ within
      obtain ⟨⟨client, address⟩, acks, rfl⟩ := List.mem_map.mp now
      rw [Option.mem_toList] at acks
      cases handled with
      | other cleared quiet =>
        rw [quiet] at acks
        cases acks
      | given inside free given =>
        rw [Option.bind_some, given] at acks
        cases acks
        have held := held_from_now d inside client event.1
        exact (held_address_is_exclusive held real rest first other after within same.symm).symm

/-- Whatever messages arrive in whatever order, once an address has been
acknowledged to a client with a hardware address, no other such client is
acknowledged it for the time of the lease. -/
theorem leases_are_exclusive {events : List (Nat × Bytes)} (ordered : Ordered events)
    (d : DhcpServer) :
    ∀ first ∈ acknowledgements d events, ∀ second ∈ acknowledgements d events,
      first.mac ≠ noMac → second.mac ≠ noMac → first.address = second.address →
        first.timeMs ≤ second.timeMs → second.timeMs < first.timeMs + leaseTimeMs →
          first.mac = second.mac := by
  intro first sent second otherSent real otherReal same order within
  have exclusive : Exclusive first second :=
    (acknowledgements_exclusive ordered d).forall_of_forall (fun _ _ _ _ _ _ _ => rfl)
      sent otherSent
  have ahead : first.timeMs < second.timeMs + leaseTimeMs :=
    Nat.lt_of_le_of_lt order (Nat.lt_add_of_pos_right (by decide))
  exact exclusive real otherReal same ahead within

/-- A server as `dhcp_server_init` leaves it, and a request for its first
address from a client with six equal bytes. -/
def freshServer : DhcpServer where
  ip := ⟨[192, 168, 4, 1], rfl⟩
  nm := ⟨[255, 255, 255, 0], rfl⟩
  lease _ := { mac := noMac, expiry := 0 }

def requestFrom (byte : Byte) : Bytes :=
  List.replicate chaddrOffset 0 ++ List.replicate macLen byte ++ List.replicate 206 0 ++
    [dhcpOptMsgType, 1, dhcpRequest, dhcpOptRequestedIp, 4, 192, 168, 4, 16, dhcpOptEnd]

theorem requestFrom_eq (byte : Byte) :
    requestFrom byte = requestOf byte (UInt8.ofNat (dhcpsBaseIp + 0)) := by
  simp only [requestFrom, requestOf, sixOf, requestOptions, List.append_assoc]
  rfl

theorem second_client_ignored :
    (acknowledgements freshServer
      [(1000, requestFrom 7), (2000, requestFrom 9), (5000, requestFrom 7)]).map (·.timeMs) =
        [1000, 5000] := by
  have first : 0 < dhcpsMaxIp := by decide
  have requests : ∀ byte, Requests freshServer.ip (requestFrom byte) ⟨0, first⟩ := by
    intro byte
    rw [requestFrom_eq]
    exact requestOf_requests rfl byte ⟨0, first⟩
  have client : ∀ byte, clientOf (requestFrom byte) = sixOf byte := by
    intro byte
    rw [requestFrom_eq, requestOf_client]
  obtain ⟨reply, ran, acks⟩ := request_is_served (1000 % 2 ^ 32) (requests 7) (.inr rfl)
  generalize taken : freshServer.withLease _ _ = between at ran
  have owner : (between.lease ⟨0, first⟩).mac = sixOf 7 := by
    rw [← taken, freshServer.withLease_same rfl]
    exact client 7
  have ip : between.ip = freshServer.ip := by
    rw [← taken]
    rfl
  obtain ⟨next, answer, ranNext, served⟩ :=
    dhcpServerProcess_serves between (2000 % 2 ^ 32) (requestFrom 9)
  cases served with
  | given asked free _ =>
    cases asked.slot_eq (ip ▸ requests 9)
    rw [owner, client 9] at free
    exact absurd free (by decide)
  | other _ cleared quiet =>
    have still : (next.lease ⟨0, first⟩).mac = sixOf 7 ∨
        (next.lease ⟨0, first⟩).mac = noMac := by
      rcases cleared.lease ⟨0, first⟩ with same | ⟨-, freed⟩
      · exact .inl (same ▸ owner)
      · exact .inr (freed ▸ rfl)
    rw [← client 7] at still
    obtain ⟨again, ranAgain, acksAgain⟩ := request_is_served (5000 % 2 ^ 32)
      ((cleared.ip.trans ip) ▸ requests 7) still
    rw [acknowledgements_of ran, acknowledgements_of ranNext, acknowledgements_of ranAgain,
      Option.bind_some, acks, quiet, Option.bind_some, acksAgain]
    rfl

/-- A second client asks in vain while the first one has the address. -/
theorem second_client_waits :
    let events := [(1000, requestFrom 7), (2000, requestFrom 9), (5000, requestFrom 7)]
    (acknowledgements freshServer events).map (·.timeMs) = [1000, 5000] ∧
      ∀ first ∈ acknowledgements freshServer events,
        ∀ second ∈ acknowledgements freshServer events,
          first.mac ≠ noMac → second.mac ≠ noMac → first.address = second.address →
            first.timeMs ≤ second.timeMs → second.timeMs < first.timeMs + leaseTimeMs →
              first.mac = second.mac := by
  refine ⟨second_client_ignored, leases_are_exclusive ?_ freshServer⟩
  simp [Ordered]

end PicowDayClock.DhcpLeases
