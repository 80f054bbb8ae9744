import PicowDayClock.DhcpOptions

/-! What a datagram asks of the address server, by the options it holds, and what
it gets: a lease is given exactly to the request for it, and acknowledged. -/
namespace PicowDayClock.DhcpMessages
open BigEndian (Ip4Addr)
open Checked Dhcp DhcpOptions

/-- The datagram is a `DHCPREQUEST` for the address of this lease. -/
def Requests (ip : Ip4Addr) (p : Bytes) (slot : Fin dhcpsMaxIp) : Prop :=
  MessageType p dhcpRequest ∧ Asks ip (optionsOf p) slot

/-- A datagram requests one lease at most. -/
theorem Requests.slot_eq {ip : Ip4Addr} {p : Bytes} {slot other : Fin dhcpsMaxIp}
    (requests : Requests ip p slot) (also : Requests ip p other) : slot = other := by
  obtain ⟨index, -, asked⟩ := requestedIndex_asks (List.prefix_refl ((optionsOf p).map some))
    { ip := ip, nm := ip, lease := fun _ => { mac := noMac, expiry := 0 } } 0
  have first := (asked slot).mpr requests.2
  have second := (asked other).mpr also.2
  exact Fin.ext (Option.some.inj (first.symm.trans second))

/-- What the server does with a datagram: it gives the lease that is requested,
if the client has it or it is free, and acknowledges that; else it only clears
what has expired, and acknowledges nothing. -/
inductive Served (d : DhcpServer) (ticks : Nat) (p : Bytes) : DhcpServer → Option Bytes → Prop
  | given (requests : Requests d.ip p slot)
      (free : (d.lease slot).mac = clientOf p ∨ (d.lease slot).mac = noMac)
      (acks : acknowledged reply = some (clientOf p, addressOf d.ip slot)) :
      Served d ticks p (d.withLease slot { mac := clientOf p, expiry := newExpiry ticks })
        (some reply)
  | other (refused : ∀ slot, Requests d.ip p slot →
        (d.lease slot).mac ≠ clientOf p ∧ (d.lease slot).mac ≠ noMac)
      (cleared : OnlyCleared ticks d next) (quiet : answer.bind acknowledged = none) :
      Served d ticks p next answer

theorem dhcpServerProcess_serves (d : DhcpServer) (ticks : Nat) (p : Bytes) :
    ∃ next answer, dhcpServerProcess d ticks p = .ok (next, answer) ∧
      Served d ticks p next answer := by
  rcases dhcpServerProcess_reads d ticks p with
    ⟨ignored, untyped⟩ | ⟨msgType, msg, only, holds, long, ran⟩
  · refine ⟨d, none, ignored, .other (fun slot requests => ?_) (.refl ticks d) rfl⟩
    exact absurd requests.1 (untyped dhcpRequest)
  · have header : optionsOffset ≤ (messageBytes d p).length :=
      Nat.le_of_add_right_le (messageBytes_room d long)
    by_cases request : msgType = dhcpRequest
    · subst request
      have what := switchMsgType_request holds header d ticks (optionsOffset + 4)
      rw [messageBytes_client d long, messageBytes_options d long] at what
      rcases what with ⟨yi, inside, asks, free, switched⟩ | ⟨refused, switched⟩
      · rw [switched, ok_bind] at ran
        have requests : Requests d.ip p ⟨yi, inside⟩ := ⟨(only _).mpr rfl, asks⟩
        exact ⟨_, _, ran, .given requests free (reply_acknowledges rfl long yi)⟩
      · rw [switched, ok_bind] at ran
        refine ⟨d, _, ran, .other (fun slot requests => ?_) (.refl ticks d) rfl⟩
        exact refused slot slot.isLt requests.2
    · have none_ : ∀ slot, ¬ Requests d.ip p slot :=
        fun slot requests => request ((only _).mp requests.1).symm
      have unasked : ∀ slot, Requests d.ip p slot →
          (d.lease slot).mac ≠ clientOf p ∧ (d.lease slot).mac ≠ noMac :=
        fun slot requests => absurd requests (none_ slot)
      by_cases discover : msgType = dhcpDiscover
      · subst discover
        obtain ⟨next, yi, -, -, cleared, switched⟩ :=
          switchMsgType_discover holds header d ticks (optionsOffset + 4)
        rw [messageBytes_options d long] at switched
        rw [switched, ok_bind] at ran
        refine ⟨next, _, ran, .other unasked cleared ?_⟩
        dsimp only
        split
        · rfl
        · exact reply_offers next d long yi
      · rw [switchMsgType, if_neg discover, if_neg request, ok_bind] at ran
        exact ⟨d, _, ran, .other unasked (.refl ticks d) rfl⟩

/-- A lease that is the client's or free is given to the request for it, whatever
leases the client has besides. -/
theorem request_is_served {d : DhcpServer} (ticks : Nat) {p : Bytes} {slot : Fin dhcpsMaxIp}
    (requests : Requests d.ip p slot)
    (free : (d.lease slot).mac = clientOf p ∨ (d.lease slot).mac = noMac) :
    ∃ reply, dhcpServerProcess d ticks p =
        .ok (d.withLease slot { mac := clientOf p, expiry := newExpiry ticks }, some reply) ∧
      acknowledged reply = some (clientOf p, addressOf d.ip slot) := by
  obtain ⟨next, answer, ran, served⟩ := dhcpServerProcess_serves d ticks p
  cases served with
  | given asked _ acks =>
    cases asked.slot_eq requests
    exact ⟨_, ran, acks⟩
  | other refused _ _ =>
    obtain ⟨taken, real⟩ := refused slot requests
    exact absurd free (not_or.mpr ⟨taken, real⟩)

/-! ## A request as bytes -/

/-- A hardware address of six equal bytes. -/
def sixOf (byte : Byte) : Bytes := List.replicate macLen byte

/-- The options of a `DHCPREQUEST` for an address of the server `192.168.4.1`, and
the whole message. -/
def requestOptions (host : Byte) : Bytes :=
  [dhcpOptMsgType, 1, dhcpRequest, dhcpOptRequestedIp, 4, 192, 168, 4, host, dhcpOptEnd]

def requestOf (byte host : Byte) : Bytes :=
  List.replicate chaddrOffset 0 ++ (sixOf byte ++ (List.replicate 206 0 ++ requestOptions host))

theorem requestOf_length (byte host : Byte) : (requestOf byte host).length = 250 := by
  simp only [requestOf, sixOf, List.length_append, List.length_replicate]
  rfl

theorem requestOf_received (byte host : Byte) :
    (requestOf byte host).take dhcpMsgSize = requestOf byte host := by
  apply List.take_of_length_le
  rw [requestOf_length]
  decide

theorem requestOf_options (byte host : Byte) :
    optionsOf (requestOf byte host) = requestOptions host := by
  rw [optionsOf, requestOf_received]
  rfl

theorem requestOf_client (byte host : Byte) : clientOf (requestOf byte host) = sixOf byte := by
  rw [clientOf, requestOf_received]
  rfl

theorem requestOf_requests {ip : Ip4Addr} (own : ip.bytes.take 3 = [192, 168, 4]) (byte : Byte)
    (slot : Fin dhcpsMaxIp) :
    Requests ip (requestOf byte (UInt8.ofNat (dhcpsBaseIp + slot))) slot := by
  rw [Requests, MessageType, requestOf_options, Asks, addressOf, own]
  generalize addressed : requestOptions (UInt8.ofNat (dhcpsBaseIp + slot)) = area
  have type : FieldAt area 0 dhcpOptMsgType 1 := by
    rw [← addressed]
    exact ⟨rfl, by decide, by decide, rfl, Nat.le_add_left 3 7⟩
  have address : FieldAt area 3 dhcpOptRequestedIp 4 := by
    rw [← addressed]
    exact ⟨rfl, by decide, by decide, rfl, Nat.le_add_left 9 1⟩
  have other : ∀ len, ¬ FieldAt area 0 dhcpOptRequestedIp len :=
    fun len there => absurd (there.tag_eq type.1) (by decide)
  have typed : OptionIs area dhcpOptMsgType [dhcpRequest] := by
    refine ⟨0, 1, (firstFrom_here type).mpr rfl, type, ?_⟩
    rw [← addressed]
    rfl
  have asked : OptionIs area dhcpOptRequestedIp
      ([192, 168, 4] ++ [UInt8.ofNat (dhcpsBaseIp + slot)]) := by
    refine ⟨3, 4, ?_, address, ?_⟩
    · exact (firstFrom_step (step_field_iff type) other).mpr ((firstFrom_here address).mpr rfl)
    · rw [← addressed]
      rfl
  refine ⟨⟨?_, [], typed⟩, slot.isLt, [], asked⟩
  rw [requestOf_length]
  decide

end PicowDayClock.DhcpMessages
