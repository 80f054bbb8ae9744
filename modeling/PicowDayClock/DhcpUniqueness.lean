import PicowDayClock.DhcpLeases
import PicowDayClock.Library.StepSystem

/-! One lease for each client. `DHCPDISCOVER` looks for the client in the whole
table, but `DHCPREQUEST` looks only at the lease it asks for; so the table keeps
its clients apart exactly as long as no client asks for a second lease that is
free. -/
namespace PicowDayClock.DhcpUniqueness
open BigEndian (Ip4Addr)
open Checked Dhcp DhcpOptions DhcpMessages
open DhcpLeases (freshServer)

/-- `dhcp_server_init`, as far as the table goes. -/
def dhcpServerInit (ip nm : Ip4Addr) : DhcpServer where
  ip := ip
  nm := nm
  lease _ := { mac := noMac, expiry := 0 }

/-- No two leases are for one client. -/
def OneLeaseEach (d : DhcpServer) : Prop :=
  ∀ slot other, (d.lease slot).mac ≠ noMac → (d.lease slot).mac = (d.lease other).mac →
    slot = other

/-- Where the datagram asks for a lease that is free, its client has no other. -/
def NoSecondLease (d : DhcpServer) (p : Bytes) : Prop :=
  ∀ slot, Requests d.ip p slot → (d.lease slot).mac = noMac → clientOf p ≠ noMac →
    ∀ other, (d.lease other).mac ≠ clientOf p

/-! ## One message -/

/-- Clearing leases gives no client a second one. -/
theorem OneLeaseEach.cleared {d next : DhcpServer} (unique : OneLeaseEach d)
    (cleared : OnlyCleared ticks d next) : OneLeaseEach next := by
  have kept : ∀ slot, (next.lease slot).mac ≠ noMac →
      (next.lease slot).mac = (d.lease slot).mac := by
    intro slot real
    rcases cleared.lease slot with same | ⟨-, freed⟩
    · rw [same]
    · rw [freed] at real
      exact absurd rfl real
  intro slot other real same
  have mine := kept slot real
  have others := kept other (same ▸ real)
  refine unique slot other ?_ ?_
  · rw [← mine]
    exact real
  · rw [← mine, ← others, same]

/-- Giving a lease gives its client no second one exactly if it has no other. -/
theorem OneLeaseEach.withLease_iff {d : DhcpServer} (unique : OneLeaseEach d)
    {slot : Fin dhcpsMaxIp} {client : Bytes} (expiry : Nat)
    (free : (d.lease slot).mac = client ∨ (d.lease slot).mac = noMac) :
    OneLeaseEach (d.withLease slot { mac := client, expiry := expiry }) ↔
      ((d.lease slot).mac = noMac → client ≠ noMac → ∀ other, (d.lease other).mac ≠ client) := by
  have here := d.withLease_same (show slot.val = slot.val from rfl)
    { mac := client, expiry := expiry }
  have there : ∀ other ≠ slot, (d.withLease slot { mac := client, expiry := expiry }).lease other =
      d.lease other := fun other apart => d.withLease_other (Fin.val_ne_of_ne apart) _
  constructor
  · intro uniqueNext empty real other taken
    have apart : other ≠ slot := by
      rintro rfl
      exact real (taken.symm.trans empty)
    refine apart (uniqueNext other slot ?_ ?_)
    · rw [there other apart, taken]
      exact real
    · rw [there other apart, here, taken]
  · intro alone
    -- whoever else has the client's address would have had it before
    have only : ∀ other ≠ slot, client ≠ noMac → (d.lease other).mac ≠ client := by
      intro other apart real taken
      rcases free with own | empty
      · exact apart (unique other slot (taken ▸ real) (taken.trans own.symm))
      · exact alone empty real other taken
    intro first second real same
    by_cases isFirst : first = slot
    · subst isFirst
      by_cases isSecond : second = first
      · exact isSecond.symm
      · rw [here] at real same
        rw [there second isSecond] at same
        exact absurd same.symm (only second isSecond real)
    · rw [there first isFirst] at real same
      by_cases isSecond : second = slot
      · subst isSecond
        rw [here] at same
        dsimp only at same
        rw [same] at real
        exact absurd same (only first isFirst real)
      · rw [there second isSecond] at same
        exact unique first second real same

/-- A message leaves one lease for each client exactly if it does not give a
client a second one. -/
theorem message_unique_iff {d next : DhcpServer} {answer : Option Bytes}
    (unique : OneLeaseEach d) (ran : dhcpServerProcess d ticks p = .ok (next, answer)) :
    OneLeaseEach next ↔ NoSecondLease d p := by
  obtain ⟨_, _, same, served⟩ := dhcpServerProcess_serves d ticks p
  rw [ran] at same
  cases same
  cases served with
  | @given slot reply requests free acks =>
    rw [unique.withLease_iff _ free]
    constructor
    · intro alone other otherRequests
      rw [otherRequests.slot_eq requests]
      exact alone
    · exact fun alone => alone slot requests
  | other refused cleared quiet =>
    exact iff_of_true (unique.cleared cleared) fun slot requests empty =>
      absurd empty (refused slot requests).2

/-! ## Finding the client again -/

/-- The loop over the leases comes to the client's own one, if no earlier one is
for the client, and leaves it as it is. -/
theorem discoverFrom_known {chaddr : Bytes} (ticks : Nat) {d : DhcpServer}
    {slot : Fin dhcpsMaxIp} (known : (d.lease slot).mac = chaddr) (yi : Nat) {i : Nat}
    (before : i ≤ slot)
    (first : ∀ earlier : Fin dhcpsMaxIp, i ≤ earlier → earlier < slot →
      (d.lease earlier).mac ≠ chaddr) :
    ∃ next, discoverFrom chaddr ticks d yi i = .ok (next, slot.val) ∧ next.ip = d.ip ∧
      next.lease slot = d.lease slot := by
  induction distance : slot.val - i generalizing d yi i with
  | zero =>
    obtain rfl : i = slot.val := by omega
    rw [discoverFrom, dif_pos slot.isLt, d.leaseAt_ok slot.isLt, ok_bind, if_pos known]
    exact ⟨d, rfl, rfl, rfl⟩
  | succ distance ih =>
    have earlier : i < slot.val := by omega
    have more : i < dhcpsMaxIp := Nat.lt_trans earlier slot.isLt
    have other : (d.lease ⟨i, more⟩).mac ≠ chaddr := first ⟨i, more⟩ (Nat.le_refl i) earlier
    have later : ∀ now : DhcpServer, (∀ behind : Fin dhcpsMaxIp, i < behind →
        now.lease behind = d.lease behind) → now.ip = d.ip → ∀ yi,
        ∃ next, discoverFrom chaddr ticks now yi (i + 1) = .ok (next, slot.val) ∧
          next.ip = d.ip ∧ next.lease slot = d.lease slot := by
      intro now same ip yi
      rw [← ip, ← same slot earlier]
      refine ih ?_ yi earlier (fun between after until_ => ?_) (by omega)
      · rw [same slot earlier]
        exact known
      · rw [same between after]
        exact first between (Nat.le_of_lt after) until_
    have unchanged := later d (fun _ _ => rfl) rfl
    rw [discoverFrom, dif_pos more, d.leaseAt_ok more, ok_bind, if_neg other]
    by_cases searching : yi = dhcpsMaxIp
    · rw [if_pos searching]
      dsimp only
      by_cases old : expired (d.lease ⟨i, more⟩).expiry ticks = true
      · rw [if_pos old, d.setLease_ok more, ok_bind]
        exact later _ (fun behind after => d.withLease_other (Nat.ne_of_gt after) _) rfl i
      · rw [if_neg old]
        exact unchanged _
    · rw [if_neg searching]
      exact unchanged yi

/-- The client and the address of a reply that offers one. -/
def offered (reply : Bytes) : Option (Bytes × Bytes) :=
  if (reply.drop (optionsOffset + 4)).take 3 = [dhcpOptMsgType, 1, dhcpOffer] then
    some ((reply.drop chaddrOffset).take macLen, (reply.drop yiaddrOffset).take 4)
  else none

/-- A client that has a lease is offered its address whenever it sends a
`DHCPDISCOVER`, and keeps the lease. -/
def FoundAgain (d : DhcpServer) : Prop :=
  ∀ slot, (d.lease slot).mac ≠ noMac → ∀ ticks p, MessageType p dhcpDiscover →
    clientOf p = (d.lease slot).mac →
    ∃ next reply, dhcpServerProcess d ticks p = .ok (next, some reply) ∧
      offered reply = some (clientOf p, addressOf d.ip slot) ∧ next.lease slot = d.lease slot

theorem OneLeaseEach.foundAgain {d : DhcpServer} (unique : OneLeaseEach d) : FoundAgain d := by
  intro slot real ticks p discover own
  rcases dhcpServerProcess_reads d ticks p with ⟨-, untyped⟩ | ⟨msgType, msg, only, holds, long, ran⟩
  · exact absurd discover (untyped dhcpDiscover)
  · obtain rfl := (only dhcpDiscover).mp discover
    have room := messageBytes_room d long
    obtain ⟨next, yi, looped, -, -, switched⟩ := switchMsgType_discover holds
      (Nat.le_of_add_right_le room) d ticks (optionsOffset + 4)
    obtain ⟨_, found, ip, kept⟩ := discoverFrom_known ticks own.symm dhcpsMaxIp
      (Nat.zero_le slot) fun earlier _ before taken =>
        absurd (unique slot earlier real (own.symm.trans taken.symm)) (Fin.ne_of_gt before)
    rw [messageBytes_client d long, found] at looped
    cases looped
    rw [messageBytes_options d long, if_neg (Nat.ne_of_lt slot.isLt)] at switched
    rw [switched, ok_bind] at ran
    refine ⟨next, _, ran, ?_, kept⟩
    dsimp only
    have address := replyBytes_address next room
      (by rw [messageBytes_address d long, ip]) slot dhcpOffer
    rw [offered, replyBytes_type next room, if_pos rfl, replyBytes_client next room, address, ip,
      messageBytes_client d long]

/-! ## Any number of messages -/

/-- The server as messages arrive, each with its time, of which the tick counter
shows the lower 32 bits. -/
def server : StepSystem DhcpServer (Nat × Bytes) where
  step d event := (dhcpServerProcess d (event.1 % 2 ^ 32) event.2).toOption.map Prod.fst

theorem server_step {d next : DhcpServer} {event : Nat × Bytes}
    (ran : dhcpServerProcess d (event.1 % 2 ^ 32) event.2 = .ok (next, answer)) :
    server.step d event = some next := by
  simp only [server, ran, Except.toOption, Option.map_some]

theorem server_takes (d : DhcpServer) (event : Nat × Bytes) :
    ∃ next, server.step d event = some next := by
  obtain ⟨next, answer, ran, -⟩ := dhcpServerProcess_serves d (event.1 % 2 ^ 32) event.2
  exact ⟨next, server_step ran⟩

theorem init_unique (ip nm : Ip4Addr) : OneLeaseEach (dhcpServerInit ip nm) :=
  fun _ _ real => absurd rfl real

theorem step_unique_iff {d : DhcpServer} (unique : OneLeaseEach d) (event : Nat × Bytes) :
    (∀ next ∈ server.step d event, OneLeaseEach next) ↔ NoSecondLease d event.2 := by
  obtain ⟨next, answer, ran, -⟩ := dhcpServerProcess_serves d (event.1 % 2 ^ 32) event.2
  rw [← message_unique_iff unique ran, server_step ran]
  simp only [Option.mem_some_iff, forall_eq']

/-- Whatever messages arrive at a fresh server, in every state of the run each
client has at most one lease, and is offered that one again, exactly if no message
of the run asks for a free lease on behalf of a client that has another. -/
theorem one_lease_per_client_iff (ip nm : Ip4Addr) (events : List (Nat × Bytes)) :
    (∀ earlier, earlier <+: events → ∃ reached,
      server.run (dhcpServerInit ip nm) earlier = some reached ∧
        OneLeaseEach reached ∧ FoundAgain reached) ↔
    server.EveryStep (fun d event => NoSecondLease d event.2) (dhcpServerInit ip nm) events := by
  have keeps : ∀ d event next, OneLeaseEach d → NoSecondLease d event.2 →
      server.step d event = some next → OneLeaseEach next := by
    intro d event next unique alone stepped
    exact (step_unique_iff unique event).mpr alone next stepped
  simp only [and_iff_left_of_imp OneLeaseEach.foundAgain]
  rw [StepSystem.everyStep_reached_iff server_takes, and_iff_right (init_unique ip nm)]
  exact StepSystem.everyStep_iff_where keeps (fun d event unique => step_unique_iff unique event)
    (init_unique ip nm)

/-- A client that asks for two addresses, one after the other, has both. -/
theorem client_takes_two_addresses :
    ∃ reached, server.run (dhcpServerInit freshServer.ip freshServer.nm)
      [(1000, requestOf 7 16), (2000, requestOf 7 17)] = some reached ∧ ¬ OneLeaseEach reached := by
  have first : 0 < dhcpsMaxIp := by decide
  have second : 1 < dhcpsMaxIp := by decide
  generalize begun : dhcpServerInit freshServer.ip freshServer.nm = d
  have own : d.ip.bytes.take 3 = [192, 168, 4] := by
    rw [← begun]
    rfl
  have empty : ∀ slot, (d.lease slot).mac = noMac := by
    intro slot
    rw [← begun]
    rfl
  obtain ⟨_, given, -⟩ := request_is_served (1000 % 2 ^ 32)
    (requestOf_requests own 7 ⟨0, first⟩) (.inr (empty _))
  generalize taken : d.withLease _ _ = between at given
  have stillFree : (between.lease ⟨1, second⟩).mac = noMac := by
    rw [← taken, d.withLease_other Nat.one_ne_zero]
    exact empty _
  have stillOwn : between.ip.bytes.take 3 = [192, 168, 4] := by
    rw [← taken]
    exact own
  obtain ⟨_, also, -⟩ := request_is_served (2000 % 2 ^ 32)
    (requestOf_requests stillOwn 7 ⟨1, second⟩) (.inr stillFree)
  generalize takenToo : between.withLease _ _ = reached at also
  have one : server.step d (1000, requestOf 7 16) = some between := server_step given
  have two : server.step between (2000, requestOf 7 17) = some reached := server_step also
  refine ⟨reached, ?_, fun unique => ?_⟩
  · rw [StepSystem.run, one, Option.bind_some, StepSystem.run, two, Option.bind_some]
    rfl
  · have mine : (reached.lease ⟨0, first⟩).mac = sixOf 7 := by
      rw [← takenToo, between.withLease_other Nat.zero_ne_one, ← taken, d.withLease_same rfl]
      exact requestOf_client 7 16
    have mineToo : (reached.lease ⟨1, second⟩).mac = sixOf 7 := by
      rw [← takenToo, between.withLease_same rfl]
      exact requestOf_client 7 17
    have real : (reached.lease ⟨0, first⟩).mac ≠ noMac := by
      rw [mine]
      decide
    have slots := unique _ _ real (mine.trans mineToo.symm)
    exact absurd (congrArg Fin.val slots) Nat.zero_ne_one

end PicowDayClock.DhcpUniqueness
