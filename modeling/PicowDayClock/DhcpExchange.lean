import Mathlib.Data.Finset.Card
import Mathlib.Data.Fintype.Card
import PicowDayClock.DhcpUniqueness

/-! The exchange of messages by which a client comes to an address and keeps it.
An offer reserves nothing, so what another client asks for in between matters;
but clients that ask only for what they have been offered do not get in each
other's way for good, as long as there are no more of them than leases. -/
namespace PicowDayClock.DhcpExchange
open BigEndian (Ip4Addr)
open Checked Dhcp DhcpOptions DhcpMessages DhcpLeases DhcpUniqueness

/-! ## Discovering -/

/-- The lease is the client's, or can become it. -/
def Open (chaddr : Bytes) (lease : DhcpServerLease) : Prop :=
  lease.mac = chaddr ∨ lease.mac = noMac

/-- The loop over the leases finds an open one, which it may have cleared, and
finds none only if none is open and none has expired. -/
theorem discoverFrom_settles (chaddr : Bytes) (ticks : Nat) (d : DhcpServer) {yi : Nat}
    (low : yi ≤ dhcpsMaxIp)
    (kept : ∀ inside : yi < dhcpsMaxIp, (d.lease ⟨yi, inside⟩).mac = noMac) (i : Nat) :
    ∃ next found, discoverFrom chaddr ticks d yi i = .ok (next, found) ∧
      (∀ inside : found < dhcpsMaxIp, Open chaddr (next.lease ⟨found, inside⟩)) ∧
      (found = dhcpsMaxIp → yi = dhcpsMaxIp ∧ ∀ slot : Fin dhcpsMaxIp, i ≤ slot →
        ¬ Open chaddr (d.lease slot) ∧ expired (d.lease slot).expiry ticks = false) := by
  induction distance : dhcpsMaxIp - i using Nat.strong_induction_on generalizing d yi i with
  | _ rest ih =>
    rw [discoverFrom]
    by_cases more : i < dhcpsMaxIp
    · have shorter : dhcpsMaxIp - (i + 1) < rest := by omega
      rw [dif_pos more, d.leaseAt_ok more, ok_bind]
      by_cases known : (d.lease ⟨i, more⟩).mac = chaddr
      · rw [if_pos known]
        exact ⟨d, i, rfl, fun _ => .inl known, fun full => absurd full (Nat.ne_of_lt more)⟩
      · rw [if_neg known]
        by_cases searching : yi = dhcpsMaxIp
        · rw [if_pos searching]
          dsimp only
          by_cases old : expired (d.lease ⟨i, more⟩).expiry ticks = true
          · rw [if_pos old, d.setLease_ok more, ok_bind]
            have freed := d.withLease_same (show (⟨i, more⟩ : Fin dhcpsMaxIp).val = i from rfl)
              { d.lease ⟨i, more⟩ with mac := noMac }
            obtain ⟨next, found, ran, settled, full⟩ :=
              ih _ shorter (d.withLease i { d.lease ⟨i, more⟩ with mac := noMac })
                (Nat.le_of_lt more) (fun _ => by rw [freed]) (i + 1) rfl
            exact ⟨next, found, ran, settled, fun none_ =>
              absurd (full none_).1 (Nat.ne_of_lt more)⟩
          · rw [if_neg old]
            by_cases free : (d.lease ⟨i, more⟩).mac = noMac
            · rw [if_pos free]
              obtain ⟨next, found, ran, settled, full⟩ :=
                ih _ shorter d (Nat.le_of_lt more) (fun _ => free) (i + 1) rfl
              exact ⟨next, found, ran, settled, fun none_ =>
                absurd (full none_).1 (Nat.ne_of_lt more)⟩
            · rw [if_neg free]
              obtain ⟨next, found, ran, settled, full⟩ := ih _ shorter d low kept (i + 1) rfl
              refine ⟨next, found, ran, settled, fun none_ => ⟨searching, fun slot from_ => ?_⟩⟩
              rcases Nat.eq_or_lt_of_le from_ with here | behind
              · obtain rfl : slot = ⟨i, more⟩ := Fin.ext here.symm
                exact ⟨not_or.mpr ⟨known, free⟩, Bool.eq_false_of_not_eq_true old⟩
              · exact (full none_).2 slot behind
        · rw [if_neg searching]
          obtain ⟨next, found, ran, settled, full⟩ := ih _ shorter d low kept (i + 1) rfl
          exact ⟨next, found, ran, settled, fun none_ => absurd (full none_).1 searching⟩
    · rw [dif_neg more]
      refine ⟨d, yi, rfl, fun inside => .inr (kept inside), fun none_ => ⟨none_, ?_⟩⟩
      exact fun slot from_ => absurd slot.isLt (by omega)

/-- What a `DHCPDISCOVER` gets: an offer of an open lease, or nothing where no
lease is open and none has expired. -/
inductive Discovered (d : DhcpServer) (ticks : Nat) (p : Bytes) : DhcpServer → Option Bytes → Prop
  | offer (cleared : OnlyCleared ticks d next) (free : Open (clientOf p) (next.lease slot))
      (offers : offered reply = some (clientOf p, addressOf d.ip slot)) :
      Discovered d ticks p next (some reply)
  | full (cleared : OnlyCleared ticks d next)
      (taken : ∀ slot, ¬ Open (clientOf p) (d.lease slot) ∧
        expired (d.lease slot).expiry ticks = false) :
      Discovered d ticks p next none

theorem discover_served (d : DhcpServer) (ticks : Nat) {p : Bytes}
    (discover : MessageType p dhcpDiscover) :
    ∃ next answer, dhcpServerProcess d ticks p = .ok (next, answer) ∧
      Discovered d ticks p next answer := by
  rcases dhcpServerProcess_reads d ticks p with
    ⟨-, untyped⟩ | ⟨msgType, msg, only, holds, long, ran⟩
  · exact absurd discover (untyped dhcpDiscover)
  · obtain rfl := (only dhcpDiscover).mp discover
    have room := messageBytes_room d long
    obtain ⟨next, yi, looped, low, cleared, switched⟩ := switchMsgType_discover holds
      (Nat.le_of_add_right_le room) d ticks (optionsOffset + 4)
    obtain ⟨_, _, same, settled, full⟩ := discoverFrom_settles
      (((messageBytes d p).drop chaddrOffset).take macLen) ticks d (Nat.le_refl dhcpsMaxIp)
      (fun inside => absurd inside (Nat.lt_irrefl _)) 0
    rw [looped] at same
    cases same
    rw [messageBytes_client d long] at settled full
    rw [messageBytes_options d long] at switched
    rw [switched, ok_bind] at ran
    refine ⟨next, _, ran, ?_⟩
    by_cases none_ : yi = dhcpsMaxIp
    · rw [if_pos none_]
      exact .full cleared fun slot => (full none_).2 slot (Nat.zero_le _)
    · have inside : yi < dhcpsMaxIp := Nat.lt_of_le_of_ne low none_
      rw [if_neg none_]
      have own : ((messageBytes d p).drop yiaddrOffset).take 4 = next.ip.bytes := by
        rw [cleared.ip]
        exact messageBytes_address d long
      refine .offer cleared (settled inside) ?_
      rw [offered, replyBytes_type next room, if_pos rfl, replyBytes_client next room,
        replyBytes_address next room own, messageBytes_client d long, cleared.ip]

theorem discover_requests_nothing {p : Bytes} (discover : MessageType p dhcpDiscover)
    (ip : Ip4Addr) (slot : Fin dhcpsMaxIp) : ¬ Requests ip p slot := by
  intro requests
  rcases dhcpServerProcess_reads (dhcpServerInit ip ip) 0 p with
    ⟨-, untyped⟩ | ⟨msgType, msg, only, -⟩
  · exact untyped dhcpDiscover discover
  · have same := ((only dhcpDiscover).mp discover).trans ((only dhcpRequest).mp requests.1).symm
    exact absurd same (by decide)

/-! ## From the offer to the acknowledgement -/

theorem served_ip {d next : DhcpServer} {answer : Option Bytes}
    (served : Served d ticks p next answer) : next.ip = d.ip := by
  cases served with
  | given _ _ _ => rfl
  | other _ cleared _ => exact cleared.ip

/-- A `DHCPDISCOVER` of a client with six equal bytes. -/
def discoverOf (byte : Byte) : Bytes :=
  List.replicate chaddrOffset 0 ++ (sixOf byte ++
    (List.replicate 206 0 ++ [dhcpOptMsgType, 1, dhcpDiscover, dhcpOptEnd]))

theorem discoverOf_client (byte : Byte) : clientOf (discoverOf byte) = sixOf byte := rfl

theorem discoverOf_discovers (byte : Byte) : MessageType (discoverOf byte) dhcpDiscover := by
  have options : optionsOf (discoverOf byte) = [dhcpOptMsgType, 1, dhcpDiscover, dhcpOptEnd] := rfl
  have type : FieldAt [dhcpOptMsgType, 1, dhcpDiscover, dhcpOptEnd] 0 dhcpOptMsgType 1 :=
    ⟨rfl, by decide, by decide, rfl, Nat.le_add_left 3 1⟩
  refine ⟨?_, [], ?_⟩
  · simp only [discoverOf, sixOf, List.length_append, List.length_replicate]
    decide
  · rw [options]
    exact ⟨0, 1, (firstFrom_here type).mpr rfl, type, rfl⟩

/-- Only a `DHCPDISCOVER` is answered by an offer. -/
theorem undiscovered {d next : DhcpServer} {ticks : Nat} {p : Bytes} {answer : Option Bytes}
    (other : ¬ MessageType p dhcpDiscover)
    (ran : dhcpServerProcess d ticks p = .ok (next, answer)) : answer.bind offered = none := by
  rcases dhcpServerProcess_reads d ticks p with
    ⟨ignored, -⟩ | ⟨msgType, msg, only, holds, long, reads⟩
  · rw [ignored] at ran
    cases ran
    rfl
  · have room := messageBytes_room d long
    have apart : msgType ≠ dhcpDiscover := fun same => other ((only dhcpDiscover).mpr same.symm)
    rw [ran] at reads
    by_cases request : msgType = dhcpRequest
    · subst request
      have what := switchMsgType_request holds (Nat.le_of_add_right_le room) d ticks
        (optionsOffset + 4)
      rw [messageBytes_options d long] at what
      rcases what with ⟨yi, -, -, -, switched⟩ | ⟨-, switched⟩
      · rw [switched, ok_bind] at reads
        cases reads
        rw [Option.map_some, Option.bind_some, offered, replyBytes_type _ room]
        rfl
      · rw [switched, ok_bind] at reads
        cases reads
        rfl
    · rw [switchMsgType, if_neg apart, if_neg request, ok_bind] at reads
      cases reads
      rfl

/-- The address that each client has been offered last. -/
abbrev Offers := Bytes → Option Bytes

/-- What an observer notes of the replies. -/
def noteOffer (d : DhcpServer) (event : Nat × Bytes) (offers : Offers) : Offers :=
  match dhcpServerProcess d (event.1 % 2 ^ 32) event.2 with
  | .ok (_, some reply) =>
    match offered reply with
    | some (client, address) => Function.update offers client (some address)
    | none => offers
  | _ => offers

theorem noteOffer_offers {d next : DhcpServer} {timeMs : Nat} {p reply client address : Bytes}
    (ran : dhcpServerProcess d (timeMs % 2 ^ 32) p = .ok (next, some reply))
    (offer : offered reply = some (client, address)) (offers : Offers) :
    noteOffer d (timeMs, p) offers = Function.update offers client (some address) := by
  simp only [noteOffer, ran, offer]

/-- The server while its offers are observed. -/
def exchange : StepSystem (DhcpServer × Offers) (Nat × Bytes) := server.observed noteOffer

/-- The message is from one of these clients, which asks for no address but the
one it has been offered last. -/
def Polite (clients : Finset Bytes) (pair : DhcpServer × Offers) (event : Nat × Bytes) : Prop :=
  clientOf event.2 ∈ clients ∧ ∀ slot, Requests pair.1.ip event.2 slot →
    pair.2 (clientOf event.2) = some (addressOf pair.1.ip slot)

/-- Whoever has a lease has been offered its address last. -/
def Assigned (clients : Finset Bytes) (pair : DhcpServer × Offers) : Prop :=
  ∀ slot, (pair.1.lease slot).mac ≠ noMac →
    (pair.1.lease slot).mac ∈ clients ∧
      pair.2 (pair.1.lease slot).mac = some (addressOf pair.1.ip slot)

theorem Assigned.unique {clients : Finset Bytes} {d : DhcpServer} {offers : Offers}
    (assigned : Assigned clients (d, offers)) : OneLeaseEach d := by
  intro slot other real same
  have mine := (assigned slot real).2
  have also := (assigned other (same ▸ real)).2
  dsimp only at mine also
  rw [← same, mine] at also
  exact Fin.ext (addressOf_inj slot.isLt other.isLt (Option.some.inj also))

/-- Clearing leases takes nothing away from the others. -/
theorem Assigned.cleared {clients : Finset Bytes} {d next : DhcpServer} {offers : Offers}
    (assigned : Assigned clients (d, offers)) (cleared : OnlyCleared ticks d next) :
    ∀ slot, (next.lease slot).mac ≠ noMac → (d.lease slot).mac = (next.lease slot).mac ∧
      (next.lease slot).mac ∈ clients ∧
      offers (next.lease slot).mac = some (addressOf next.ip slot) := by
  intro slot real
  rcases cleared.lease slot with same | ⟨-, freed⟩
  · rw [same] at real ⊢
    rw [cleared.ip]
    exact ⟨rfl, assigned slot real⟩
  · rw [freed] at real
    exact absurd rfl real

/-- An offer goes to the client with the lease, or the lease is free. -/
theorem Assigned.discovers {clients : Finset Bytes} {d next : DhcpServer} {offers : Offers}
    {timeMs : Nat} {p : Bytes} {answer : Option Bytes} (assigned : Assigned clients (d, offers))
    (discover : MessageType p dhcpDiscover)
    (ran : dhcpServerProcess d (timeMs % 2 ^ 32) p = .ok (next, answer))
    (discovered : Discovered d (timeMs % 2 ^ 32) p next answer) :
    Assigned clients (next, noteOffer d (timeMs, p) offers) := by
  intro slot real
  cases discovered with
  | offer cleared free offer =>
    rw [noteOffer_offers ran offer]
    obtain ⟨before, member, known⟩ := assigned.cleared cleared slot real
    refine ⟨member, ?_⟩
    dsimp only at real before known ⊢
    by_cases own : (next.lease slot).mac = clientOf p
    · -- the client has been found by its lease
      obtain ⟨_, _, again, sameOffer, -⟩ := assigned.unique.foundAgain slot
        (by rw [before]; exact real) (timeMs % 2 ^ 32) p discover (by rw [before, own])
      rw [ran] at again
      cases again
      rw [offer] at sameOffer
      rw [own, Function.update_self, cleared.ip]
      exact congrArg some (congrArg Prod.snd (Option.some.inj sameOffer))
    · rw [Function.update_of_ne own]
      exact known
  | full cleared taken =>
    have noted : noteOffer d (timeMs, p) offers = offers := by simp only [noteOffer, ran]
    rw [noted]
    exact (assigned.cleared cleared slot real).2

/-- A request is for what the client has been offered. -/
theorem Assigned.serves {clients : Finset Bytes} {d next : DhcpServer} {offers : Offers}
    {timeMs : Nat} {p : Bytes} {answer : Option Bytes} (assigned : Assigned clients (d, offers))
    (other : ¬ MessageType p dhcpDiscover) (polite : Polite clients (d, offers) (timeMs, p))
    (ran : dhcpServerProcess d (timeMs % 2 ^ 32) p = .ok (next, answer))
    (served : Served d (timeMs % 2 ^ 32) p next answer) :
    Assigned clients (next, noteOffer d (timeMs, p) offers) := by
  have noted : noteOffer d (timeMs, p) offers = offers := by
    have none_ := undiscovered other ran
    simp only [noteOffer, ran]
    cases answer with
    | none => rfl
    | some reply =>
      rw [Option.bind_some] at none_
      simp only [none_]
  rw [noted]
  intro slot real
  cases served with
  | @given asked reply requests free acks =>
    dsimp only at real ⊢
    by_cases here : slot = asked
    · rw [here] at real ⊢
      rw [d.withLease_same rfl] at real ⊢
      exact ⟨polite.1, polite.2 asked requests⟩
    · rw [d.withLease_other (Fin.val_ne_of_ne here)] at real ⊢
      exact assigned slot real
  | other refused cleared quiet => exact (assigned.cleared cleared slot real).2

theorem step_assigned {clients : Finset Bytes} {pair next : DhcpServer × Offers}
    {event : Nat × Bytes} (assigned : Assigned clients pair) (polite : Polite clients pair event)
    (stepped : exchange.step pair event = some next) : Assigned clients next := by
  obtain ⟨d, offers⟩ := pair
  obtain ⟨after, offersAfter⟩ := next
  obtain ⟨timeMs, p⟩ := event
  obtain ⟨happened, rfl⟩ := StepSystem.observed_step stepped
  by_cases discover : MessageType p dhcpDiscover
  · obtain ⟨settled, answer, ran, discovered⟩ := discover_served d (timeMs % 2 ^ 32) discover
    obtain rfl : settled = after := Option.some.inj ((server_step ran).symm.trans happened)
    exact assigned.discovers discover ran discovered
  · obtain ⟨settled, answer, ran, served⟩ := dhcpServerProcess_serves d (timeMs % 2 ^ 32) p
    obtain rfl : settled = after := Option.some.inj ((server_step ran).symm.trans happened)
    exact assigned.serves discover polite ran served

/-- With as many clients as leases at most, one that has none finds one open. -/
theorem Assigned.has_room {clients : Finset Bytes} {d : DhcpServer} {offers : Offers}
    (assigned : Assigned clients (d, offers)) (few : clients.card ≤ dhcpsMaxIp) {client : Bytes}
    (member : client ∈ clients) : ∃ slot, Open client (d.lease slot) := by
  by_contra full
  have taken : ∀ slot, (d.lease slot).mac ≠ client ∧ (d.lease slot).mac ≠ noMac :=
    fun slot => not_or.mp (not_exists.mp full slot)
  -- all the leases are then other clients', and each another one's
  have inside : ∀ slot ∈ Finset.univ, (d.lease slot).mac ∈ clients.erase client := by
    intro slot _
    exact Finset.mem_erase.mpr ⟨(taken slot).1, (assigned slot (taken slot).2).1⟩
  have apart : Set.InjOn (fun slot => (d.lease slot).mac) (Finset.univ : Finset (Fin dhcpsMaxIp)) :=
    fun slot _ other _ same => assigned.unique slot other (taken slot).2 same
  have count := Finset.card_le_card_of_injOn (fun slot => (d.lease slot).mac) inside apart
  rw [Finset.card_univ, Fintype.card_fin, Finset.card_erase_of_mem member] at count
  have some_ := Finset.card_pos.mpr ⟨client, member⟩
  omega

theorem exchange_takes (pair : DhcpServer × Offers) (event : Nat × Bytes) :
    ∃ next, exchange.step pair event = some next := by
  obtain ⟨next, stepped⟩ := server_takes pair.1 event
  exact ⟨_, StepSystem.observed_of_step pair.2 stepped⟩

theorem run_assigned (ip nm : Ip4Addr) {clients : Finset Bytes} {events : List (Nat × Bytes)}
    (polite : exchange.EveryStep (Polite clients) (dhcpServerInit ip nm, fun _ => none) events) :
    ∃ reached offers,
      exchange.run (dhcpServerInit ip nm, fun _ => none) events = some (reached, offers) ∧
        reached.ip = ip ∧ Assigned clients (reached, offers) := by
  obtain ⟨⟨reached, offers⟩, ran⟩ := @StepSystem.run_total _ _ exchange
    (dhcpServerInit ip nm, fun _ => none) events exchange_takes
  have assigned : Assigned clients (dhcpServerInit ip nm, fun _ => none) :=
    fun slot real => absurd rfl real
  have still : Assigned clients (reached, offers) :=
    StepSystem.run_invariant_where (fun _ _ _ => step_assigned) assigned polite ran
  have same : reached.ip = ip := by
    refine @StepSystem.run_invariant _ _ exchange _ _ _ (fun pair => pair.1.ip = ip) ?_ rfl ran
    intro pair event next known stepped
    obtain ⟨happened, -⟩ := StepSystem.observed_step stepped
    obtain ⟨settled, answer, processed, served⟩ :=
      dhcpServerProcess_serves pair.1 (event.1 % 2 ^ 32) event.2
    rw [server_step processed] at happened
    cases happened
    exact (served_ip served).trans known
  exact ⟨reached, offers, ran, same, still⟩

/-- However the messages of no more clients than there are leases arrive at a
fresh server, if each of them asks for no address but the one it has been offered
last: no client ever has two leases, a client's `DHCPDISCOVER` is always answered
by an offer, a request for which comes to the address if it is the next message that
the server handles, and a request is refused only where another of the clients has the
address. -/
theorem nobody_is_turned_away (ip nm : Ip4Addr) {clients : Finset Bytes}
    (few : clients.card ≤ dhcpsMaxIp) {events : List (Nat × Bytes)}
    (polite : exchange.EveryStep (Polite clients) (dhcpServerInit ip nm, fun _ => none) events) :
    ∃ reached offers,
      exchange.run (dhcpServerInit ip nm, fun _ => none) events = some (reached, offers) ∧
      OneLeaseEach reached ∧
      (∀ ticks p, clientOf p ∈ clients → MessageType p dhcpDiscover →
        ∃ next reply, dhcpServerProcess reached ticks p = .ok (next, some reply) ∧
          ∃ slot : Fin dhcpsMaxIp, offered reply = some (clientOf p, addressOf ip slot) ∧
            ∀ later q, Requests ip q slot → clientOf q = clientOf p →
              ∃ final ack, dhcpServerProcess next later q = .ok (final, some ack) ∧
                acknowledged ack = some (clientOf p, addressOf ip slot)) ∧
      ∀ ticks q slot, Requests ip q slot →
        (∃ next ack, dhcpServerProcess reached ticks q = .ok (next, some ack) ∧
          acknowledged ack = some (clientOf q, addressOf ip slot)) ∨
        (reached.lease slot).mac ∈ clients.erase (clientOf q) := by
  obtain ⟨reached, offers, ran, own, assigned⟩ := run_assigned ip nm polite
  refine ⟨reached, offers, ran, assigned.unique, ?_, ?_⟩
  · intro ticks p member discover
    obtain ⟨next, answer, processed, discovered⟩ := discover_served reached ticks discover
    cases discovered with
    | full _ taken =>
      obtain ⟨slot, room⟩ := assigned.has_room few member
      exact absurd room (taken slot).1
    | @offer slot reply cleared free offers =>
      rw [own] at offers
      refine ⟨next, reply, processed, slot, offers, fun later q requests same => ?_⟩
      rw [← same] at free ⊢
      have here : Requests next.ip q slot := by
        rw [cleared.ip, own]
        exact requests
      obtain ⟨ack, served, acks⟩ := request_is_served later here free
      rw [cleared.ip, own] at acks
      exact ⟨_, ack, served, acks⟩
  · intro ticks q slot requests
    rw [← own] at requests ⊢
    by_cases free : Open (clientOf q) (reached.lease slot)
    · obtain ⟨ack, served, acks⟩ := request_is_served ticks requests free
      exact .inl ⟨_, ack, served, acks⟩
    · obtain ⟨other, real⟩ := not_or.mp free
      exact .inr (Finset.mem_erase.mpr ⟨other, (assigned slot real).1⟩)

/-- While the first of two clients has come to an address, the second one looks for
one. -/
theorem second_client_finds_another :
    ∃ host reached offers,
      exchange.run (dhcpServerInit freshServer.ip freshServer.nm, fun _ => none)
        [(1000, discoverOf 7), (2000, requestOf 7 host)] = some (reached, offers) ∧
      OneLeaseEach reached ∧
      ∃ next reply, dhcpServerProcess reached 3000 (discoverOf 9) = .ok (next, some reply) ∧
        ∃ slot : Fin dhcpsMaxIp,
          offered reply = some (sixOf 9, addressOf freshServer.ip slot) := by
  obtain ⟨next, answer, ran, discovered⟩ := discover_served
    (dhcpServerInit freshServer.ip freshServer.nm) (1000 % 2 ^ 32) (discoverOf_discovers 7)
  cases discovered with
  | full _ taken => exact absurd (.inr rfl) (taken ⟨0, by decide⟩).1
  | @offer slot reply cleared free offer =>
    have polite : exchange.EveryStep (Polite {sixOf 7, sixOf 9})
        (dhcpServerInit freshServer.ip freshServer.nm, fun _ => none)
        [(1000, discoverOf 7), (2000, requestOf 7 (UInt8.ofNat (dhcpsBaseIp + slot)))] := by
      refine ⟨⟨?_, fun other requests => ?_⟩, fun pair stepped => ⟨⟨?_, ?_⟩, ?_⟩⟩
      · rw [discoverOf_client]
        decide
      · exact absurd requests (discover_requests_nothing (discoverOf_discovers 7) _ other)
      · rw [requestOf_client]
        decide
      · obtain ⟨after, offers⟩ := pair
        obtain ⟨happened, noted⟩ := StepSystem.observed_step stepped
        have known : server.step _ (1000, discoverOf 7) = some next := server_step ran
        have reached : after = next := Option.some.inj (happened.symm.trans known)
        subst reached
        intro other requests
        have own : after.ip.bytes.take 3 = [192, 168, 4] := by
          rw [cleared.ip]
          rfl
        obtain rfl : other = slot := requests.slot_eq (requestOf_requests own 7 slot)
        have first : offers = Function.update _ _ _ :=
          noted.trans (noteOffer_offers ran offer _)
        dsimp only
        rw [first, requestOf_client, discoverOf_client, Function.update_self, cleared.ip]
      · exact fun _ _ => trivial
    obtain ⟨reached, offers, arrived, unique, answered, -⟩ :=
      nobody_is_turned_away freshServer.ip freshServer.nm (by decide) polite
    have second : clientOf (discoverOf 9) ∈ ({sixOf 7, sixOf 9} : Finset Bytes) := by
      rw [discoverOf_client]
      decide
    obtain ⟨next, reply, processed, found, offered, -⟩ :=
      answered 3000 (discoverOf 9) second (discoverOf_discovers 9)
    exact ⟨_, reached, offers, arrived, unique, next, reply, processed, found, offered⟩

/-! ## Renewing -/

open Classical in
/-- The requests by which a client renews a lease. -/
noncomputable def renewals (ip : Ip4Addr) (slot : Fin dhcpsMaxIp) (mac : Bytes)
    (events : List (Nat × Bytes)) : List (Nat × Bytes) :=
  events.filter fun event => Requests ip event.2 slot ∧ clientOf event.2 = mac

/-- The acknowledgements of an address to a client. -/
def acknowledgedTo (mac address : Bytes) (acks : List Acknowledgement) : List Acknowledgement :=
  acks.filter fun ack => ack.mac = mac ∧ ack.address = address

/-- Each time is within the lease that was given at the one before. -/
def InTime (times : List Nat) : Prop :=
  times.IsChain fun given renewed => renewed < given + leaseTimeMs

theorem served_handled {d next : DhcpServer} {answer : Option Bytes}
    (served : Served d ticks p next answer) : Handled d ticks next answer := by
  cases served with
  | @given slot _ _ free acks => exact .given slot.isLt free acks
  | other _ cleared quiet => exact .other cleared quiet

/-- Only the client itself gets its lease acknowledged. -/
theorem served_acknowledges {d next : DhcpServer} {answer : Option Bytes} {mac : Bytes}
    {slot : Fin dhcpsMaxIp} (served : Served d ticks p next answer)
    (acks : answer.bind acknowledged = some (mac, addressOf d.ip slot)) :
    Requests d.ip p slot ∧ clientOf p = mac := by
  cases served with
  | @given asked _ requests _ given =>
    rw [Option.bind_some, given] at acks
    obtain ⟨client, address⟩ := Prod.mk.inj (Option.some.inj acks)
    obtain rfl : asked = slot := Fin.ext (addressOf_inj asked.isLt slot.isLt address)
    exact ⟨requests, client⟩
  | other _ _ quiet =>
    rw [quiet] at acks
    cases acks

theorem acknowledgedTo_own {d next : DhcpServer} {timeMs : Nat} {p reply mac address : Bytes}
    (ran : dhcpServerProcess d (timeMs % 2 ^ 32) p = .ok (next, some reply))
    (acks : acknowledged reply = some (mac, address)) (later : List (Nat × Bytes)) :
    acknowledgedTo mac address (acknowledgements d ((timeMs, p) :: later)) =
      { timeMs := timeMs, mac := mac, address := address } ::
        acknowledgedTo mac address (acknowledgements next later) := by
  rw [acknowledgements_of ran, Option.bind_some, acks]
  exact List.filter_cons_of_pos (by simp)

/-- A message that is no request of the client's for the lease gets nothing acknowledged
to it. -/
theorem acknowledgedTo_other {d next : DhcpServer} {timeMs : Nat} {p mac : Bytes}
    {answer : Option Bytes} {slot : Fin dhcpsMaxIp}
    (ran : dhcpServerProcess d (timeMs % 2 ^ 32) p = .ok (next, answer))
    (served : Served d (timeMs % 2 ^ 32) p next answer)
    (other : ¬ (Requests d.ip p slot ∧ clientOf p = mac)) (later : List (Nat × Bytes)) :
    acknowledgedTo mac (addressOf d.ip slot) (acknowledgements d ((timeMs, p) :: later)) =
      acknowledgedTo mac (addressOf d.ip slot) (acknowledgements next later) := by
  have nothing : acknowledgedTo mac (addressOf d.ip slot)
      ((answer.bind acknowledged).toList.map fun acked =>
        { timeMs := timeMs, mac := acked.1, address := acked.2 }) = [] := by
    rw [acknowledgedTo, List.filter_eq_nil_iff]
    intro ack sent
    obtain ⟨⟨client, address⟩, acks, rfl⟩ := List.mem_map.mp sent
    rw [Option.mem_toList] at acks
    simp only [decide_eq_true_eq]
    rintro ⟨rfl, rfl⟩
    exact other (served_acknowledges served acks)
  rw [acknowledgements_of ran]
  exact (List.filter_append ..).trans (congrArg (· ++ _) nothing)

/-- A lease whose next renewal is in time is still held after another message. -/
theorem held_until_renewal {d next : DhcpServer} {timeMs last before : Nat} {p mac : Bytes}
    {answer : Option Bytes} {slot : Fin dhcpsMaxIp} {later : List (Nat × Bytes)}
    (real : mac ≠ noMac) (served : Served d (timeMs % 2 ^ 32) p next answer)
    (held : Held last before mac (d.lease slot)) (forward : before ≤ timeMs)
    (first : ∀ event ∈ later, timeMs ≤ event.1) (more : renewals d.ip slot mac later ≠ [])
    (inTime : InTime (last :: (renewals d.ip slot mac later).map Prod.fst)) :
    Held last timeMs mac (next.lease slot) := by
  obtain ⟨renewal, others, shape⟩ := List.exists_cons_of_ne_nil more
  have member : renewal ∈ later := by
    have inside : renewal ∈ renewals d.ip slot mac later := by
      rw [shape]
      exact List.mem_cons_self
    exact List.mem_of_mem_filter inside
  rw [shape] at inTime
  have within : timeMs < last + leaseTimeMs :=
    Nat.lt_of_le_of_lt (first renewal member) (List.isChain_cons_cons.mp inTime).1
  exact (handled_keeps (served_handled served) held real forward within).1

theorem renewals_acknowledged {d : DhcpServer} {events : List (Nat × Bytes)} {last before : Nat}
    {mac : Bytes} {slot : Fin dhcpsMaxIp} (real : mac ≠ noMac)
    (held : renewals d.ip slot mac events ≠ [] → Held last before mac (d.lease slot))
    (ordered : Ordered events) (forward : ∀ event ∈ events, before ≤ event.1)
    (inTime : InTime (last :: (renewals d.ip slot mac events).map Prod.fst)) :
    acknowledgedTo mac (addressOf d.ip slot) (acknowledgements d events) =
      (renewals d.ip slot mac events).map fun event =>
        { timeMs := event.1, mac := mac, address := addressOf d.ip slot } := by
  induction events generalizing d last before with
  | nil => rfl
  | cons event later ih =>
    obtain ⟨timeMs, p⟩ := event
    obtain ⟨first, rest⟩ := List.pairwise_cons.mp ordered
    by_cases own : Requests d.ip p slot ∧ clientOf p = mac
    · have more : renewals d.ip slot mac ((timeMs, p) :: later) =
          (timeMs, p) :: renewals d.ip slot mac later :=
        List.filter_cons_of_pos (by simpa using own)
      rw [more] at held inTime ⊢
      obtain ⟨requests, rfl⟩ := own
      have owner := (held (List.cons_ne_nil _ _)).1
      obtain ⟨reply, ran, acks⟩ := request_is_served (timeMs % 2 ^ 32) requests (.inl owner)
      have again := held_from_now d slot.isLt (clientOf p) timeMs
      rw [acknowledgedTo_own ran acks]
      exact congrArg (_ :: ·) (ih (fun _ => again) rest first (List.IsChain.tail inTime))
    · have same : renewals d.ip slot mac ((timeMs, p) :: later) =
          renewals d.ip slot mac later :=
        List.filter_cons_of_neg (by simpa using own)
      rw [same] at held inTime ⊢
      obtain ⟨next, answer, ran, served⟩ := dhcpServerProcess_serves d (timeMs % 2 ^ 32) p
      have stays : renewals d.ip slot mac later ≠ [] → Held last timeMs mac (next.lease slot) :=
        fun more => held_until_renewal real served (held more) (forward _ List.mem_cons_self)
          first more inTime
      rw [acknowledgedTo_other ran served own]
      rw [← served_ip served] at stays inTime ⊢
      exact ih stays rest first inTime

/-- A client that asks for its address again before its lease has run out gets
every one of these requests acknowledged, and so keeps the address for as long as it
goes on, whatever other messages arrive in between and however often the tick
counter wraps. -/
theorem renewals_keep_the_address (d : DhcpServer) {timeMs : Nat} {p : Bytes}
    {slot : Fin dhcpsMaxIp} (requests : Requests d.ip p slot)
    (free : Open (clientOf p) (d.lease slot)) (real : clientOf p ≠ noMac)
    {events : List (Nat × Bytes)} (ordered : Ordered ((timeMs, p) :: events))
    (inTime : InTime (timeMs :: (renewals d.ip slot (clientOf p) events).map Prod.fst)) :
    acknowledgedTo (clientOf p) (addressOf d.ip slot) (acknowledgements d ((timeMs, p) :: events)) =
      { timeMs := timeMs, mac := clientOf p, address := addressOf d.ip slot } ::
        (renewals d.ip slot (clientOf p) events).map fun event =>
          { timeMs := event.1, mac := clientOf p, address := addressOf d.ip slot } := by
  obtain ⟨first, rest⟩ := List.pairwise_cons.mp ordered
  obtain ⟨reply, ran, acks⟩ := request_is_served (timeMs % 2 ^ 32) requests free
  have held := held_from_now d slot.isLt (clientOf p) timeMs
  rw [acknowledgedTo_own ran acks]
  exact congrArg (_ :: ·) (renewals_acknowledged real (fun _ => held) rest first inTime)

/-- A client renews its lease, and another one asks for the address when the lease
would have run out. -/
theorem renewed_lease_stays :
    acknowledgedTo (sixOf 7) (addressOf freshServer.ip 0) (acknowledgements freshServer
      [(1000, requestOf 7 16), (50000000, requestOf 7 16), (90000000, requestOf 9 16),
        (100000000, requestOf 7 16)]) =
      [1000, 50000000, 100000000].map fun timeMs =>
        { timeMs := timeMs, mac := sixOf 7, address := addressOf freshServer.ip 0 } := by
  have first : 0 < dhcpsMaxIp := by decide
  have requests : ∀ byte, Requests freshServer.ip (requestOf byte 16) ⟨0, first⟩ :=
    fun byte => requestOf_requests rfl byte ⟨0, first⟩
  have own : renewals freshServer.ip ⟨0, first⟩ (sixOf 7)
      [(50000000, requestOf 7 16), (90000000, requestOf 9 16), (100000000, requestOf 7 16)] =
      [(50000000, requestOf 7 16), (100000000, requestOf 7 16)] := by
    have other : sixOf 9 ≠ sixOf 7 := by decide
    simp only [renewals, List.filter_cons, List.filter_nil, requests, requestOf_client, true_and,
      decide_true, if_true, other, decide_false, Bool.false_eq_true, if_false]
  have ordered : Ordered [(1000, requestOf 7 16), (50000000, requestOf 7 16),
      (90000000, requestOf 9 16), (100000000, requestOf 7 16)] := by simp [Ordered]
  have real : clientOf (requestOf 7 16) ≠ noMac := by
    rw [requestOf_client]
    decide
  have soon : InTime [1000, 50000000, 100000000] := by
    have day : leaseTimeMs = 86400000 := rfl
    rw [InTime, List.isChain_cons_cons, List.isChain_cons_cons, day]
    exact ⟨by omega, by omega, .singleton _⟩
  have inTime : InTime (1000 :: (renewals freshServer.ip ⟨0, first⟩ (clientOf (requestOf 7 16))
      [(50000000, requestOf 7 16), (90000000, requestOf 9 16),
        (100000000, requestOf 7 16)]).map Prod.fst) := by
    rw [requestOf_client, own, List.map_cons, List.map_cons, List.map_nil]
    exact soon
  have free : Open (clientOf (requestOf 7 16)) (freshServer.lease ⟨0, first⟩) := .inr rfl
  have kept := renewals_keep_the_address freshServer (requests 7) free real ordered inTime
  rw [requestOf_client, own] at kept
  exact kept

end PicowDayClock.DhcpExchange
