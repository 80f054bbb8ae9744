import PicowDayClock.AccessPoint

/-! The connection table of the server. `active_connections` is raised by
`tcp_server_accept` and lowered in one routine that five callbacks reach; over
every order of events it is the number of slots in use, and lwIP's open
connections and the used slots belong to each other one to one. -/
namespace PicowDayClock.ConnectionTable
open Wifi AccessPoint

/-- The slots in use. -/
def used (server : TcpServer) : Finset (Fin tcpIpMaxConnections) :=
  Finset.univ.filter fun slot => (server.connections slot).pcb ≠ none

/-- The invariant of the table and of what lwIP has registered. -/
structure Table (portal : Portal) : Prop where
  count : portal.server.activeConnections = (used portal.server).card
  slots : ∀ pcb slot, portal.registered pcb = some slot ↔
    (portal.server.connections slot).pcb = some pcb
  pointers : ∀ slot, (portal.server.connections slot).serverState =
    (portal.server.connections slot).pcb.isSome
  names : ∀ pcb slot, portal.registered pcb = some slot → pcb ∈ portal.known

/-! ## Slots in use -/

theorem mem_used {server : TcpServer} {slot : Fin tcpIpMaxConnections} :
    slot ∈ used server ↔ (server.connections slot).pcb ≠ none := by
  simp [used]

theorem used_card_le (server : TcpServer) : (used server).card ≤ tcpIpMaxConnections := by
  have := Finset.card_le_univ (used server)
  rwa [Fintype.card_fin] at this

@[simp] theorem setSlot_self (server : TcpServer) (slot : Fin tcpIpMaxConnections)
    (con : TcpConnectState) : (server.setSlot slot con).connections slot = con := by
  simp [TcpServer.setSlot]

theorem setSlot_other (server : TcpServer) {slot other : Fin tcpIpMaxConnections}
    (con : TcpConnectState) (apart : other ≠ slot) :
    (server.setSlot slot con).connections other = server.connections other := by
  simp [TcpServer.setSlot, apart]

/-- Filling a slot. -/
theorem used_fill {server : TcpServer} {con : TcpConnectState} (full : con.pcb ≠ none)
    (slot : Fin tcpIpMaxConnections) :
    used (server.setSlot slot con) = insert slot (used server) := by
  ext other
  by_cases same : other = slot
  · subst same
    simp [mem_used, full]
  · simp [mem_used, setSlot_other server con same, same]

/-- Clearing a slot. -/
theorem used_clear {server : TcpServer} {con : TcpConnectState} (clear : con.pcb = none)
    (slot : Fin tcpIpMaxConnections) :
    used (server.setSlot slot con) = (used server).erase slot := by
  ext other
  by_cases same : other = slot
  · subst same
    simp [mem_used, clear]
  · simp [mem_used, setSlot_other server con same, same]

/-- While fewer connections than slots are counted, a slot is free. -/
theorem freeSlot_exists {server : TcpServer} (room : (used server).card < tcpIpMaxConnections) :
    ∃ slot, server.freeSlot = some slot ∧ (server.connections slot).pcb = none := by
  cases found : server.freeSlot with
  | some slot =>
    have free := List.find?_some found
    exact ⟨slot, rfl, by simpa using free⟩
  | none =>
    have full : used server = Finset.univ := by
      ext slot
      have taken := List.find?_eq_none.mp found slot (List.mem_finRange slot)
      simpa [mem_used] using taken
    rw [full, Finset.card_univ, Fintype.card_fin] at room
    exact absurd room (Nat.lt_irrefl _)

/-! ## Events -/

theorem opened_table : Table .opened where
  count := by simp [Portal.opened, TcpServer.zero, used, TcpConnectState.zero]
  slots := by simp [Portal.opened, TcpServer.zero, TcpConnectState.zero]
  pointers := by simp [Portal.opened, TcpServer.zero, TcpConnectState.zero]
  names := by simp [Portal.opened]

/-- What `tcp_server_accept` can do: it refuses, for an error or a full table,
and leaves the server as it was, or it fills a free slot. There is always one
when the count allows it. -/
theorem accept_cases {server : TcpServer} (counted : server.activeConnections = (used server).card)
    (pcb : Pcb) (err : ErrT) :
    (∃ refused, refused ≠ .ok ∧ refused ≠ .mem ∧
      (err ≠ .ok ∨ tcpIpMaxConnections ≤ (used server).card) ∧
      tcpServerAccept server (some pcb) err = (server, none, refused)) ∨
    (∃ slot, err = .ok ∧ (server.connections slot).pcb = none ∧
      (used server).card < tcpIpMaxConnections ∧
      tcpServerAccept server (some pcb) err =
        ({ server.setSlot slot (.fresh pcb) with
            activeConnections := server.activeConnections + 1 }, some slot, .ok)) := by
  unfold tcpServerAccept
  dsimp only
  split
  · rename_i failed
    exact .inl ⟨.val, by decide, by decide, .inl failed, rfl⟩
  · rename_i fine
    split
    · refine .inl ⟨.abrt, by decide, by decide, .inr (by omega), ?_⟩
      rw [Int.add_sub_cancel]
    · have room : (used server).card < tcpIpMaxConnections := by omega
      obtain ⟨slot, found, free⟩ := freeSlot_exists room
      have same : TcpServer.freeSlot
          { server with activeConnections := server.activeConnections + 1 } = some slot := found
      rw [same]
      exact .inr ⟨slot, not_not.mp fine, free, room, rfl⟩

/-- Writing the slot of one connection, together with what is registered for
it, keeps slots and connections in step. -/
private theorem slots_written {portal : Portal} (table : Table portal) {pcb : Pcb}
    {slot : Fin tcpIpMaxConnections}
    (only : ∀ other, (portal.server.connections slot).pcb = some other → other = pcb)
    (there : ∀ other, portal.registered pcb = some other → other = slot)
    {con : TcpConnectState} {now : Option (Fin tcpIpMaxConnections)}
    (agree : ∀ other, now = some other ↔ other = slot ∧ con.pcb = some pcb)
    (mine : ∀ other, con.pcb = some other → other = pcb) (other : Pcb)
    (place : Fin tcpIpMaxConnections) :
    portal.register pcb now other = some place ↔
      ((portal.server.setSlot slot con).connections place).pcb = some other := by
  by_cases here : place = slot
  · subst here
    rw [setSlot_self]
    by_cases same : other = pcb
    · subst same
      simpa [Portal.register] using agree place
    · have old : portal.registered other ≠ some place :=
        fun found => same (only other ((table.slots other place).mp found))
      have new : con.pcb ≠ some other := fun found => same (mine other found)
      simp [Portal.register, same, old, new]
  · rw [setSlot_other _ con here]
    by_cases same : other = pcb
    · subst same
      have old : (portal.server.connections place).pcb ≠ some other :=
        fun found => here (there place ((table.slots other place).mpr found))
      have new : now ≠ some place := fun found => here ((agree place).mp found).1
      simp [Portal.register, old, new]
    · simpa [Portal.register, same] using table.slots other place

theorem accept_table {portal : Portal} (table : Table portal) (fresh : pcb ∉ portal.known)
    (err : ErrT) : Table (portal.accept pcb err) := by
  have unregistered : ∀ slot, portal.registered pcb ≠ some slot :=
    fun slot found => fresh (table.names pcb slot found)
  rcases accept_cases table.count pcb err with ⟨refused, -, -, -, same⟩ | ⟨slot, -, free, room, filled⟩
  · have forgotten : portal.register pcb none = portal.registered := by
      funext other
      by_cases same : other = pcb
      · subst same
        simp [Portal.register, Option.eq_none_iff_forall_ne_some.mpr unregistered]
      · simp [Portal.register, same]
    rw [Portal.accept, same]
    exact {
      count := table.count
      slots := by rw [forgotten]; exact table.slots
      pointers := table.pointers
      names := by
        rw [forgotten]
        exact fun other slot found => List.mem_cons_of_mem _ (table.names other slot found) }
  · rw [Portal.accept, filled]
    exact {
      count := by
        have outside : slot ∉ used portal.server := by simpa [mem_used] using free
        change portal.server.activeConnections + 1 =
          ((used (portal.server.setSlot slot (.fresh pcb))).card : Int)
        rw [used_fill (by simp [TcpConnectState.fresh]), Finset.card_insert_of_notMem outside,
          table.count]
        rfl
      slots := slots_written table (by simp [free]) (fun other found => absurd found (unregistered other))
        (by simp [TcpConnectState.fresh, eq_comm]) (by simp [TcpConnectState.fresh, eq_comm])
      pointers := by
        intro place
        by_cases here : place = slot
        · subst here
          simp [TcpServer.setSlot, TcpConnectState.fresh]
        · simpa [TcpServer.setSlot, here] using table.pointers place
      names := by
        intro other place found
        by_cases same : other = pcb
        · simp [same]
        · have old : portal.registered other = some place := by
            simpa [Portal.register, same] using found
          exact List.mem_cons_of_mem _ (table.names other place old) }

theorem serve_table {portal : Portal} (table : Table portal)
    (registered : portal.registered pcb = some slot) (session : Session) (report : Report) :
    Table (portal.serve session pcb report slot) := by
  have owner := (table.slots pcb slot).mp registered
  have pointer : (portal.server.connections slot).serverState = true := by
    rw [table.pointers, owner]
    rfl
  have inside : slot ∈ used portal.server := by simp [mem_used, owner]
  have only : ∀ other, (portal.server.connections slot).pcb = some other → other = pcb := by
    simp [owner, eq_comm]
  have there : ∀ other, portal.registered pcb = some other → other = slot := by
    simp [registered, eq_comm]
  have names : ∀ now, ∀ other place, portal.register pcb now other = some place →
      other ∈ portal.known := by
    intro now other place found
    by_cases same : other = pcb
    · exact same ▸ table.names pcb slot registered
    · exact table.names other place (by simpa [Portal.register, same] using found)
  have pointers : ∀ con : TcpConnectState, con.serverState = con.pcb.isSome → ∀ place,
      ((portal.server.setSlot slot con).connections place).serverState =
        ((portal.server.setSlot slot con).connections place).pcb.isSome := by
    intro con pointing place
    by_cases here : place = slot
    · subst here
      simpa using pointing
    · simpa [setSlot_other _ con here] using table.pointers place
  have serve_count : ∀ served : Served,
      (TcpServer.serve portal.server slot served).activeConnections =
          ((used (TcpServer.serve portal.server slot served)).card : Int) ↔
        portal.server.activeConnections - (if served.released then 1 else 0) =
          ((used (portal.server.setSlot slot served.con)).card : Int) := fun _ => Iff.rfl
  unfold Portal.serve
  rcases callback_outcome session (portal.server.connections slot) report with
    ⟨cleared, released, ends⟩ | ⟨kept, state, held, goes_on⟩
  · exact {
      count := by
        have some_used : 0 < (used portal.server).card := Finset.card_pos.mpr ⟨slot, inside⟩
        rw [serve_count, used_clear (by rw [cleared]; rfl), Finset.card_erase_of_mem inside,
          released, pointer, table.count]
        simp only [if_true]
        omega
      slots := by
        simp only [ends, if_true]
        exact slots_written table only there (by simp [cleared, TcpConnectState.zero])
          (by simp [cleared, TcpConnectState.zero])
      pointers := pointers _ (by rw [cleared]; rfl)
      names := names _ }
  · exact {
      count := by
        rw [serve_count, used_fill (by simp [kept, owner]), Finset.insert_eq_of_mem inside, held,
          table.count]
        simp
      slots := by
        simp only [goes_on]
        exact slots_written table only there (by simp [kept, owner, eq_comm])
          (by simp [kept, owner, eq_comm])
      pointers := pointers _ (by rw [kept, state, owner, pointer]; rfl)
      names := names _ }

theorem step_table {before : Portal} (table : Table before)
    (stepped : (portal session).step before event = some after) : Table after := by
  cases event with
  | accept clientPcb err =>
    cases clientPcb with
    | none =>
      cases stepped
      exact table
    | some pcb =>
      simp only [portal, Option.ite_none_left_eq_some, Option.some.injEq] at stepped
      obtain ⟨fresh, rfl⟩ := stepped
      exact accept_table table fresh err
  | report pcb report =>
    obtain ⟨slot, open_, rfl⟩ := Option.map_eq_some_iff.mp stepped
    exact serve_table table open_ session report

theorem run_table (ran : (portal session).run .opened events = some reached) : Table reached :=
  StepSystem.run_invariant (fun _ _ _ table stepped => step_table table stepped) opened_table ran

/-- The table of a portal is intact. -/
structure Intact (portal : Portal) : Prop where
  count : portal.server.activeConnections = (used portal.server).card
  bounds : 0 ≤ portal.server.activeConnections ∧
    portal.server.activeConnections ≤ tcpIpMaxConnections
  exclusive : ∀ pcb other slot, portal.registered pcb = some slot →
    portal.registered other = some slot → pcb = other
  pointers : ∀ slot, (portal.server.connections slot).serverState = true ↔
    (portal.server.connections slot).pcb ≠ none

/-- After any sequence of events `active_connections` is the number of slots in
use, no two open connections share a slot, a slot points to the server exactly
when it is in use, and no accept finds the table full unexpectedly. -/
theorem table_stays_intact (ran : (portal session).run .opened events = some reached) :
    Intact reached ∧
      ∀ clientPcb err, (tcpServerAccept reached.server clientPcb err).2.2 ≠ .mem := by
  have table := run_table ran
  refine ⟨⟨table.count, ?_, ?_, ?_⟩, ?_⟩
  · have := used_card_le reached.server
    rw [table.count]
    omega
  · intro pcb other slot mine theirs
    have owner := (table.slots pcb slot).mp mine
    rw [(table.slots other slot).mp theirs] at owner
    exact (Option.some.inj owner).symm
  · intro slot
    rw [table.pointers slot, Option.isSome_iff_ne_none]
  · intro clientPcb err
    cases clientPcb with
    | none => simp [tcpServerAccept]
    | some pcb =>
      rcases accept_cases table.count pcb err with
        ⟨refused, -, room, -, same⟩ | ⟨slot, -, -, -, filled⟩
      · rw [same]
        exact room
      · rw [filled]
        simp

/-- Five clients, of which the last is turned away; one close fails, one
connection is lost, and a sixth client takes a slot that became free. -/
def crowded : List Event :=
  [.accept (some 0) .ok, .accept (some 1) .ok, .accept (some 2) .ok, .accept (some 3) .ok,
    .accept (some 4) .ok, .report 1 (.poll .mem), .report 2 (.err .rst), .accept (some 5) .ok,
    .report 5 (.recv (some (ascii "GET ")) .ok)]

theorem crowded_table_is_intact :
    ∃ reached, (portal plainSession).run .opened crowded = some reached ∧
      reached.server.activeConnections = 3 ∧ reached.registered 5 = some 1 ∧ Intact reached := by
  obtain ⟨reached, ran, count, slot⟩ : ∃ reached,
      (portal plainSession).run .opened crowded = some reached ∧
        reached.server.activeConnections = 3 ∧ reached.registered 5 = some 1 :=
    ⟨_, rfl, rfl, rfl⟩
  exact ⟨reached, ran, count, slot, (table_stays_intact ran).1⟩

end PicowDayClock.ConnectionTable
