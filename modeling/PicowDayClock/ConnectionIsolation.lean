import PicowDayClock.ConnectionTable

/-! Isolation of the connections of one session. An observer writes down all
that the server does for one connection. The run of that connection's events
alone, on a server that nobody else uses, gives the same account, whatever the
others did and whichever slot the connection was given. -/
namespace PicowDayClock.ConnectionIsolation
open Wifi AccessPoint ConnectionTable

/-- What a callback does for its connection: the calls it makes, among them the
writes, the store and the close, and the value it returns. -/
structure Answer where
  calls : List Call
  result : ErrT
  deriving DecidableEq

/-- The answer to an event, if it belongs to the connection watched. -/
def answer (session : Session) (watched : Pcb) (portal : Portal) : Event → Option Answer
  | .accept (some pcb) err =>
    if pcb = watched then some ⟨[], (tcpServerAccept portal.server (some pcb) err).2.2⟩ else none
  | .report pcb report =>
    if pcb = watched then
      (portal.registered pcb).map fun slot =>
        let served := callback session (portal.server.connections slot) report
        ⟨served.calls, served.result⟩
    else none
  | .accept none _ => none

/-- A session with an observer of one connection, who keeps its answers in
order. -/
def watching (session : Session) (watched : Pcb) : StepSystem (Portal × List Answer) Event :=
  (portal session).observed fun portal event log =>
    log ++ (answer session watched portal event).toList

/-- The event belongs to the connection. -/
def concerns (watched : Pcb) (event : Event) : Bool := event.pcb = some watched

/-- The state of a connection, wherever it lies. -/
def conOf (portal : Portal) (pcb : Pcb) : Option TcpConnectState :=
  (portal.registered pcb).map portal.server.connections

/-! ## Where a connection lies -/

theorem conOf_eq {portal : Portal} (registered : portal.registered pcb = some slot) :
    conOf portal pcb = some (portal.server.connections slot) := by
  simp [conOf, registered]

theorem conOf_eq_some {portal : Portal} (found : conOf portal pcb = some con) :
    ∃ slot, portal.registered pcb = some slot ∧ portal.server.connections slot = con :=
  Option.map_eq_some_iff.mp found

/-- The callback of a connection changes its own state or ends it. -/
theorem conOf_serve {portal : Portal} (session : Session) (pcb : Pcb) (report : Report)
    (slot : Fin tcpIpMaxConnections) :
    conOf (portal.serve session pcb report slot) pcb =
      let served := callback session (portal.server.connections slot) report
      if report.ends served then none else some served.con := by
  simp only [conOf, Portal.serve, Portal.register, if_true]
  cases report.ends (callback session (portal.server.connections slot) report) with
  | true => rfl
  | false => simp [TcpServer.serve, TcpServer.setSlot]

/-- The callback of one connection does not touch another one. -/
theorem conOf_serve_other {portal : Portal} (table : Table portal) (session : Session)
    (registered : portal.registered pcb = some slot) (report : Report) (apart : other ≠ pcb) :
    conOf (portal.serve session pcb report slot) other = conOf portal other := by
  have same : (portal.serve session pcb report slot).registered other =
      portal.registered other := by
    simp [Portal.serve, Portal.register, apart]
  unfold conOf
  rw [same]
  cases place : portal.registered other with
  | none => rfl
  | some theirs =>
    have elsewhere : theirs ≠ slot := by
      intro shared
      have mine := (table.slots pcb slot).mp registered
      rw [← shared, (table.slots other theirs).mp place] at mine
      exact apart (Option.some.inj mine)
    simp [Portal.serve, TcpServer.serve, TcpServer.setSlot, elsewhere]

/-- Accepting a new connection does not touch another one. -/
theorem conOf_accept_other {portal : Portal} (table : Table portal) (err : ErrT)
    (apart : other ≠ pcb) : conOf (portal.accept pcb err) other = conOf portal other := by
  have same : (portal.accept pcb err).registered other = portal.registered other := by
    simp [Portal.accept, Portal.register, apart]
  unfold conOf
  rw [same]
  cases place : portal.registered other with
  | none => rfl
  | some theirs =>
    rcases accept_cases table.count pcb err with ⟨refused, -, -, -, shape⟩ | ⟨slot, -, free, -, shape⟩
    · simp [Portal.accept, shape]
    · have elsewhere : theirs ≠ slot := by
        intro shared
        rw [← shared, (table.slots other theirs).mp place] at free
        cases free
      simp [Portal.accept, shape, TcpServer.setSlot, elsewhere]

/-- A connection that was accepted starts from a cleared slot. -/
theorem conOf_accept {portal : Portal} (table : Table portal)
    (accepted : (tcpServerAccept portal.server (some pcb) err).2.2 = .ok) :
    conOf (portal.accept pcb err) pcb = some (.fresh pcb) := by
  rcases accept_cases table.count pcb err with ⟨refused, failed, -, -, shape⟩ | ⟨slot, -, -, -, shape⟩
  · rw [shape] at accepted
    exact absurd accepted failed
  · simp [conOf, Portal.accept, Portal.register, shape, TcpServer.setSlot]

/-- A server without connections accepts one. -/
theorem accept_alone {portal : Portal} (table : Table portal)
    (nobody : ∀ pcb, portal.registered pcb = none) (watched : Pcb) :
    (tcpServerAccept portal.server (some watched) .ok).2.2 = .ok := by
  have empty : used portal.server = ∅ := by
    ext slot
    simp only [mem_used, Finset.notMem_empty, iff_false, not_not]
    cases owner : (portal.server.connections slot).pcb with
    | none => rfl
    | some pcb =>
      have := (table.slots pcb slot).mpr owner
      rw [nobody pcb] at this
      cases this
  rcases accept_cases table.count watched .ok with
    ⟨refused, -, -, reason, -⟩ | ⟨slot, -, -, -, shape⟩
  · rw [empty] at reason
    simp at reason
  · rw [shape]

/-! ## Both runs -/

/-- The portal with everybody and the portal with one connection alone agree on
that connection. -/
structure Agree (watched : Pcb) (together alone : Portal × List Answer) : Prop where
  log : together.2 = alone.2
  con : conOf together.1 watched = conOf alone.1 watched
  known : watched ∈ together.1.known ↔ watched ∈ alone.1.known
  table : Table together.1
  tableAlone : Table alone.1
  nobody : ∀ other, other ≠ watched → alone.1.registered other = none
  /-- The log begins with the answer to the accept. -/
  unheard : watched ∉ together.1.known → together.2 = []

/-- The server has refused the connection. -/
def Refused (pair : Portal × List Answer) : Prop :=
  ∃ first, pair.2.head? = some first ∧ first.result ≠ .ok

theorem opened_agree (watched : Pcb) : Agree watched (.opened, []) (.opened, []) where
  log := rfl
  con := rfl
  known := Iff.rfl
  table := opened_table
  tableAlone := opened_table
  nobody := fun _ _ => rfl
  unheard := fun _ => rfl

/-- What another connection does is not seen. -/
theorem other_step (agree : Agree watched together alone)
    (foreign : concerns watched event = false)
    (stepped : (watching session watched).step together event = some next) :
    Agree watched next alone := by
  obtain ⟨before, log⟩ := together
  obtain ⟨after, logAfter⟩ := next
  obtain ⟨happened, rfl⟩ := StepSystem.observed_step stepped
  have table := step_table agree.table happened
  have unanswered : answer session watched before event = none := by
    cases event with
    | accept clientPcb err =>
      cases clientPcb with
      | none => rfl
      | some pcb =>
        have apart : pcb ≠ watched := by simpa [concerns, Event.pcb] using foreign
        simp [answer, apart]
    | report pcb report =>
      have apart : pcb ≠ watched := by simpa [concerns, Event.pcb] using foreign
      simp [answer, apart]
  have unseen : conOf after watched = conOf before watched ∧
      (watched ∈ after.known ↔ watched ∈ before.known) := by
    cases event with
    | accept clientPcb err =>
      cases clientPcb with
      | none =>
        cases happened
        exact ⟨rfl, Iff.rfl⟩
      | some pcb =>
        have apart : pcb ≠ watched := by simpa [concerns, Event.pcb] using foreign
        simp only [portal, Option.ite_none_left_eq_some, Option.some.injEq] at happened
        obtain ⟨-, rfl⟩ := happened
        refine ⟨conOf_accept_other agree.table err (Ne.symm apart), ?_⟩
        simp [Portal.accept, Ne.symm apart]
    | report pcb report =>
      have apart : pcb ≠ watched := by simpa [concerns, Event.pcb] using foreign
      obtain ⟨slot, registered, rfl⟩ := Option.map_eq_some_iff.mp happened
      exact ⟨conOf_serve_other agree.table session registered report (Ne.symm apart), Iff.rfl⟩
  simp only [unanswered, Option.toList_none, List.append_nil]
  exact { agree with
    con := unseen.1.trans agree.con
    known := unseen.2.trans agree.known
    table := table
    unheard := fun fresh => agree.unheard (fun known => fresh (unseen.2.mpr known)) }

/-- Accepting the watched connection, which the server on its own does as well. -/
theorem own_accept {portal alone : Portal} (agree : Agree watched (portal, log) (alone, log))
    (fresh : watched ∉ portal.known) (err : ErrT)
    (accepted : (tcpServerAccept portal.server (some watched) err).2.2 = .ok) :
    (tcpServerAccept alone.server (some watched) err).2.2 = .ok ∧
      ∀ logAfter, Agree watched (portal.accept watched err, logAfter)
        (alone.accept watched err, logAfter) := by
  have freshAlone : watched ∉ alone.known := fun known => fresh (agree.known.mpr known)
  have fine : err = .ok := by
    rcases accept_cases agree.table.count watched err with
      ⟨refused, failed, -, -, shape⟩ | ⟨slot, fine, -⟩
    · rw [shape] at accepted
      exact absurd accepted failed
    · exact fine
  subst fine
  have nobody : ∀ pcb, alone.registered pcb = none := by
    intro pcb
    by_cases same : pcb = watched
    · subst same
      cases registered : alone.registered pcb with
      | none => rfl
      | some slot => exact absurd (agree.tableAlone.names pcb slot registered) freshAlone
    · exact agree.nobody pcb same
  have also := accept_alone agree.tableAlone nobody watched
  refine ⟨also, fun logAfter => ?_⟩
  exact {
    log := rfl
    con := (conOf_accept agree.table accepted).trans (conOf_accept agree.tableAlone also).symm
    known := by simp [Portal.accept]
    table := accept_table agree.table fresh .ok
    tableAlone := accept_table agree.tableAlone freshAlone .ok
    nobody := by
      intro other apart
      simpa [Portal.accept, Portal.register, apart] using agree.nobody other apart
    unheard := fun fresh => absurd List.mem_cons_self fresh }

/-- A report about the watched connection finds the same state on both sides. -/
theorem own_report {portal alone : Portal} (agree : Agree watched (portal, log) (alone, log))
    (session : Session) (report : Report) (registered : portal.registered watched = some slot) :
    ∃ place, alone.registered watched = some place ∧
      alone.server.connections place = portal.server.connections slot ∧
      ∀ logAfter, Agree watched (portal.serve session watched report slot, logAfter)
        (alone.serve session watched report place, logAfter) := by
  obtain ⟨place, there, same⟩ := conOf_eq_some (agree.con.symm.trans (conOf_eq registered))
  refine ⟨place, there, same, fun logAfter => ?_⟩
  exact {
    log := rfl
    con := by
      change conOf (portal.serve session watched report slot) watched =
        conOf (alone.serve session watched report place) watched
      rw [conOf_serve, conOf_serve, same]
    known := agree.known
    table := serve_table agree.table registered session report
    tableAlone := serve_table agree.tableAlone there session report
    nobody := by
      intro other apart
      simpa [Portal.serve, Portal.register, apart] using agree.nobody other apart
    unheard := fun fresh => absurd (agree.table.names watched slot registered) fresh }

/-- What the watched connection does is seen alike by both, unless it is turned
away. -/
theorem own_step (agree : Agree watched together alone)
    (own : concerns watched event = true)
    (stepped : (watching session watched).step together event = some next) :
    Refused next ∨ ∃ nextAlone, (watching session watched).step alone event = some nextAlone ∧
      Agree watched next nextAlone := by
  obtain ⟨before, log⟩ := together
  obtain ⟨beforeAlone, logAlone⟩ := alone
  obtain ⟨after, logAfter⟩ := next
  obtain ⟨happened, rfl⟩ := StepSystem.observed_step stepped
  obtain rfl : log = logAlone := agree.log
  cases event with
  | accept clientPcb err =>
    obtain rfl : clientPcb = some watched := of_decide_eq_true own
    simp only [portal, Option.ite_none_left_eq_some, Option.some.injEq] at happened
    obtain ⟨fresh, rfl⟩ := happened
    obtain rfl : log = [] := agree.unheard fresh
    have freshAlone : watched ∉ beforeAlone.known := fun known => fresh (agree.known.mpr known)
    by_cases accepted : (tcpServerAccept before.server (some watched) err).2.2 = .ok
    · obtain ⟨also, agrees⟩ := own_accept agree fresh err accepted
      refine .inr ⟨_, ?_, agrees _⟩
      simp [watching, StepSystem.observed, portal, freshAlone, answer, accepted, also]
    · exact .inl ⟨⟨[], (tcpServerAccept before.server (some watched) err).2.2⟩,
        by simp [answer], accepted⟩
  | report pcb report =>
    obtain rfl : pcb = watched := by simpa [concerns, Event.pcb] using own
    obtain ⟨slot, registered, rfl⟩ := Option.map_eq_some_iff.mp happened
    obtain ⟨place, there, same, agrees⟩ := own_report agree session report registered
    refine .inr ⟨_, ?_, agrees _⟩
    simp [watching, StepSystem.observed, portal, there, answer, registered, same]

theorem refused_stays (refused : Refused pair)
    (stepped : (watching session watched).step pair event = some next) : Refused next := by
  obtain ⟨portal, log⟩ := pair
  obtain ⟨after, logAfter⟩ := next
  obtain ⟨-, rfl⟩ := StepSystem.observed_step stepped
  obtain ⟨first, head, failed⟩ := refused
  refine ⟨first, ?_, failed⟩
  cases log with
  | nil => cases head
  | cons answer log => exact head

/-- For every interleaving of events of any number of connections: a connection
that was not turned away gets exactly the answers that the same events get on a
server of its own, and it is open afterwards exactly if it is open there. -/
theorem connections_are_isolated
    (ran : (watching session watched).run (.opened, []) events = some (reached, log))
    (accepted : ∀ first ∈ log.head?, first.result = .ok) :
    ∃ alone, (watching session watched).run (.opened, [])
        (events.filter (concerns watched)) = some (alone, log) ∧
      conOf reached watched = conOf alone watched := by
  have both := StepSystem.run_filter
    (fun _ _ _ _ agree own stepped => own_step agree own stepped)
    (fun _ _ _ _ agree foreign stepped => other_step agree foreign stepped)
    (fun _ _ _ refused stepped => refused_stays refused stepped) (opened_agree watched) ran
  rcases both with ⟨first, head, failed⟩ | ⟨⟨alone, logAlone⟩, ranAlone, agree⟩
  · exact absurd (accepted first head) failed
  · obtain rfl : log = logAlone := agree.log
    exact ⟨alone, ranAlone, agree.con⟩

/-- A client asks for the page in two segments, on a slot that another client has
left with part of a request in it, while a third one asks for it too. -/
def neighbours : List Event :=
  [.accept (some 0) .ok, .report 0 (.recv (some (ascii "POST ")) .ok), .report 0 (.poll .ok),
    .accept (some 1) .ok, .accept (some 2) .ok, .report 1 (.recv (some (ascii "GET /")) .ok),
    .report 2 (.recv (some (ascii "GET / " ++ crlf)) .ok),
    .report 1 (.recv (some (ascii " " ++ crlf)) .ok)]

theorem neighbours_are_isolated :
    ∃ reached log, (watching plainSession 1).run (.opened, []) neighbours = some (reached, log) ∧
      log.length = 3 ∧ reached.registered 1 = some 0 ∧
      ∃ alone, (watching plainSession 1).run (.opened, [])
          (neighbours.filter (concerns 1)) = some (alone, log) ∧
        conOf reached 1 = conOf alone 1 := by
  obtain ⟨reached, log, ran, length, slot, accepted⟩ : ∃ reached log,
      (watching plainSession 1).run (.opened, []) neighbours = some (reached, log) ∧
        log.length = 3 ∧ reached.registered 1 = some 0 ∧ log.head? = some ⟨[], .ok⟩ :=
    ⟨_, _, rfl, rfl, rfl, rfl⟩
  refine ⟨reached, log, ran, length, slot, connections_are_isolated ran ?_⟩
  rw [accepted]
  intro first member
  cases member
  rfl

end PicowDayClock.ConnectionIsolation
