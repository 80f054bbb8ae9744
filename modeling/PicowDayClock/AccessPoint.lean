import PicowDayClock.Firmware.Wifi
import PicowDayClock.Library.StepSystem

/-! One access-point session: the server and what lwIP keeps of its
connections. A callback runs only for a connection that was accepted and has
not been closed, aborted or reported in `err` since, with the argument that was
last registered for it. A name of a pcb stands for one connection; it is not
used again. -/
namespace PicowDayClock.AccessPoint
open Wifi

/-- The server, the slot registered for each open connection, and the names
used so far. -/
structure Portal where
  server : TcpServer
  registered : Pcb → Option (Fin tcpIpMaxConnections)
  known : List Pcb

/-- The session just opened: a zeroed server and no connection. -/
def Portal.opened : Portal where
  server := .zero
  registered := fun _ => none
  known := []

/-- What lwIP reports of an open connection, with what `tcp_close` would answer. -/
inductive Report where
  | recv (p : Option Bytes) (closes : ErrT)
  | sent (len : Nat) (closes : ErrT)
  | poll (closes : ErrT)
  | err (err : ErrT)
  deriving DecidableEq

/-- What happens to the server. -/
inductive Event where
  | accept (clientPcb : Option Pcb) (err : ErrT)
  | report (pcb : Pcb) (report : Report)
  deriving DecidableEq

/-- The connection an event belongs to. -/
def Event.pcb : Event → Option Pcb
  | .accept clientPcb _ => clientPcb
  | .report pcb _ => some pcb

/-- The callback for a report. -/
def callback (session : Session) (con : TcpConnectState) : Report → Served
  | .recv p closes => tcpServerRecv session con p closes
  | .sent len closes => tcpServerSent con len closes
  | .poll closes => tcpServerPoll con closes
  | .err err => tcpServerErr con err

/-- lwIP knows the connection no more. -/
def Report.ends (report : Report) (served : Served) : Bool :=
  match report with
  | .err _ => true
  | _ => decide (.unregister ∈ served.calls)

/-- The shared state after a callback. -/
def TcpServer.serve (server : TcpServer) (slot : Fin tcpIpMaxConnections) (served : Served) :
    TcpServer :=
  { server.setSlot slot served.con with
    activeConnections := server.activeConnections - if served.released then 1 else 0
    complete := server.complete || served.complete }

/-- Sets what is registered for one connection. -/
def Portal.register (portal : Portal) (pcb : Pcb) (slot : Option (Fin tcpIpMaxConnections)) :
    Pcb → Option (Fin tcpIpMaxConnections) :=
  fun other => if other = pcb then slot else portal.registered other

/-- The portal after the callback for a registered connection. -/
def Portal.serve (session : Session) (portal : Portal) (pcb : Pcb) (report : Report)
    (slot : Fin tcpIpMaxConnections) : Portal :=
  let served := callback session (portal.server.connections slot) report
  { portal with
    server := TcpServer.serve portal.server slot served
    registered := portal.register pcb (if report.ends served then none else some slot) }

/-- The portal after `tcp_server_accept` for a new connection. -/
def Portal.accept (portal : Portal) (pcb : Pcb) (err : ErrT) : Portal :=
  let accepted := tcpServerAccept portal.server (some pcb) err
  { server := accepted.1
    registered := portal.register pcb accepted.2.1
    known := pcb :: portal.known }

/-- The events of a session. -/
def portal (session : Session) : StepSystem Portal Event where
  step portal event :=
    match event with
    | .accept none err =>
      some { portal with server := (tcpServerAccept portal.server none err).1 }
    | .accept (some pcb) err =>
      if pcb ∈ portal.known then none else some (portal.accept pcb err)
    | .report pcb report =>
      (portal.registered pcb).map fun slot => portal.serve session pcb report slot

/-- A callback closes its connection or leaves it in its slot. -/
theorem callback_outcome (session : Session) (con : TcpConnectState) (report : Report) :
    let served := callback session con report
    (served.con = .zero ∧ served.released = con.serverState ∧ report.ends served = true) ∨
      (served.con.pcb = con.pcb ∧ served.con.serverState = con.serverState ∧
        served.released = false ∧ report.ends served = false) := by
  have outcome : ∀ served : Served, served.Closes con ∨ served.Keeps con →
      (served.con = .zero ∧ served.released = con.serverState ∧
          decide (.unregister ∈ served.calls) = true) ∨
        (served.con.pcb = con.pcb ∧ served.con.serverState = con.serverState ∧
          served.released = false ∧ decide (.unregister ∈ served.calls) = false) := by
    intro served done
    simpa [Served.Closes, Served.Keeps] using done
  cases report with
  | recv p closes => exact outcome _ (tcpServerRecv_outcome session con p closes)
  | sent len closes => exact outcome _ (tcpServerSent_outcome con len closes)
  | poll closes => exact outcome _ (.inl (close_closes con closes .ok))
  | err err => exact .inl ⟨rfl, rfl, rfl⟩

/-- A session with a short page, no base configuration and a store that always
succeeds. -/
def plainSession : Session where
  htmlFormExpanded := ascii "<html></html>"
  gw := ⟨ascii "192.168.4.1", by decide, by decide⟩
  flashConfig := none
  storeConfig := fun _ => true

end PicowDayClock.AccessPoint
