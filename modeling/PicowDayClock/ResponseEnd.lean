import PicowDayClock.AccessPoint
import PicowDayClock.RequestText

/-! When a response ends: the connection is closed by the acknowledgement that
completes what has been written, however lwIP reports the bytes piece by piece. -/
namespace PicowDayClock.ResponseEnd
open AccessPoint ConfigForm Wifi RequestText

/-! ## Acknowledgements -/

/-- The connection as acknowledgements arrive, until one of them closes it. -/
def acknowledge (con : TcpConnectState) (closes : ErrT) : List Nat → Served
  | [] => { con := con, released := false, complete := false, calls := [], result := .ok }
  | len :: later =>
    let served := tcpServerSent con len closes
    if served.closedWith = none then acknowledge served.con closes later else served

theorem sent_open {con : TcpConnectState} {len : Nat}
    (short : con.sentLen + len < con.headerLen + con.resultLen) (closes : ErrT) :
    tcpServerSent con len closes =
      { con := { con with sentLen := con.sentLen + len }
        released := false, complete := false, calls := [], result := .ok } := by
  unfold tcpServerSent
  exact if_neg (Nat.not_le.mpr short)

theorem sent_closes {con : TcpConnectState} {len : Nat}
    (enough : con.headerLen + con.resultLen ≤ con.sentLen + len) (closes : ErrT) :
    (tcpServerSent con len closes).closedWith = some (closeResult closes .ok) := by
  unfold tcpServerSent
  dsimp only
  rw [if_pos enough]
  exact (close_shows _ closes .ok).closedWith

/-- Some acknowledgements close the connection exactly if they add up to all that
is still to come. -/
theorem acknowledge_closes (con : TcpConnectState) (closes : ErrT) (acks : List Nat)
    (open_ : con.sentLen < con.headerLen + con.resultLen) :
    (acknowledge con closes acks).closedWith =
      if con.headerLen + con.resultLen ≤ con.sentLen + acks.sum then
        some (closeResult closes .ok)
      else none := by
  induction acks generalizing con with
  | nil =>
    rw [List.sum_nil, Nat.add_zero, if_neg (Nat.not_le.mpr open_)]
    simp [acknowledge, Served.closedWith]
  | cons len later ih =>
    rw [acknowledge, List.sum_cons]
    by_cases enough : con.headerLen + con.resultLen ≤ con.sentLen + len
    · rw [sent_closes enough, if_neg (by simp), if_pos (by omega)]
      exact sent_closes enough closes
    · have short := Nat.not_le.mp enough
      rw [sent_open short, if_pos (by simp [Served.closedWith])]
      have rest := ih { con with sentLen := con.sentLen + len } short
      rw [rest, Nat.add_assoc]

/-! ## What a response announces -/

/-- The lengths that a response leaves for `tcp_server_sent`. -/
structure Announces (served : Served) (con : TcpConnectState) (length : Nat) : Prop where
  sentLen : served.con.sentLen = con.sentLen
  total : served.con.headerLen + served.con.resultLen = length

/-- Where nothing has been acknowledged before, the response is closed behind its last
byte. -/
theorem Announces.closes {served : Served} {clientPcb : Pcb} {length : Nat}
    (announced : Announces served (.fresh clientPcb) length) (some_ : 0 < length)
    (answer : ErrT) (acks : List Nat) :
    (acknowledge served.con answer acks).closedWith =
      if length ≤ acks.sum then some (closeResult answer .ok) else none := by
  have zero : served.con.sentLen = 0 := announced.sentLen
  rw [acknowledge_closes _ answer acks (by rw [zero, announced.total]; exact some_), zero,
    announced.total, Nat.zero_add]

theorem routePage_announces (session : Session) (con : TcpConnectState) (closes : ErrT) :
    Announces (routePage session con closes) con
      (httpResponseOkHeader.length + session.htmlFormExpanded.length) := by
  have length : (con.headers.snprintf httpResponseOkHeader).2 = httpResponseOkHeader.length := rfl
  unfold routePage
  simp only [length, okHeader_fits, if_false]
  exact ⟨rfl, rfl⟩

theorem routeRedirect_announces (session : Session) (con : TcpConnectState) (closes : ErrT) :
    Announces (routeRedirect session con closes) con
      ((httpResponseRedirectHeader session.gw).length + con.resultLen) := by
  have length : (con.headers.snprintf (httpResponseRedirectHeader session.gw)).2 =
      (httpResponseRedirectHeader session.gw).length := rfl
  unfold routeRedirect
  simp only [length, redirect_fits, if_false]
  exact ⟨rfl, rfl⟩

theorem pageReply_length {session : Session}
    (fits : session.htmlFormExpanded.length < 2 ^ 16) :
    (pageReply session).length =
      httpResponseOkHeader.length + session.htmlFormExpanded.length := by
  rw [pageReply, Nat.mod_eq_of_lt fits, List.take_length, List.length_append]

/-- On a fresh connection a request that is no POST is answered with the page or
the redirection, and exactly the length of that is announced. -/
theorem recv_fresh_announces (session : Session)
    (fits : session.htmlFormExpanded.length < 2 ^ 16) (clientPcb : Pcb) (closes : ErrT)
    {request : Bytes} (get : ¬ isPost (appended [] request) = true)
    (complete : progress (appended [] request) = .complete) :
    let served := tcpServerRecv session (.fresh clientPcb) (some request) closes
    served.written = (if asksForPage (appended [] request) then pageReply session
      else httpResponseRedirectHeader session.gw) ∧
    Announces served (.fresh clientPcb) served.written.length := by
  have shown := recv_shows (fresh_terminated clientPcb) session request closes
  rw [fresh_text] at shown
  have text : (accumulate (.fresh clientPcb) request).headers.text = appended [] request := by
    rw [accumulate_text (fresh_terminated clientPcb), fresh_text]
  have kept : (accumulate (.fresh clientPcb) request).sentLen = 0 ∧
      (accumulate (.fresh clientPcb) request).resultLen = 0 := by
    unfold accumulate
    split <;> exact ⟨rfl, rfl⟩
  have written : (tcpServerRecv session (.fresh clientPcb) (some request) closes).written =
      if asksForPage (appended [] request) then pageReply session
      else httpResponseRedirectHeader session.gw := by
    rw [shown.written, reaction, complete]
    dsimp only
    rw [if_neg get]
    split <;> rfl
  refine ⟨written, ?_⟩
  rw [written]
  unfold tcpServerRecv respond
  dsimp only [Served.after]
  rw [text, complete]
  dsimp only
  rw [if_neg get]
  by_cases page : asksForPage (appended [] request) = true
  · rw [if_pos page, if_pos page, pageReply_length fits]
    obtain ⟨sentLen, total⟩ :=
      routePage_announces session (accumulate (.fresh clientPcb) request) closes
    exact ⟨sentLen.trans kept.1, total⟩
  · rw [if_neg page, if_neg page]
    obtain ⟨sentLen, total⟩ :=
      routeRedirect_announces session (accumulate (.fresh clientPcb) request) closes
    rw [kept.2] at total
    exact ⟨sentLen.trans kept.1, total⟩

theorem response_not_empty (session : Session) (page : Prop) [Decidable page] :
    0 < (if page then pageReply session else httpResponseRedirectHeader session.gw).length := by
  split
  · rw [pageReply, List.length_append, okHeader_length]
    omega
  · rw [redirect_length]
    omega

/-- A request that is no POST comes in one segment as the first one of its connection.
However the bytes of the page or of the redirection are then acknowledged, in pieces
of any sizes: the connection stays open until all that has been written is, and the
acknowledgement of the last byte closes it. -/
theorem response_ends_when_acknowledged (session : Session)
    (fits : session.htmlFormExpanded.length < 2 ^ 16) (clientPcb : Pcb) (closes : ErrT)
    {request : Bytes} (get : ¬ isPost (appended [] request) = true)
    (complete : progress (appended [] request) = .complete) (answer : ErrT) (acks : List Nat) :
    let served := tcpServerRecv session (.fresh clientPcb) (some request) closes
    0 < served.written.length ∧
    (acknowledge served.con answer acks).closedWith =
      if served.written.length ≤ acks.sum then some (closeResult answer .ok) else none := by
  obtain ⟨written, announced⟩ := recv_fresh_announces session fits clientPcb closes get complete
  dsimp only
  have some_ : 0 < (tcpServerRecv session (.fresh clientPcb) (some request)
      closes).written.length := by
    rw [written]
    exact response_not_empty session _
  exact ⟨some_, announced.closes some_ answer acks⟩

/-- The page, acknowledged in two pieces. -/
theorem page_ends_with_second_piece :
    let served := tcpServerRecv plainSession (.fresh 0)
      (some (ascii "GET / HTTP/1.1\r\n\r\n")) .ok
    0 < served.written.length ∧
    (acknowledge served.con .ok [40, 51]).closedWith =
      if served.written.length ≤ [40, 51].sum then some (closeResult .ok .ok) else none :=
  response_ends_when_acknowledged plainSession (by decide) 0 .ok (by decide) (by decide) .ok
    [40, 51]

end PicowDayClock.ResponseEnd
