import PicowDayClock.AccessPoint
import PicowDayClock.RequestText

/-! What lwIP makes of the value a callback returns. `ERR_ABRT` says that the
callback has aborted the connection, and any other error from `tcp_server_recv`
that the pbuf was not consumed and is to be delivered again. Closing keeps to
both; two other exits do not. -/
namespace PicowDayClock.LwipContract
open ConfigForm Wifi RequestText

/-- The callbacks, with what `tcp_close` would answer. A connection is named by
its slot. -/
inductive Event where
  | accept (clientPcb : Option Pcb) (err : ErrT)
  | recv (slot : Fin tcpIpMaxConnections) (p : Option Bytes) (closes : ErrT)
  | sent (slot : Fin tcpIpMaxConnections) (len : Nat) (closes : ErrT)
  | poll (slot : Fin tcpIpMaxConnections) (closes : ErrT)

/-- What lwIP sees of a callback. -/
structure Answer where
  calls : List Call
  result : ErrT

def Served.answer (served : Served) : Answer := ⟨served.calls, served.result⟩

/-- The answer of each callback. `tcp_server_accept` only registers callbacks
for the pcb: it neither closes nor aborts it, on any exit. -/
def answer (session : Session) (server : TcpServer) : Event → Answer
  | .accept clientPcb err => ⟨[], (tcpServerAccept server clientPcb err).2.2⟩
  | .recv slot p closes =>
    Served.answer (tcpServerRecv session (server.connections slot) p closes)
  | .sent slot len closes => Served.answer (tcpServerSent (server.connections slot) len closes)
  | .poll slot closes => Served.answer (tcpServerPoll (server.connections slot) closes)

/-- What lwIP takes the answer to mean is what the callback has done. -/
structure Answer.Honest (answer : Answer) : Prop where
  aborts : answer.result = .abrt ↔ .tcpAbort ∈ answer.calls
  consumes : answer.result ≠ .ok → answer.result ≠ .abrt → .pbufFree ∉ answer.calls

/-- A POST whose content length is not a number of at most 15 characters, or
does not end in the text so far. -/
def Malformed (request : Bytes) : Prop := isPost request = true ∧ expectedBodyLen request = none

/-- No connection beyond the fourth is offered, and no malformed request is
received whose connection can be closed. -/
def Regular (server : TcpServer) : Event → Prop
  | .accept (some _) .ok => server.activeConnections < tcpIpMaxConnections
  | .recv slot (some payload) .ok =>
    ¬ Malformed (accumulate (server.connections slot) payload).headers.text
  | _ => True

/-! ## Exits -/

/-- Closing aborts exactly if it says so, whatever it was asked to return. -/
theorem close_honest (con : TcpConnectState) (closes : ErrT) (real : closeErr ≠ .abrt) :
    (Served.answer (tcpCloseClientConnection con (some closes) closeErr)).Honest := by
  by_cases closed : closes = .ok
  · refine ⟨?_, fun _ _ => ?_⟩
    · simp [Served.answer, tcpCloseClientConnection, closed, real]
    · simp [Served.answer, tcpCloseClientConnection, closed]
  · refine ⟨?_, fun _ _ => ?_⟩
    · simp [Served.answer, tcpCloseClientConnection, closed]
    · simp [Served.answer, tcpCloseClientConnection, closed]

/-- An exit with `ERR_OK` and without an abort. -/
structure Plain (served : Served) : Prop where
  result : served.result = .ok
  calls : .tcpAbort ∉ served.calls

theorem Plain.honest {served : Served} (plain : Plain served) :
    (Served.answer served).Honest := by
  refine ⟨⟨fun same => ?_, fun aborts => absurd aborts plain.calls⟩, ?_⟩
  · exact absurd (plain.result.symm.trans same) (by decide)
  · exact fun broken => absurd plain.result broken

theorem routeConfig_plain (session : Session) (con : TcpConnectState) (closes : ErrT) :
    Plain (routeConfig session con con.headers.text closes) := by
  have fits := body_fits con.headers
  unfold routeConfig
  rw [if_neg (by omega)]
  cases submitted session.flashConfig ((bodyOf con.headers.text).getD []) with
  | none => exact ⟨rfl, by simp⟩
  | some config => exact ⟨rfl, by simp⟩

theorem routePage_plain (session : Session) (con : TcpConnectState) (closes : ErrT) :
    Plain (routePage session con closes) := by
  have length : (con.headers.snprintf httpResponseOkHeader).2 = httpResponseOkHeader.length := rfl
  unfold routePage
  simp only [length, okHeader_fits, if_false]
  exact ⟨rfl, by simp⟩

theorem routeRedirect_plain (session : Session) (con : TcpConnectState) (closes : ErrT) :
    Plain (routeRedirect session con closes) := by
  have length : (con.headers.snprintf (httpResponseRedirectHeader session.gw)).2 =
      (httpResponseRedirectHeader session.gw).length := rfl
  unfold routeRedirect
  simp only [length, redirect_fits, if_false]
  exact ⟨rfl, by simp⟩

/-- What is not malformed is answered, or more of it awaited. -/
theorem respond_plain (session : Session) (con : TcpConnectState) (closes : ErrT)
    (proper : ¬ Malformed con.headers.text) : Plain (respond session con closes) := by
  unfold respond
  dsimp only
  cases decided : progress con.headers.text with
  | refused => exact absurd (progress_refused_iff.mp decided) proper
  | waiting => exact ⟨rfl, by simp⟩
  | complete =>
    dsimp only
    split
    · exact routeConfig_plain session con closes
    · split
      · exact routePage_plain session con closes
      · exact routeRedirect_plain session con closes

/-! ## Callbacks -/

theorem Plain.after {served : Served} (plain : Plain served) {calls : List Call}
    (quiet : .tcpAbort ∉ calls) : Plain (served.after calls) := by
  refine ⟨plain.result, ?_⟩
  simp only [Served.after, List.mem_append, not_or]
  exact ⟨quiet, plain.calls⟩

/-- A malformed request has its pbuf freed, and the value says so only if the
connection had to be aborted. -/
theorem malformed_honest_iff (session : Session) (con : TcpConnectState) (payload : Bytes)
    (closes : ErrT) (malformed : Malformed (accumulate con payload).headers.text) :
    (Served.answer (tcpServerRecv session con (some payload) closes)).Honest ↔ closes ≠ .ok := by
  have refused := progress_refused_iff.mpr malformed
  simp only [tcpServerRecv, respond, refused]
  constructor
  · intro honest closed
    have freed := honest.consumes (by simp [Served.answer, Served.after, tcpCloseClientConnection,
      closed]) (by simp [Served.answer, Served.after, tcpCloseClientConnection, closed])
    simp [Served.answer, Served.after] at freed
  · intro open_
    refine ⟨?_, fun _ aborted => ?_⟩
    · simp [Served.answer, Served.after, tcpCloseClientConnection, open_]
    · simp [Served.answer, Served.after, tcpCloseClientConnection, open_] at aborted

theorem recv_honest_iff (session : Session) (con : TcpConnectState) (payload : Bytes)
    (closes : ErrT) :
    (Served.answer (tcpServerRecv session con (some payload) closes)).Honest ↔
      (closes = .ok → ¬ Malformed (accumulate con payload).headers.text) := by
  by_cases malformed : Malformed (accumulate con payload).headers.text
  · rw [malformed_honest_iff session con payload closes malformed]
    simp only [malformed, not_true, imp_false, ne_eq]
  · refine ⟨fun _ _ => malformed, fun _ => Plain.honest ?_⟩
    apply (respond_plain session _ closes malformed).after
    split <;> simp

theorem sent_honest (con : TcpConnectState) (len : Nat) (closes : ErrT) :
    (Served.answer (tcpServerSent con len closes)).Honest := by
  unfold tcpServerSent
  dsimp only
  split
  · exact close_honest _ closes (by decide)
  · exact Plain.honest ⟨rfl, by simp⟩

/-- Without calls, only `ERR_ABRT` is dishonest. -/
theorem silent_honest_iff : (Answer.mk [] result).Honest ↔ result ≠ .abrt := by
  constructor
  · intro honest same
    cases honest.aborts.mp same
  · intro other
    refine ⟨⟨fun same => absurd same other, nofun⟩, fun _ _ => List.not_mem_nil⟩

/-- A connection beyond the fourth is turned away with `ERR_ABRT`, and nothing
has aborted it. -/
theorem accept_honest_iff (server : TcpServer) (clientPcb : Pcb) :
    (answer session server (.accept (some clientPcb) .ok)).Honest ↔
      server.activeConnections < tcpIpMaxConnections := by
  unfold answer
  rw [silent_honest_iff]
  simp only [tcpServerAccept, ne_eq, not_true, if_false]
  split
  · rename_i full
    simp only [not_true, false_iff]
    omega
  · rename_i room
    refine iff_of_true ?_ (by omega)
    split <;> simp

/-- An offer without a pcb or with an error is turned away with `ERR_VAL`. -/
theorem accept_other_honest (session : Session) (server : TcpServer)
    (other : clientPcb = none ∨ err ≠ .ok) :
    (answer session server (.accept clientPcb err)).Honest := by
  unfold answer
  rw [silent_honest_iff]
  cases clientPcb with
  | none => simp [tcpServerAccept]
  | some clientPcb =>
    have failed : err ≠ .ok := other.resolve_left (by simp)
    simp [tcpServerAccept, failed]

/-- In every server state, a callback answers lwIP honestly exactly if it is not
the acceptance of a connection beyond the fourth, and not the receipt of a
malformed request whose connection `tcp_close` closes. -/
theorem answers_are_honest_iff (session : Session) (server : TcpServer) (event : Event) :
    (answer session server event).Honest ↔ Regular server event := by
  cases event with
  | accept clientPcb err =>
    by_cases offered : clientPcb = none ∨ err ≠ .ok
    · refine iff_of_true (accept_other_honest session server offered) ?_
      unfold Regular
      grind
    · obtain ⟨present, fine⟩ := not_or.mp offered
      obtain ⟨clientPcb, rfl⟩ := Option.ne_none_iff_exists'.mp present
      cases not_not.mp fine
      exact accept_honest_iff server clientPcb
  | recv slot p closes =>
    cases p with
    | none => exact iff_of_true (close_honest _ closes (by decide)) trivial
    | some payload =>
      refine (recv_honest_iff session _ payload closes).trans ?_
      by_cases closed : closes = .ok
      · subst closed
        simp [Regular]
      · refine iff_of_true (fun same => absurd same closed) ?_
        unfold Regular
        grind
  | sent slot len closes => exact iff_of_true (sent_honest _ len closes) trivial
  | poll slot closes => exact iff_of_true (close_honest _ closes (by decide)) trivial

/-- The text of a POST without a content length behind the name of it. -/
def noLength : Bytes :=
  ascii "POST / HTTP/1.1" ++ crlf ++ contentLengthKey ++ crlf ++ crlf ++ ascii "body"

/-- The fifth connection of a session is turned away with `ERR_ABRT` and not
aborted. A POST without a length is refused with `ERR_VAL` and its pbuf freed. -/
theorem dishonest_answers :
    (∃ full, (AccessPoint.portal AccessPoint.plainSession).run .opened
        [.accept (some 1) .ok, .accept (some 2) .ok, .accept (some 3) .ok, .accept (some 4) .ok] =
          some full ∧
      (answer AccessPoint.plainSession full.server (.accept (some 5) .ok)).result = .abrt ∧
      .tcpAbort ∉ (answer AccessPoint.plainSession full.server (.accept (some 5) .ok)).calls) ∧
    (∃ first, (AccessPoint.portal AccessPoint.plainSession).run .opened
        [.accept (some 1) .ok] = some first ∧
      (answer AccessPoint.plainSession first.server (.recv 0 (some noLength) .ok)).result = .val ∧
      .pbufFree ∈
        (answer AccessPoint.plainSession first.server (.recv 0 (some noLength) .ok)).calls) := by
  refine ⟨⟨_, rfl, rfl, List.not_mem_nil⟩, ⟨_, rfl, ?_, ?_⟩⟩
  · decide +kernel
  · decide +kernel

end PicowDayClock.LwipContract
