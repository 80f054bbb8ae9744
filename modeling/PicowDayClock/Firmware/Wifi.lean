import PicowDayClock.Firmware.ConfigForm

/-! The configuration server of `wifi.c`: what each lwIP callback does to the
state of its connection and to the server, and the calls it makes. What
`tcp_close` answers is an argument. -/
namespace PicowDayClock.Wifi
open ConfigForm

/-- `err_t`. -/
inductive ErrT where
  | ok | mem | buf | timeout | rte | inProgress | val | wouldBlock | use | already | isConn
  | conn | netif | abrt | rst | clsd | arg
  deriving DecidableEq

/-- A protocol control block of lwIP, by name. The code only ever compares it
with NULL. -/
abbrev Pcb := Nat

/-- The address of the access point as `ipaddr_ntoa` prints it: four numbers
below 256 with dots. -/
structure Gateway where
  text : Bytes
  nulFree : NulFree text
  short : text.length ≤ 15

/-- What stays the same in one access-point session: the expanded page, the
gateway, the base configuration and the answers of `store_config`. -/
structure Session where
  htmlFormExpanded : Bytes
  gw : Gateway
  flashConfig : Option FlashConfig
  storeConfig : FlashConfig → Bool

/-- `tcp_connect_state_t`. `gw`, `store_config` and `flash_config` are copies of
the session's; `serverState` says that `server_state` is not NULL. -/
structure TcpConnectState where
  pcb : Option Pcb
  sentLen : Nat
  headers : CharArray tcpIpBufferSize
  headerLen : Nat
  resultLen : Nat
  serverState : Bool
  deriving DecidableEq

/-- `memset(con_state, 0, sizeof(tcp_connect_state_t))`. -/
def TcpConnectState.zero : TcpConnectState where
  pcb := none
  sentLen := 0
  headers := .zero _
  headerLen := 0
  resultLen := 0
  serverState := false

/-- `tcp_server_t`, without the listening pcb and the session's data. -/
structure TcpServer where
  complete : Bool
  activeConnections : Int
  connections : Fin tcpIpMaxConnections → TcpConnectState

/-- `memset(&server_state, 0, sizeof(tcp_server_t))`. -/
def TcpServer.zero : TcpServer where
  complete := false
  activeConnections := 0
  connections := fun _ => .zero

/-- The calls a callback makes, in their order. `unregister` stands for the five
calls that take the callbacks of a pcb away. -/
inductive Call where
  | tcpRecved (len : Nat)
  | pbufFree
  | storeConfig (config : FlashConfig)
  | tcpWrite (data : Bytes)
  | tcpOutput
  | unregister
  | tcpClose (answer : ErrT)
  | tcpAbort
  deriving DecidableEq

/-- What a callback leaves: its connection's state, whether it has counted
`active_connections` down (`released`) and set `complete`, the calls made and
the value returned. -/
structure Served where
  con : TcpConnectState
  released : Bool
  complete : Bool
  calls : List Call
  result : ErrT

/-- The configurations given to `store_config`. -/
def Served.stores (served : Served) : List FlashConfig :=
  served.calls.filterMap fun
    | .storeConfig config => some config
    | _ => none

/-- The bytes given to `tcp_write`. -/
def Served.written (served : Served) : Bytes :=
  served.calls.flatMap fun
    | .tcpWrite data => data
    | _ => []

/-- The value returned by a callback that has closed its connection. -/
def Served.closedWith (served : Served) : Option ErrT :=
  if .unregister ∈ served.calls then some served.result else none

/-! ## Closing -/

/-- `tcp_close_client_connection` for a slot; `closes` is what `tcp_close`
answers, and `none` says that there is no pcb. -/
def tcpCloseClientConnection (con : TcpConnectState) (closes : Option ErrT) (closeErr : ErrT) :
    Served :=
  match closes with
  | some answer =>
    { con := .zero, released := con.serverState, complete := false
      calls := [.unregister, .tcpClose answer] ++ if answer ≠ .ok then [.tcpAbort] else []
      result := if answer ≠ .ok then .abrt else closeErr }
  | none =>
    { con := .zero, released := con.serverState, complete := false
      calls := [], result := closeErr }

/-- `tcp_server_sent`. -/
def tcpServerSent (con : TcpConnectState) (len : Nat) (closes : ErrT) : Served :=
  let con := { con with sentLen := con.sentLen + len }
  if con.sentLen ≥ con.headerLen + con.resultLen then
    tcpCloseClientConnection con (some closes) .ok
  else { con := con, released := false, complete := false, calls := [], result := .ok }

/-- `tcp_server_poll`. -/
def tcpServerPoll (con : TcpConnectState) (closes : ErrT) : Served :=
  tcpCloseClientConnection con (some closes) .ok

/-- `tcp_server_err`: the pcb is gone already. -/
def tcpServerErr (con : TcpConnectState) (err : ErrT) : Served :=
  tcpCloseClientConnection con none err

/-! ## Receiving -/

/-- The accumulation at the start of `tcp_server_recv`: a segment goes behind
the text in the buffer, as much of it as fits with a terminator. -/
def accumulate (con : TcpConnectState) (payload : Bytes) : TcpConnectState :=
  if payload.length > 0 then
    let currentLen := con.headers.text.length
    let availableSpace := tcpIpBufferSize - currentLen - 1
    let copyLen := min availableSpace payload.length
    { con with headers := con.headers.copyAt currentLen (payload.take copyLen ++ [0]) }
  else con

/-- `"\r\n"`. -/
def crlf : Bytes := [0x0D, 0x0A]

def contentLengthKey : Bytes := ascii "Content-Length: "

/-- The request is a POST. -/
def isPost (request : Bytes) : Bool := startsWith request (ascii "POST ")

/-- The length the request names for its body, 0 if it names none. Nothing if
the line has no end yet, or its value is not a length. -/
def expectedBodyLen (request : Bytes) : Option Int :=
  match strstr request contentLengthKey with
  | none => some 0
  | some contentLenPtr =>
    match strstr (request.drop contentLenPtr) crlf with
    | none => none
    | some lineEnd =>
      let rawLen := lineEnd - 16
      if rawLen = 0 ∨ rawLen ≥ 16 then none
      else
        parseLongBounded ((request.drop (contentLenPtr + 16)).take rawLen) 0 intMax

/-- The text behind the first empty line. -/
def bodyOf (request : Bytes) : Option Bytes :=
  (strstr request (crlf ++ crlf)).map fun body => request.drop (body + 4)

/-- What `tcp_server_recv` decides on the text accumulated so far. -/
inductive Progress where
  | refused | waiting | complete
  deriving DecidableEq

/-- The completeness test of `tcp_server_recv`. -/
def progress (request : Bytes) : Progress :=
  if isPost request then
    match expectedBodyLen request with
    | none => .refused
    | some expected =>
      match bodyOf request with
      | none => .waiting
      | some body => if (body.length : Int) < expected then .waiting else .complete
  else if (strstr request crlf).isNone then .waiting
  else .complete

/-! ## Responses -/

def badReqMsg : Bytes :=
  ascii "HTTP/1.1 400 Bad Request" ++ crlf ++ ascii "Connection: close" ++ crlf ++ crlf ++
    ascii "Invalid config fields."

def successMsg : Bytes :=
  ascii "HTTP/1.1 200 OK" ++ crlf ++ ascii "Connection: close" ++ crlf ++ crlf ++
    ascii "Saved! Rebooting..."

def failMsg : Bytes :=
  ascii "HTTP/1.1 500 Error" ++ crlf ++ ascii "Connection: close" ++ crlf ++ crlf ++
    ascii "Failed to save to Flash."

/-- `HTTP_RESPONSE_OK_HEADER`. -/
def httpResponseOkHeader : Bytes :=
  ascii "HTTP/1.1 200 OK" ++ crlf ++ ascii "Content-Type: text/html; charset=utf-8" ++ crlf ++
    ascii "Connection: close" ++ crlf ++ crlf

/-- `HTTP_RESPONSE_REDIRECT_HEADER` with the gateway's address. -/
def httpResponseRedirectHeader (gw : Gateway) : Bytes :=
  ascii "HTTP/1.1 302 Found" ++ crlf ++ ascii "Location: http://" ++ gw.text ++ httpConfigUrl ++
    crlf ++ ascii "Connection: close" ++ crlf ++ crlf

/-- Route A: the form with a new configuration. -/
def routeConfig (session : Session) (con : TcpConnectState)
    (request : Bytes) (closes : ErrT) : Served :=
  let body := (bodyOf request).getD []
  if body.length ≥ tcpIpBufferSize then
    tcpCloseClientConnection con (some closes) .mem
  else
    match submitted session.flashConfig body with
    | none =>
      { con := con, released := false, complete := false
        calls := [.tcpWrite badReqMsg, .tcpOutput], result := .ok }
    | some config =>
      let stored := session.storeConfig config
      { con := con, released := false, complete := stored
        calls := [.storeConfig config, .tcpWrite (if stored then successMsg else failMsg),
          .tcpOutput]
        result := .ok }

/-- Route B: the page with the form. The length of a write has 16 bits. -/
def routePage (session : Session) (con : TcpConnectState) (closes : ErrT) : Served :=
  let htmlFormLen := session.htmlFormExpanded.length
  let (headers, headerLen) := con.headers.snprintf httpResponseOkHeader
  let con := { con with headers := headers, headerLen := headerLen }
  if headerLen ≤ 0 ∨ headerLen ≥ tcpIpBufferSize then
    tcpCloseClientConnection con (some closes) .mem
  else
    { con := { con with resultLen := htmlFormLen }, released := false, complete := false
      calls := [.tcpWrite (headers.text.take (headerLen % 2 ^ 16)),
        .tcpWrite (session.htmlFormExpanded.take (htmlFormLen % 2 ^ 16)), .tcpOutput]
      result := .ok }

/-- Route C: a redirection to the page. -/
def routeRedirect (session : Session) (con : TcpConnectState) (closes : ErrT) : Served :=
  let (headers, headerLen) := con.headers.snprintf (httpResponseRedirectHeader session.gw)
  let con := { con with headers := headers, headerLen := headerLen }
  if headerLen ≤ 0 ∨ headerLen ≥ tcpIpBufferSize then
    tcpCloseClientConnection con (some closes) .mem
  else
    { con := con, released := false, complete := false
      calls := [.tcpWrite (headers.text.take (headerLen % 2 ^ 16)), .tcpOutput], result := .ok }

/-- The request asks for the page. -/
def asksForPage (request : Bytes) : Bool :=
  startsWith request (ascii "GET " ++ httpConfigUrl) || startsWith request (ascii "GET / ")

/-- The rest of `tcp_server_recv`, on the text accumulated so far. -/
def respond (session : Session) (con : TcpConnectState) (closes : ErrT) : Served :=
  let request := con.headers.text
  match progress request with
  | .refused => tcpCloseClientConnection con (some closes) .val
  | .waiting => { con := con, released := false, complete := false, calls := [], result := .ok }
  | .complete =>
    if isPost request then routeConfig session con request closes
    else if asksForPage request then routePage session con closes
    else routeRedirect session con closes

/-- Puts calls in front. -/
def Served.after (calls : List Call) (served : Served) : Served :=
  { served with calls := calls ++ served.calls }

/-- `tcp_server_recv`. Without a pbuf the other side has closed. -/
def tcpServerRecv (session : Session) (con : TcpConnectState) (p : Option Bytes)
    (closes : ErrT) : Served :=
  match p with
  | none => tcpCloseClientConnection con (some closes) .ok
  | some payload =>
    let received := if payload.length > 0 then [Call.tcpRecved payload.length] else []
    (respond session (accumulate con payload) closes).after
      (received ++ [.pbufFree])

/-! ## Accepting -/

/-- The first slot without a pcb. -/
def TcpServer.freeSlot (server : TcpServer) : Option (Fin tcpIpMaxConnections) :=
  (List.finRange tcpIpMaxConnections).find? fun i => (server.connections i).pcb = none

/-- Changes one slot of the table. -/
def TcpServer.setSlot (server : TcpServer) (slot : Fin tcpIpMaxConnections)
    (con : TcpConnectState) : TcpServer :=
  { server with connections := fun i => if i = slot then con else server.connections i }

/-- The state of a connection that has just been accepted. -/
def TcpConnectState.fresh (clientPcb : Pcb) : TcpConnectState :=
  { TcpConnectState.zero with pcb := some clientPcb, serverState := true }

/-- `tcp_server_accept`: the server afterwards, the slot that is registered with
the pcb, and the value returned. -/
def tcpServerAccept (server : TcpServer) (clientPcb : Option Pcb) (err : ErrT) :
    TcpServer × Option (Fin tcpIpMaxConnections) × ErrT :=
  match clientPcb with
  | none => (server, none, .val)
  | some clientPcb =>
    if err ≠ .ok then (server, none, .val)
    else
      let counted := { server with activeConnections := server.activeConnections + 1 }
      if counted.activeConnections > (tcpIpMaxConnections : Int) then
        ({ counted with activeConnections := counted.activeConnections - 1 }, none, .abrt)
      else
        match counted.freeSlot with
        | none => (counted, none, .mem)
        | some slot => (counted.setSlot slot (.fresh clientPcb), some slot, .ok)

/-! ## What a callback does to its connection -/

/-- The callback has closed its connection and cleared the slot. -/
def Served.Closes (served : Served) (con : TcpConnectState) : Prop :=
  served.con = .zero ∧ served.released = con.serverState ∧ .unregister ∈ served.calls

/-- The connection stays open in its slot. -/
def Served.Keeps (served : Served) (con : TcpConnectState) : Prop :=
  served.con.pcb = con.pcb ∧ served.con.serverState = con.serverState ∧
    served.released = false ∧ .unregister ∉ served.calls

theorem close_closes (con : TcpConnectState) (closes closeErr : ErrT) :
    (tcpCloseClientConnection con (some closes) closeErr).Closes con :=
  ⟨rfl, rfl, List.mem_append_left _ List.mem_cons_self⟩

theorem tcpServerSent_outcome (con : TcpConnectState) (len : Nat) (closes : ErrT) :
    (tcpServerSent con len closes).Closes con ∨ (tcpServerSent con len closes).Keeps con := by
  unfold tcpServerSent
  dsimp only
  split
  · exact .inl (close_closes _ closes .ok)
  · exact .inr ⟨rfl, rfl, rfl, by simp⟩

theorem accumulate_keeps (con : TcpConnectState) (payload : Bytes) :
    (accumulate con payload).pcb = con.pcb ∧
      (accumulate con payload).serverState = con.serverState := by
  unfold accumulate
  split <;> exact ⟨rfl, rfl⟩

theorem routeConfig_outcome (session : Session) (con : TcpConnectState) (request : Bytes)
    (closes : ErrT) :
    (routeConfig session con request closes).Closes con ∨
      (routeConfig session con request closes).Keeps con := by
  unfold routeConfig
  dsimp only
  split
  · exact .inl (close_closes _ closes .mem)
  · split
    · exact .inr ⟨rfl, rfl, rfl, by simp⟩
    · exact .inr ⟨rfl, rfl, rfl, by simp⟩

theorem routePage_outcome (session : Session) (con : TcpConnectState) (closes : ErrT) :
    (routePage session con closes).Closes con ∨ (routePage session con closes).Keeps con := by
  unfold routePage
  dsimp only
  split
  · exact .inl (close_closes _ closes .mem)
  · exact .inr ⟨rfl, rfl, rfl, by simp⟩

theorem routeRedirect_outcome (session : Session) (con : TcpConnectState) (closes : ErrT) :
    (routeRedirect session con closes).Closes con ∨
      (routeRedirect session con closes).Keeps con := by
  unfold routeRedirect
  dsimp only
  split
  · exact .inl (close_closes _ closes .mem)
  · exact .inr ⟨rfl, rfl, rfl, by simp⟩

theorem respond_outcome (session : Session) (con : TcpConnectState) (closes : ErrT) :
    (respond session con closes).Closes con ∨ (respond session con closes).Keeps con := by
  unfold respond
  dsimp only
  cases progress con.headers.text with
  | refused => exact .inl (close_closes con closes .val)
  | waiting => exact .inr ⟨rfl, rfl, rfl, by simp⟩
  | complete =>
    dsimp only
    split
    · exact routeConfig_outcome session con _ closes
    · split
      · exact routePage_outcome session con closes
      · exact routeRedirect_outcome session con closes

/-- Whatever arrives, `tcp_server_recv` closes its connection or leaves it in
its slot. -/
theorem tcpServerRecv_outcome (session : Session) (con : TcpConnectState) (p : Option Bytes)
    (closes : ErrT) :
    (tcpServerRecv session con p closes).Closes con ∨
      (tcpServerRecv session con p closes).Keeps con := by
  cases p with
  | none => exact .inl (close_closes con closes .ok)
  | some payload =>
    obtain ⟨pcb, serverState⟩ := accumulate_keeps con payload
    have quiet : Call.unregister ∉
        (if payload.length > 0 then [Call.tcpRecved payload.length] else []) ++ [.pbufFree] := by
      split <;> simp
    rcases respond_outcome session (accumulate con payload) closes with
      ⟨cleared, released, unregistered⟩ | ⟨kept, state, held, registered⟩
    · exact .inl ⟨cleared, released.trans serverState, List.mem_append_right _ unregistered⟩
    · refine .inr ⟨kept.trans pcb, state.trans serverState, held, ?_⟩
      intro member
      rcases List.mem_append.mp member with before | later
      · exact quiet before
      · exact registered later

end PicowDayClock.Wifi
