import PicowDayClock.Firmware.Wifi
import PicowDayClock.Library.Checked

/-! `tcp_server_recv` once more, with every access to its buffers checked: what it
reads, copies and subtracts, in the order of `wifi.c`. -/
namespace PicowDayClock.Wifi
open ConfigForm Checked

/-- The accumulation at the start. The count of bytes copied has 16 bits. -/
def accumulateIn (con : TcpConnectState) (payload : Bytes) : Checked TcpConnectState :=
  if payload.length > 0 then do
    let current ← con.headers.memory.string
    let currentLen := current.length
    let unused ← sub tcpIpBufferSize currentLen
    let availableSpace ← sub unused 1
    let copyLen := if payload.length > availableSpace then availableSpace else payload.length
    let headers ← con.headers.put currentLen (payload.take (copyLen % 2 ^ 16))
    let headers ← headers.put (currentLen + copyLen) [0]
    .ok { con with headers := headers }
  else .ok con

/-- The length the request names for its body, by way of `content_len_buf`. -/
def expectedBodyLenIn (con : TcpConnectState) (request : Bytes) : Checked (Option Int) :=
  match strstr request contentLengthKey with
  | none => .ok (some 0)
  | some contentLenPtr =>
    match strstr (request.drop contentLenPtr) crlf with
    | none => .ok none
    | some lineEnd => do
      let rawLen ← sub lineEnd 16
      if rawLen = 0 ∨ rawLen ≥ 16 then .ok none
      else do
        let digits ← con.headers.memory.read (contentLenPtr + 16) rawLen
        let contentLenBuf ← (CharArray.zero 16).put 0 digits
        let text ← contentLenBuf.memory.string
        .ok (parseLongBounded text 0 intMax)

/-- The text behind the first empty line, with the place it starts at. -/
def bodyIn (con : TcpConnectState) (request : Bytes) : Checked (Option (Nat × Bytes)) :=
  match strstr request (crlf ++ crlf) with
  | none => .ok none
  | some body => do
    let text ← Memory.string (con.headers.memory.drop (body + 4))
    .ok (some (body + 4, text))

/-- The completeness test. -/
def progressIn (con : TcpConnectState) (request : Bytes) : Checked Progress :=
  if isPost request then do
    let expected ← expectedBodyLenIn con request
    match expected with
    | none => .ok .refused
    | some expected => do
      let body ← bodyIn con request
      match body with
      | none => .ok .waiting
      | some (_, text) =>
        if (text.length : Int) < expected then .ok .waiting else .ok .complete
  else if (strstr request crlf).isNone then .ok .waiting
  else .ok .complete

/-- What the form that has been copied to `body_copy` leads to. -/
def configured (session : Session) (con : TcpConnectState) (bodyCopy : Bytes) : Served :=
  match submitted session.flashConfig bodyCopy with
  | none =>
    { con := con, released := false, complete := false
      calls := [.tcpWrite badReqMsg, .tcpOutput], result := .ok }
  | some config =>
    let stored := session.storeConfig config
    { con := con, released := false, complete := stored
      calls := [.storeConfig config, .tcpWrite (if stored then successMsg else failMsg),
        .tcpOutput]
      result := .ok }

/-- Route A. A body that is too long closes the connection, any other is copied
with its terminator. -/
def routeConfigIn (session : Session) (con : TcpConnectState) (request : Bytes)
    (closes : ErrT) : Checked Served := do
  let body ← bodyIn con request
  match body with
  | none => .ok (configured session con [])
  | some (start, text) =>
    let bodyLen := text.length
    if bodyLen ≥ tcpIpBufferSize then .ok (tcpCloseClientConnection con (some closes) .mem)
    else do
      let bytes ← con.headers.memory.read start (bodyLen + 1)
      let bodyCopy ← Memory.write (List.replicate tcpIpBufferSize none) 0 bytes
      let copied ← bodyCopy.string
      .ok (configured session con copied)

/-- The rest of `tcp_server_recv`. The two other routes print into the buffer
with its size given. -/
def respondIn (session : Session) (con : TcpConnectState) (closes : ErrT) : Checked Served := do
  let request ← con.headers.memory.string
  let progress ← progressIn con request
  match progress with
  | .refused => .ok (tcpCloseClientConnection con (some closes) .val)
  | .waiting => .ok { con := con, released := false, complete := false, calls := [], result := .ok }
  | .complete =>
    if isPost request then routeConfigIn session con request closes
    else if asksForPage request then .ok (routePage session con closes)
    else .ok (routeRedirect session con closes)

/-- `tcp_server_recv` for a segment. -/
def tcpServerRecvIn (session : Session) (con : TcpConnectState) (payload : Bytes)
    (closes : ErrT) : Checked Served := do
  let received := if payload.length > 0 then [Call.tcpRecved payload.length] else []
  let con ← accumulateIn con payload
  let served ← respondIn session con closes
  .ok (served.after (received ++ [.pbufFree]))

end PicowDayClock.Wifi
