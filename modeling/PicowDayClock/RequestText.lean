import PicowDayClock.Firmware.Wifi

/-! `tcp_server_recv` in terms of texts. The buffer of a connection always holds
a terminated text; what a segment leads to depends on that text and the segment
alone, never on the cells behind the terminator. -/
namespace PicowDayClock.RequestText
open ConfigForm Wifi

/-- What is returned after closing, given what `tcp_close` answers. -/
def closeResult (closes closeErr : ErrT) : ErrT := if closes ≠ .ok then .abrt else closeErr

/-! ## The buffer -/

theorem terminated_iff {array : CharArray size} : array.Terminated ↔ array.text.length < size := by
  constructor
  · exact array.text_length_lt
  · intro short
    by_contra open_
    have whole : array.text = array.cells := cstr_of_nulFree open_
    rw [whole, array.cells_length] at short
    exact absurd short (Nat.lt_irrefl _)

/-- The text after a segment has gone behind it. -/
def appended (text payload : Bytes) : Bytes :=
  text ++ cstr (payload.take (tcpIpBufferSize - 1 - text.length))

theorem appended_length_le {text : Bytes} (short : text.length < tcpIpBufferSize)
    (payload : Bytes) : (appended text payload).length < tcpIpBufferSize := by
  have := cstr_length_le (payload.take (tcpIpBufferSize - 1 - text.length))
  simp only [List.length_take] at this
  simp only [appended, List.length_append]
  omega

/-- Segments that fit and have no NUL are simply put together. -/
theorem appended_of_fits {text payload : Bytes} (free : NulFree payload)
    (fits : text.length + payload.length < tcpIpBufferSize) :
    appended text payload = text ++ payload := by
  have whole : payload.take (tcpIpBufferSize - 1 - text.length) = payload :=
    List.take_of_length_le (by omega)
  rw [appended, whole, cstr_of_nulFree free]

theorem accumulate_text {con : TcpConnectState} (ended : con.headers.Terminated)
    (payload : Bytes) :
    (accumulate con payload).headers.text = appended con.headers.text payload := by
  have short := con.headers.text_length_lt ended
  unfold accumulate
  split
  · dsimp only
    have counts : payload.take (min (tcpIpBufferSize - con.headers.text.length - 1) payload.length) =
        payload.take (tcpIpBufferSize - 1 - con.headers.text.length) := by
      rw [List.take_eq_take_iff]
      omega
    rw [counts]
    apply con.headers.text_copyAt_end
    simp only [List.length_take]
    omega
  · rename_i empty
    have none_ : payload = [] := List.eq_nil_of_length_eq_zero (by omega)
    simp [appended, none_, cstr]

theorem accumulate_terminated {con : TcpConnectState} (ended : con.headers.Terminated)
    (payload : Bytes) : (accumulate con payload).headers.Terminated := by
  rw [terminated_iff, accumulate_text ended]
  exact appended_length_le (terminated_iff.mp ended) payload

/-- A text printed into an array with room for it is the text held. -/
theorem snprintf_text (array : CharArray size) (free : NulFree text) (fits : text.length < size) :
    (array.snprintf text).1.text = text := by
  have whole : text.take (size - 1) = text := List.take_of_length_le (by omega)
  rw [CharArray.snprintf, CharArray.text, whole,
    CharArray.copyAt_cells _ (by simp only [List.length_append, List.length_singleton]; omega)]
  simp only [List.take_zero, List.nil_append, List.append_assoc, List.singleton_append]
  exact cstr_append_nul free _

/-! ## The needles -/

theorem crlf_ne_nil : crlf ≠ [] := List.cons_ne_nil _ _

theorem emptyLine_ne_nil : crlf ++ crlf ≠ [] := List.cons_ne_nil _ _

theorem contentLengthKey_ne_nil : contentLengthKey ≠ [] := by decide

theorem contentLengthKey_length : contentLengthKey.length = 16 := by decide

/-- No line ends inside the key. -/
theorem contentLengthKey_line : 0x0D ∉ contentLengthKey := by decide

theorem postMethod_length : (ascii "POST ").length = 5 := by decide

theorem postMethod_line : 0x0D ∉ ascii "POST " := by decide

/-! ## The request -/

/-- The text is refused exactly if it is a POST that announces no body. -/
theorem progress_refused_iff {request : Bytes} :
    progress request = .refused ↔ isPost request = true ∧ expectedBodyLen request = none := by
  unfold progress
  by_cases post : isPost request = true
  · simp only [post, if_true, true_and]
    cases expectedBodyLen request with
    | none => simp
    | some expected =>
      cases bodyOf request with
      | none => simp
      | some body =>
        dsimp only
        split <;> simp
  · rw [if_neg post]
    split <;> simp [post]

/-- A body begins behind an empty line, so that it never fills the buffer. -/
theorem body_fits (headers : CharArray tcpIpBufferSize) :
    ((bodyOf headers.text).getD []).length < tcpIpBufferSize := by
  have short : headers.text.length ≤ tcpIpBufferSize :=
    (cstr_length_le headers.cells).trans headers.cells_length.le
  cases found : bodyOf headers.text with
  | none => simp [tcpIpBufferSize]
  | some body =>
    obtain ⟨line, occurs, rfl⟩ := Option.map_eq_some_iff.mp found
    have within := strstr_bound occurs
    have size : tcpIpBufferSize = 8192 := rfl
    simp only [Option.getD_some, List.length_drop]
    omega

/-! ## The responses -/

theorem okHeader_free : NulFree httpResponseOkHeader := by decide

theorem okHeader_length : httpResponseOkHeader.length = 78 := by decide

theorem okHeader_fits :
    ¬ (httpResponseOkHeader.length ≤ 0 ∨ httpResponseOkHeader.length ≥ tcpIpBufferSize) := by
  rw [okHeader_length]
  decide

theorem redirect_free (gw : Gateway) : NulFree (httpResponseRedirectHeader gw) := by
  have before : NulFree (ascii "HTTP/1.1 302 Found" ++ crlf ++ ascii "Location: http://") := by
    decide
  have after : NulFree
      (httpConfigUrl ++ (crlf ++ (ascii "Connection: close" ++ (crlf ++ crlf)))) := by decide
  have := (before.append gw.nulFree).append after
  simpa [httpResponseRedirectHeader] using this

theorem redirect_length (gw : Gateway) :
    (httpResponseRedirectHeader gw).length = 73 + gw.text.length := by
  simp only [httpResponseRedirectHeader, List.length_append]
  have : (ascii "HTTP/1.1 302 Found").length = 18 ∧ crlf.length = 2 ∧
      (ascii "Location: http://").length = 17 ∧ httpConfigUrl.length = 13 ∧
      (ascii "Connection: close").length = 17 := by decide
  omega

theorem redirect_fits (gw : Gateway) :
    ¬ ((httpResponseRedirectHeader gw).length ≤ 0 ∨
      (httpResponseRedirectHeader gw).length ≥ tcpIpBufferSize) := by
  have length := redirect_length gw
  have short := gw.short
  have size : tcpIpBufferSize = 8192 := rfl
  omega

/-- What the form submitted over the session's base configuration leads to. -/
def configReply (session : Session) (request : Bytes) : List FlashConfig × Bytes :=
  match submitted session.flashConfig ((bodyOf request).getD []) with
  | none => ([], badReqMsg)
  | some config => ([config], if session.storeConfig config then successMsg else failMsg)

/-- The page with its header. -/
def pageReply (session : Session) : Bytes :=
  httpResponseOkHeader ++
    session.htmlFormExpanded.take (session.htmlFormExpanded.length % 2 ^ 16)

/-- What one segment leads to, on the text it completes or not. -/
structure Reaction where
  stores : List FlashConfig
  written : Bytes
  closedWith : Option ErrT
  text : Bytes

/-- The reaction of the server to the text accumulated so far. -/
def reaction (session : Session) (closes : ErrT) (request : Bytes) : Reaction :=
  match progress request with
  | .refused => ⟨[], [], some (closeResult closes .val), []⟩
  | .waiting => ⟨[], [], none, request⟩
  | .complete =>
    if isPost request then
      let reply := configReply session request
      ⟨reply.1, reply.2, none, request⟩
    else if asksForPage request then ⟨[], pageReply session, none, httpResponseOkHeader⟩
    else
      let redirect := httpResponseRedirectHeader session.gw
      ⟨[], redirect, none, redirect⟩

/-- The callback shows the reaction and leaves its text in the buffer. -/
structure Shows (served : Served) (reaction : Reaction) : Prop where
  stores : served.stores = reaction.stores
  written : served.written = reaction.written
  closedWith : served.closedWith = reaction.closedWith
  text : served.con.headers.text = reaction.text
  terminated : served.con.headers.Terminated

theorem close_shows (con : TcpConnectState) (closes closeErr : ErrT) :
    Shows (tcpCloseClientConnection con (some closes) closeErr)
      ⟨[], [], some (closeResult closes closeErr), []⟩ where
  stores := by
    simp only [Served.stores, tcpCloseClientConnection]
    split <;> rfl
  written := by
    simp only [Served.written, tcpCloseClientConnection]
    split <;> rfl
  closedWith := by simp [Served.closedWith, tcpCloseClientConnection, closeResult]
  text := CharArray.text_zero _
  terminated := by
    rw [terminated_iff]
    simp [tcpCloseClientConnection, TcpConnectState.zero, tcpIpBufferSize]

theorem routeConfig_shows {con : TcpConnectState} (ended : con.headers.Terminated)
    (session : Session) (closes : ErrT) :
    Shows (routeConfig session con con.headers.text closes)
      (let reply := configReply session con.headers.text
      ⟨reply.1, reply.2, none, con.headers.text⟩) := by
  have fits := body_fits con.headers
  unfold routeConfig configReply
  rw [if_neg (by omega)]
  cases submitted session.flashConfig ((bodyOf con.headers.text).getD []) with
  | none => exact ⟨rfl, by simp [Served.written], by simp [Served.closedWith], rfl, ended⟩
  | some config =>
    exact ⟨rfl, by simp [Served.written], by simp [Served.closedWith], rfl, ended⟩

theorem snprintf_terminated (array : CharArray size) (free : NulFree text)
    (fits : text.length < size) : (array.snprintf text).1.Terminated := by
  rw [terminated_iff, snprintf_text array free fits]
  exact fits

theorem routePage_shows (session : Session) (con : TcpConnectState) (closes : ErrT) :
    Shows (routePage session con closes) ⟨[], pageReply session, none, httpResponseOkHeader⟩ := by
  have inside := okHeader_fits
  have fits : httpResponseOkHeader.length < tcpIpBufferSize := by omega
  have text := snprintf_text con.headers okHeader_free fits
  have whole : httpResponseOkHeader.take (httpResponseOkHeader.length % 2 ^ 16) =
      httpResponseOkHeader := by
    apply List.take_of_length_le
    simp [okHeader_length]
  have length : (con.headers.snprintf httpResponseOkHeader).2 = httpResponseOkHeader.length := rfl
  unfold routePage
  simp only [length, inside, if_false]
  exact {
    stores := rfl
    written := by
      simp only [Served.written, List.flatMap_cons, List.flatMap_nil, text, whole, pageReply,
        List.append_nil]
    closedWith := by simp [Served.closedWith]
    text := text
    terminated := snprintf_terminated con.headers okHeader_free fits }

theorem routeRedirect_shows (session : Session) (con : TcpConnectState) (closes : ErrT) :
    Shows (routeRedirect session con closes)
      (let redirect := httpResponseRedirectHeader session.gw
      ⟨[], redirect, none, redirect⟩) := by
  have length := redirect_length session.gw
  have short := session.gw.short
  have size : tcpIpBufferSize = 8192 := rfl
  have inside := redirect_fits session.gw
  have fits : (httpResponseRedirectHeader session.gw).length < tcpIpBufferSize := by omega
  have text := snprintf_text con.headers (redirect_free session.gw) fits
  have whole : (httpResponseRedirectHeader session.gw).take
      ((httpResponseRedirectHeader session.gw).length % 2 ^ 16) =
        httpResponseRedirectHeader session.gw := List.take_of_length_le (by omega)
  have same : (con.headers.snprintf (httpResponseRedirectHeader session.gw)).2 =
      (httpResponseRedirectHeader session.gw).length := rfl
  unfold routeRedirect
  simp only [same, inside, if_false]
  exact {
    stores := rfl
    written := by
      simp only [Served.written, List.flatMap_cons, List.flatMap_nil, text, whole,
        List.append_nil]
    closedWith := by simp [Served.closedWith]
    text := text
    terminated := snprintf_terminated con.headers (redirect_free session.gw) fits }

theorem respond_shows {con : TcpConnectState} (ended : con.headers.Terminated)
    (session : Session) (closes : ErrT) :
    Shows (respond session con closes) (reaction session closes con.headers.text) := by
  unfold respond reaction
  dsimp only
  cases progress con.headers.text with
  | refused => exact close_shows con closes .val
  | waiting => exact ⟨rfl, rfl, by simp [Served.closedWith], rfl, ended⟩
  | complete =>
    dsimp only
    split
    · exact routeConfig_shows ended session closes
    · split
      · exact routePage_shows session con closes
      · exact routeRedirect_shows session con closes

/-- A segment that arrives shows the reaction to the text it makes. -/
theorem recv_shows {con : TcpConnectState} (ended : con.headers.Terminated) (session : Session)
    (payload : Bytes) (closes : ErrT) :
    Shows (tcpServerRecv session con (some payload) closes)
      (reaction session closes (appended con.headers.text payload)) := by
  have shows_ := respond_shows (accumulate_terminated ended payload) session closes
  rw [accumulate_text ended] at shows_
  unfold tcpServerRecv
  dsimp only
  exact {
    stores := by
      rw [← shows_.stores]
      simp only [Served.stores, Served.after]
      split <;> rfl
    written := by
      rw [← shows_.written]
      simp only [Served.written, Served.after]
      split <;> rfl
    closedWith := by
      rw [← shows_.closedWith]
      simp only [Served.closedWith, Served.after]
      split <;> simp
    text := shows_.text
    terminated := shows_.terminated }

/-! ## A fresh connection -/

theorem fresh_text (clientPcb : Pcb) : (TcpConnectState.fresh clientPcb).headers.text = [] :=
  CharArray.text_zero _

theorem fresh_terminated (clientPcb : Pcb) :
    (TcpConnectState.fresh clientPcb).headers.Terminated := by
  rw [terminated_iff, fresh_text]
  decide

/-- A request that fits is seen as it was sent. -/
theorem recv_fresh_shows (session : Session) (clientPcb : Pcb) (closes : ErrT)
    (free : NulFree request) (fits : request.length < tcpIpBufferSize) :
    Shows (tcpServerRecv session (.fresh clientPcb) (some request) closes)
      (reaction session closes request) := by
  have shown := recv_shows (fresh_terminated clientPcb) session request closes
  have one : appended [] request = request := appended_of_fits free (by simpa using fits)
  rwa [fresh_text, one] at shown

end PicowDayClock.RequestText
