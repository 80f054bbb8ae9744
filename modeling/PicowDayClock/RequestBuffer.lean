import PicowDayClock.AccessPoint
import PicowDayClock.Firmware.WifiMemory
import PicowDayClock.RequestText

/-! The buffer of a connection. Its text is measured again in every call, whatever
the other side has sent and whatever the responses have left in it, so that all
lengths rest on the terminator inside it. -/
namespace PicowDayClock.RequestBuffer
open ConfigForm Wifi RequestText Checked
open AccessPoint (plainSession)

/-! ## One segment -/

section segment

variable {con : TcpConnectState} (ended : con.headers.Terminated)
include ended

/-- A segment is copied into what is left of the buffer, with a NUL behind it. -/
theorem accumulateIn_ok (payload : Bytes) :
    accumulateIn con payload = .ok (accumulate con payload) := by
  have short := con.headers.text_length_lt ended
  have size : tcpIpBufferSize = 8192 := rfl
  rw [accumulateIn, accumulate]
  split
  · generalize space : tcpIpBufferSize - con.headers.text.length - 1 = availableSpace
    have counts : (if payload.length > availableSpace then availableSpace else payload.length) =
        min availableSpace payload.length := by
      split <;> omega
    have narrow : min availableSpace payload.length % 2 ^ 16 =
        min availableSpace payload.length := Nat.mod_eq_of_lt (by omega)
    have copied : (payload.take (min availableSpace payload.length)).length =
        min availableSpace payload.length := by
      rw [List.length_take]
      omega
    rw [CharArray.memory_string ended, ok_bind]
    dsimp only
    rw [sub_ok (by omega), ok_bind, sub_ok (by omega), ok_bind, space, counts, narrow,
      CharArray.put_ok _ (by omega), ok_bind,
      CharArray.put_ok _ (by rw [List.length_singleton]; omega), ok_bind]
    have inside : con.headers.text.length +
        (payload.take (min availableSpace payload.length)).length + [(0 : Byte)].length ≤
          tcpIpBufferSize := by
      rw [copied, List.length_singleton]
      omega
    have joined := con.headers.copyAt_copyAt inside
    rw [copied] at joined
    rw [joined]
  · rfl

/-- A line ends behind the key it begins with, and no more digits are copied
than there is room for. -/
theorem expectedBodyLenIn_ok :
    expectedBodyLenIn con con.headers.text = .ok (expectedBodyLen con.headers.text) := by
  have held : con.headers.memory.Holds con.headers.text := by
    have whole := (CharArray.memory_holds ended).take con.headers.text.length
    rwa [List.take_left] at whole
  rw [expectedBodyLenIn, expectedBodyLen]
  cases found : strstr con.headers.text contentLengthKey with
  | none => rfl
  | some contentLenPtr =>
    dsimp only
    cases ends : strstr (con.headers.text.drop contentLenPtr) crlf with
    | none => rfl
    | some lineEnd =>
      have behind : 16 ≤ lineEnd := by
        have := strstr_behind contentLengthKey_line (strstr_eq_some_iff.mp found).2.1
          (strstr_eq_some_iff.mp ends).2.1
        rwa [contentLengthKey_length] at this
      have inside := strstr_bound ends
      rw [List.length_drop] at inside
      dsimp only
      rw [sub_ok behind, ok_bind]
      split
      · rfl
      · rename_i fits
        have copied : con.headers.memory.read (contentLenPtr + 16) (lineEnd - 16) =
            .ok ((con.headers.text.drop (contentLenPtr + 16)).take (lineEnd - 16)) :=
          Memory.read_ok held (by omega)
        have digits : ((con.headers.text.drop (contentLenPtr + 16)).take (lineEnd - 16)).length <
            16 := by
          rw [List.length_take]
          omega
        have free := (con.headers.nulFree_text.drop (contentLenPtr + 16)).take (lineEnd - 16)
        obtain ⟨terminated, text⟩ := CharArray.copyAt_zero free digits
        rw [copied, ok_bind, CharArray.put_ok _ (by omega), ok_bind,
          CharArray.memory_string terminated, text, ok_bind]


/-- The body ends at the terminator of the text it is in. -/
theorem bodyIn_ok :
    bodyIn con con.headers.text =
      .ok ((strstr con.headers.text (crlf ++ crlf)).map fun body =>
        (body + 4, con.headers.text.drop (body + 4))) := by
  rw [bodyIn]
  cases found : strstr con.headers.text (crlf ++ crlf) with
  | none => rfl
  | some body =>
    have inside : body + 4 ≤ con.headers.text.length := strstr_bound found
    have held := (CharArray.memory_holds ended).drop (body + 4)
    rw [List.drop_append_of_le_length inside] at held
    dsimp only
    rw [held.string (con.headers.nulFree_text.drop (body + 4)), ok_bind]
    rfl

theorem progressIn_ok : progressIn con con.headers.text = .ok (progress con.headers.text) := by
  rw [progressIn, progress]
  split
  · rw [expectedBodyLenIn_ok ended, ok_bind]
    cases expectedBodyLen con.headers.text with
    | none => rfl
    | some expected =>
      dsimp only
      rw [bodyIn_ok ended, ok_bind, bodyOf]
      cases strstr con.headers.text (crlf ++ crlf) with
      | none => rfl
      | some body =>
        simp only [Option.map_some]
        split <;> rfl
  · split <;> rfl

/-- The body is short enough for its copy, and the copy is what is parsed. -/
theorem routeConfigIn_ok (session : Session) (closes : ErrT) :
    routeConfigIn session con con.headers.text closes =
      .ok (routeConfig session con con.headers.text closes) := by
  have fits := body_fits con.headers
  have short := con.headers.text_length_lt ended
  rw [routeConfigIn, routeConfig, bodyIn_ok ended, ok_bind]
  rw [if_neg (by omega), bodyOf]
  cases found : strstr con.headers.text (crlf ++ crlf) with
  | none => rfl
  | some body =>
    have inside : body + 4 ≤ con.headers.text.length := strstr_bound found
    have free := con.headers.nulFree_text.drop (body + 4)
    have narrow : (con.headers.text.drop (body + 4)).length + 1 ≤ tcpIpBufferSize := by
      rw [List.length_drop]
      omega
    have read : con.headers.memory.read (body + 4) ((con.headers.text.drop (body + 4)).length + 1) =
        .ok (con.headers.text.drop (body + 4) ++ [0]) := by
      rw [Memory.read_ok (CharArray.memory_holds ended), List.drop_append_of_le_length inside,
        List.take_of_length_le (by simp)]
      rw [List.length_append, List.length_drop, List.length_singleton]
      omega
    have blank : Memory.Holds (List.replicate tcpIpBufferSize none) [] := List.nil_prefix
    have room : ([] : Bytes).length + (con.headers.text.drop (body + 4) ++ [0]).length ≤
        (List.replicate tcpIpBufferSize (none : Option Byte)).length := by
      rw [List.length_append, List.length_replicate, List.length_nil, Nat.zero_add]
      exact narrow
    obtain ⟨bodyCopy, written, -, held⟩ := blank.write room
    simp only [Option.map_some, Option.getD_some]
    rw [if_neg (by omega), read, ok_bind]
    rw [List.length_nil] at written
    rw [written, ok_bind, held.string free, ok_bind]
    rfl

theorem respondIn_ok (session : Session) (closes : ErrT) :
    respondIn session con closes = .ok (respond session con closes) := by
  rw [respondIn, respond, CharArray.memory_string ended, ok_bind, progressIn_ok ended, ok_bind]
  cases progress con.headers.text with
  | refused | waiting => rfl
  | complete =>
    dsimp only
    split
    · exact routeConfigIn_ok ended session closes
    · split <;> rfl

/-- With a terminator in the buffer no access goes wrong, and the call does what
it does to texts. -/
theorem tcpServerRecvIn_ok (session : Session) (payload : Bytes) (closes : ErrT) :
    tcpServerRecvIn session con payload closes =
      .ok (tcpServerRecv session con (some payload) closes) := by
  rw [tcpServerRecvIn, tcpServerRecv]
  rw [accumulateIn_ok ended, ok_bind, respondIn_ok (accumulate_terminated ended payload), ok_bind]

end segment

/-! ## What is in the buffer -/

/-- The first bytes of what has come so far, with one more segment. -/
theorem appended_take (before : Bytes) {payload : Bytes} (free : NulFree payload) :
    appended (before.take (tcpIpBufferSize - 1)) payload =
      (before ++ payload).take (tcpIpBufferSize - 1) := by
  have room : tcpIpBufferSize - 1 - (before.take (tcpIpBufferSize - 1)).length =
      tcpIpBufferSize - 1 - before.length := by
    rw [List.length_take]
    omega
  rw [appended, room, cstr_of_nulFree (free.take _), List.take_append]

/-- No response has been written, and the connection is still open. -/
def Unanswered (calls : List Call) : Prop :=
  (∀ data, Call.tcpWrite data ∉ calls) ∧ Call.unregister ∉ calls

theorem Unanswered.of_append {calls later : List Call} (unanswered : Unanswered (calls ++ later)) :
    Unanswered calls ∧ Unanswered later := by
  obtain ⟨silent, open_⟩ := unanswered
  simp only [List.mem_append, not_or] at silent open_
  exact ⟨⟨fun data => (silent data).1, open_.1⟩, fun data => (silent data).2, open_.2⟩

/-- A call that writes nothing and does not close leaves the text it has read. -/
theorem unanswered_text {con : TcpConnectState} (ended : con.headers.Terminated)
    (session : Session) (payload : Bytes) (closes : ErrT)
    (unanswered : Unanswered (tcpServerRecv session con (some payload) closes).calls) :
    (tcpServerRecv session con (some payload) closes).con.headers.text =
      appended con.headers.text payload := by
  have shown := recv_shows ended session payload closes
  obtain ⟨silent, open_⟩ := unanswered
  have written : (tcpServerRecv session con (some payload) closes).written = [] := by
    rw [Served.written, List.flatMap_eq_nil_iff]
    intro call made
    cases call with
    | tcpWrite data => exact absurd made (silent data)
    | _ => rfl
  have closedWith : (tcpServerRecv session con (some payload) closes).closedWith = none := by
    rw [Served.closedWith, if_neg open_]
  rw [shown.written] at written
  rw [shown.closedWith] at closedWith
  rw [shown.text]
  revert written closedWith
  unfold reaction
  cases progress (appended con.headers.text payload) with
  | refused => exact fun _ closed => by cases closed
  | waiting => exact fun _ _ => rfl
  | complete =>
    dsimp only
    split
    · exact fun _ _ => rfl
    · split
      · exact fun written _ => absurd (List.append_eq_nil_iff.mp written).1 (by decide)
      · intro written _
        have := congrArg List.length written
        rw [redirect_length, List.length_nil] at this
        omega

/-! ## Any number of segments -/

/-- Segments given to `tcp_server_recv` one after the other, each with what
`tcp_close` would answer: the connection afterwards and the calls made. -/
def receiveAll (session : Session) (con : TcpConnectState) :
    List (Bytes × ErrT) → Checked (TcpConnectState × List Call)
  | [] => .ok (con, [])
  | (payload, closes) :: segments => do
    let served ← tcpServerRecvIn session con payload closes
    let (last, calls) ← receiveAll session served.con segments
    .ok (last, served.calls ++ calls)

/-- All the bytes delivered. -/
def delivered (segments : List (Bytes × ErrT)) : Bytes := segments.flatMap Prod.fst

theorem receiveAll_ok (session : Session) {con : TcpConnectState} (ended : con.headers.Terminated)
    (segments : List (Bytes × ErrT)) :
    ∃ last calls, receiveAll session con segments = .ok (last, calls) ∧
      last.headers.Terminated ∧
      ∀ before, con.headers.text = before.take (tcpIpBufferSize - 1) → Unanswered calls →
        (∀ segment ∈ segments, NulFree segment.1) →
        last.headers.text = (before ++ delivered segments).take (tcpIpBufferSize - 1) := by
  induction segments generalizing con with
  | nil =>
    refine ⟨con, [], rfl, ended, fun before text _ _ => ?_⟩
    rw [text, delivered, List.flatMap_nil, List.append_nil]
  | cons segment segments ih =>
    obtain ⟨payload, closes⟩ := segment
    have one := recv_shows ended session payload closes
    obtain ⟨last, calls, later, terminated, texts⟩ := ih one.terminated
    refine ⟨last, (tcpServerRecv session con (some payload) closes).calls ++ calls, ?_, terminated,
      ?_⟩
    · rw [receiveAll, tcpServerRecvIn_ok ended, ok_bind, later, ok_bind]
    · intro before text unanswered free
      obtain ⟨here, there⟩ := unanswered.of_append
      obtain ⟨first, others⟩ := List.forall_mem_cons.mp free
      have next : (tcpServerRecv session con (some payload) closes).con.headers.text =
          (before ++ payload).take (tcpIpBufferSize - 1) := by
        rw [unanswered_text ended session payload closes here, text, appended_take before first]
      rw [texts (before ++ payload) next there others, delivered, delivered, List.flatMap_cons,
        List.append_assoc]

theorem terminated_index {array : CharArray tcpIpBufferSize} (ended : array.Terminated) :
    ∃ index ≤ 8191, array.cells[index]? = some 0 := by
  obtain ⟨index, found⟩ := List.mem_iff_getElem?.mp ended
  have inside := (List.getElem?_eq_some_iff.mp found).1
  rw [array.cells_length] at inside
  exact ⟨index, Nat.le_of_lt_succ inside, found⟩

/-- Whatever is delivered on a connection, no call has an access out of range
and none subtracts more than there is, so that the lengths of the digits and of
the body are what their copies have room for. The buffer keeps a terminator, and
no next segment makes a body too long for its copy. Of data without NULs it holds
the first 8191 bytes for as long as the connection is open and nothing has been
written. -/
theorem buffer_stays_safe (session : Session) (clientPcb : Pcb)
    (segments : List (Bytes × ErrT)) :
    ∃ con calls, receiveAll session (.fresh clientPcb) segments = .ok (con, calls) ∧
      (∃ index ≤ 8191, con.headers.cells[index]? = some 0) ∧
      (∀ payload, ∀ body ∈ bodyOf (accumulate con payload).headers.text,
        body.length < tcpIpBufferSize) ∧
      (Unanswered calls → (∀ segment ∈ segments, NulFree segment.1) →
        con.headers.text = (delivered segments).take 8191) := by
  obtain ⟨con, calls, received, ended, texts⟩ :=
    receiveAll_ok session (fresh_terminated clientPcb) segments
  refine ⟨con, calls, received, terminated_index ended, ?_, ?_⟩
  · intro payload body found
    have fits := body_fits (accumulate con payload).headers
    rwa [found, Option.getD_some] at fits
  · intro unanswered free
    exact texts [] (fresh_text clientPcb) unanswered free

/-- A POST with a length that is none. -/
def lengthless : Bytes := ascii "POST / HTTP/1.1\r\nContent-Length: x\r\n"

/-- It is refused without a response, and closing clears the buffer. -/
theorem refused_post_is_cleared :
    ∃ con calls, receiveAll plainSession (.fresh 0) [(lengthless, .ok)] = .ok (con, calls) ∧
      (∀ data, Call.tcpWrite data ∉ calls) ∧ NulFree lengthless ∧
      con.headers.text ≠ lengthless.take 8191 := by
  have ended := fresh_terminated 0
  have text : appended (TcpConnectState.fresh 0).headers.text lengthless = lengthless := by
    rw [fresh_text, appended_of_fits (by decide) (by decide +kernel), List.nil_append]
  have refused : progress lengthless = .refused := by decide +kernel
  have served : tcpServerRecv plainSession (.fresh 0) (some lengthless) .ok =
      { con := .zero, released := true, complete := false
        calls := [.tcpRecved 36, .pbufFree, .unregister, .tcpClose .ok], result := .val } := by
    unfold tcpServerRecv respond
    dsimp only
    rw [accumulate_text ended, text, refused]
    rfl
  refine ⟨.zero, [.tcpRecved 36, .pbufFree, .unregister, .tcpClose .ok], ?_, by simp, by decide, ?_⟩
  · rw [receiveAll, tcpServerRecvIn_ok ended, served]
    rfl
  · rw [show TcpConnectState.zero.headers.text = [] from CharArray.text_zero _]
    decide +kernel

end PicowDayClock.RequestBuffer
