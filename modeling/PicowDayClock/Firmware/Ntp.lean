import PicowDayClock.Firmware.ClockState

/-! The NTP client of `ntp.c`. What lwIP answers (a datagram, a resolved name,
the fate of a packet to send) is an argument. -/
namespace PicowDayClock.Ntp

/-- `NTP_DELTA`, `NTP_MSG_LEN`. -/
def ntpDelta : Nat := 2208988800
def ntpMsgLen : Nat := 48

/-- `ntp_atomic_state_t`. -/
structure NtpAtomicState where
  error : NtpError
  status : NtpStatus
  requestStartMs : UInt32
  deriving DecidableEq

/-- What `ntp_atomic_status` copies out. -/
def NtpAtomicState.of (state : NtpState) : NtpAtomicState :=
  ⟨state.error, state.status, state.requestStartMs⟩

/-- The writes of `ntp_atomic_status`, one critical section. A null value or a
zero time writes nothing. -/
def ntpAtomicStatus (state : NtpState) (status : NtpStatus) (error : NtpError) (ms : UInt32) :
    NtpState :=
  { state with
    status := if status ≠ .nullStatus then status else state.status
    error := if error ≠ .nullError then error else state.error
    requestStartMs := if ms ≠ 0 then ms else state.requestStartMs }

/-! ## Requests -/

/-- How `pbuf_alloc` and `udp_sendto` fare. -/
inductive UdpReply where
  | noMemory | sendError | sent
  deriving DecidableEq

/-- What `dns_gethostbyname` answers. -/
inductive DnsReply where
  | resolved (address : IpAddr)
  | inProgress
  | failed
  deriving DecidableEq

/-- The error `ntp_start_udp_request` stores, if any. -/
def udpError : UdpReply → Option NtpError
  | .noMemory => some .memoryError
  | .sendError => some .protocolError
  | .sent => none

/-- `ntp_start_udp_request`. -/
def ntpStartUdpRequest (state : NtpState) (udp : UdpReply) : NtpState :=
  match udpError udp with
  | some error => ntpAtomicStatus state .failed error 0
  | none => state

/-- `ntp_dns_callback`. No address, and the address 0, are failures. -/
def ntpDnsCallback (state : NtpState) (ipaddr : Option IpAddr) (udp : UdpReply) : NtpState :=
  match ipaddr.filter (· ≠ 0) with
  | some address => ntpStartUdpRequest { state with ntpServerAddress := address } udp
  | none => ntpAtomicStatus state .failed .dnsError 0

/-- The error `ntp_dns_callback` stores, if any. -/
def dnsError (ipaddr : Option IpAddr) (udp : UdpReply) : Option NtpError :=
  match ipaddr.filter (· ≠ 0) with
  | some _ => udpError udp
  | none => some .dnsError

/-- `ntp_init`, without the pcb and the handler, and then the port that
`clock_start` sets. -/
def ntpInit (ntpPort : Nat) : NtpState := { NtpState.zero with ntpPort := ntpPort }

/-! ## Replies -/

/-- A datagram handed to `ntp_recv_callback`. -/
structure Datagram where
  addr : IpAddr
  port : Nat
  payload : Bytes
  deriving DecidableEq

/-- `pbuf_get_at`, which gives 0 past the end. -/
def pbufGetAt (payload : Bytes) (offset : Nat) : Byte := payload.getD offset 0

/-- The four bytes from offset 40 as a big-endian number. -/
def secondsSince1900 (payload : Bytes) : Nat :=
  (pbufGetAt payload 40).toNat * 2 ^ 24 + (pbufGetAt payload 41).toNat * 2 ^ 16 +
    (pbufGetAt payload 42).toNat * 2 ^ 8 + (pbufGetAt payload 43).toNat

/-- The Unix time, with a small number of seconds taken as era 1, from 2036 on. -/
def secondsSince1970 (seconds1900 : Nat) : Int :=
  if seconds1900 < ntpDelta then (seconds1900 + 0x100000000 : Nat) - ntpDelta
  else seconds1900 - ntpDelta

/-- What `ntp_recv_callback` makes of a datagram: a status and an error to
store, and a time for the handler. -/
structure Outcome where
  status : NtpStatus
  error : NtpError
  time : Option Int
  deriving DecidableEq

/-- The tests of `ntp_recv_callback`, in their order. -/
def ntpOutcome (state : NtpState) (datagram : Datagram) : Outcome :=
  let firstByte := pbufGetAt datagram.payload 0
  let mode := firstByte &&& 0x07
  let leap := (firstByte >>> 6) &&& 0x03
  let stratum := pbufGetAt datagram.payload 1
  let addrsValid := datagram.addr = state.ntpServerAddress
  let responseValid :=
    datagram.port = state.ntpPort ∧ datagram.payload.length = ntpMsgLen ∧ mode = 0x4
  if ¬ addrsValid then ⟨.failed, .dnsError, none⟩
  else if ¬ responseValid then ⟨.failed, .protocolError, none⟩
  else if stratum = 0 then ⟨.kod, .ok, none⟩
  else if leap = 3 then ⟨.failed, .protocolError, none⟩
  else ⟨.success, .ok, some (secondsSince1970 (secondsSince1900 datagram.payload))⟩

/-- `ntp_recv_callback` up to the call of the time handler. -/
def ntpRecvCallback (state : NtpState) (datagram : Datagram) : NtpState × Option Int :=
  let outcome := ntpOutcome state datagram
  (ntpAtomicStatus state outcome.status outcome.error 0, outcome.time)

/-! ## What the callbacks store -/

/-- A reply is a failure with its error, or leaves no error. -/
theorem ntpOutcome_spec (state : NtpState) (datagram : Datagram) :
    let outcome := ntpOutcome state datagram
    (outcome.status = .failed ∧ outcome.error ≠ .ok ∧ outcome.error ≠ .nullError) ∨
      ((outcome.status = .kod ∨ outcome.status = .success) ∧ outcome.error = .ok) := by
  simp only [ntpOutcome]
  split_ifs <;> simp

/-- Storing a status with a real error stores both. -/
theorem ntpAtomicStatus_stores (state : NtpState) (status : NtpStatus) (error : NtpError)
    (ms : UInt32) (realStatus : status ≠ .nullStatus) (realError : error ≠ .nullError) :
    (ntpAtomicStatus state status error ms).status = status ∧
      (ntpAtomicStatus state status error ms).error = error := by
  simp [ntpAtomicStatus, realStatus, realError]

theorem ntpRecvCallback_stores (state : NtpState) (datagram : Datagram) :
    (ntpRecvCallback state datagram).1.status = (ntpOutcome state datagram).status ∧
      (ntpRecvCallback state datagram).1.error = (ntpOutcome state datagram).error := by
  apply ntpAtomicStatus_stores
  · rcases ntpOutcome_spec state datagram with ⟨failed, -⟩ | ⟨kod | success, -⟩
    · simp [failed]
    · simp [kod]
    · simp [success]
  · rcases ntpOutcome_spec state datagram with ⟨-, -, named⟩ | ⟨-, ok⟩
    · exact named
    · simp [ok]

theorem udpError_real (stored : udpError udp = some error) :
    error ≠ .ok ∧ error ≠ .nullError := by
  cases udp with
  | noMemory | sendError =>
    cases stored
    exact ⟨by decide, by decide⟩
  | sent => cases stored

/-- Starting a request stores a failure or leaves the status as it is. -/
theorem ntpStartUdpRequest_stores (state : NtpState) (udp : UdpReply) :
    match udpError udp with
    | some error =>
      (ntpStartUdpRequest state udp).status = .failed ∧
        (ntpStartUdpRequest state udp).error = error
    | none => ntpStartUdpRequest state udp = state := by
  cases stored : udpError udp with
  | none => simp [ntpStartUdpRequest, stored]
  | some error =>
    have := ntpAtomicStatus_stores state .failed error 0 (by decide) (udpError_real stored).2
    simpa [ntpStartUdpRequest, stored] using this

theorem ntpDnsCallback_stores (state : NtpState) (ipaddr : Option IpAddr) (udp : UdpReply) :
    match dnsError ipaddr udp with
    | some error =>
      (ntpDnsCallback state ipaddr udp).status = .failed ∧
        (ntpDnsCallback state ipaddr udp).error = error
    | none =>
      (ntpDnsCallback state ipaddr udp).status = state.status ∧
        (ntpDnsCallback state ipaddr udp).error = state.error := by
  unfold dnsError ntpDnsCallback
  cases ipaddr.filter (· ≠ 0) with
  | none => exact ntpAtomicStatus_stores state .failed .dnsError 0 (by decide) (by decide)
  | some address =>
    have started := ntpStartUdpRequest_stores { state with ntpServerAddress := address } udp
    dsimp only
    cases stored : udpError udp with
    | none =>
      simp only [stored] at started
      simp [started]
    | some error =>
      simp only [stored] at started
      exact started

end PicowDayClock.Ntp
