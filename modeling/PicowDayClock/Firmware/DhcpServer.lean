import PicowDayClock.Library.BigEndian
import PicowDayClock.Library.Checked

/-! The address server of the access point: `dhcpserver.c`. A message lies in
the memory of a `dhcp_msg_t`, of which only the received bytes hold anything. -/
namespace PicowDayClock.Dhcp
open BigEndian (Ip4Addr)
open Checked

/-! ## The message -/

/-- `sizeof(dhcp_msg_t)`, and the offsets of its fields. -/
def dhcpMsgSize : Nat := 548
def yiaddrOffset : Nat := 16
def chaddrOffset : Nat := 28
def optionsOffset : Nat := 236

def dhcpMinSize : Nat := 240 + 3

def dhcpDiscover : Byte := 1
def dhcpOffer : Byte := 2
def dhcpRequest : Byte := 3
def dhcpAck : Byte := 5

def dhcpOptPad : Byte := 0
def dhcpOptSubnetMask : Byte := 1
def dhcpOptRouter : Byte := 3
def dhcpOptDns : Byte := 6
def dhcpOptRequestedIp : Byte := 50
def dhcpOptIpLeaseTime : Byte := 51
def dhcpOptMsgType : Byte := 53
def dhcpOptServerId : Byte := 54
def dhcpOptEnd : Byte := 255

def defaultLeaseTimeS : Nat := 24 * 60 * 60

/-! ## Options -/

/-- `opt_find`, from index `i` on: the offset of the field in the message. -/
def optFindFrom (msg : Memory) (opt optLen : Nat) (cmd : Byte) (i : Nat) :
    Checked (Option Nat) :=
  if _inside : i < optLen then do
    let tag ← msg.load (opt + i)
    if tag = dhcpOptEnd then .ok none
    else if tag = dhcpOptPad then optFindFrom msg opt optLen cmd (i + 1)
    else if i + 1 ≥ optLen then .ok none
    else
      let fieldLen ← msg.load (opt + i + 1)
      let next := i + 2 + fieldLen.toNat
      if next > optLen then .ok none
      else if tag = cmd then .ok (some (opt + i))
      else optFindFrom msg opt optLen cmd next
  else .ok none
termination_by optLen - i

/-- `opt_find`. -/
def optFind (msg : Memory) (opt optLen : Nat) (cmd : Byte) : Checked (Option Nat) :=
  optFindFrom msg opt optLen cmd 0

/-- `opt_write_n`, and with one byte of data `opt_write_u8`: the message and
where the next option goes. -/
def optWriteN (msg : Memory) (opt : Nat) (cmd : Byte) (data : Bytes) : Checked (Memory × Nat) := do
  let msg ← msg.write opt (cmd :: UInt8.ofNat data.length :: data)
  .ok (msg, opt + 2 + data.length)

def optWriteU8 (msg : Memory) (opt : Nat) (cmd val : Byte) : Checked (Memory × Nat) :=
  optWriteN msg opt cmd [val]

/-- `opt_write_u32`. -/
def optWriteU32 (msg : Memory) (opt : Nat) (cmd : Byte) (val : Nat) : Checked (Memory × Nat) :=
  optWriteN msg opt cmd (BigEndian.write 4 val)

/-! ## Leases -/

def macLen : Nat := 6
def dhcpsBaseIp : Nat := 16
def dhcpsMaxIp : Nat := 8

/-- `dhcp_server_lease_t`: six bytes of a hardware address, all zero in a free
lease, and the upper half of a tick count. -/
structure DhcpServerLease where
  mac : Bytes
  expiry : Nat
  deriving DecidableEq

/-- `dhcp_server_t`. -/
structure DhcpServer where
  ip : Ip4Addr
  nm : Ip4Addr
  lease : Fin dhcpsMaxIp → DhcpServerLease

def noMac : Bytes := List.replicate macLen 0

/-- `d->lease[i]`, read. -/
def DhcpServer.leaseAt (d : DhcpServer) (i : Nat) : Checked DhcpServerLease :=
  if inside : i < dhcpsMaxIp then .ok (d.lease ⟨i, inside⟩) else .error .read

/-- The server with one lease replaced. -/
def DhcpServer.withLease (d : DhcpServer) (i : Nat) (lease : DhcpServerLease) : DhcpServer :=
  { d with lease := fun slot => if slot.val = i then lease else d.lease slot }

/-- `d->lease[i]`, written. -/
def DhcpServer.setLease (d : DhcpServer) (i : Nat) (lease : DhcpServerLease) :
    Checked DhcpServer :=
  if i < dhcpsMaxIp then .ok (d.withLease i lease) else .error .write

theorem DhcpServer.leaseAt_ok (d : DhcpServer) {i : Nat} (inside : i < dhcpsMaxIp) :
    d.leaseAt i = .ok (d.lease ⟨i, inside⟩) := dif_pos inside

theorem DhcpServer.setLease_ok (d : DhcpServer) {i : Nat} (inside : i < dhcpsMaxIp)
    (lease : DhcpServerLease) : d.setLease i lease = .ok (d.withLease i lease) := if_pos inside

theorem DhcpServer.withLease_same (d : DhcpServer) {slot : Fin dhcpsMaxIp} {i : Nat}
    (same : slot.val = i) (lease : DhcpServerLease) : (d.withLease i lease).lease slot = lease :=
  if_pos same

theorem DhcpServer.withLease_other (d : DhcpServer) {slot : Fin dhcpsMaxIp} {i : Nat}
    (other : slot.val ≠ i) (lease : DhcpServerLease) :
    (d.withLease i lease).lease slot = d.lease slot := if_neg other

/-- `(int32_t)(expiry - cyw43_hal_ticks_ms()) < 0`, with the lower half of the
expiry filled up. -/
def expired (expiry ticks : Nat) : Bool :=
  (expiry * 2 ^ 16 + 0xFFFF + 2 ^ 32 - ticks) % 2 ^ 32 ≥ 2 ^ 31

/-- The expiry of a lease that is given at this tick count. -/
def newExpiry (ticks : Nat) : Nat := (ticks + defaultLeaseTimeS * 1000) % 2 ^ 32 / 2 ^ 16

/-- The loop over the leases for `DHCPDISCOVER`: the leases, in which those
found expired are free, and `yi`. -/
def discoverFrom (chaddr : Bytes) (ticks : Nat) (d : DhcpServer) (yi i : Nat) :
    Checked (DhcpServer × Nat) :=
  if _more : i < dhcpsMaxIp then do
    let lease ← d.leaseAt i
    if lease.mac = chaddr then .ok (d, i)
    else if yi = dhcpsMaxIp then
      let yi := if lease.mac = noMac then i else yi
      if expired lease.expiry ticks then
        let d ← d.setLease i { lease with mac := noMac }
        discoverFrom chaddr ticks d i (i + 1)
      else discoverFrom chaddr ticks d yi (i + 1)
    else discoverFrom chaddr ticks d yi (i + 1)
  else .ok (d, yi)
termination_by dhcpsMaxIp - i

/-- `DHCPREQUEST`, from the check of the requested address on: the lease that
is given, if any. -/
def requestLease (chaddr : Bytes) (ticks : Nat) (d : DhcpServer) (yi : Nat) :
    Checked (Option DhcpServer) := do
  let lease ← d.leaseAt yi
  if lease.mac = chaddr then
    let d ← d.setLease yi { lease with expiry := newExpiry ticks }
    .ok (some d)
  else if lease.mac = noMac then
    let d ← d.setLease yi { mac := chaddr, expiry := newExpiry ticks }
    .ok (some d)
  else .ok none

/-- The index of the lease that a `DHCPREQUEST` asks for. -/
def requestedIndex (msg : Memory) (d : DhcpServer) (opt optionsLen : Nat) :
    Checked (Option Nat) := do
  match ← optFind msg opt optionsLen dhcpOptRequestedIp with
  | none => .ok none
  | some o =>
    let fieldLen ← msg.load (o + 1)
    if fieldLen < 4 then .ok none
    else
      let network ← msg.read (o + 2) 3
      if network ≠ d.ip.bytes.take 3 then .ok none
      else
        let host ← msg.load (o + 5)
        if host.toNat < dhcpsBaseIp then .ok none
        else if host.toNat - dhcpsBaseIp ≥ dhcpsMaxIp then .ok none
        else .ok (some (host.toNat - dhcpsBaseIp))

/-! ## The server -/

/-- The `switch` on the type of a message: the leases, the index of the address
that is given and the type of the reply. -/
def switchMsgType (msg : Memory) (d : DhcpServer) (ticks opt optionsLen : Nat) (msgType : Byte) :
    Checked (DhcpServer × Option (Nat × Byte)) := do
  if msgType = dhcpDiscover then
    let chaddr ← msg.read chaddrOffset macLen
    let (d, yi) ← discoverFrom chaddr ticks d dhcpsMaxIp 0
    if yi = dhcpsMaxIp then .ok (d, none) else .ok (d, some (yi, dhcpOffer))
  else if msgType = dhcpRequest then
    match ← requestedIndex msg d opt optionsLen with
    | none => .ok (d, none)
    | some yi =>
      let chaddr ← msg.read chaddrOffset macLen
      match ← requestLease chaddr ticks d yi with
      | none => .ok (d, none)
      | some d => .ok (d, some (yi, dhcpAck))
  else .ok (d, none)

/-- The options of the reply, and the bytes given to `dhcp_socket_sendto`. -/
def sendReply (msg : Memory) (d : DhcpServer) (opt yi : Nat) (msgType : Byte) :
    Checked Bytes := do
  let msg ← msg.write (yiaddrOffset + 3) [UInt8.ofNat (dhcpsBaseIp + yi)]
  let (msg, opt) ← optWriteU8 msg opt dhcpOptMsgType msgType
  let (msg, opt) ← optWriteN msg opt dhcpOptServerId d.ip.bytes
  let (msg, opt) ← optWriteN msg opt dhcpOptSubnetMask d.nm.bytes
  let (msg, opt) ← optWriteN msg opt dhcpOptRouter d.ip.bytes
  let (msg, opt) ← optWriteN msg opt dhcpOptDns d.ip.bytes
  let (msg, opt) ← optWriteU32 msg opt dhcpOptIpLeaseTime defaultLeaseTimeS
  let msg ← msg.write opt [dhcpOptEnd]
  msg.read 0 (opt + 1)

/-- `dhcp_server_process` on a datagram, with the tick counter at its time: the
server afterwards and the reply, if any. -/
def dhcpServerProcess (d : DhcpServer) (ticks : Nat) (p : Bytes) :
    Checked (DhcpServer × Option Bytes) := do
  let len := min p.length dhcpMsgSize
  if p.length < dhcpMinSize then .ok (d, none)
  else if len < dhcpMinSize then .ok (d, none)
  else if len < optionsOffset + 4 then .ok (d, none)
  else
    let msg := Memory.receive dhcpMsgSize p
    let msg ← msg.write 0 [dhcpOffer]
    let msg ← msg.write yiaddrOffset d.ip.bytes
    let opt := optionsOffset + 4
    let optionsLen := len - optionsOffset - 4
    match ← optFind msg opt optionsLen dhcpOptMsgType with
    | none => .ok (d, none)
    | some msgtype =>
      let fieldLen ← msg.load (msgtype + 1)
      if fieldLen < 1 then .ok (d, none)
      else
        let msgType ← msg.load (msgtype + 2)
        let (d, given) ← switchMsgType msg d ticks opt optionsLen msgType
        match given with
        | none => .ok (d, none)
        | some (yi, replyType) =>
          let reply ← sendReply msg d opt yi replyType
          .ok (d, some reply)

end PicowDayClock.Dhcp
