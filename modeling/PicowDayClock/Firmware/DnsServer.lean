import PicowDayClock.Library.BigEndian
import PicowDayClock.Library.Checked

/-! The name server of the access point: `dns_server_process` of `dnsserver.c`,
on the buffer it copies a datagram to. -/
namespace PicowDayClock.DnsServer
open BigEndian (Ip4Addr)
open Checked

/-- `MAX_DNS_MSG_SIZE` and `sizeof(dns_header_t)`. -/
def maxDnsMsgSize : Nat := 300
def dnsHeaderSize : Nat := 12

/-- The loop over the labels of the name, from `questionPtr` on: where the name
ends, or nothing if it is not well formed or does not end. -/
def skipQname (dnsMsg : Memory) (msgLen questionPtr : Nat) : Checked (Option Nat) :=
  if _inside : questionPtr < msgLen then do
    let byte ← dnsMsg.load questionPtr
    if byte = 0 then .ok (some (questionPtr + 1))
    else
      let labelLen := byte.toNat
      if labelLen > 63 then .ok none
      else if questionPtr + 1 + labelLen > msgLen then .ok none
      else skipQname dnsMsg msgLen (questionPtr + 1 + labelLen)
  else .ok none
termination_by msgLen - questionPtr

/-- The record of the answer: a pointer to the question, an address of the
Internet class that holds for a minute, and the address. -/
def answerRecord (ip : Ip4Addr) : Bytes :=
  [0xC0, UInt8.ofNat dnsHeaderSize, 0, 1, 0, 1, 0, 0, 0, 60, 0, 4] ++ ip.bytes

/-- The flags of a response, authoritative and with recursion. -/
def responseFlags : Nat := 1 <<< 15 ||| 1 <<< 10 ||| 1 <<< 7

/-- The answer behind the question, and the header in front of it. -/
def writeReply (ip : Ip4Addr) (dnsMsg : Memory) (answerPtr : Nat) : Checked Memory := do
  let dnsMsg ← dnsMsg.write answerPtr (answerRecord ip)
  let dnsMsg ← dnsMsg.write 2 (BigEndian.write 2 responseFlags)
  let dnsMsg ← dnsMsg.write 4 (BigEndian.write 2 1)
  let dnsMsg ← dnsMsg.write 6 (BigEndian.write 2 1)
  let dnsMsg ← dnsMsg.write 8 (BigEndian.write 2 0)
  dnsMsg.write 10 (BigEndian.write 2 0)

/-- `dns_server_process`: the message given to `dns_socket_sendto`, if any. -/
def dnsServerProcess (ip : Ip4Addr) (p : Bytes) : Checked (Option Bytes) := do
  let dnsMsg := Memory.receive maxDnsMsgSize p
  let msgLen := min p.length maxDnsMsgSize
  if msgLen < dnsHeaderSize then .ok none
  else
    let flags ← dnsMsg.read 2 2
    let questionCount ← dnsMsg.read 4 2
    let flags := BigEndian.read flags
    let questionCount := BigEndian.read questionCount
    if (flags >>> 15) &&& 1 ≠ 0 then .ok none
    else if (flags >>> 11) &&& 0xF ≠ 0 then .ok none
    else if questionCount < 1 then .ok none
    else
      match ← skipQname dnsMsg msgLen dnsHeaderSize with
      | none => .ok none
      | some questionPtr =>
        if questionPtr - dnsHeaderSize > 255 then .ok none
        else if questionPtr + 4 > msgLen then .ok none
        else
          let answerPtr := questionPtr + 4
          if answerPtr + 16 > maxDnsMsgSize then .ok none
          else
            let dnsMsg ← writeReply ip dnsMsg answerPtr
            let reply ← dnsMsg.read 0 (answerPtr + 16)
            .ok (some reply)

end PicowDayClock.DnsServer
