import NodeNet.Protocols.Ipv4
import NodeNet.Protocols.Ipv6
import NodeNet.Protocols.Udp

/-!
# Packets quoted in ICMP errors

The transport fields that can be read off a packet that may be cut behind its IP header.
-/

namespace NodeNet.Protocols

open Engine (IpAddress)

/-- A set of the nine TCP control bits. -/
structure TcpFlags where
  bits : UInt16
  standard : bits &&& ~~~0x01ff = 0
deriving DecidableEq

namespace TcpFlags

def syn : TcpFlags := ⟨0x02, rfl⟩
def rst : TcpFlags := ⟨0x04, rfl⟩
def ack : TcpFlags := ⟨0x10, rfl⟩
def urg : TcpFlags := ⟨0x20, rfl⟩

def fromBits (bits : UInt16) : Except BuildError TcpFlags :=
  if h : bits &&& ~~~0x01ff = 0 then .ok ⟨bits, h⟩ else .error (.invalidValue .flags)

def contains (flags flag : TcpFlags) : Bool := flags.bits &&& flag.bits = flag.bits

end TcpFlags

inductive QuotedTransport where
  | tcp (sourcePort destinationPort : UInt16) (sequenceNumber : UInt32) (acknowledgmentNumber : Option UInt32)
      (flags : Option TcpFlags) (bytes : Bytes)
  | udp (sourcePort destinationPort declaredLength checksum : UInt16) (payloadPrefix : Bytes)
  | icmpEcho (messageType : UInt8) (identifier sequence : UInt16) (payloadPrefix : Bytes)
  | insufficient (protocol : UInt8) (bytes : Bytes) (required : Nat)
  | nonFirstFragment (protocol : UInt8) (bytes : Bytes)
  | opaqueBytes (protocol : UInt8) (bytes : Bytes)
deriving DecidableEq

structure QuotedIpPacket where
  source : IpAddress
  destination : IpAddress
  protocol : UInt8
  fragment : FragmentState
  complete : Bool
  transport : QuotedTransport
deriving DecidableEq

def isEcho (protocol messageType : UInt8) : Bool :=
  (protocol = 1 ∧ (messageType = 0 ∨ messageType = 8)) ∨ (protocol = 58 ∧ (messageType = 128 ∨ messageType = 129))

def classifyQuote (protocol : UInt8) (bytes : Bytes) (fragment : FragmentState) : QuotedTransport :=
  if fragment.isNonFirst then .nonFirstFragment protocol bytes
  else if protocol = 6 ∧ bytes.length ≥ 8 then
    .tcp (u16At bytes 0) (u16At bytes 2) (u32At bytes 4)
      (if bytes.length ≥ 12 then some (u32At bytes 8) else none)
      (if bytes.length ≥ 14 then
        (TcpFlags.fromBits (((u8At bytes 12 &&& 1).toUInt16 <<< 8) ||| (u8At bytes 13).toUInt16)).toOption
      else none)
      bytes
  else if protocol = 17 ∧ bytes.length ≥ 8 then
    .udp (u16At bytes 0) (u16At bytes 2) (u16At bytes 4) (u16At bytes 6) (bytes.drop 8)
  else if (protocol = 1 ∨ protocol = 58) ∧ bytes.length ≥ 8 ∧ isEcho protocol (u8At bytes 0) ∧
    u8At bytes 1 = 0 then
    .icmpEcho (u8At bytes 0) (u16At bytes 4) (u16At bytes 6) (bytes.drop 8)
  else if protocol = 6 ∨ protocol = 17 ∨ protocol = 1 ∨ protocol = 58 then .insufficient protocol bytes 8
  else .opaqueBytes protocol bytes

def terminalProtocolAndBytes : UpperLayerState → UInt8 × Bytes
  | .reachable protocol payload _ | .insufficient protocol payload _ _ | .nonFirstFragment protocol payload _
  | .unknown protocol payload _ => (protocol, payload)
  | .esp payload _ => (50, payload)
  | .noNextHeader trailing => (59, trailing)

def parseQuotedIpPacket (input : Bytes) : Except ParseError QuotedIpPacket :=
  match input with
  | [] => .error (.truncated .network 1 0)
  | first :: _ =>
    if first >>> 4 = 4 then
      match parseIpv4Packet input .compatibleIcmpQuote with
      | .error error => .error error
      | .ok packet => .ok {
          source := .v4 packet.source
          destination := .v4 packet.destination
          protocol := packet.protocol
          fragment := packet.fragment
          complete := packet.complete
          transport := classifyQuote packet.protocol packet.payload packet.fragment }
    else if first >>> 4 = 6 then
      match parseIpv6Packet input .compatibleIcmpQuote with
      | .error error => .error error
      | .ok packet =>
        let (protocol, bytes) := terminalProtocolAndBytes packet.upperLayer
        .ok {
          source := .v6 packet.source
          destination := .v6 packet.destination
          protocol
          fragment := packet.fragment
          complete := packet.complete
          transport := classifyQuote protocol bytes packet.fragment }
    else .error (.unsupported .network .version)

/-! ### Quoted fields -/

theorem terminalProtocolAndBytes_classifyUpperLayer (protocol : UInt8) (payload : Bytes)
    (fragment : FragmentState) (ipv6 : Bool) :
    terminalProtocolAndBytes (classifyUpperLayer protocol payload fragment ipv6) = (protocol, payload) := by
  unfold classifyUpperLayer
  split
  · rfl
  split
  · next h => rw [h]; rfl
  split
  · next h => rw [h.1]; rfl
  split
  · split <;> rfl
  · rfl

/-- The transport fields of a datagram that is cut behind its header. -/
theorem UdpDatagram.classifyQuote_take (d : UdpDatagram) (checksum : UInt16) {n : Nat} (hn : 8 ≤ n) :
    ∃ declaredLength, classifyQuote 17 ((d.encode checksum).take n) .unfragmented =
      .udp d.sourcePort d.destinationPort declaredLength checksum (d.payload.take (n - 8)) := by
  generalize htotal : (if udpHeaderLength + d.payload.length ≤ 65535 then
    UInt16.ofNat (udpHeaderLength + d.payload.length) else 65535) = total
  have htake : (d.encode checksum).take n = be16 d.sourcePort ++ (be16 d.destinationPort ++ (be16 total ++
      (be16 checksum ++ d.payload.take (n - 8)))) := by
    simp only [encode, htotal]
    rw [← List.append_assoc, ← List.append_assoc, ← List.append_assoc, List.take_append,
      List.take_of_length_le (by simp; omega)]
    simp
  have hlength : ((d.encode checksum).take n).length ≥ 8 := by
    rw [htake]
    simp
    omega
  have hdrop : ((d.encode checksum).take n).drop 8 = d.payload.take (n - 8) := by
    rw [htake, ← List.append_assoc, ← List.append_assoc, ← List.append_assoc]
    exact List.drop_left' (by simp)
  refine ⟨total, ?_⟩
  rw [classifyQuote, if_neg (by decide), if_neg (fun h => absurd h.1 (by decide)), if_pos ⟨rfl, hlength⟩, hdrop,
    htake]
  simp

end NodeNet.Protocols
