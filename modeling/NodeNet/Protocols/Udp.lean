import NodeNet.Protocols.Checksum

/-!
# UDP datagrams

A datagram is its ports, its length, a checksum and its payload, eight bytes of header in all
(`UdpDatagram.encode`).
-/

namespace NodeNet.Protocols

def udpHeaderLength : Nat := 8
def udpMaxDatagramLength : Nat := 65535
def udpProtocol : UInt8 := 17

inductive UdpChecksumMode where
  | compute | omitIpv4
deriving DecidableEq

structure UdpDatagram where
  checksumContext : TransportChecksumContext
  checksumMode : UdpChecksumMode
  sourcePort : UInt16
  destinationPort : UInt16
  payload : Bytes
deriving DecidableEq

def TransportChecksumContext.isIpv6 : TransportChecksumContext → Bool
  | ipv6 _ _ => true
  | ipv4 _ _ => false

namespace UdpDatagram

def requiredLength (d : UdpDatagram) : Except BuildError Nat :=
  if d.checksumMode = .omitIpv4 ∧ d.checksumContext.isIpv6 then .error (.invalidValue .checksum)
  else
    let total := udpHeaderLength + d.payload.length
    if total > udpMaxDatagramLength then .error (.lengthExceedsLimit total udpMaxDatagramLength .ip)
    else PacketLength.new total .ip

def encode (d : UdpDatagram) (checksum : UInt16) : Bytes :=
  let total := udpHeaderLength + d.payload.length
  be16 d.sourcePort ++ (be16 d.destinationPort ++
    (be16 (if total ≤ 65535 then UInt16.ofNat total else 65535) ++ (be16 checksum ++ d.payload)))

def build (d : UdpDatagram) : Except BuildError Bytes :=
  match d.requiredLength with
  | .error error => .error error
  | .ok _ =>
    match d.checksumMode with
    | .omitIpv4 => .ok (d.encode 0)
    | .compute =>
      match computeTransportChecksum d.checksumContext udpProtocol (d.encode 0) with
      | none => .error (.arithmeticOverflow .packetLength)
      -- zero means that there is no checksum
      | some checksum => .ok (d.encode (if checksum = 0 then 65535 else checksum))

end UdpDatagram

inductive UdpChecksumStatus where
  | valid | notPresentIpv4
deriving DecidableEq

structure ParsedUdpDatagram where
  sourcePort : UInt16
  destinationPort : UInt16
  checksum : UInt16
  checksumStatus : UdpChecksumStatus
  payload : Bytes
  trailing : Bytes
deriving DecidableEq

def parseUdpDatagram (input : Bytes) (checksumContext : TransportChecksumContext) :
    Except ParseError ParsedUdpDatagram :=
  if input.length > udpMaxDatagramLength then
    .error (.limitExceeded .transportBytes input.length udpMaxDatagramLength)
  else if input.length < udpHeaderLength then .error (.truncated .udp udpHeaderLength input.length)
  else
    let declaredLength := (u16At input 4).toNat
    if declaredLength < udpHeaderLength then .error (.malformed .udp .totalLength)
    else if input.length < declaredLength then .error (.truncated .udp declaredLength input.length)
    else
      let checksum := u16At input 6
      let parsed (status : UdpChecksumStatus) : ParsedUdpDatagram := {
        sourcePort := u16At input 0
        destinationPort := u16At input 2
        checksum
        checksumStatus := status
        payload := (input.take declaredLength).drop udpHeaderLength
        trailing := input.drop declaredLength }
      if checksum = 0 then
        if checksumContext.isIpv6 then .error (.malformed .udp .checksum) else .ok (parsed .notPresentIpv4)
      else if !validateTransportChecksum checksumContext udpProtocol (input.take declaredLength) then
        .error (.malformed .udp .checksum)
      else .ok (parsed .valid)

/-- A datagram that is built has its fields, its payload and some checksum. -/
theorem UdpDatagram.of_build {d : UdpDatagram} {bytes : Bytes} (h : d.build = .ok bytes) :
    8 + d.payload.length ≤ 65535 ∧ ∃ checksum, bytes = d.encode checksum := by
  unfold build at h
  split at h
  · cases h
  next hrequired =>
  have hlength : 8 + d.payload.length ≤ 65535 := by
    unfold requiredLength udpMaxDatagramLength udpHeaderLength at hrequired
    split at hrequired
    · cases hrequired
    simp only at hrequired
    split at hrequired
    · cases hrequired
    · omega
  refine ⟨hlength, ?_⟩
  split at h
  · exact ⟨0, (Except.ok.inj h).symm⟩
  split at h
  · cases h
  · exact ⟨_, (Except.ok.inj h).symm⟩

end NodeNet.Protocols
