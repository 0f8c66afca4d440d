import NodeNet.Protocols.Quoted

/-!
# Correlation of responses with probes

A probe is known by its identity and by the token that its session derives from the identity.  The derivation
itself, a keyed hash, is a parameter wherever tokens are made: nothing here depends on how it works.
-/

namespace NodeNet.Protocols

open Engine (IpAddress EvidenceStrength)

/-- Every field that a probe's token is derived from. -/
structure ProbeIdentity where
  protocol : UInt8
  attempt : Nat
  source : IpAddress
  destination : IpAddress
  sourcePort : UInt16
  destinationPort : UInt16
  icmpIdentifier : UInt16
  icmpSequence : UInt16
  probeId : Nat
deriving DecidableEq

inductive CorrelationIdentityError where
  | addressFamilyMismatch
deriving DecidableEq

def ProbeIdentity.new (protocol : UInt8) (attempt : Nat) (source destination : IpAddress)
    (sourcePort destinationPort icmpIdentifier icmpSequence : UInt16) (probeId : Nat) :
    Except CorrelationIdentityError ProbeIdentity :=
  match source, destination with
  | .v4 _, .v4 _ | .v6 _, .v6 _ =>
    .ok ⟨protocol, attempt, source, destination, sourcePort, destinationPort, icmpIdentifier,
      icmpSequence, probeId⟩
  | _, _ => .error .addressFamilyMismatch

structure CorrelationToken where
  full : Bytes
  size : full.length = 32
deriving DecidableEq

namespace CorrelationToken

def zero : CorrelationToken := ⟨List.replicate 32 0, rfl⟩

variable (t : CorrelationToken)

def payloadToken : Bytes := t.full.take 16

def tcpSequence : UInt32 := u32At t.full 0

def tcpAcknowledgment : UInt32 := t.tcpSequence + 1

def payloadMatches (candidate : Bytes) : Bool := candidate.length = 16 ∧ t.full.take 16 = candidate

end CorrelationToken

/-- The addresses and ports of a response, as received. -/
structure ResponseTuple where
  source : IpAddress
  destination : IpAddress
  sourcePort : UInt16
  destinationPort : UInt16
deriving DecidableEq

/-- The fields of a TCP segment that a reply is classified by. -/
structure TcpFields where
  sourcePort : UInt16
  destinationPort : UInt16
  acknowledgmentNumber : UInt32
  flags : TcpFlags
deriving DecidableEq

inductive CorrelationEvidenceKind where
  | tcpSynAcknowledgment | tcpReset | echoReply | udpReply | icmpErrorQuote | arpReply | neighborAdvertisement
deriving DecidableEq

structure CorrelationEvidence where
  kind : CorrelationEvidenceKind
  strength : EvidenceStrength
deriving DecidableEq

inductive CorrelationRejection where
  | tupleMismatch | protocolMismatch | invalidFlags | tokenMismatch | fragmentedQuote | insufficientQuote
deriving DecidableEq

variable (expected : ProbeIdentity)

def reverseTupleMatches (tuple : ResponseTuple) : Bool :=
  tuple.source = expected.destination ∧ tuple.destination = expected.source ∧
    tuple.sourcePort = expected.destinationPort ∧ tuple.destinationPort = expected.sourcePort

def classifyTcpReply (token : CorrelationToken) (tuple : ResponseTuple)
    (segment : TcpFields) : Except CorrelationRejection CorrelationEvidence :=
  if expected.protocol ≠ 6 then .error .protocolMismatch
  else if !reverseTupleMatches expected tuple ∨ tuple.sourcePort ≠ segment.sourcePort ∨
      tuple.destinationPort ≠ segment.destinationPort then .error .tupleMismatch
  else
    let acknowledgment := segment.flags.contains .ack
    let synchronization := segment.flags.contains .syn
    let reset := segment.flags.contains .rst
    if !acknowledgment ∨ synchronization = reset then .error .invalidFlags
    else if segment.acknowledgmentNumber ≠ token.tcpAcknowledgment then .error .tokenMismatch
    else .ok ⟨if reset then .tcpReset else .tcpSynAcknowledgment, .strongTcpSequence32⟩

def classifyEchoReply (source destination : IpAddress) (identifier sequence : UInt16)
    (payload : Bytes) (token : CorrelationToken) : Except CorrelationRejection CorrelationEvidence :=
  if expected.protocol ≠ 1 ∧ expected.protocol ≠ 58 then .error .protocolMismatch
  else if source ≠ expected.destination ∨ destination ≠ expected.source ∨ identifier ≠ expected.icmpIdentifier ∨
      sequence ≠ expected.icmpSequence then .error .tupleMismatch
  else if payload.length < 16 ∨ !token.payloadMatches (payload.take 16) then .error .tokenMismatch
  else .ok ⟨.echoReply, .strongPayload128⟩

def classifyUdpReply (tuple : ResponseTuple) : Except CorrelationRejection CorrelationEvidence :=
  if expected.protocol ≠ 17 then .error .protocolMismatch
  else if !reverseTupleMatches expected tuple then .error .tupleMismatch
  else .ok ⟨.udpReply, .tupleCorrelatedUnauthenticated⟩

def requireOutboundPorts (source destination : UInt16) : Except CorrelationRejection Unit :=
  if source ≠ expected.sourcePort ∨ destination ≠ expected.destinationPort then .error .tupleMismatch else .ok ()

def classifyPayloadPrefix (payloadPrefix : Bytes) (token : CorrelationToken) :
    Except CorrelationRejection EvidenceStrength :=
  if payloadPrefix.length < 16 then .ok .truncatedQuote
  else if !token.payloadMatches (payloadPrefix.take 16) then .error .tokenMismatch
  else .ok .strongPayload128

/-- How strongly the quoted transport bytes belong to the probe. -/
def quoteStrength (transport : QuotedTransport) (token : CorrelationToken) :
    Except CorrelationRejection EvidenceStrength :=
  match transport with
  | .tcp sourcePort destinationPort sequenceNumber _ _ _ =>
    match requireOutboundPorts expected sourcePort destinationPort with
    | .error rejection => .error rejection
    | .ok () => if sequenceNumber ≠ token.tcpSequence then .error .tokenMismatch else .ok .strongTcpSequence32
  | .udp sourcePort destinationPort _ _ payloadPrefix =>
    match requireOutboundPorts expected sourcePort destinationPort with
    | .error rejection => .error rejection
    | .ok () => classifyPayloadPrefix payloadPrefix token
  | .icmpEcho _ identifier sequence payloadPrefix =>
    if identifier ≠ expected.icmpIdentifier ∨ sequence ≠ expected.icmpSequence then .error .tupleMismatch
    else classifyPayloadPrefix payloadPrefix token
  | .nonFirstFragment _ _ => .error .fragmentedQuote
  | .insufficient _ _ _ => .error .insufficientQuote
  | .opaqueBytes _ _ => .error .protocolMismatch

def classifyQuotedResponse (quote : QuotedIpPacket) (token : CorrelationToken) :
    Except CorrelationRejection CorrelationEvidence :=
  if quote.source ≠ expected.source ∨ quote.destination ≠ expected.destination then .error .tupleMismatch
  else if quote.protocol ≠ expected.protocol then .error .protocolMismatch
  else
    match quoteStrength expected quote.transport token with
    | .error rejection => .error rejection
    | .ok strength => .ok ⟨.icmpErrorQuote, strength⟩

end NodeNet.Protocols
