import NodeNet.Protocols.Ipv4RoundTrip
import NodeNet.Protocols.Ipv6RoundTrip
import NodeNet.Wire.Attribution

/-!
# UDP requests

How the packet of a UDP probe is made from an entry of the request programme: the payload is built by the
catalogue, or taken from the entry, behind the session's token if the entry asks for it.  The catalogue's builders
are a parameter.  A quote of the packet in an ICMP error is attributed to the probe exactly if it ends before
sixteen bytes of payload, or the payload starts with the token (`quoted_probe_attributed_iff`).
-/

namespace NodeNet.Wire

open Engine (IpAddress LogicalProbe ProbeFamily ProbePort)
open Protocols

/-! ### Requests -/

inductive UdpRequestCorrelation where
  | tuple | prefixToken
deriving DecidableEq

/-- An entry of the request programme; `χ` are the probes of the catalogue. -/
structure UdpProgramRequest (χ : Type) where
  payload : Bytes
  correlation : UdpRequestCorrelation
  catalogueProbe : Option χ

structure UdpProbeBuildContext where
  source : IpAddress
  destination : IpAddress
  sourcePort : UInt16
  destinationPort : UInt16
deriving DecidableEq

/-- The builders of the catalogue's requests; an error is reported by its text. -/
abbrev Catalogue (χ : Type) := χ → Bytes → UdpProbeBuildContext → Except String Bytes

def composeUdpRequestPayload {χ : Type} (request : UdpProgramRequest χ) (token : Bytes) : Bytes :=
  (if request.correlation = .prefixToken then token else []) ++ request.payload

/-- The payload of a request that is sent along a route from a source port. -/
def requestPayload {χ : Type} (catalogue : Catalogue χ) (request : UdpProgramRequest χ) (token : Bytes)
    (route : RouteBinding) (sourcePort : UInt16) (port : Option ProbePort) : Except ScannerError Bytes :=
  match request.catalogueProbe with
  | none => .ok (composeUdpRequestPayload request token)
  | some catalogueProbe =>
    match port with
    | none => .error (.internal "build UDP" "destination port missing")
    | some port =>
      match catalogue catalogueProbe token
          ⟨route.source, route.destination, sourcePort, UInt16.ofNat port.get⟩ with
      | .error text => .error (.internal "build UDP protocol request" text)
      | .ok payload => .ok payload

/-! ### Packets -/

def fieldName : Field → String
  | .address => "Address" | .addressLength => "AddressLength" | .acknowledgment => "Acknowledgment"
  | .checksum => "Checksum" | .code => "Code" | .dscp => "Dscp" | .ecn => "Ecn"
  | .extensionLength => "ExtensionLength" | .extensionOrder => "ExtensionOrder" | .flags => "Flags"
  | .flowLabel => "FlowLabel" | .fragmentOffset => "FragmentOffset" | .hardwareType => "HardwareType"
  | .headerLength => "HeaderLength" | .hopLimit => "HopLimit" | .operation => "Operation"
  | .optionKind => "OptionKind" | .optionLength => "OptionLength" | .packetLength => "PacketLength"
  | .payloadLength => "PayloadLength" | .port => "Port" | .protocol => "Protocol"
  | .protocolType => "ProtocolType" | .sequence => "Sequence" | .span => "Span"
  | .templateDescriptor => "TemplateDescriptor" | .templatePatch => "TemplatePatch"
  | .totalLength => "TotalLength" | .trafficClass => "TrafficClass" | .type => "Type"
  | .urgentPointer => "UrgentPointer" | .version => "Version" | .vlanCount => "VlanCount"
  | .vlanIdentifier => "VlanIdentifier" | .vlanPriority => "VlanPriority" | .window => "Window"

def buildErrorText : BuildError → String
  | .bufferTooSmall required actual =>
    "output buffer requires " ++ toString required ++ " bytes, received " ++ toString actual
  | .lengthExceedsLimit actual maximum kind =>
    (match kind with
      | .ip => "Ip"
      | .ethernet => "Ethernet") ++ " length " ++ toString actual ++ " exceeds the " ++ toString maximum ++
      "-byte ceiling"
  | .invalidValue field => "invalid " ++ fieldName field
  | .arithmeticOverflow field => "arithmetic overflow while building " ++ fieldName field

def ofBuild {α : Type} : Except BuildError α → Except ScannerError α
  | .error error => .error (.invalid "build probe packet" (buildErrorText error))
  | .ok value => .ok value

def transportContext (source destination : IpAddress) : Except ScannerError TransportChecksumContext :=
  match source, destination with
  | .v4 source, .v4 destination => .ok (.ipv4 source destination)
  | .v6 source, .v6 destination => .ok (.ipv6 source destination)
  | _, _ => .error (.invalid "build transport" "source and destination families differ")

def ipv4Packet (source destination : Ipv4Address) (protocol : UInt8) (probeId : Nat) (payload : Bytes) :
    Ipv4Packet where
  dscp := 0
  ecn := 0
  identification := UInt16.ofNat (probeId % 65536)
  dontFragment := true
  moreFragments := false
  fragmentOffset := 0
  timeToLive := 64
  protocol := protocol
  source := source
  destination := destination
  options := []
  payload := payload

def ipv6Packet (source destination : Ipv6Address) (protocol : UInt8) (probeId : Nat) (payload : Bytes) :
    Ipv6Packet where
  trafficClass := 0
  flowLabel := UInt32.ofNat (probeId % 1048576)
  hopLimit := 64
  source := source
  destination := destination
  extensions := []
  upperLayerProtocol := protocol
  payload := payload

def buildIpPacket (source destination : IpAddress) (protocol : UInt8) (probeId : Nat) (payload : Bytes) :
    Except ScannerError Bytes :=
  match source, destination with
  | .v4 source, .v4 destination => ofBuild (ipv4Packet source destination protocol probeId payload).build
  | .v6 source, .v6 destination => ofBuild (ipv6Packet source destination protocol probeId payload).build
  | _, _ => .error (.invalid "build IP packet" "source and destination families differ")

/-- The packet of a UDP probe from a given port. -/
def udpPacket {χ : Type} (catalogue : Catalogue χ) (request : UdpProgramRequest χ) (wireId : Nat)
    (probe : LogicalProbe)
    (route : RouteBinding) (token : CorrelationToken) (sourcePort : UInt16) : Except ScannerError Bytes :=
  match requestPayload catalogue request token.payloadToken route sourcePort probe.port with
  | .error error => .error error
  | .ok payload =>
    match transportContext route.source route.destination with
    | .error error => .error error
    | .ok checksumContext =>
      match probe.port with
      | none => .error (.internal "build UDP" "destination port missing")
      | some port =>
        match ofBuild (UdpDatagram.build ⟨checksumContext, .compute, sourcePort,
          UInt16.ofNat port.get, payload⟩) with
        | .error error => .error error
        | .ok transport => buildIpPacket route.source route.destination 17 wireId transport

/-- The UDP branch of building a probe; the port is the one that the probe already holds. -/
def buildUdpProbe {χ : Type} (catalogue : Catalogue χ) (request : UdpProgramRequest χ) (wireId : Nat)
    (probe : LogicalProbe) (route : RouteBinding) (token : CorrelationToken) :
    EStateM ScannerError WireState Bytes := do
  let sourcePort ← WireState.sourcePortFor wireId probe
  match udpPacket catalogue request wireId probe route token sourcePort with
  | .error error => throw error
  | .ok packet => pure packet

/-! ### Quotes of a probe -/

def ipHeaderLength : IpAddress → Nat
  | .v4 _ => 20
  | .v6 _ => 40

section Quote

variable {χ : Type} {catalogue : Catalogue χ} {request : UdpProgramRequest χ} {wireId : Nat} {probe : LogicalProbe}
  {route : RouteBinding} {token : CorrelationToken} {port : UInt16} {packet : Bytes}

private theorem ofBuild_ok {α : Type} {x : Except BuildError α} {a : α} (h : ofBuild x = .ok a) : x = .ok a := by
  cases x with
  | error e => cases h
  | ok b => cases h; rfl

/-- A packet that is built around a datagram is quoted with the addresses of its route and the front of the
datagram. -/
private theorem parse_quote_of_buildIpPacket {source destination : IpAddress} {transport : Bytes}
    (h : buildIpPacket source destination 17 wireId transport = .ok packet) {n : Nat}
    (hn : ipHeaderLength destination ≤ n) :
    ∃ q, parseQuotedIpPacket (packet.take n) = .ok q ∧ q.source = source ∧ q.destination = destination ∧
      q.protocol = 17 ∧ q.transport = classifyQuote 17 (transport.take (n - ipHeaderLength destination))
        .unfragmented := by
  match source, destination with
  | .v4 source, .v4 destination =>
    obtain ⟨hvalid, rfl⟩ := Ipv4Packet.build_eq_ok_iff.mp (ofBuild_ok h)
    obtain ⟨r, hparse, hpacket, hfragment, -⟩ := hvalid.parse_encode
    have hoptions : r.options = [] := congrArg Ipv4Packet.options hpacket
    have hquote := parseQuotedIpPacket_take_ipv4 (n := n) hparse (by rw [hoptions]; exact hn)
    rw [hoptions, hfragment, show r.source = source from congrArg Ipv4Packet.source hpacket,
      show r.destination = destination from congrArg Ipv4Packet.destination hpacket,
      show r.protocol = 17 from congrArg Ipv4Packet.protocol hpacket,
      show r.payload = transport from congrArg Ipv4Packet.payload hpacket] at hquote
    exact hquote
  | .v6 source, .v6 destination =>
    obtain ⟨r, hparse, ⟨-, -, -, hsource, hdestination, -, hterminal, -⟩, hwhole⟩ :=
      Ipv6Packet.parse_of_build (ofBuild_ok h) (.inl rfl)
    obtain ⟨hfragment, hextensionBytes⟩ := hwhole rfl
    have hquote := parseQuotedIpPacket_take_ipv6 (n := n) hparse (by rw [hextensionBytes]; exact hn)
    rw [hextensionBytes, hfragment, hsource, hdestination, hterminal] at hquote
    exact hquote
  | .v4 _, .v6 _ => cases h
  | .v6 _, .v4 _ => cases h

private theorem parse_quote_of_udpPacket
    (h : udpPacket catalogue request wireId probe route token port = .ok packet) :
    ∃ payload, requestPayload catalogue request token.payloadToken route port probe.port = .ok payload ∧
      ∀ n, ipHeaderLength route.destination + 8 ≤ n → ∃ q declaredLength checksum,
        parseQuotedIpPacket (packet.take n) = .ok q ∧ q.source = route.source ∧ q.destination = route.destination ∧
        q.protocol = 17 ∧ q.transport = .udp port (WireState.destinationPort probe) declaredLength checksum
          (payload.take (n - (ipHeaderLength route.destination + 8))) := by
  unfold udpPacket at h
  split at h
  · cases h
  next payload hpayload =>
  split at h
  · cases h
  next checksumContext hcontext =>
  split at h
  · cases h
  next destination hport =>
  split at h
  · cases h
  next transport htransport =>
  obtain ⟨-, checksum, rfl⟩ := UdpDatagram.of_build (ofBuild_ok htransport)
  refine ⟨payload, hpayload, fun n hn => ?_⟩
  obtain ⟨q, hparse, hsource, hdestination, hprotocol, hquote⟩ :=
    parse_quote_of_buildIpPacket h (show ipHeaderLength route.destination ≤ n by omega)
  obtain ⟨declaredLength, hclassify⟩ := UdpDatagram.classifyQuote_take
    ⟨checksumContext, .compute, port, UInt16.ofNat destination.get, payload⟩ checksum
    (show 8 ≤ n - ipHeaderLength route.destination by omega)
  refine ⟨q, declaredLength, checksum, hparse, hsource, hdestination, hprotocol, ?_⟩
  rw [hquote, hclassify, Nat.sub_sub]
  simp only [WireState.destinationPort, hport]

private theorem identity_of_udp {s s' : WireState} {identity : ProbeIdentity} (hfamily : probe.family = .udp)
    (h : WireState.identity wireId probe route s = .ok identity s') :
    WireState.sourcePort wireId s = .ok identity.sourcePort s' ∧ identity.protocol = 17 ∧
      identity.source = route.source ∧ identity.destination = route.destination ∧
      identity.destinationPort = WireState.destinationPort probe := by
  have hsource : WireState.sourcePortFor wireId probe = WireState.sourcePort wireId := by
    rw [WireState.sourcePortFor, hfamily]
    rfl
  have hfields : WireState.icmpFieldsFor wireId probe = pure (0, 0) := by
    rw [WireState.icmpFieldsFor, hfamily]
    rfl
  unfold WireState.identity at h
  rw [hsource, hfields, hfamily] at h
  cases hport : WireState.sourcePort wireId s with
  | error e t => simp only [bind, EStateM.bind, hport] at h; cases h
  | ok port t =>
    simp only [bind, EStateM.bind, pure, EStateM.pure, hport] at h
    cases hnew : ProbeIdentity.new (WireState.familyProtocol .udp) probe.attempt route.source
        route.destination port (WireState.destinationPort probe) 0 0 wireId with
    | error e => cases e; rw [hnew] at h; cases h
    | ok made =>
      rw [hnew] at h
      cases h
      unfold ProbeIdentity.new at hnew
      split at hnew <;> cases hnew <;> exact ⟨rfl, rfl, rfl, rfl, rfl⟩

private theorem payloadToken_length (token : CorrelationToken) : token.payloadToken.length = 16 := by
  rw [CorrelationToken.payloadToken, List.length_take, token.size]
  rfl

/-- A payload prefix is taken for the probe's if it is short or starts with the token. -/
private theorem classifyPayloadPrefix_ok_iff (token : CorrelationToken) (payload : Bytes) :
    (∃ strength, classifyPayloadPrefix payload token = .ok strength) ↔
      payload.length < 16 ∨ payload.take 16 = token.payloadToken := by
  have hsize := payloadToken_length token
  unfold classifyPayloadPrefix
  by_cases hshort : payload.length < 16
  · rw [if_pos hshort]
    exact ⟨fun _ => Or.inl hshort, fun _ => ⟨_, rfl⟩⟩
  rw [if_neg hshort]
  by_cases htoken : payload.take 16 = token.payloadToken
  · have hmatches : token.payloadMatches (payload.take 16) = true := by
      simp only [CorrelationToken.payloadMatches, htoken, hsize, true_and, decide_eq_true_eq]
      rfl
    rw [hmatches]
    exact ⟨fun _ => Or.inr htoken, fun _ => ⟨_, rfl⟩⟩
  have hmismatch : token.payloadMatches (payload.take 16) = false := by
    simp only [CorrelationToken.payloadMatches, decide_eq_false_iff_not, not_and]
    exact fun _ heq => htoken heq.symm
  rw [hmismatch]
  constructor
  · rintro ⟨strength, hok⟩
    cases hok
  rintro (h | h)
  · exact absurd h hshort
  · exact absurd h htoken

/-- For every entry of a programme and every probe that a session builds a packet for, a quote of the packet that
is cut anywhere behind the UDP header is attributed to the probe exactly if fewer than sixteen bytes of the payload
are left, or the payload starts with the probe's token.  An entry of the caller's own with the token in front is
always attributed; all that can go wrong is that the token is missing. -/
theorem quoted_probe_attributed_iff {s s₁ s₂ : WireState} {identity : ProbeIdentity}
    (hfamily : probe.family = .udp) (hidentity : WireState.identity wireId probe route s = .ok identity s₁)
    (hbuild : buildUdpProbe catalogue request wireId probe route (s₁.derive identity) s₁ = .ok packet s₂) {n : Nat}
    (hn : ipHeaderLength route.destination + 8 ≤ n) :
    ∃ payload quote,
      requestPayload catalogue request (s₁.derive identity).payloadToken route identity.sourcePort probe.port =
        .ok payload ∧
      parseQuotedIpPacket (packet.take n) = .ok quote ∧
      ((∃ evidence, classifyQuotedResponse identity quote (s₁.derive identity) = .ok evidence) ↔
        (payload.take (n - (ipHeaderLength route.destination + 8))).length < 16 ∨
          payload.take 16 = (s₁.derive identity).payloadToken) ∧
      (∀ rejection, classifyQuotedResponse identity quote (s₁.derive identity) = .error rejection →
        rejection = .tokenMismatch) ∧
      (request.catalogueProbe = none → request.correlation = .prefixToken →
        payload.take 16 = (s₁.derive identity).payloadToken) := by
  obtain ⟨hport, hprotocol, hsource, hdestination, hdestinationPort⟩ := identity_of_udp hfamily hidentity
  have hheld := WireState.sourcePort_again hport
  have hpacket : udpPacket catalogue request wireId probe route (s₁.derive identity) identity.sourcePort =
      .ok packet := by
    have hsourceFor : WireState.sourcePortFor wireId probe = WireState.sourcePort wireId := by
      rw [WireState.sourcePortFor, hfamily]
      rfl
    unfold buildUdpProbe at hbuild
    rw [hsourceFor] at hbuild
    simp only [bind, EStateM.bind, hheld] at hbuild
    cases hok : udpPacket catalogue request wireId probe route (s₁.derive identity) identity.sourcePort with
    | error e => rw [hok] at hbuild; cases hbuild
    | ok bytes => rw [hok] at hbuild; cases hbuild; rfl
  obtain ⟨payload, hpayload, hquotes⟩ := parse_quote_of_udpPacket hpacket
  obtain ⟨quote, declaredLength, checksum, hparse, hqsource, hqdestination, hqprotocol, htransport⟩ := hquotes n hn
  have hclassify : classifyQuotedResponse identity quote (s₁.derive identity) =
      (classifyPayloadPrefix (payload.take (n - (ipHeaderLength route.destination + 8))) (s₁.derive identity)).map
        fun strength => ⟨.icmpErrorQuote, strength⟩ := by
    rw [classifyQuotedResponse, if_neg (by rw [hqsource, hqdestination, hsource, hdestination]; simp),
      if_neg (by rw [hqprotocol, hprotocol]; simp), htransport]
    generalize hprefix : classifyPayloadPrefix (payload.take _) _ = answer
    cases answer <;> simp [quoteStrength, requireOutboundPorts, hdestinationPort, hprefix, Except.map]
  refine ⟨payload, quote, hpayload, hparse, ?_, ?_, ?_⟩
  · have hok : (∃ evidence, classifyQuotedResponse identity quote (s₁.derive identity) = .ok evidence) ↔
        ∃ strength, classifyPayloadPrefix (payload.take (n - (ipHeaderLength route.destination + 8)))
          (s₁.derive identity) = .ok strength := by
      rw [hclassify]
      cases classifyPayloadPrefix (payload.take (n - (ipHeaderLength route.destination + 8)))
        (s₁.derive identity) with
      | error rejection =>
        constructor <;> rintro ⟨_, h⟩ <;> cases h
      | ok strength => exact ⟨fun _ => ⟨_, rfl⟩, fun _ => ⟨_, rfl⟩⟩
    rw [hok, classifyPayloadPrefix_ok_iff]
    by_cases hshort : (payload.take (n - (ipHeaderLength route.destination + 8))).length < 16
    · simp only [hshort, true_or]
    · rw [List.length_take] at hshort
      rw [List.take_take, Nat.min_eq_left (by omega)]
  · intro rejection hrejection
    rw [hclassify] at hrejection
    unfold classifyPayloadPrefix at hrejection
    split at hrejection
    · cases hrejection
    split at hrejection
    · cases hrejection; rfl
    · cases hrejection
  intro hcatalogue hcorrelation
  rw [requestPayload, hcatalogue] at hpayload
  cases hpayload
  rw [composeUdpRequestPayload, if_pos hcorrelation]
  exact List.take_left' (payloadToken_length _)

end Quote

/-! ### A raw request -/

private def rawToken : CorrelationToken := ⟨List.replicate 32 0xaa, rfl⟩

private def rawSession : WireState := .new (fun _ => rawToken) 0 .sample

/-- Sixteen bytes of the caller's own, correlated by the tuple alone. -/
private def rawRequest : UdpProgramRequest Empty := ⟨List.replicate 16 0, .tuple, none⟩

private def noCatalogue : Catalogue Empty := fun c _ _ => nomatch c

/-- The verdict on a quote of the first bytes of a probe's own packet. -/
def ownQuote {χ : Type} (catalogue : Catalogue χ) (request : UdpProgramRequest χ) (wireId : Nat)
    (probe : LogicalProbe)
    (route : RouteBinding) (s : WireState) (n : Nat) : Option (Except CorrelationRejection CorrelationEvidence) :=
  match WireState.identity wireId probe route s with
  | .error _ _ => none
  | .ok identity s₁ =>
    match buildUdpProbe catalogue request wireId probe route (s₁.derive identity) s₁ with
    | .error _ _ => none
    | .ok packet _ =>
      match parseQuotedIpPacket (packet.take n) with
      | .error _ => none
      | .ok quote => some (classifyQuotedResponse identity quote (s₁.derive identity))

private theorem prefixed_builds : ∃ identity s₁ packet s₂,
    WireState.identity 1 Process.probe Process.route rawSession = .ok identity s₁ ∧
    buildUdpProbe noCatalogue { rawRequest with correlation := .prefixToken } 1 Process.probe Process.route
      (s₁.derive identity) s₁ = .ok packet s₂ :=
  ⟨_, _, _, _, rfl, rfl⟩

/-- With the token in front of the payload the whole packet is attributed. -/
theorem quoted_probe_attributed_prefixed : ∃ identity s₁ packet quote evidence,
    WireState.identity 1 Process.probe Process.route rawSession = .ok identity s₁ ∧
    parseQuotedIpPacket packet = .ok quote ∧
    classifyQuotedResponse identity quote (s₁.derive identity) = .ok evidence := by
  obtain ⟨identity, s₁, packet, s₂, hidentity, hbuild⟩ := prefixed_builds
  obtain ⟨payload, quote, -, hparse, hiff, -, hsuccess⟩ :=
    quoted_probe_attributed_iff rfl hidentity hbuild (show 20 + 8 ≤ 60 by decide)
  obtain ⟨evidence, hevidence⟩ := hiff.2 (Or.inr (hsuccess rfl rfl))
  exact ⟨identity, s₁, _, quote, evidence, hidentity, hparse, hevidence⟩

/-- The quote of a whole packet with a raw payload of sixteen bytes is not attributed to the probe, while one with
a byte less is. -/
theorem raw_quote_rejected :
    ownQuote noCatalogue rawRequest 1 Process.probe Process.route rawSession 44 = some (.error .tokenMismatch) ∧
    ownQuote noCatalogue rawRequest 1 Process.probe Process.route rawSession 43 =
      some (.ok ⟨.icmpErrorQuote, .truncatedQuote⟩) := by
  decide +kernel

end NodeNet.Wire
