import NodeNet.Base.Lanes
import NodeNet.Base.Program
import NodeNet.Protocols.Correlation

/-!
# Wire state of a scan session

What a session remembers about its physical probes: the route of each logical probe, the identity and token of each
probe that was sent, the deadlines of finished probes, the neighbours it learned, and two pools of correlation
lanes, one for source ports and one for ICMP identifiers.  The four sessions of a process number their lanes in
four partitions of the same spaces.  Readings of the clock are arguments, in microseconds.
-/

namespace NodeNet.Wire

open Engine (IpAddress ProbeFamily LogicalProbe EmissionPurpose ProbeEmission UdpProbeVariant
  saturatingAdd u16Max u64Max)
open Protocols (ProbeIdentity CorrelationToken)

/-! ### Errors -/

structure ScannerError where
  kind : String
  code : String
  operation : String
  message : String
deriving DecidableEq

namespace ScannerError

def invalid (operation message : String) : ScannerError :=
    ⟨"invalidPlan", "ERR_INVALID_SCAN_PLAN", operation, message⟩
def resource (operation message : String) : ScannerError :=
    ⟨"resourceLimit", "ERR_RESOURCE_LIMIT", operation, message⟩
def internal (operation message : String) : ScannerError :=
    ⟨"internal", "ERR_SCANNER_INTERNAL", operation, message⟩

end ScannerError

/-! ### Data -/

def sessionCount : Nat := 4

/-- The ICMP lanes of one session: the mask keeps 30 bits. -/
def icmpLaneCount : Nat := 0x40000000

/-- The options that the wire state reads.  Validation rejects a range that starts at zero, that is reversed, or
whose quarter holds no port. -/
structure SessionOptions where
  sourcePortStart : UInt16
  sourcePortEnd : UInt16
  lateGrace : Nat
  start_pos : 0 < sourcePortStart.toNat
  quarter_pos : sourcePortStart.toNat + sessionCount ≤ sourcePortEnd.toNat + 1

def SessionOptions.sample : SessionOptions := ⟨40000, 59999, 0, by decide, by decide⟩

inductive RoutePlanKind where
  | local | loopback | ethernetOnLink | ethernetGateway | multicast
deriving DecidableEq

structure MacAddress where
  octets : Bytes
  size : octets.length = 6
deriving DecidableEq

structure RouteBinding where
  generation : Nat
  kind : RoutePlanKind
  interfaceIndex : Nat
  source : IpAddress
  destination : IpAddress
  nextHop : IpAddress
  sourceMac : Option MacAddress
  destinationMac : Option MacAddress
deriving DecidableEq

/-- A probe as it was last sent; its route is that of its logical probe. -/
structure ProbeWire where
  probe : LogicalProbe
  identity : ProbeIdentity
  token : CorrelationToken
  route : Nat
  purpose : EmissionPurpose
  udpVariant : Option UdpProbeVariant
deriving DecidableEq

/-- A neighbour: an address on a link. -/
structure NeighborKey where
  interfaceIndex : Nat
  address : IpAddress
deriving DecidableEq

def NeighborKey.key (k : NeighborKey) : List Nat :=
  match k.address with
  | .v4 value => [k.interfaceIndex, 4, value.toNat]
  | .v6 value => [k.interfaceIndex, 6, value.toNat]

theorem NeighborKey.key_injective : Function.Injective NeighborKey.key := by
  rintro ⟨i, a | a⟩ ⟨j, b | b⟩ h <;> simp only [key, List.cons.injEq, and_true] at h
  · rw [h.1, BitVec.eq_of_toNat_eq h.2.2]
  · exact absurd h.2.1 (by decide)
  · exact absurd h.2.1 (by decide)
  · rw [h.1, BitVec.eq_of_toNat_eq h.2.2]

instance : LinearOrder NeighborKey := LinearOrder.lift' NeighborKey.key NeighborKey.key_injective

structure WireProgress where
  sent : Nat
  invalid : Nat
  retried : Nat
deriving DecidableEq

/-- The state of one session; `derive` makes tokens from identities with the session's secret. -/
structure WireState where
  derive : ProbeIdentity → CorrelationToken
  sessionSlot : Nat
  options : SessionOptions
  routes : OrdMap Nat RouteBinding
  probes : OrdMap Nat ProbeWire
  learnedNeighbors : OrdMap NeighborKey MacAddress
  terminalDeadlines : OrdMap Nat Nat
  icmpLanes : Lanes
  sourceLanes : Lanes
  progress : WireProgress

namespace WireState

def new (derive : ProbeIdentity → CorrelationToken) (sessionSlot : Nat) (options : SessionOptions) :
    WireState where
  derive := derive
  sessionSlot := sessionSlot
  options := options
  routes := ∅
  probes := ∅
  learnedNeighbors := ∅
  terminalDeadlines := ∅
  icmpLanes := .empty
  sourceLanes := .empty
  progress := ⟨0, 0, 0⟩

/-! ### Finished probes -/

variable (s : WireState)

variable (probeId : Nat)

def retirePhysical : WireState :=
  { s with
    terminalDeadlines := s.terminalDeadlines.erase probeId
    probes := s.probes.erase probeId
    icmpLanes := s.icmpLanes.release probeId
    sourceLanes := s.sourceLanes.release probeId }

def logicalIdOf : Nat :=
  match s.probes.get? probeId with
  | some probe => probe.probe.logicalId
  | none => probeId

/-- Forgets a finished probe, and the route of its logical probe with the last physical one. -/
def pruneProbe : WireState :=
  let logicalId := s.logicalIdOf probeId
  let s := s.retirePhysical probeId
  if s.probes.values.any (·.probe.logicalId = logicalId) then s
  else { s with routes := s.routes.erase logicalId }

def pruneTerminal (now : Nat) : WireState :=
  (s.terminalDeadlines.keysWhere fun _ deadline => now ≥ deadline).foldl pruneProbe s

/-- Gives the physical probes of a finished logical probe their deadlines.  One with a wire id of its own was sent
for a programme that has settled, so that nothing late can count. -/
def markOne (deadline : Nat) (s : WireState) (logicalId now : Nat) : WireState :=
  let wireIds := s.probes.keysWhere fun _ probe => probe.probe.logicalId = logicalId
  if wireIds.isEmpty then { s with terminalDeadlines := s.terminalDeadlines.insert logicalId now }
  else
    let settledProgramme := wireIds.any (· ≠ logicalId)
    let probeDeadline := if settledProgramme then now else deadline
    { s with
      terminalDeadlines := wireIds.foldl (fun deadlines wireId => deadlines.insert wireId probeDeadline)
        s.terminalDeadlines }

/-- Every logical id comes with the reading of the clock at its turn. -/
def markTerminal (start : Nat) (logicalIds : List (Nat × Nat)) (stop : Nat) : WireState :=
  let deadline := start + s.options.lateGrace
  (logicalIds.foldl (fun s (logicalId, now) => markOne deadline s logicalId now) s).pruneTerminal stop

/-! ### Routes -/

def insertRoute (route : RouteBinding) : WireState :=
  let route := match route.destinationMac with
    | none => { route with destinationMac := s.learnedNeighbors.get? ⟨route.interfaceIndex, route.nextHop⟩ }
    | some _ => route
  { s with routes := s.routes.insert probeId route }

/-! ### Lanes -/

/-- The ports of one session: a quarter of the range. -/
def portsPerSession : Nat := (s.options.sourcePortEnd.toNat - s.options.sourcePortStart.toNat + 1) / sessionCount

def sourcePort : EStateM ScannerError WireState UInt16 := fun s =>
  if s.options.sourcePortEnd < s.options.sourcePortStart then
    .error (.internal "allocate source port" "source-port range is reversed") s
  else if s.sessionSlot ≥ 4 ∨ s.portsPerSession = 0 then
    .error (.internal "allocate source port" "scanner session slot or source-port partition is invalid") s
  else
    match s.sourceLanes.allocate s.portsPerSession probeId with
    | (none, lanes) =>
      .error (.resource "allocate source port" "the session source-port correlation space is exhausted")
        { s with sourceLanes := lanes }
    | (some lane, lanes) =>
      let offset := s.sessionSlot * s.portsPerSession + lane
      let port := s.options.sourcePortStart.toNat + offset
      let s := { s with sourceLanes := lanes }
      if offset > u16Max then .error (.internal "allocate source port" "source-port offset overflowed") s
      else if port > u16Max then .error (.internal "allocate source port" "source port overflowed") s
      else .ok (UInt16.ofNat port) s

def icmpCorrelationFields : EStateM ScannerError WireState (UInt16 × UInt16) := fun s =>
  if s.sessionSlot ≥ 4 then
    .error (.internal "allocate ICMP identifier"
      "scanner session slot is outside the four-session correlation space") s
  else
    match s.icmpLanes.allocate icmpLaneCount probeId with
    | (none, lanes) =>
      .error (.resource "allocate ICMP identifier" "the session ICMP correlation space is exhausted")
        { s with icmpLanes := lanes }
    | (some lane, lanes) =>
      let s := { s with icmpLanes := lanes }
      if lane >>> 16 > u16Max then .error (.internal "allocate ICMP identifier" "ICMP lane high bits overflowed") s
      else .ok (UInt16.ofNat (s.sessionSlot <<< 14 ||| lane >>> 16), UInt16.ofNat (lane % 65536)) s

/-! ### Emission -/

def familyProtocol : ProbeFamily → UInt8
  | .arp => 0
  | .ndp | .icmpv6Echo => 58
  | .icmpv4Echo => 1
  | .tcpSyn => 6
  | .udp => 17

def isEchoFamily : ProbeFamily → Bool
  | .icmpv4Echo | .icmpv6Echo => true
  | _ => false

def sourcePortFor (probe : LogicalProbe) : EStateM ScannerError WireState UInt16 :=
  if probe.family.usesPorts then sourcePort probeId else pure 0

def icmpFieldsFor (probe : LogicalProbe) : EStateM ScannerError WireState (UInt16 × UInt16) :=
  if isEchoFamily probe.family then icmpCorrelationFields probeId else pure (0, 0)

def destinationPort (probe : LogicalProbe) : UInt16 :=
  match probe.port with
  | some port => UInt16.ofNat port.get
  | none => 0

def identity (probeId : Nat) (probe : LogicalProbe) (route : RouteBinding) :
    EStateM ScannerError WireState ProbeIdentity := do
  let sourcePort ← sourcePortFor probeId probe
  let fields ← icmpFieldsFor probeId probe
  match ProbeIdentity.new (familyProtocol probe.family) probe.attempt route.source route.destination sourcePort
      (destinationPort probe) fields.1 fields.2 probeId with
  | .error .addressFamilyMismatch =>
    throw (.invalid "create correlation identity" "probe correlation addresses use different IP families")
  | .ok identity => pure identity

/-- Builds the packet and hands it to the socket of the route's kind. -/
abbrev Transmit := RouteBinding → ProbeIdentity → CorrelationToken → ProbeEmission → Except ScannerError Unit

/-- Sends one emission; a probe is recorded once the socket has taken its packet.  Nothing is sent to clean up. -/
def emit (transmit : Transmit) (emission : ProbeEmission) : EStateM ScannerError WireState Unit := do
  match (← get).routes.get? emission.probe.logicalId with
  | none => throw (.internal "emit probe" "route binding is missing")
  | some route =>
    let identity ← identity emission.probeId emission.probe route
    let token := (← get).derive identity
    if emission.purpose = .tcpResetCleanup then pure ()
    else
      match transmit route identity token emission with
      | .error error => throw error
      | .ok () =>
        modify fun s => { s with
          progress := { s.progress with
            sent := saturatingAdd u64Max s.progress.sent 1
            retried := if emission.transmission > 1 then saturatingAdd u64Max s.progress.retried 1
              else s.progress.retried }
          probes := s.probes.insert emission.probeId {
            probe := emission.probe
            identity, token
            route := emission.probe.logicalId
            purpose := emission.purpose
            udpVariant := emission.udpVariant } }

/-! ### Neighbours -/

def learnNeighbor (interfaceIndex : Nat) (target : IpAddress) (mac : MacAddress) : WireState :=
  { s with
    learnedNeighbors := s.learnedNeighbors.insert ⟨interfaceIndex, target⟩ mac
    routes := s.routes.mapValues fun route =>
      if route.interfaceIndex = interfaceIndex ∧ route.nextHop = target then
        { route with destinationMac := some mac }
      else route }

end WireState

end NodeNet.Wire
