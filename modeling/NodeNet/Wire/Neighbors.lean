import NodeNet.Protocols.Link
import NodeNet.Protocols.Ndp
import NodeNet.Wire.State

/-!
# Neighbour learning

What a session does with a captured frame, as far as its neighbours are concerned: an ARP reply is learned on the
interface it came in on, an advertisement on every interface that has a route through its target.  Learning is
confined to the receiving link exactly if an advertisement finds nothing to change and nothing to report elsewhere
(`neighbor_learning_confined_iff`).
-/

namespace NodeNet.Wire

open Engine (IpAddress EvidenceEvent EvidenceKind EvidenceStrength ProbeFamily EmissionPurpose
  saturatingAdd u64Max)
open Protocols (parseEthernetFrame parseArpPacket parseNdpMessage parseIpv4Packet parseIpv6Packet ParsedNdpOption
  NdpContext)

/-! ### Dispatch -/

structure PacketMessage where
  data : Bytes
  interfaceIndex : Nat
  packetType : UInt8
  checksumNotReady : Bool
deriving DecidableEq

def packetOutgoing : UInt8 := 4

/-- What a frame is handed to.  The transport parsers neither learn neighbours nor report any. -/
inductive Delivery where
  | nothing
  | invalid
  | arp (payload : Bytes)
  | ndp (source destination : IpAddress) (hopLimit : UInt8) (payload : Bytes)
  | transport (source destination : IpAddress) (protocol : UInt8) (payload : Bytes)
deriving DecidableEq

/-- Messages of the types 133 to 137 are for neighbour discovery. -/
def deliverTransport (source destination : IpAddress) (protocol : UInt8) (payload : Bytes) (hopLimit : UInt8) :
    Delivery :=
  match payload with
  | kind :: _ =>
    if protocol = 58 ∧ 133 ≤ kind ∧ kind ≤ 137 then .ndp source destination hopLimit payload
    else .transport source destination protocol payload
  | [] => .transport source destination protocol payload

def deliverIp (packet : Bytes) : Delivery :=
  match packet with
  | [] => .invalid
  | first :: _ =>
    if first >>> 4 = 4 then
      match parseIpv4Packet packet .strict with
      | .error _ => .invalid
      | .ok parsed =>
        match parsed.upperLayer with
        | .reachable protocol payload _ =>
          deliverTransport (.v4 parsed.source) (.v4 parsed.destination) protocol payload parsed.timeToLive
        | _ => .nothing
    else if first >>> 4 = 6 then
      match parseIpv6Packet packet .strict with
      | .error _ => .invalid
      | .ok parsed =>
        match parsed.upperLayer with
        | .reachable protocol payload _ =>
          deliverTransport (.v6 parsed.source) (.v6 parsed.destination) protocol payload parsed.hopLimit
        | _ => .nothing
    else .invalid

def PacketMessage.delivery (message : PacketMessage) : Delivery :=
  if message.packetType = packetOutgoing then .nothing
  else
    match parseEthernetFrame message.data with
    | .error _ => .invalid
    | .ok frame =>
      if frame.header.etherType = Protocols.etherTypeArp then .arp frame.payload
      else if frame.header.etherType = Protocols.etherTypeIpv4 ∨ frame.header.etherType =
        Protocols.etherTypeIpv6 then
        deliverIp frame.payload
      else .nothing

/-! ### Processing -/

def observed (kind : EvidenceKind) (probeId : Nat) : EvidenceEvent :=
  ⟨probeId, kind, .tupleCorrelatedUnauthenticated, none, none⟩

/-- A probe that waits for a neighbour to answer: it is one for the family, or was sent to prepare another. -/
def ProbeWire.Awaits (probe : ProbeWire) (family : ProbeFamily) : Bool :=
  probe.probe.family = family ∨ probe.purpose = .neighborSetup family

def MacAddress.ofOctets (octets : Bytes) : Option MacAddress :=
  if h : octets.length = 6 then some ⟨octets, h⟩ else none

/-- The hardware address of the target: the first option that names one of six bytes. -/
def targetHardwareAddress (options : List ParsedNdpOption) : Option MacAddress :=
  options.findSome? fun option =>
    match option with
    | .targetLinkLayerAddress value => MacAddress.ofOctets value
    | _ => none

namespace WireState

variable (s : WireState)

def countInvalid : WireState :=
  { s with progress := { s.progress with invalid := saturatingAdd u64Max s.progress.invalid 1 } }

/-- The probes that wait for `family` and whose route is as stated. -/
def awaiting (family : ProbeFamily) (route : RouteBinding → Bool) : List Nat :=
  s.probes.keysWhere fun _ probe =>
    match s.routes.get? probe.route with
    | some binding => route binding && probe.Awaits family
    | none => false

def processArp (interfaceIndex : Nat) (payload : Bytes) : WireState × List EvidenceEvent :=
  match parseArpPacket payload with
  | .ok (.ethernetIpv4 packet) =>
    if packet.operation ≠ .reply then (s, [])
    else
      let sender := IpAddress.v4 packet.senderProtocolAddress
      let mac : MacAddress := ⟨Protocols.macOctets packet.senderHardwareAddress, Protocols.macOctets_length _⟩
      let s := s.learnNeighbor interfaceIndex sender mac
      (s, (s.awaiting .arp fun route => route.interfaceIndex = interfaceIndex ∧ route.nextHop = sender).map
        (observed .arpReply))
  | _ => (s.countInvalid, [])

/-- An advertisement is learned wherever its target is a next hop. -/
def learnAdvertised (target : IpAddress) (mac : MacAddress) : WireState × List EvidenceEvent :=
  let interfaces := (s.routes.values.filter (·.nextHop = target)).map (·.interfaceIndex)
  let s := interfaces.foldl (fun s interface => s.learnNeighbor interface target mac) s
  (s, (s.awaiting .ndp fun route => route.nextHop = target).map (observed .neighborAdvertisement))

/-- The receiving interface is not known here. -/
def processNdp (source destination : IpAddress) (hopLimit : UInt8) (payload : Bytes) :
    WireState × List EvidenceEvent :=
  match source, destination with
  | .v6 source, .v6 destination =>
    match parseNdpMessage payload ⟨source, destination, hopLimit⟩ with
    | .error _ => (s.countInvalid, [])
    | .ok packet =>
      match packet.message with
      | .neighborAdvertisement _ _ _ target =>
        match targetHardwareAddress packet.options with
        | none => (s, [])
        | some mac => s.learnAdvertised (.v6 target) mac
      | _ => (s, [])
  | _, _ => (s, [])

/-- What the transport parsers find in a segment, with the state they leave. -/
abbrev Correlate := IpAddress → IpAddress → UInt8 → Bytes → Bool → WireState → WireState × List EvidenceEvent

def processPacket (correlate : Correlate) (s : WireState) (message : PacketMessage) :
    WireState × List EvidenceEvent :=
  match message.delivery with
  | .nothing => (s, [])
  | .invalid => (s.countInvalid, [])
  | .arp payload => s.processArp message.interfaceIndex payload
  | .ndp source destination hopLimit payload => s.processNdp source destination hopLimit payload
  | .transport source destination protocol payload =>
    correlate source destination protocol payload message.checksumNotReady s

/-! ### What learning changes -/

variable {s : WireState} {i : Nat} {target : IpAddress} {mac : MacAddress}

/-- A route with the hardware address that was learned for its next hop. -/
def resolve (interfaces : List Nat) (target : IpAddress) (mac : MacAddress) (route : RouteBinding) :
    RouteBinding :=
  if route.interfaceIndex ∈ interfaces ∧ route.nextHop = target then
    { route with destinationMac := some mac } else route

theorem resolve_interfaceIndex (interfaces : List Nat) (route : RouteBinding) :
    (resolve interfaces target mac route).interfaceIndex = route.interfaceIndex := by
  unfold resolve
  split <;> rfl

theorem resolve_nextHop (interfaces : List Nat) (route : RouteBinding) :
    (resolve interfaces target mac route).nextHop = route.nextHop := by
  unfold resolve
  split <;> rfl

theorem learnNeighbor_routes (id : Nat) :
    (s.learnNeighbor i target mac).routes.get? id = (s.routes.get? id).map (resolve [i] target mac) := by
  rw [learnNeighbor, OrdMap.get?_mapValues]
  congr 1
  funext route
  simp only [resolve, List.mem_singleton]

theorem learnNeighbor_learned (key : NeighborKey) :
    (s.learnNeighbor i target mac).learnedNeighbors.get? key =
      if key.interfaceIndex = i ∧ key.address = target then some mac else s.learnedNeighbors.get? key := by
  rw [learnNeighbor, OrdMap.get?_insert]
  have hkey : key = ⟨i, target⟩ ↔ key.interfaceIndex = i ∧ key.address = target := by
    cases key
    simp only [NeighborKey.mk.injEq]
  simp only [hkey]

/-- Learning on one interface after the other, the order does not matter. -/
theorem learn_interfaces (s : WireState) (target : IpAddress) (mac : MacAddress) (interfaces : List Nat) :
    let s' := interfaces.foldl (fun s interface => s.learnNeighbor interface target mac) s
    s'.probes = s.probes ∧
      (∀ id, s'.routes.get? id = (s.routes.get? id).map (resolve interfaces target mac)) ∧
      ∀ key, s'.learnedNeighbors.get? key =
        if key.interfaceIndex ∈ interfaces ∧ key.address = target then some mac else
          s.learnedNeighbors.get? key := by
  induction interfaces generalizing s with
  | nil =>
    refine ⟨rfl, fun id => ?_, fun key => ?_⟩
    · cases hroute : s.routes.get? id <;> simp [resolve, hroute]
    · simp
  | cons interface rest ih =>
    obtain ⟨hprobes, hroutes, hlearned⟩ := ih (s.learnNeighbor interface target mac)
    refine ⟨hprobes, fun id => ?_, fun key => ?_⟩
    · rw [List.foldl_cons, hroutes, learnNeighbor_routes, Option.map_map]
      congr 1
      funext route
      by_cases hhop : route.nextHop = target
      · by_cases hhead : route.interfaceIndex = interface <;> simp [resolve, hhop, hhead]
      · simp [resolve, hhop]
    rw [List.foldl_cons, hlearned, learnNeighbor_learned]
    by_cases haddress : key.address = target
    · by_cases hhead : key.interfaceIndex = interface <;> simp [haddress, hhead]
    · simp [haddress]

theorem mem_awaiting {family : ProbeFamily} {route : RouteBinding → Bool} {id : Nat} :
    id ∈ s.awaiting family route ↔
      ∃ probe binding, s.probes.get? id = some probe ∧ s.routes.get? probe.route = some binding ∧
        route binding = true ∧ probe.Awaits family = true := by
  rw [awaiting, OrdMap.mem_keysWhere]
  constructor
  · rintro ⟨probe, hprobe, hawaits⟩
    cases hbinding : s.routes.get? probe.route with
    | none => simp [hbinding] at hawaits
    | some binding =>
      simp only [hbinding, Bool.and_eq_true] at hawaits
      exact ⟨probe, binding, hprobe, hbinding, hawaits⟩
  · rintro ⟨probe, binding, hprobe, hbinding, hroute, hawaits⟩
    exact ⟨probe, hprobe, by simp [hbinding, hroute, hawaits]⟩

/-! ### Confinement -/

/-- Only routes and neighbours of the interface `i` change, a route only in the hardware address of its next hop,
and only probes whose route uses `i` are reported. -/
structure Confined (s : WireState) (i : Nat) (result : WireState × List EvidenceEvent) : Prop where
  routes : ∀ id, result.1.routes.get? id = s.routes.get? id ∨
    ∃ route mac, s.routes.get? id = some route ∧ route.interfaceIndex = i ∧
      result.1.routes.get? id = some { route with destinationMac := some mac }
  learned : ∀ key, key.interfaceIndex ≠ i → result.1.learnedNeighbors.get? key = s.learnedNeighbors.get? key
  evidence : ∀ event ∈ result.2, ∃ probe route, s.probes.get? event.probeId = some probe ∧
    s.routes.get? probe.route = some route ∧ route.interfaceIndex = i

/-- A route through the target on another interface than `i` has the hardware address already, there and among the
neighbours, and no probe on it waits for an advertisement. -/
def Undisturbed (s : WireState) (i : Nat) (target : IpAddress) (mac : MacAddress) : Prop :=
  ∀ id route, s.routes.get? id = some route → route.nextHop = target → route.interfaceIndex ≠ i →
    route.destinationMac = some mac ∧ s.learnedNeighbors.get? ⟨route.interfaceIndex, target⟩ = some mac ∧
      ∀ probeId probe, s.probes.get? probeId = some probe → probe.route = id → probe.Awaits .ndp = false

theorem Confined.unchanged (events : List EvidenceEvent) (h : events = []) {s' : WireState}
    (hroutes : s'.routes = s.routes) (hlearned : s'.learnedNeighbors = s.learnedNeighbors) :
    s.Confined i (s', events) := by
  subst h
  exact ⟨fun id => .inl (by rw [hroutes]), fun key _ => by rw [hlearned], fun event hevent => nomatch hevent⟩

theorem confined_processArp (payload : Bytes) : s.Confined i (s.processArp i payload) := by
  unfold processArp
  split
  · split
    · exact Confined.unchanged [] rfl rfl rfl
    refine ⟨fun id => ?_, fun key hkey => ?_, fun event hevent => ?_⟩
    · rw [learnNeighbor_routes]
      cases hroute : s.routes.get? id with
      | none => exact .inl rfl
      | some route =>
        rw [Option.map_some, resolve]
        split
        · next hmatch => exact .inr ⟨route, _, rfl, List.mem_singleton.1 hmatch.1, rfl⟩
        · exact .inl rfl
    · rw [learnNeighbor_learned, if_neg fun hmatch => hkey hmatch.1]
    obtain ⟨probeId, hmem, rfl⟩ := List.mem_map.1 hevent
    obtain ⟨probe, binding, hprobe, hbinding, hroute, -⟩ := mem_awaiting.1 hmem
    rw [learnNeighbor_routes] at hbinding
    obtain ⟨route, hroute', rfl⟩ := Option.map_eq_some_iff.1 hbinding
    have hinterface := (of_decide_eq_true hroute).1
    rw [resolve_interfaceIndex] at hinterface
    exact ⟨probe, route, hprobe, hroute', hinterface⟩
  · exact Confined.unchanged [] rfl rfl rfl

theorem mem_interfaces {interface : Nat} :
    interface ∈ (s.routes.values.filter (·.nextHop = target)).map (·.interfaceIndex) ↔
      ∃ id route, s.routes.get? id = some route ∧ route.nextHop = target ∧ route.interfaceIndex = interface := by
  simp only [List.mem_map, List.mem_filter, OrdMap.mem_values, decide_eq_true_eq]
  constructor
  · rintro ⟨route, ⟨⟨id, hroute⟩, hhop⟩, hinterface⟩
    exact ⟨id, route, hroute, hhop, hinterface⟩
  · rintro ⟨id, route, hroute, hhop, hinterface⟩
    exact ⟨route, ⟨⟨id, hroute⟩, hhop⟩, hinterface⟩

theorem confined_learnAdvertised_iff :
    s.Confined i (s.learnAdvertised target mac) ↔ s.Undisturbed i target mac := by
  simp only [learnAdvertised]
  set interfaces := (s.routes.values.filter (·.nextHop = target)).map (·.interfaceIndex) with hinterfaces
  obtain ⟨hprobes, hroutes, hlearned⟩ := learn_interfaces s target mac interfaces
  generalize interfaces.foldl (fun s interface => s.learnNeighbor interface target mac) s = s' at *
  constructor
  · intro h id route hroute hhop hother
    have hmem : route.interfaceIndex ∈ interfaces := mem_interfaces.2 ⟨id, route, hroute, hhop, rfl⟩
    refine ⟨?_, ?_, fun probeId probe hprobe hid => ?_⟩
    · rcases h.routes id with hsame | ⟨route', mac', hroute', hinterface, -⟩
      · rw [hroutes, hroute, Option.map_some, resolve, if_pos ⟨hmem, hhop⟩, Option.some.injEq] at hsame
        rw [← hsame]
      · rw [hroute, Option.some.injEq] at hroute'
        exact absurd (hroute' ▸ hinterface) hother
    · rw [← h.learned ⟨route.interfaceIndex, target⟩ hother, hlearned, if_pos ⟨hmem, rfl⟩]
    by_contra hawaits
    rw [Bool.not_eq_false] at hawaits
    have hreported : probeId ∈ s'.awaiting .ndp fun route => route.nextHop = target := by
      refine mem_awaiting.2 ⟨probe, resolve interfaces target mac route, by rw [hprobes, hprobe], ?_, ?_, hawaits⟩
      · rw [hroutes, hid, hroute, Option.map_some]
      · rw [resolve_nextHop, hhop, decide_eq_true rfl]
    obtain ⟨probe', route', hprobe', hroute', hinterface⟩ :=
      h.evidence _ (List.mem_map.2 ⟨probeId, hreported, rfl⟩)
    rw [observed, hprobe, Option.some.injEq] at hprobe'
    subst hprobe'
    rw [hid, hroute, Option.some.injEq] at hroute'
    exact hother (hroute' ▸ hinterface)
  intro h
  refine ⟨fun id => ?_, fun key hkey => ?_, fun event hevent => ?_⟩
  · rw [hroutes]
    cases hroute : s.routes.get? id with
    | none => exact .inl rfl
    | some route =>
      rw [Option.map_some, resolve]
      split
      · next hmatch =>
        by_cases hinterface : route.interfaceIndex = i
        · exact .inr ⟨route, mac, rfl, hinterface, rfl⟩
        · have hmac := (h id route hroute hmatch.2 hinterface).1
          exact .inl (by rw [← hmac])
      · exact .inl rfl
  · rw [hlearned]
    split
    · next hmatch =>
      obtain ⟨id, route, hroute, hhop, hinterface⟩ := mem_interfaces.1 hmatch.1
      have hknown := (h id route hroute hhop (hinterface ▸ hkey)).2.1
      rw [hinterface, ← hmatch.2] at hknown
      exact hknown.symm
    · rfl
  obtain ⟨probeId, hmem, rfl⟩ := List.mem_map.1 hevent
  obtain ⟨probe, binding, hprobe, hbinding, hhop, hawaits⟩ := mem_awaiting.1 hmem
  rw [hprobes] at hprobe
  rw [hroutes] at hbinding
  obtain ⟨route, hroute, rfl⟩ := Option.map_eq_some_iff.1 hbinding
  rw [resolve_nextHop, decide_eq_true_eq] at hhop
  refine ⟨probe, route, hprobe, hroute, ?_⟩
  by_contra hother
  have hidle := (h probe.route route hroute hhop hother).2.2 probeId probe hprobe rfl
  rw [hidle] at hawaits
  cases hawaits

end WireState

/-! ### Frames -/

/-- What a frame says about a neighbour: an ARP reply, or an advertisement with the hardware address it names. -/
inductive Announcement where
  | arpReply
  | advertisement (target : IpAddress) (mac : Option MacAddress)
deriving DecidableEq

def Delivery.announcement : Delivery → Option Announcement
  | .arp payload =>
    match parseArpPacket payload with
    | .ok (.ethernetIpv4 packet) => if packet.operation = .reply then some .arpReply else none
    | _ => none
  | .ndp (.v6 source) (.v6 destination) hopLimit payload =>
    match parseNdpMessage payload ⟨source, destination, hopLimit⟩ with
    | .error _ => none
    | .ok packet =>
      match packet.message with
      | .neighborAdvertisement _ _ _ target =>
        some (.advertisement (.v6 target) (targetHardwareAddress packet.options))
      | _ => none
  | _ => none

theorem WireState.confined_processNdp_iff {s : WireState} {i : Nat} {source destination : IpAddress}
    {hopLimit : UInt8} {payload : Bytes} {a : Announcement}
    (h : (Delivery.ndp source destination hopLimit payload).announcement = some a) :
    s.Confined i (s.processNdp source destination hopLimit payload) ↔
      ∀ target mac, a = .advertisement target (some mac) → s.Undisturbed i target mac := by
  cases source with
  | v4 source => cases h
  | v6 source =>
    cases destination with
    | v4 destination => cases h
    | v6 destination =>
      simp only [Delivery.announcement] at h
      simp only [processNdp]
      cases hparse : parseNdpMessage payload ⟨source, destination, hopLimit⟩ with
      | error error => simp [hparse] at h
      | ok packet =>
        simp only [hparse] at h ⊢
        split at h
        · next target hmessage =>
          cases h
          cases hmac : targetHardwareAddress packet.options with
          | none =>
            simp only [Announcement.advertisement.injEq, reduceCtorEq, and_false, false_implies, implies_true,
              iff_true]
            exact Confined.unchanged [] rfl rfl rfl
          | some mac =>
            simp only [Announcement.advertisement.injEq, Option.some.injEq, and_imp, confined_learnAdvertised_iff]
            constructor
            · rintro hs _ _ rfl rfl
              exact hs
            · exact fun hs => hs _ _ rfl rfl
        · cases h

/-- A neighbour's answer that comes in on one interface leaves the other links alone, unless it is an advertisement
of a target that is a next hop elsewhere and is news there. -/
theorem neighbor_learning_confined_iff (correlate : WireState.Correlate) (s : WireState) (message : PacketMessage)
    (a : Announcement) (h : message.delivery.announcement = some a) :
    s.Confined message.interfaceIndex (s.processPacket correlate message) ↔
      ∀ target mac, a = .advertisement target (some mac) → s.Undisturbed message.interfaceIndex target mac := by
  unfold WireState.processPacket
  cases hdelivery : message.delivery with
  | nothing | invalid | transport source destination protocol payload => rw [hdelivery] at h; cases h
  | arp payload =>
    -- the receiving interface is checked, so nothing depends on the state
    refine ⟨fun _ target mac ha => ?_, fun _ => WireState.confined_processArp payload⟩
    rw [hdelivery, Delivery.announcement] at h
    split at h
    · split at h <;> cases h
      cases ha
    · cases h
  | ndp source destination hopLimit payload =>
    rw [hdelivery] at h
    exact WireState.confined_processNdp_iff h

/-! ### A gateway address on two links -/

/-- The link-local address of the gateway. -/
private def gateway : BitVec 128 := 0xfe800000000000000000000000000001

private def gatewayMac : MacAddress := ⟨[2, 0, 0, 0, 0, 1], rfl⟩

/-- The gateway advertises itself to `fe80::2`. -/
private def advertisementOn (interfaceIndex : Nat) : PacketMessage where
  data :=
    -- Ethernet header
    [2, 0, 0, 0, 0, 2, 2, 0, 0, 0, 0, 1, 0x86, 0xdd] ++
    -- IPv6 header
    ([0x60, 0, 0, 0, 0, 32, 58, 255] ++ Protocols.ipv6Octets gateway ++
      Protocols.ipv6Octets 0xfe800000000000000000000000000002) ++
    -- advertisement and target link-layer address
    ([136, 0, 0x18, 0x1c, 0x60, 0, 0, 0] ++ Protocols.ipv6Octets gateway ++ [2, 1] ++ gatewayMac.octets)
  interfaceIndex
  packetType := 0
  checksumNotReady := false

private def viaGateway (interfaceIndex : Nat) : RouteBinding where
  generation := 1
  kind := .ethernetGateway
  interfaceIndex
  source := .v6 0xfe800000000000000000000000000002
  destination := .v6 0x20010db8000000000000000000000001
  nextHop := .v6 gateway
  sourceMac := none
  destinationMac := none

/-- The gateway address is the next hop on the interfaces 2 and 3. -/
private def twoLinks : WireState :=
  ((WireState.new (fun _ => .zero) 0 .sample).insertRoute 1 (viaGateway 2)).insertRoute 2 (viaGateway 3)

/-- The hardware address is known on the interface 3, and a probe awaits it on the interface 2. -/
private def knownElsewhere : WireState :=
  let probe : Engine.LogicalProbe := ⟨1, 0, ⟨.v6 0x20010db8000000000000000000000001, none⟩, .icmpv6Echo, none⟩
  match WireState.emit (fun _ _ _ _ => .ok ()) ⟨1, probe, 1, .neighborSetup .ndp, 1, none⟩
      (twoLinks.learnNeighbor 3 (.v6 gateway) gatewayMac) with
  | .ok _ s => s
  | .error _ s => s

private theorem advertisementOn_announces (interfaceIndex : Nat) :
    (advertisementOn interfaceIndex).delivery.announcement =
    some (.advertisement (.v6 gateway) (some gatewayMac)) := by
  show (advertisementOn 0).delivery.announcement = _
  decide +kernel

private theorem knownElsewhere_undisturbed : knownElsewhere.Undisturbed 2 (.v6 gateway) gatewayMac := by
  intro id route hroute _ hother
  have hroutes : knownElsewhere.routes = (twoLinks.learnNeighbor 3 (.v6 gateway) gatewayMac).routes := rfl
  rw [hroutes, WireState.learnNeighbor, OrdMap.get?_mapValues, Option.map_eq_some_iff] at hroute
  obtain ⟨route, hroute, rfl⟩ := hroute
  rcases OrdMap.of_get?_insert hroute with ⟨rfl, rfl⟩ | ⟨-, hroute⟩
  · refine ⟨by decide +kernel, by decide +kernel, fun probeId probe hprobe hid => ?_⟩
    rcases OrdMap.of_get?_insert (m := ∅) hprobe with ⟨-, rfl⟩ | ⟨-, hnone⟩
    · exact absurd hid (by decide)
    · cases hnone
  rcases OrdMap.of_get?_insert hroute with ⟨rfl, rfl⟩ | ⟨-, hnone⟩
  · exact absurd rfl hother
  · cases hnone

/-- An advertisement that is no news on the other link is learned, and reported to the probe that awaits it. -/
theorem neighbor_learning_confined_two_links :
    let result := knownElsewhere.processPacket (fun _ _ _ _ _ s => (s, [])) (advertisementOn 2)
    knownElsewhere.Confined 2 result ∧ result.2 = [observed .neighborAdvertisement 1] := by
  refine ⟨?_, by decide +kernel⟩
  refine (neighbor_learning_confined_iff _ knownElsewhere (advertisementOn 2) _ (advertisementOn_announces 2)).2 ?_
  rintro _ _ ⟨⟩
  exact knownElsewhere_undisturbed

/-- An advertisement on interface 2 changes the route that leaves through interface 3. -/
theorem neighbor_learned_on_other_link :
    ¬ twoLinks.Confined 2 (twoLinks.processPacket (fun _ _ _ _ _ s => (s, [])) (advertisementOn 2)) := by
  intro h
  have hbefore : twoLinks.routes.get? 2 = some (viaGateway 3) := by decide +kernel
  have hafter : (twoLinks.processPacket (fun _ _ _ _ _ s => (s, [])) (advertisementOn 2)).1.routes.get? 2 =
      some { viaGateway 3 with destinationMac := some gatewayMac } := by decide +kernel
  rcases h.routes 2 with hsame | ⟨route, mac, hroute, hinterface, -⟩
  · rw [hbefore, hafter] at hsame
    exact absurd hsame (by decide)
  rw [hbefore, Option.some.injEq] at hroute
  rw [← hroute] at hinterface
  exact absurd hinterface (by decide)

end NodeNet.Wire
