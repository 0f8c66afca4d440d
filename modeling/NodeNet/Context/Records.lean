import NodeNet.Base.Bytes
import NodeNet.Base.Program
import NodeNet.Base.Sorted
import NodeNet.Engine.Types

/-!
# Normalization of kernel messages

The kernel describes links, addresses, routes, policy rules and neighbours by messages with a header and
attributes.  Each is normalized into a record: attributes are applied in turn, a later one over an earlier one, and
an attribute that is not known is copied.  The number of copied bytes is counted in the state of the normalization,
so that it is kept when an attribute is refused.
-/

namespace NodeNet.Context

open Engine (IpAddress checkedAdd saturatingAdd u64Max)

def maxStringAttributeBytes : Nat := 256
def maxMultipathNextHops : Nat := 64
def maxLinkLayerAddressBytes : Nat := 256
def maxUnknownAttributeBytes : Nat := 4096
def maxSnapshotUnknownBytes : Nat := 8 * 1048576

/-! ### Errors -/

inductive SnapshotResource where
  | stringBytes | interfaces | addresses | routes | rules | neighbors | multipathNextHops | linkLayerAddressBytes
  | unknownAttributeBytes | snapshotUnknownBytes
deriving DecidableEq

inductive IncompleteReason where
  | unexpectedMessage
  | disappearingInterface (index : Nat)
deriving DecidableEq

inductive SnapshotError where
  | decode (context detail : String)
  | limitExceeded (resource : SnapshotResource) (actual maximum : Nat)
  | incomplete (reason : IncompleteReason) (attempts : Nat)
  | unsupportedAddressFamily (family : Nat)
deriving DecidableEq

/-! ### Records -/

structure UnknownAttribute where
  kind : Nat
  value : Bytes
deriving DecidableEq

structure InterfaceRecord where
  index : Nat
  name : Bytes
  flags : Nat
  linkLayerType : Nat
  mtu : Option Nat
  hardwareAddress : Bytes
  permanentHardwareAddress : Bytes
  controllerIndex : Option Nat
  linkIndex : Option Nat
  linkNetnsId : Option Int
  operationalState : Option Nat
  linkKind : Option Bytes
  unknownAttributes : List UnknownAttribute
deriving DecidableEq

structure AddressRecord where
  interfaceIndex : Nat
  family : Nat
  prefixLength : Nat
  scope : Nat
  flags : Nat
  address : Option IpAddress
  localAddress : Option IpAddress
  label : Option Bytes
  broadcast : Option IpAddress
  unknownAttributes : List UnknownAttribute
deriving DecidableEq

structure RouteMetricRecord where
  kind : Nat
  value : Nat
deriving DecidableEq

structure RouteNextHopRecord where
  interfaceIndex : Nat
  hops : Nat
  flags : Nat
  gateway : Option IpAddress
  unknownAttributes : List UnknownAttribute
deriving DecidableEq

structure RouteRecord where
  family : Nat
  destinationPrefixLength : Nat
  sourcePrefixLength : Nat
  destination : Option IpAddress
  source : Option IpAddress
  table : Nat
  routeType : Nat
  scope : Nat
  protocol : Nat
  priority : Option Nat
  preferredSource : Option IpAddress
  gateway : Option IpAddress
  inputInterface : Option Nat
  outputInterface : Option Nat
  metrics : List RouteMetricRecord
  multipath : List RouteNextHopRecord
  hasEncapsulation : Bool
  unknownAttributes : List UnknownAttribute
deriving DecidableEq

structure InclusiveRange where
  start : Nat
  finish : Nat
deriving DecidableEq

structure RuleRecord where
  family : Nat
  destinationPrefixLength : Nat
  sourcePrefixLength : Nat
  destination : Option IpAddress
  source : Option IpAddress
  table : Nat
  action : Nat
  priority : Option Nat
  inputInterface : Option Bytes
  outputInterface : Option Bytes
  firewallMark : Option Nat
  firewallMask : Option Nat
  uidRange : Option InclusiveRange
  ipProtocol : Option Nat
  sourcePortRange : Option InclusiveRange
  destinationPortRange : Option InclusiveRange
  unknownAttributes : List UnknownAttribute
deriving DecidableEq

structure NeighborRecord where
  family : Nat
  interfaceIndex : Nat
  destination : Option IpAddress
  state : Nat
  flags : Nat
  neighborType : Nat
  linkLayerAddress : Bytes
  probes : Option Nat
  unknownAttributes : List UnknownAttribute
deriving DecidableEq

/-! ### Order of the parts of a route -/

namespace UnknownAttribute

def sortKey (unknown : UnknownAttribute) : Nat ×ₗ Bytes := toLex (unknown.kind, unknown.value)

theorem sortKey_injective : Function.Injective sortKey := fun a b h => by
  cases a
  cases b
  simpa [sortKey] using h

instance : LinearOrder UnknownAttribute := LinearOrder.lift' sortKey sortKey_injective

end UnknownAttribute

namespace RouteMetricRecord

def sortKey (metric : RouteMetricRecord) : Nat ×ₗ Nat := toLex (metric.kind, metric.value)

theorem sortKey_injective : Function.Injective sortKey := fun a b h => by
  cases a
  cases b
  simpa [sortKey] using h

instance : LinearOrder RouteMetricRecord := LinearOrder.lift' sortKey sortKey_injective

end RouteMetricRecord

instance : Inhabited IpAddress := ⟨.v4 0⟩

namespace RouteNextHopRecord

def sortKey (nextHop : RouteNextHopRecord) : Nat ×ₗ Nat ×ₗ Nat ×ₗ (Bool ×ₗ IpAddress) ×ₗ List UnknownAttribute :=
  toLex (nextHop.interfaceIndex, toLex (nextHop.hops, toLex (nextHop.flags,
    toLex (optionKey nextHop.gateway, nextHop.unknownAttributes))))

theorem sortKey_injective : Function.Injective sortKey := by
  rintro ⟨a1, a2, a3, a4, a5⟩ ⟨b1, b2, b3, b4, b5⟩ h
  simp only [sortKey, EmbeddingLike.apply_eq_iff_eq, Prod.mk.injEq] at h
  obtain ⟨rfl, rfl, rfl, hgateway, rfl⟩ := h
  obtain rfl := optionKey_injective hgateway
  rfl

instance : LinearOrder RouteNextHopRecord := LinearOrder.lift' sortKey sortKey_injective

end RouteNextHopRecord

/-! ### Messages -/

/-- An address of the kernel: an IP address, or one of a family that is not supported. -/
inductive KernelAddress where
  | ip (address : IpAddress)
  | other
deriving DecidableEq

inductive LinkInfo where
  | kind (text : Bytes)
  | other
deriving DecidableEq

inductive LinkAttribute where
  | ifName (value : Bytes)
  | mtu (value : Nat)
  | address (value : Bytes)
  | permAddress (value : Bytes)
  | controller (value : Nat)
  | link (value : Nat)
  | linkNetNsId (value : Int)
  | operState (value : Nat)
  | linkInfo (values : List LinkInfo)
  | other (value : UnknownAttribute)
  | ignored
deriving DecidableEq

structure LinkMessage where
  index : Nat
  flags : Nat
  linkLayerType : Nat
  attributes : List LinkAttribute
deriving DecidableEq

inductive AddressAttribute where
  | address (value : IpAddress)
  | localAddress (value : IpAddress)
  | label (value : Bytes)
  | broadcast (value : BitVec 32)
  | flags (value : Nat)
  | other (value : UnknownAttribute)
  | ignored
deriving DecidableEq

structure AddressMessage where
  family : Nat
  prefixLength : Nat
  flags : Nat
  scope : Nat
  index : Nat
  attributes : List AddressAttribute
deriving DecidableEq

/-- A metric: one with a kind from 1 to 17, an unknown one that is carried along, or a variant that is not
recognized. -/
inductive RouteMetric where
  | known (kind value : Nat)
  | other (value : UnknownAttribute)
  | unrecognized
deriving DecidableEq

/-- The attributes of a next hop that matter. -/
inductive NextHopAttribute where
  | gateway (value : KernelAddress)
  | other (value : UnknownAttribute)
  | ignored
deriving DecidableEq

structure RouteNextHop where
  interfaceIndex : Nat
  hops : Nat
  flags : Nat
  attributes : List NextHopAttribute
deriving DecidableEq

inductive RouteAttribute where
  | destination (value : KernelAddress)
  | source (value : KernelAddress)
  | table (value : Nat)
  | priority (value : Nat)
  | prefSource (value : KernelAddress)
  | gateway (value : KernelAddress)
  | iif (value : Nat)
  | oif (value : Nat)
  | metrics (values : List RouteMetric)
  | multiPath (values : List RouteNextHop)
  /-- Any of the attributes of an encapsulated route. -/
  | encapsulation
  | other (value : UnknownAttribute)
  | ignored
deriving DecidableEq

structure RouteMessage where
  addressFamily : Nat
  destinationPrefixLength : Nat
  sourcePrefixLength : Nat
  table : Nat
  kind : Nat
  scope : Nat
  protocol : Nat
  attributes : List RouteAttribute
deriving DecidableEq

inductive RuleAttribute where
  | destination (value : IpAddress)
  | source (value : IpAddress)
  | table (value : Nat)
  | priority (value : Nat)
  | iifname (value : Bytes)
  | oifname (value : Bytes)
  | fwMark (value : Nat)
  | fwMask (value : Nat)
  | uidRange (start finish : Nat)
  | ipProtocol (value : Nat)
  | sourcePortRange (start finish : Nat)
  | destinationPortRange (start finish : Nat)
  | other (value : UnknownAttribute)
  | ignored
deriving DecidableEq

structure RuleMessage where
  family : Nat
  dstLen : Nat
  srcLen : Nat
  table : Nat
  action : Nat
  attributes : List RuleAttribute
deriving DecidableEq

inductive NeighbourAttribute where
  | destination (value : KernelAddress)
  | linkLayerAddress (value : Bytes)
  | probes (value : Nat)
  | other (value : UnknownAttribute)
  | ignored
deriving DecidableEq

structure NeighbourMessage where
  family : Nat
  ifindex : Nat
  state : Nat
  flags : Nat
  kind : Nat
  attributes : List NeighbourAttribute
deriving DecidableEq

/-! ### Checks -/

/-- A normalization counts the bytes of unknown attributes. -/
abbrev Normalization := EStateM SnapshotError Nat

def checkedFamily (family : Nat) : Normalization Nat :=
  if family = 2 ∨ family = 10 then pure family else throw (.unsupportedAddressFamily family)

def validateString (value : Bytes) : Normalization Unit :=
  let length := saturatingAdd u64Max value.length 1
  if length > maxStringAttributeBytes then throw (.limitExceeded .stringBytes length maxStringAttributeBytes)
  else pure ()

def validateLinkAddress (value : Bytes) : Normalization Unit :=
  if value.length > maxLinkLayerAddressBytes then
    throw (.limitExceeded .linkLayerAddressBytes value.length maxLinkLayerAddressBytes)
  else pure ()

def kernelAddress : KernelAddress → Normalization (Option IpAddress)
  | .ip address => pure (some address)
  | .other => throw (.unsupportedAddressFamily 0)

def copyUnknown (unknown : UnknownAttribute) : Normalization UnknownAttribute := do
  let length := unknown.value.length
  if length > maxUnknownAttributeBytes then
    throw (.limitExceeded .unknownAttributeBytes length maxUnknownAttributeBytes)
  else match checkedAdd u64Max (← get) length with
    | none => throw (.limitExceeded .snapshotUnknownBytes u64Max maxSnapshotUnknownBytes)
    | some total =>
      if total > maxSnapshotUnknownBytes then
        throw (.limitExceeded .snapshotUnknownBytes total maxSnapshotUnknownBytes)
      else do
        set total
        pure unknown

def nonzero (value : Nat) : Option Nat := if value = 0 then none else some value

/-! ### Normalization -/

def linkInfo (record : InterfaceRecord) : LinkInfo → Normalization InterfaceRecord
  | .kind text => do
    validateString text
    pure { record with linkKind := some text }
  | .other => pure record

def linkAttribute (record : InterfaceRecord) : LinkAttribute → Normalization InterfaceRecord
  | .ifName value => do
    validateString value
    pure { record with name := value }
  | .mtu value => pure { record with mtu := some value }
  | .address value => do
    validateLinkAddress value
    pure { record with hardwareAddress := value }
  | .permAddress value => do
    validateLinkAddress value
    pure { record with permanentHardwareAddress := value }
  | .controller value => pure { record with controllerIndex := nonzero value }
  | .link value => pure { record with linkIndex := nonzero value }
  | .linkNetNsId value => pure { record with linkNetnsId := some value }
  | .operState value => pure { record with operationalState := some value }
  | .linkInfo values => values.foldlM linkInfo record
  | .other value => do
    let unknown ← copyUnknown value
    pure { record with unknownAttributes := record.unknownAttributes ++ [unknown] }
  | .ignored => pure record

def normalizeLink (message : LinkMessage) : Normalization InterfaceRecord := do
  let record ← message.attributes.foldlM linkAttribute {
    index := message.index
    name := []
    flags := message.flags
    linkLayerType := message.linkLayerType
    mtu := none
    hardwareAddress := []
    permanentHardwareAddress := []
    controllerIndex := none
    linkIndex := none
    linkNetnsId := none
    operationalState := none
    linkKind := none
    unknownAttributes := [] }
  if record.name.isEmpty then throw (.decode "link normalization" "missing interface name")
  else pure record

def addressAttribute (record : AddressRecord) : AddressAttribute → Normalization AddressRecord
  | .address value => pure { record with address := some value }
  | .localAddress value => pure { record with localAddress := some value }
  | .label value => do
    validateString value
    pure { record with label := some value }
  | .broadcast value => pure { record with broadcast := some (.v4 value) }
  | .flags value => pure { record with flags := value }
  | .other value => do
    let unknown ← copyUnknown value
    pure { record with unknownAttributes := record.unknownAttributes ++ [unknown] }
  | .ignored => pure record

def normalizeAddress (message : AddressMessage) : Normalization AddressRecord := do
  let family ← checkedFamily message.family
  message.attributes.foldlM addressAttribute {
    interfaceIndex := message.index
    family := family
    prefixLength := message.prefixLength
    scope := message.scope
    flags := message.flags
    address := none
    localAddress := none
    label := none
    broadcast := none
    unknownAttributes := [] }

def nextHopAttribute (record : RouteNextHopRecord) : NextHopAttribute → Normalization RouteNextHopRecord
  | .gateway value => do
    let gateway ← kernelAddress value
    pure { record with gateway := gateway }
  | .other value => do
    let unknown ← copyUnknown value
    pure { record with unknownAttributes := record.unknownAttributes ++ [unknown] }
  | .ignored => pure record

def normalizeNextHop (value : RouteNextHop) : Normalization RouteNextHopRecord :=
  value.attributes.foldlM nextHopAttribute {
    interfaceIndex := value.interfaceIndex
    hops := value.hops
    flags := value.flags
    gateway := none
    unknownAttributes := [] }

def routeMetric (record : RouteRecord) : RouteMetric → Normalization RouteRecord
  | .known kind value => pure { record with metrics := record.metrics ++ [⟨kind, value⟩] }
  | .other value => do
    let unknown ← copyUnknown value
    pure { record with unknownAttributes := record.unknownAttributes ++ [unknown] }
  | .unrecognized => throw (.decode "route metric normalization" "unrecognized typed metric variant")

def routeNextHop (record : RouteRecord) (value : RouteNextHop) : Normalization RouteRecord := do
  let nextHop ← normalizeNextHop value
  pure { record with multipath := record.multipath ++ [nextHop] }

def routeAttribute (record : RouteRecord) : RouteAttribute → Normalization RouteRecord
  | .destination value => do
    let address ← kernelAddress value
    pure { record with destination := address }
  | .source value => do
    let address ← kernelAddress value
    pure { record with source := address }
  | .table value => pure { record with table := value }
  | .priority value => pure { record with priority := some value }
  | .prefSource value => do
    let address ← kernelAddress value
    pure { record with preferredSource := address }
  | .gateway value => do
    let address ← kernelAddress value
    pure { record with gateway := address }
  | .iif value => pure { record with inputInterface := nonzero value }
  | .oif value => pure { record with outputInterface := nonzero value }
  | .metrics values => values.foldlM routeMetric record
  | .multiPath values =>
    if values.length > maxMultipathNextHops then
      throw (.limitExceeded .multipathNextHops values.length maxMultipathNextHops)
    else values.foldlM routeNextHop record
  | .encapsulation => pure { record with hasEncapsulation := true }
  | .other value => do
    let unknown ← copyUnknown value
    pure { record with unknownAttributes := record.unknownAttributes ++ [unknown] }
  | .ignored => pure record

def normalizeRoute (message : RouteMessage) : Normalization RouteRecord := do
  let family ← checkedFamily message.addressFamily
  let record ← message.attributes.foldlM routeAttribute {
    family := family
    destinationPrefixLength := message.destinationPrefixLength
    sourcePrefixLength := message.sourcePrefixLength
    destination := none
    source := none
    table := message.table
    routeType := message.kind
    scope := message.scope
    protocol := message.protocol
    priority := none
    preferredSource := none
    gateway := none
    inputInterface := none
    outputInterface := none
    metrics := []
    multipath := []
    hasEncapsulation := false
    unknownAttributes := [] }
  pure { record with
    metrics := record.metrics.insertionSort (· ≤ ·)
    multipath := record.multipath.insertionSort (· ≤ ·) }

def ruleAttribute (record : RuleRecord) : RuleAttribute → Normalization RuleRecord
  | .destination value => pure { record with destination := some value }
  | .source value => pure { record with source := some value }
  | .table value => pure { record with table := value }
  | .priority value => pure { record with priority := some value }
  | .iifname value => do
    validateString value
    pure { record with inputInterface := some value }
  | .oifname value => do
    validateString value
    pure { record with outputInterface := some value }
  | .fwMark value => pure { record with firewallMark := some value }
  | .fwMask value => pure { record with firewallMask := some value }
  | .uidRange start finish => pure { record with uidRange := some ⟨start, finish⟩ }
  | .ipProtocol value => pure { record with ipProtocol := some value }
  | .sourcePortRange start finish => pure { record with sourcePortRange := some ⟨start, finish⟩ }
  | .destinationPortRange start finish => pure { record with destinationPortRange := some ⟨start, finish⟩ }
  | .other value => do
    let unknown ← copyUnknown value
    pure { record with unknownAttributes := record.unknownAttributes ++ [unknown] }
  | .ignored => pure record

def normalizeRule (message : RuleMessage) : Normalization RuleRecord := do
  let family ← checkedFamily message.family
  message.attributes.foldlM ruleAttribute {
    family := family
    destinationPrefixLength := message.dstLen
    sourcePrefixLength := message.srcLen
    destination := none
    source := none
    table := message.table
    action := message.action
    priority := none
    inputInterface := none
    outputInterface := none
    firewallMark := none
    firewallMask := none
    uidRange := none
    ipProtocol := none
    sourcePortRange := none
    destinationPortRange := none
    unknownAttributes := [] }

def neighbourAttribute (record : NeighborRecord) : NeighbourAttribute → Normalization NeighborRecord
  | .destination value => do
    let address ← kernelAddress value
    pure { record with destination := address }
  | .linkLayerAddress value => do
    validateLinkAddress value
    pure { record with linkLayerAddress := value }
  | .probes value => pure { record with probes := some value }
  | .other value => do
    let unknown ← copyUnknown value
    pure { record with unknownAttributes := record.unknownAttributes ++ [unknown] }
  | .ignored => pure record

def normalizeNeighbor (message : NeighbourMessage) : Normalization NeighborRecord := do
  let family ← checkedFamily message.family
  message.attributes.foldlM neighbourAttribute {
    family := family
    interfaceIndex := message.ifindex
    destination := none
    state := message.state
    flags := message.flags
    neighborType := message.kind
    linkLayerAddress := []
    probes := none
    unknownAttributes := [] }

end NodeNet.Context
