import Mathlib.Data.List.Lex
import Mathlib.Order.Lex
import NodeNet.Base.Program

/-!
# Data types of the scan engine

The values exchanged between the scheduler and its collaborators, and the configuration ceilings.  Times and
durations are natural numbers of microseconds; a sum that does not fit 64 bits is an explicit failure
(`MonotonicTime.checkedAdd`).
-/

namespace NodeNet.Engine

/-! ### Ceilings -/

def maxPortsPerProbeFamily : Nat := 65536
def maxProbeDefinitions : Nat := 6
def maxTransmitRatePerSecond : Nat := 1000000
def maxOutstandingProbes : Nat := 262144
def maxRetransmissions : Nat := 10
/-- One minute, in microseconds. -/
def maxProbeTimeout : Nat := 60000000
/-- 720 hours, in microseconds. -/
def maxSessionDuration : Nat := 2592000000000
def maxLateGraceEntries : Nat := 262144
def maxTransitionsPerDrive : Nat := 4096
def maxDeferredCandidates : Nat := 262144
def maxUdpProbeVariants : Nat := 64
def maxConcurrentUdpVariants : Nat := 4
def maxUdpVariantMetadataBytes : Nat := 1024

/-! ### Machine integers -/

def u8Max : Nat := 2 ^ 8 - 1
def u16Max : Nat := 2 ^ 16 - 1
def u32Max : Nat := 2 ^ 32 - 1
def u64Max : Nat := 2 ^ 64 - 1
def u128Max : Nat := 2 ^ 128 - 1

/-- Addition that stops at the largest value `max` of the type. -/
def saturatingAdd (max a b : Nat) : Nat := min (a + b) max

/-- Multiplication that stops at the largest value `max` of the type. -/
def saturatingMul (max a b : Nat) : Nat := min (a * b) max

/-- Addition that fails above the largest value `max` of the type. -/
def checkedAdd (max a b : Nat) : Option Nat := if a + b ≤ max then some (a + b) else none

/-- Multiplication that fails above the largest value `max` of the type. -/
def checkedMul (max a b : Nat) : Option Nat := if a * b ≤ max then some (a * b) else none

def checkedSub (a b : Nat) : Option Nat := if b ≤ a then some (a - b) else none

/-! ### Time -/

def MonotonicTime.checkedAdd (now duration : Nat) : Option Nat := Engine.checkedAdd u64Max now duration

def MonotonicTime.elapsedSince (now earlier : Nat) : Option Nat := checkedSub now earlier

/-! ### Targets and probes -/

inductive IpAddress where
  | v4 (value : BitVec 32)
  | v6 (value : BitVec 128)
deriving DecidableEq

/-- Addresses in the order in which they are compared: the older family first. -/
def IpAddress.key : IpAddress → List Nat
  | .v4 a => [0, a.toNat]
  | .v6 a => [1, a.toNat]

theorem IpAddress.key_injective : Function.Injective IpAddress.key := by
  rintro (a | a) (b | b) h <;> simp only [key, List.cons.injEq, and_true] at h
  · rw [BitVec.eq_of_toNat_eq h.2]
  · exact absurd h.1 (by decide)
  · exact absurd h.1 (by decide)
  · rw [BitVec.eq_of_toNat_eq h.2]

instance : LinearOrder IpAddress := LinearOrder.lift' IpAddress.key IpAddress.key_injective

/-- A nonzero interface zone. -/
structure TargetScope where
  value : BitVec 32
  nonzero : value ≠ 0
deriving DecidableEq

structure ScanTarget where
  address : IpAddress
  scope : Option TargetScope
deriving DecidableEq

/-- Zones in the order in which they are compared: no zone first. -/
def scopeKey : Option TargetScope → Nat
  | none => 0
  | some s => s.value.toNat

theorem scopeKey_inj {s t : Option TargetScope} (h : scopeKey s = scopeKey t) : s = t := by
  have pos : ∀ z : TargetScope, z.value.toNat ≠ 0 := fun z hz => z.nonzero (BitVec.eq_of_toNat_eq hz)
  rcases s with _ | s <;> rcases t with _ | t
  · rfl
  · exact absurd h.symm (pos t)
  · exact absurd h (pos s)
  obtain ⟨v, hv⟩ := s
  obtain ⟨v', hv'⟩ := t
  have : v = v' := BitVec.eq_of_toNat_eq h
  subst this; rfl

/-- The fields of a target in the order in which targets are compared. -/
def ScanTarget.key (t : ScanTarget) : List Nat :=
  match t.address with
  | .v4 a => [0, a.toNat, scopeKey t.scope]
  | .v6 a => [1, a.toNat, scopeKey t.scope]

theorem ScanTarget.key_injective : Function.Injective ScanTarget.key := by
  rintro ⟨a, s⟩ ⟨b, t⟩ h
  rcases a with a | a <;> rcases b with b | b <;> simp only [key, List.cons.injEq, and_true] at h
  · rw [BitVec.eq_of_toNat_eq h.2.1, scopeKey_inj h.2.2]
  · exact absurd h.1 (by decide)
  · exact absurd h.1 (by decide)
  · rw [BitVec.eq_of_toNat_eq h.2.1, scopeKey_inj h.2.2]

instance : LinearOrder ScanTarget := LinearOrder.lift' ScanTarget.key ScanTarget.key_injective

/-- A nonzero destination port. -/
structure ProbePort where
  value : BitVec 16
  nonzero : value ≠ 0
deriving DecidableEq

def ProbePort.get (p : ProbePort) : Nat := p.value.toNat

theorem ProbePort.get_inj {p q : ProbePort} (h : p.get = q.get) : p = q := by
  obtain ⟨p, hp⟩ := p
  obtain ⟨q, hq⟩ := q
  cases BitVec.eq_of_toNat_eq h
  rfl

inductive ProbeFamily where
  | arp | ndp | icmpv4Echo | icmpv6Echo | tcpSyn | udp
deriving DecidableEq

def ProbeFamily.usesPorts : ProbeFamily → Bool
  | tcpSyn | udp => true
  | _ => false

def ProbeFamily.supportsIpv4 : ProbeFamily → Bool
  | arp | icmpv4Echo | tcpSyn | udp => true
  | _ => false

def ProbeFamily.supportsIpv6 : ProbeFamily → Bool
  | ndp | icmpv6Echo | tcpSyn | udp => true
  | _ => false

structure LogicalProbe where
  logicalId : Nat
  attempt : Nat
  target : ScanTarget
  family : ProbeFamily
  port : Option ProbePort
deriving DecidableEq

/-! ### Errors -/

inductive TargetError where
  | tooManyIncludes | tooManyExcludes | tooManyNormalizedIntervals | addressFamilyMismatch | invalidPrefixLength
  | reversedRange | missingIpv6Scope | unexpectedScope | zeroScope | scopeMismatch | cidrCrossesScopeBoundary
  | targetCountOverflow | empty
deriving DecidableEq

inductive PlanError where
  | noProbes | tooManyProbeDefinitions | invalidAttempts | duplicateProbeFamily | portsRequired | portsNotAllowed
  | tooManyPorts | duplicatePort | noCompatibleTargets | logicalProbeCountOverflow | logicalProbeIndexOutOfRange
  | tooManyUdpVariants | duplicateUdpVariant | invalidUdpMetadataReservation | invalidUdpPortRange
  | physicalProbeCountOverflow
deriving DecidableEq

inductive ConfigError where
  | invalidRate | invalidBurst | invalidOutstandingLimit | invalidRetransmissions | invalidTimeout
  | invalidSessionDeadline | invalidGraceCapacity | invalidGraceDuration | invalidTargetFairness
  | invalidPrefixFairness
deriving DecidableEq

structure TransportFailure where
  code : Nat
deriving DecidableEq

structure ContextFailure where
  code : Nat
deriving DecidableEq

structure SinkFailure where
  code : Nat
deriving DecidableEq

inductive EngineError where
  | target (error : TargetError)
  | plan (error : PlanError)
  | config (error : ConfigError)
  | clockRegressed
  | deadlineOverflow
  | invalidLifecycle
  | invalidContext
  | invalidEvidence
  | transport (failure : TransportFailure)
  | context (failure : ContextFailure)
  | sink (failure : SinkFailure)
  | reservationInvariant
  | stateCapacityExceeded
deriving DecidableEq

/-! ### UDP variants -/

/-- A nonzero catalogue number. -/
structure ProbeVariantId where
  value : BitVec 16
  nonzero : value ≠ 0
deriving DecidableEq

inductive UdpVariantEligibility where
  | anyPort
  | destinationPort (port : ProbePort)
  | destinationPortRange (first last : ProbePort)
  | unmappedFallback
  | afterProgrammeFallback
deriving DecidableEq

/-- One physical request of a logical UDP programme. -/
structure UdpProbeVariant where
  catalogueProbeId : Option ProbeVariantId
  requestIndex : Nat
  maximumMetadataBytes : Nat
  serviceFamily : Option Nat
  eligibility : UdpVariantEligibility
deriving DecidableEq

inductive UdpProbeStrategy where
  | adaptive | exhaustive
deriving DecidableEq

/-! ### Configuration -/

inductive SchedulingSeed where
  | explicit (value : UInt64)
  | generated (value : UInt64) (report : Bool)
deriving DecidableEq

def SchedulingSeed.value : SchedulingSeed → UInt64
  | explicit value => value
  | generated value _ => value

inductive TimingMode where
  | adaptive | fixedRate
deriving DecidableEq

inductive DiscoverySilencePolicy where
  | unknown | downByPolicy
deriving DecidableEq

structure SchedulerConfig where
  ratePerSecond : Nat
  burst : Nat
  maxOutstanding : Nat
  maxRetransmissions : Nat
  initialTimeout : Nat
  minimumTimeout : Nat
  maximumTimeout : Nat
  sessionDeadline : Nat
  lateGrace : Nat
  maxGraceEntries : Nat
  maxPerTarget : Nat
  maxPerPrefix : Nat
  timingMode : TimingMode
  discoverySilence : DiscoverySilencePolicy
  tcpResetCleanup : Bool
deriving DecidableEq

/-- The first ceiling that the configuration breaks, if any. -/
def SchedulerConfig.validate (c : SchedulerConfig) : Except ConfigError SchedulerConfig :=
  if c.ratePerSecond = 0 ∨ c.ratePerSecond > maxTransmitRatePerSecond then .error .invalidRate
  else if c.burst = 0 ∨ c.burst > c.maxOutstanding then .error .invalidBurst
  else if c.maxOutstanding = 0 ∨ c.maxOutstanding > maxOutstandingProbes then .error .invalidOutstandingLimit
  else if c.maxRetransmissions > Engine.maxRetransmissions then .error .invalidRetransmissions
  else if c.initialTimeout = 0 ∨ c.minimumTimeout = 0 ∨ c.minimumTimeout > c.initialTimeout ∨
      c.initialTimeout > c.maximumTimeout ∨ c.maximumTimeout > maxProbeTimeout then .error .invalidTimeout
  else if c.sessionDeadline = 0 ∨ c.sessionDeadline > maxSessionDuration then .error .invalidSessionDeadline
  else if c.maxGraceEntries = 0 ∨ c.maxGraceEntries > maxLateGraceEntries then .error .invalidGraceCapacity
  else if c.lateGrace = 0 ∨ c.lateGrace > maxSessionDuration then .error .invalidGraceDuration
  else if c.maxPerTarget = 0 ∨ c.maxPerTarget > c.maxOutstanding then .error .invalidTargetFairness
  else if c.maxPerPrefix = 0 ∨ c.maxPerPrefix > c.maxOutstanding then .error .invalidPrefixFairness
  else .ok c

theorem SchedulerConfig.validate_ok {c c' : SchedulerConfig} (h : c.validate = .ok c') : c' = c := by
  unfold validate at h
  iterate 10 replace h := (ite_error_eq_ok.mp h).2
  exact (Except.ok.inj h).symm

/-! ### Session -/

inductive SessionLifecycle where
  | created | running | pausing | paused | cancelling | completed | failed | closed
deriving DecidableEq

inductive EmissionPurpose where
  | neighborSetup (family : ProbeFamily)
  | probe
  | tcpResetCleanup
deriving DecidableEq

/-- Prefix fairness key. -/
structure PrefixKey where
  family : Nat
  high : Nat
  low : Nat
  prefixLength : Nat
  scope : Option TargetScope
deriving DecidableEq

/-- The fields of a prefix key in the order in which keys are compared. -/
def PrefixKey.key (k : PrefixKey) : List Nat := [k.family, k.high, k.low, k.prefixLength, scopeKey k.scope]

theorem PrefixKey.key_injective : Function.Injective PrefixKey.key := by
  rintro ⟨f, h, l, p, s⟩ ⟨f', h', l', p', s'⟩ hk
  simp only [key, List.cons.injEq, and_true] at hk
  obtain ⟨rfl, rfl, rfl, rfl, hs⟩ := hk
  rw [scopeKey_inj hs]

instance : LinearOrder PrefixKey := LinearOrder.lift' PrefixKey.key PrefixKey.key_injective

/-- The /24 of an IPv4 target, the /64 of an IPv6 target. -/
def PrefixKey.defaultFor (target : ScanTarget) : PrefixKey :=
  match target.address with
  | .v4 value => ⟨4, 0, (value &&& 0xffffff00#32).toNat, 24, target.scope⟩
  | .v6 value => ⟨6, (value.extractLsb' 64 64).toNat, 0, 64, target.scope⟩

structure ResolvedContext where
  generation : Nat
  prefixKey : PrefixKey
  neighborSetup : Option ProbeFamily
deriving DecidableEq

inductive ContextResolution where
  | ready (context : ResolvedContext)
  | pending
  | invalidated (previousGeneration : Option Nat)
deriving DecidableEq

structure ProbeEmission where
  probeId : Nat
  probe : LogicalProbe
  routeGeneration : Nat
  purpose : EmissionPurpose
  transmission : Nat
  udpVariant : Option UdpProbeVariant
deriving DecidableEq

/-! ### Evidence and results -/

inductive EvidenceStrength where
  | tupleCorrelatedUnauthenticated | truncatedQuote | strongTcpSequence32 | strongPayload128
  | protocolTransaction16 | protocolTransaction32 | protocolTransaction64 | alternateEndpointHandshake
deriving DecidableEq

structure IcmpEvidence where
  family : Nat
  messageType : Nat
  code : Nat
  emitterIsTarget : Bool
  quoteStrength : EvidenceStrength
deriving DecidableEq

inductive UdpResponseKind where
  | none | directUdp | icmpv4TargetPortUnreachable | otherIcmpv4 | icmpv6TargetPortUnreachable
  | icmpv6ParameterProblem | otherIcmpv6 | silence
deriving DecidableEq

inductive EvidenceKind where
  | tcpSynAcknowledgment | tcpReset | echoReply | udpReply | udpServiceHint | icmpPortUnreachable
  | icmpOtherError | explicitUnreachable | arpReply | neighborAdvertisement | neighborResolved
deriving DecidableEq

inductive UdpServiceConfidence where
  | signature | parsed | transactionCorrelated
deriving DecidableEq

/-- The discriminant of a confidence level. -/
def UdpServiceConfidence.rank : UdpServiceConfidence → Nat
  | signature => 1
  | parsed => 2
  | transactionCorrelated => 3

structure UdpServiceEvidence where
  family : Nat
  confidence : UdpServiceConfidence
  metadata : List UInt8
deriving DecidableEq

structure EvidenceEvent where
  probeId : Nat
  kind : EvidenceKind
  strength : EvidenceStrength
  icmp : Option IcmpEvidence
  udpService : Option UdpServiceEvidence
deriving DecidableEq

inductive DiagnosticKind where
  | forgedOrUnrelated | nonFirstFragment | opaqueProtocol | insufficientQuote
deriving DecidableEq

inductive NetworkState where
  | open | closed | filtered | openOrFiltered | up | unreachable | unknown | downByPolicy
deriving DecidableEq

inductive ProbeOutcome where
  | network (state : NetworkState)
  | cancelled
  | sessionDeadline
  | transportFailed
  | contextInvalidated
deriving DecidableEq

inductive TerminalReason where
  | evidence (kind : EvidenceKind)
  | timeout
  | cancelled
  | sessionDeadline
  | transportFailure (code : Nat)
  | contextInvalidated
deriving DecidableEq

structure UdpResultEvidence where
  terminalProbeId : Option ProbeVariantId
  variantsAttempted : Nat
  responseKind : UdpResponseKind
  contradictions : Nat
  service : Option UdpServiceEvidence
deriving DecidableEq

/-- One terminal record. -/
structure ScanResult where
  probe : LogicalProbe
  outcome : ProbeOutcome
  evidenceStrength : Option EvidenceStrength
  attempt : Nat
  transmissions : Nat
  rtt : Option Nat
  terminalAt : Nat
  routeGeneration : Nat
  terminalReason : TerminalReason
  udp : Option UdpResultEvidence
deriving DecidableEq

structure DiagnosticCounters where
  forgedOrUnrelated : Nat := 0
  nonFirstFragment : Nat := 0
  opaqueProtocol : Nat := 0
  insufficientQuote : Nat := 0
  duplicates : Nat := 0
  lateResponses : Nat := 0
  contextInvalidations : Nat := 0
  udpIcmpPacing : Nat := 0
deriving DecidableEq

inductive SinkReservation where
  | reserved | saturated
deriving DecidableEq

/-- Work performed by one drive call and the next scheduling boundary. -/
structure DriveReport where
  lifecycle : SessionLifecycle
  transitions : Nat
  emissions : Nat
  results : Nat
  outstanding : Nat
  deferred : Nat
  grace : Nat
  sinkBackpressured : Bool
  contextWaiting : Bool
  nextWakeup : Option Nat
deriving DecidableEq

end NodeNet.Engine
