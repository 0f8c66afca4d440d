import NodeNet.Engine.Types

/-!
# UDP programmes

The physical requests that one logical UDP probe may send, per address family, and the port eligibility that
selects among them.
-/

namespace NodeNet.Engine

structure UdpProbeProgramme where
  ipv4 : List UdpProbeVariant
  ipv6 : List UdpProbeVariant
  strategy : UdpProbeStrategy
deriving DecidableEq

def UdpVariantEligibility.ports : UdpVariantEligibility → Option (Nat × Nat)
  | destinationPort port => some (port.get, port.get)
  | destinationPortRange first last => some (first.get, last.get)
  | _ => none

def eligibilityOverlaps (left right : UdpVariantEligibility) : Bool :=
  match left.ports, right.ports with
  | some (leftStart, leftEnd), some (rightStart, rightEnd) =>
    decide (leftStart ≤ rightEnd) && decide (rightStart ≤ leftEnd)
  | _, _ => true

def validateVariant (prior : List UdpProbeVariant) (variant : UdpProbeVariant) : Except PlanError Unit :=
  if variant.maximumMetadataBytes > maxUdpVariantMetadataBytes then .error .invalidUdpMetadataReservation
  else if (match variant.eligibility with
      | .destinationPortRange first last => decide (first.get > last.get)
      | _ => false) then .error .invalidUdpPortRange
  else if variant.catalogueProbeId.isSome && prior.any (fun p =>
      p.catalogueProbeId == variant.catalogueProbeId && eligibilityOverlaps p.eligibility variant.eligibility) then
    .error .duplicateUdpVariant
  else .ok ()

def validateVariants : List UdpProbeVariant → List UdpProbeVariant → Except PlanError Unit
  | _, [] => .ok ()
  | prior, variant :: rest =>
    match validateVariant prior variant with
    | .error e => .error e
    | .ok () => validateVariants (prior ++ [variant]) rest

def validateFamily (variants : List UdpProbeVariant) : Except PlanError Unit :=
  if variants.length > maxUdpProbeVariants then .error .tooManyUdpVariants else validateVariants [] variants

namespace UdpProbeProgramme

def new (ipv4 ipv6 : List UdpProbeVariant) : Except PlanError UdpProbeProgramme :=
  match validateFamily ipv4 with
  | .error e => .error e
  | .ok () =>
    match validateFamily ipv6 with
    | .error e => .error e
    | .ok () => .ok ⟨ipv4, ipv6, .exhaustive⟩

variable (p : UdpProbeProgramme)

def withStrategy (strategy : UdpProbeStrategy) : UdpProbeProgramme :=
  { p with strategy := strategy }

/-- The programme of a plain UDP scan: one request for every port. -/
def single : UdpProbeProgramme :=
  let variant : UdpProbeVariant := ⟨none, 0, 0, none, .anyPort⟩
  ⟨[variant], [variant], .exhaustive⟩

def variantsFor : IpAddress → List UdpProbeVariant
  | .v4 _ => p.ipv4
  | .v6 _ => p.ipv6

variable (address : IpAddress)

variable (port : ProbePort)

/-- Some variant of the address family names the port. -/
def hasMapped : Bool :=
  (p.variantsFor address).any fun candidate =>
    match candidate.eligibility with
    | .destinationPort value => value == port
    | .destinationPortRange first last => decide (first.get ≤ port.get) && decide (port.get ≤ last.get)
    | _ => false

def matchesPort (variant : UdpProbeVariant) : Bool :=
  match variant.eligibility with
  | .anyPort => true
  | .afterProgrammeFallback => true
  | .destinationPort value => value == port
  | .destinationPortRange first last => decide (first.get ≤ port.get) && decide (port.get ≤ last.get)
  | .unmappedFallback => !p.hasMapped address port

/-- The variants that may be sent to one port, in programme order. -/
def eligible : List UdpProbeVariant := (p.variantsFor address).filter (p.matchesPort address port)

def variantCountFor : Nat := (p.eligible address port).length

def variantAtFor (selectedIndex : Nat) : Option UdpProbeVariant := (p.eligible address port)[selectedIndex]?

def maximumMetadataBytesForPort : Nat :=
  ((p.eligible address port).map UdpProbeVariant.maximumMetadataBytes).foldl max 0

def requiresLogicalProgramme : Bool :=
  (p.eligible address port).length != 1 ||
    (p.eligible address port).head?.map UdpProbeVariant.eligibility != some .anyPort

end UdpProbeProgramme

end NodeNet.Engine
