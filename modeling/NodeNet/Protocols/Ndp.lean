import NodeNet.Protocols.Checksum

/-!
# Neighbor Discovery messages

Parsing of the five messages and of their options, with the checks on hop limit, code, checksum and addresses.
-/

namespace NodeNet.Protocols

def maxIcmpv6MessageBytes : Nat := 65535
def maxNdpOptionCount : Nat := 64
def maxNdpOptionBytes : Nat := 4096
def icmpv6Protocol : UInt8 := 58

structure NdpContext where
  source : Ipv6Address
  destination : Ipv6Address
  hopLimit : UInt8
deriving DecidableEq

def NdpContext.checksumContext (context : NdpContext) : TransportChecksumContext :=
  .ipv6 context.source context.destination

inductive NdpMessage where
  | routerSolicitation
  | routerAdvertisement (currentHopLimit : UInt8) (managed otherConfiguration : Bool) (preference : Int)
      (routerLifetime : UInt16) (reachableTime retransmitTimer : UInt32)
  | neighborSolicitation (target : Ipv6Address)
  | neighborAdvertisement (router solicited overrideFlag : Bool) (target : Ipv6Address)
  | redirect (target destination : Ipv6Address)
deriving DecidableEq

inductive ParsedNdpOption where
  | sourceLinkLayerAddress (value : Bytes)
  | targetLinkLayerAddress (value : Bytes)
  | prefixInformation (prefixLength flags : UInt8) (validLifetime preferredLifetime : UInt32)
    (address : Ipv6Address)
  | redirectedHeader (quote : Bytes)
  | mtu (value : UInt32)
  | unknown (kind : UInt8) (body : Bytes)
deriving DecidableEq

/-- Deviations that do not make a message unusable. -/
structure NdpConformance where
  reservedFieldNonzero : Bool
  reservedPreference : Bool
  duplicateSingletonOption : Bool
  optionNotAllowed : Bool
  preferredLifetimeExceedsValid : Bool
deriving DecidableEq

def NdpConformance.default : NdpConformance := ⟨false, false, false, false, false⟩

structure ParsedNdpPacket where
  checksum : UInt16
  message : NdpMessage
  options : List ParsedNdpOption
  conformance : NdpConformance
deriving DecidableEq

/-! ### Addresses -/

variable (address : Ipv6Address)

def isUnspecified : Bool := address = 0

def isMulticast : Bool := u8At (ipv6Octets address) 0 = 0xff

def isLinkLocal : Bool := u8At (ipv6Octets address) 0 = 0xfe ∧ u8At (ipv6Octets address) 1 &&& 0xc0 = 0x80

def invalidTarget : Bool := isUnspecified address || isMulticast address

def allNodes : Ipv6Address := 0xff020000000000000000000000000001

def allRouters : Ipv6Address := 0xff020000000000000000000000000002

def solicitedNodeMulticast (target : Ipv6Address) : Ipv6Address :=
  ipv6At ([0xff, 0x02, 0, 0, 0, 0, 0, 0, 0, 0, 0, 1, 0xff] ++ (ipv6Octets target).drop 13) 0

/-- Whether the addresses are those that a message of this kind may have; `announced` says that an option gives the
link-layer address of the source. -/
def addressesAreValid (context : NdpContext) (message : NdpMessage) (announced : Bool) : Bool :=
  match message with
  | .routerSolicitation =>
    !(context.destination ≠ allRouters ∨ (!isUnspecified context.source ∧ isMulticast context.source) ∨
      (isUnspecified context.source ∧ announced))
  | .routerAdvertisement _ _ _ preference _ _ _ =>
    !(¬ (-1 ≤ preference ∧ preference ≤ 1) ∨ !isLinkLocal context.source ∨ isUnspecified context.destination ∨
      (isMulticast context.destination ∧ context.destination ≠ allNodes))
  | .neighborSolicitation target =>
    if invalidTarget target then false
    else if isUnspecified context.source then
      !(context.destination ≠ solicitedNodeMulticast target ∨ announced)
    else !(isMulticast context.source ∨
      (context.destination ≠ target ∧ context.destination ≠ solicitedNodeMulticast target))
  | .neighborAdvertisement _ solicited _ target =>
    !(invalidTarget target ∨ isUnspecified context.source ∨ isMulticast context.source ∨
      isUnspecified context.destination ∨ (isMulticast context.destination ∧ solicited))
  | .redirect target destination =>
    !(!isLinkLocal context.source ∨ isUnspecified context.destination ∨ isMulticast context.destination ∨
      invalidTarget destination ∨ !(isLinkLocal target ∨ target = destination))

/-! ### Options -/

def parsedOptionAllowed : NdpMessage → ParsedNdpOption → Bool
  | .routerSolicitation, .sourceLinkLayerAddress _ => true
  | .routerAdvertisement _ _ _ _ _ _ _, .sourceLinkLayerAddress _ => true
  | .neighborSolicitation _, .sourceLinkLayerAddress _ => true
  | .neighborAdvertisement _ _ _ _, .targetLinkLayerAddress _ => true
  | .redirect _ _, .targetLinkLayerAddress _ => true
  | .routerAdvertisement _ _ _ _ _ _ _, .prefixInformation _ _ _ _ _ => true
  | .routerAdvertisement _ _ _ _ _ _ _, .mtu _ => true
  | .redirect _ _, .redirectedHeader _ => true
  | _, .unknown _ _ => true
  | _, _ => false

variable (input : Bytes)

/-- The option at `offset`, which ends before `stop`. -/
def parseOption (offset stop : Nat) (conformance : NdpConformance) :
    Except ParseError (ParsedNdpOption × NdpConformance) :=
  let kind := u8At input offset
  let length := stop - offset
  let body := field input (offset + 2) (length - 2)
  let reserved (start width : Nat) : NdpConformance :=
    { conformance with
      reservedFieldNonzero :=
        conformance.reservedFieldNonzero || (field input (offset + start) width).any (· ≠ 0) }
  if kind = 1 then .ok (.sourceLinkLayerAddress body, conformance)
  else if kind = 2 then .ok (.targetLinkLayerAddress body, conformance)
  else if kind = 3 ∧ length = 32 then
    let preferred := u32At input (offset + 8)
    let valid := u32At input (offset + 4)
    .ok (.prefixInformation (u8At input (offset + 2)) (u8At input (offset + 3)) valid preferred
      (ipv6At input (offset + 16)),
      { reserved 12 4 with
        preferredLifetimeExceedsValid := conformance.preferredLifetimeExceedsValid || decide (preferred > valid) })
  else if kind = 4 ∧ length ≥ 8 then .ok (.redirectedHeader (field input (offset + 8) (length - 8)), reserved 2 6)
  else if kind = 5 ∧ length = 8 then .ok (.mtu (u32At input (offset + 4)), reserved 2 2)
  else if kind = 3 ∨ kind = 4 ∨ kind = 5 then .error (.malformed .ndp .optionLength)
  else .ok (.unknown kind body, conformance)

/-- Walks over the options; every option takes at least one byte of what is left. -/
def parseOptionsFrom (input : Bytes) :
    Nat → Nat → List ParsedNdpOption → NdpConformance → Except ParseError (List ParsedNdpOption × NdpConformance)
  | 0, _, options, conformance => .ok (options, conformance)
  | left + 1, offset, options, conformance =>
    if ¬ offset < input.length then .ok (options, conformance)
    else if input.length - offset < 2 then .error (.truncated .ndp (offset + 2) input.length)
    else
      let units := (u8At input (offset + 1)).toNat
      if units = 0 then .error (.malformed .ndp .optionLength)
      else
        let stop := offset + units * 8
        if stop > input.length then .error (.truncated .ndp stop input.length)
        else if options.length = maxNdpOptionCount then
          .error (.limitExceeded .ndpOptions (options.length + 1) maxNdpOptionCount)
        else
          match parseOption input offset stop conformance with
          | .error error => .error error
          | .ok (option, conformance) => parseOptionsFrom input left stop (options ++ [option]) conformance

def parseOptions (conformance : NdpConformance) : Except ParseError (List ParsedNdpOption × NdpConformance) :=
  if input.length > maxNdpOptionBytes then .error (.limitExceeded .ndpOptionBytes input.length maxNdpOptionBytes)
  else parseOptionsFrom input input.length 0 [] conformance

def ParsedNdpOption.isSourceLinkLayerAddress : ParsedNdpOption → Bool
  | .sourceLinkLayerAddress _ => true
  | _ => false

def ParsedNdpOption.isTargetLinkLayerAddress : ParsedNdpOption → Bool
  | .targetLinkLayerAddress _ => true
  | _ => false

def ParsedNdpOption.isMtu : ParsedNdpOption → Bool
  | .mtu _ => true
  | _ => false

/-- The parser checks the addresses as for a message without options. -/
def validateParsedContext (context : NdpContext) (message : NdpMessage) (options : List ParsedNdpOption)
    (conformance : NdpConformance) : Except ParseError NdpConformance :=
  let sourceLla := options.countP (·.isSourceLinkLayerAddress)
  let targetLla := options.countP (·.isTargetLinkLayerAddress)
  let mtu := options.countP (·.isMtu)
  if !addressesAreValid context message false then .error (.malformed .ndp .address)
  else if message = .routerSolicitation ∧ isUnspecified context.source ∧ sourceLla ≠ 0 then
    .error (.malformed .ndp .address)
  else
    .ok { conformance with
      optionNotAllowed := conformance.optionNotAllowed || options.any (!parsedOptionAllowed message ·)
      duplicateSingletonOption :=
        conformance.duplicateSingletonOption || decide (sourceLla > 1 ∨ targetLla > 1 ∨ mtu > 1) }

/-! ### Messages -/

def decodePreference (encoded : UInt8) : Option Int :=
  if encoded = 0 then some 0 else if encoded = 1 then some 1 else if encoded = 3 then some (-1) else none

/-- The fixed part of a message and its length; the first byte is the type. -/
def parseNdpBody : Except ParseError (NdpMessage × Nat × NdpConformance) :=
  let kind := u8At input 0
  let conformance := NdpConformance.default
  let reserved : NdpConformance := { conformance with reservedFieldNonzero := (field input 4 4).any (· ≠ 0) }
  let truncated (required : Nat) : Except ParseError (NdpMessage × Nat × NdpConformance) :=
    .error (.truncated .ndp required input.length)
  if kind = 133 then .ok (.routerSolicitation, 8, reserved)
  else if kind = 134 then
    if input.length < 16 then truncated 16
    else
      let flags := u8At input 5
      let preference := decodePreference ((flags >>> 3) &&& 0x03)
      .ok (.routerAdvertisement (u8At input 4) (flags &&& 0x80 ≠ 0) (flags &&& 0x40 ≠ 0) (preference.getD 0)
        (u16At input 6) (u32At input 8) (u32At input 12), 16,
        { conformance with
          reservedPreference := preference.isNone
          reservedFieldNonzero := flags &&& 0x27 ≠ 0 })
  else if kind = 135 then
    if input.length < 24 then truncated 24 else .ok (.neighborSolicitation (ipv6At input 8), 24, reserved)
  else if kind = 136 then
    if input.length < 24 then truncated 24
    else
      let flags := u8At input 4
      .ok (.neighborAdvertisement (flags &&& 0x80 ≠ 0) (flags &&& 0x40 ≠ 0) (flags &&& 0x20 ≠ 0)
        (ipv6At input 8), 24, { conformance with
          reservedFieldNonzero := decide (flags &&& 0x1f ≠ 0) || (field input 5 3).any (· ≠ 0) })
  else if kind = 137 then
    if input.length < 40 then truncated 40
    else .ok (.redirect (ipv6At input 8) (ipv6At input 24), 40, reserved)
  else .error (.malformed .ndp .type)

def parseNdpMessage (context : NdpContext) : Except ParseError ParsedNdpPacket :=
  if input.length > maxIcmpv6MessageBytes then
    .error (.limitExceeded .transportBytes input.length maxIcmpv6MessageBytes)
  else if context.hopLimit ≠ 255 then .error (.malformed .ndp .headerLength)
  else if input.length < 8 then .error (.truncated .ndp 8 input.length)
  else if u8At input 1 ≠ 0 then .error (.malformed .ndp .code)
  else if !validateTransportChecksum context.checksumContext icmpv6Protocol input then
    .error (.malformed .ndp .checksum)
  else
    match parseNdpBody input with
    | .error error => .error error
    | .ok (message, optionOffset, conformance) =>
      match parseOptions (input.drop optionOffset) conformance with
      | .error error => .error error
      | .ok (options, conformance) =>
        match validateParsedContext context message options conformance with
        | .error error => .error error
        | .ok conformance => .ok { checksum := u16At input 2, message, options, conformance }

end NodeNet.Protocols
