import NodeNet.Protocols.Checksum

/-!
# IPv4 packets

Building and parsing, in wire order, and the conditions under which a packet is accepted
(`parseIpv4Packet_eq_ok_iff`).
-/

namespace NodeNet.Protocols

def ipv4MinHeaderLength : Nat := 20
def ipv4MaxHeaderLength : Nat := 60
def ipv4MaxPacketLength : Nat := 65535
def ipv4MaxFragmentOffset : UInt16 := 0x1fff

/-- Deviations that do not make a packet unusable. -/
structure Ipv4Conformance where
  reservedFlagSet : Bool
  nonzeroOptionPadding : Bool
deriving DecidableEq

def Ipv4Conformance.isCanonical (c : Ipv4Conformance) : Bool := !c.reservedFlagSet && !c.nonzeroOptionPadding

structure Ipv4Packet where
  dscp : UInt8
  ecn : UInt8
  identification : UInt16
  dontFragment : Bool
  moreFragments : Bool
  fragmentOffset : UInt16
  timeToLive : UInt8
  protocol : UInt8
  source : Ipv4Address
  destination : Ipv4Address
  options : Bytes
  payload : Bytes
deriving DecidableEq

structure ParsedIpv4Packet where
  dscp : UInt8
  ecn : UInt8
  identification : UInt16
  dontFragment : Bool
  moreFragments : Bool
  fragmentOffset : UInt16
  timeToLive : UInt8
  protocol : UInt8
  source : Ipv4Address
  destination : Ipv4Address
  options : Bytes
  payload : Bytes
  trailing : Bytes
  declaredTotalLength : Nat
  complete : Bool
  fragment : FragmentState
  upperLayer : UpperLayerState
  conformance : Ipv4Conformance
deriving DecidableEq

/-- Walks over the options; every option takes at least one byte of what is left. -/
def scanIpv4Options : Nat → Bytes → Except ParseError Ipv4Conformance
  | 0, _ => .ok ⟨false, false⟩
  | _, [] => .ok ⟨false, false⟩
  | left + 1, kind :: rest =>
    if kind = 0 then .ok ⟨false, rest.any (· ≠ 0)⟩
    else if kind = 1 then scanIpv4Options left rest
    else
      match rest with
      | [] => .error (.malformed .ipv4 .optionLength)
      | length :: _ =>
        if length.toNat < 2 ∨ length.toNat > rest.length + 1 then .error (.malformed .ipv4 .optionLength)
        else scanIpv4Options left (rest.drop (length.toNat - 1))

def validateIpv4Options (options : Bytes) : Except ParseError Ipv4Conformance :=
  scanIpv4Options options.length options

def ipv4OptionsAreCanonical (options : Bytes) : Bool :=
  match validateIpv4Options options with
  | .ok conformance => conformance.isCanonical
  | .error _ => false

namespace Ipv4Packet

variable (p : Ipv4Packet)

def validate : Except BuildError Unit :=
  if p.dscp > 0x3f then .error (.invalidValue .dscp)
  else if p.ecn > 0x03 then .error (.invalidValue .ecn)
  else if p.options.length > ipv4MaxHeaderLength - ipv4MinHeaderLength ∨ p.options.length % 4 ≠ 0 ∨
      !ipv4OptionsAreCanonical p.options then .error (.invalidValue .optionLength)
  else if p.fragmentOffset > ipv4MaxFragmentOffset then .error (.invalidValue .fragmentOffset)
  else if p.dontFragment ∧ (p.moreFragments ∨ p.fragmentOffset ≠ 0) then .error (.invalidValue .flags)
  else if p.moreFragments ∧ p.payload.length % 8 ≠ 0 then .error (.invalidValue .payloadLength)
  else
    let total := ipv4MinHeaderLength + p.options.length + p.payload.length
    if total > ipv4MaxPacketLength then .error (.lengthExceedsLimit total ipv4MaxPacketLength .ip) else .ok ()

def requiredLength : Except BuildError Nat :=
  match p.validate with
  | .error error => .error error
  | .ok () => PacketLength.new (ipv4MinHeaderLength + p.options.length + p.payload.length) .ip

def flagsFragment : UInt16 :=
  (if p.dontFragment then 0x4000 else 0) ||| (if p.moreFragments then 0x2000 else 0) ||| p.fragmentOffset

def headerFront : Bytes :=
  let headerLength := ipv4MinHeaderLength + p.options.length
  let totalLength := headerLength + p.payload.length
  let ihl : UInt8 := if headerLength / 4 ≤ 255 then UInt8.ofNat (headerLength / 4) else 15
  [0x40 ||| ihl, (p.dscp <<< 2) ||| p.ecn] ++
    be16 (if totalLength ≤ 65535 then UInt16.ofNat totalLength else 65535) ++
    be16 p.identification ++ be16 p.flagsFragment ++ [p.timeToLive, p.protocol]

def headerBack : Bytes := ipv4Octets p.source ++ (ipv4Octets p.destination ++ p.options)

def encodeIpv4 : Bytes :=
  let checksum := computeInternetChecksum (p.headerFront ++ ([0, 0] ++ p.headerBack))
  p.headerFront ++ (be16 checksum ++ p.headerBack) ++ p.payload

def build : Except BuildError Bytes :=
  match p.requiredLength with
  | .error error => .error error
  | .ok _ => .ok p.encodeIpv4

end Ipv4Packet

variable (input : Bytes)

def parseIpv4Packet (mode : ParseMode) : Except ParseError ParsedIpv4Packet :=
  if input.length > maxIpPacketLength then .error (.limitExceeded .ipPacketBytes input.length maxIpPacketLength)
  else if input.length < ipv4MinHeaderLength then .error (.truncated .ipv4 ipv4MinHeaderLength input.length)
  else if u8At input 0 >>> 4 ≠ 4 then .error (.malformed .ipv4 .version)
  else
    let ihl := (u8At input 0 &&& 0x0f).toNat
    if ihl < 5 then .error (.malformed .ipv4 .headerLength)
    else
      let headerLength := ihl * 4
      if input.length < headerLength then .error (.truncated .ipv4 headerLength input.length)
      else
        let declaredTotalLength := (u16At input 2).toNat
        if declaredTotalLength < headerLength then .error (.malformed .ipv4 .totalLength)
        else
          let complete : Bool := input.length ≥ declaredTotalLength
          if !complete ∧ mode = .strict then .error (.truncated .ipv4 declaredTotalLength input.length)
          else if !validateInternetChecksum (input.take headerLength) then .error (.malformed .ipv4 .checksum)
          else
            let options := (input.take headerLength).drop ipv4MinHeaderLength
            match validateIpv4Options options with
            | .error error => .error error
            | .ok conformance =>
              let flagsFragment := u16At input 6
              let reserved : Bool := flagsFragment &&& 0x8000 ≠ 0
              let dontFragment : Bool := flagsFragment &&& 0x4000 ≠ 0
              let moreFragments : Bool := flagsFragment &&& 0x2000 ≠ 0
              let fragmentOffset := flagsFragment &&& ipv4MaxFragmentOffset
              if dontFragment ∧ (moreFragments ∨ fragmentOffset ≠ 0) then .error (.malformed .ipv4 .flags)
              else if moreFragments ∧ (declaredTotalLength - headerLength) % 8 ≠ 0 then
                .error (.malformed .ipv4 .payloadLength)
              else
                let fragment : FragmentState :=
                  if fragmentOffset = 0 then if moreFragments then .first true else .unfragmented
                  else .nonFirst fragmentOffset moreFragments
                let packetEnd := min input.length declaredTotalLength
                let payload := (input.take packetEnd).drop headerLength
                let protocol := u8At input 9
                .ok {
                  dscp := u8At input 1 >>> 2
                  ecn := u8At input 1 &&& 0x03
                  identification := u16At input 4
                  dontFragment, moreFragments, fragmentOffset
                  timeToLive := u8At input 8
                  protocol
                  source := ipv4At input 12
                  destination := ipv4At input 16
                  options, payload
                  trailing := if complete then input.drop declaredTotalLength else []
                  declaredTotalLength, complete, fragment
                  upperLayer := classifyUpperLayer protocol payload fragment false
                  conformance := { conformance with reservedFlagSet := conformance.reservedFlagSet || reserved } }

/-! ### What the parser takes -/

def ipv4HeaderLength : Nat := (u8At input 0 &&& 0x0f).toNat * 4

def ipv4TotalLength : Nat := (u16At input 2).toNat

def ipv4Options : Bytes := (input.take (ipv4HeaderLength input)).drop ipv4MinHeaderLength

def ipv4Fragment (flagsFragment : UInt16) : FragmentState :=
  if flagsFragment &&& ipv4MaxFragmentOffset = 0 then
    if decide (flagsFragment &&& 0x2000 ≠ 0) then .first true else .unfragmented
  else .nonFirst (flagsFragment &&& ipv4MaxFragmentOffset) (flagsFragment &&& 0x2000 ≠ 0)

/-- The fields of a packet, read off its bytes. -/
def ipv4Fields (conformance : Ipv4Conformance) : ParsedIpv4Packet :=
  let complete : Bool := input.length ≥ ipv4TotalLength input
  let payload := (input.take (min input.length (ipv4TotalLength input))).drop (ipv4HeaderLength input)
  { dscp := u8At input 1 >>> 2
    ecn := u8At input 1 &&& 0x03
    identification := u16At input 4
    dontFragment := u16At input 6 &&& 0x4000 ≠ 0
    moreFragments := u16At input 6 &&& 0x2000 ≠ 0
    fragmentOffset := u16At input 6 &&& ipv4MaxFragmentOffset
    timeToLive := u8At input 8
    protocol := u8At input 9
    source := ipv4At input 12
    destination := ipv4At input 16
    options := ipv4Options input
    payload
    trailing := if complete then input.drop (ipv4TotalLength input) else []
    declaredTotalLength := ipv4TotalLength input
    complete
    fragment := ipv4Fragment (u16At input 6)
    upperLayer := classifyUpperLayer (u8At input 9) payload (ipv4Fragment (u16At input 6)) false
    conformance := { conformance with
      reservedFlagSet := conformance.reservedFlagSet || decide (u16At input 6 &&& 0x8000 ≠ 0) } }

/-- What the parser asks of a packet. -/
structure Ipv4Accepts (input : Bytes) (mode : ParseMode) (conformance : Ipv4Conformance) : Prop where
  limit : input.length ≤ maxIpPacketLength
  minimum : ipv4MinHeaderLength ≤ input.length
  version : u8At input 0 >>> 4 = 4
  ihl : 5 ≤ (u8At input 0 &&& 0x0f).toNat
  header : ipv4HeaderLength input ≤ input.length
  declared : ipv4HeaderLength input ≤ ipv4TotalLength input
  complete : mode = .strict → ipv4TotalLength input ≤ input.length
  checksum : validateInternetChecksum (input.take (ipv4HeaderLength input)) = true
  options : validateIpv4Options (ipv4Options input) = .ok conformance
  flags : u16At input 6 &&& 0x4000 ≠ 0 → u16At input 6 &&& 0x2000 = 0 ∧ u16At input 6 &&& ipv4MaxFragmentOffset = 0
  fragments : u16At input 6 &&& 0x2000 ≠ 0 → (ipv4TotalLength input - ipv4HeaderLength input) % 8 = 0

theorem parseIpv4Packet_eq_ok_iff {input : Bytes} {mode : ParseMode} {r : ParsedIpv4Packet} :
    parseIpv4Packet input mode = .ok r ↔
      ∃ conformance, Ipv4Accepts input mode conformance ∧ r = ipv4Fields input conformance := by
  unfold parseIpv4Packet
  simp only [ite_error_eq_ok, not_and, not_not, Nat.not_lt, Bool.not_eq_true', Bool.not_eq_false,
    decide_eq_false_iff_not]
  constructor
  · rintro ⟨hlimit, hshort, hversion, hihl, hheader, hdeclared, hcomplete, hchecksum, hrest⟩
    split at hrest
    · cases hrest
    next conformance hoptions =>
    simp only [ite_error_eq_ok] at hrest
    obtain ⟨hflags, hlength, hr⟩ := hrest
    simp only [not_and, not_or, not_not, decide_eq_true_eq] at hflags hlength
    exact ⟨conformance, ⟨hlimit, hshort, hversion, hihl, hheader, hdeclared, fun hmode => not_not.1 fun hcut =>
      hcomplete hcut hmode, hchecksum, hoptions, hflags, hlength⟩, (Except.ok.inj hr).symm⟩
  rintro ⟨conformance, h, rfl⟩
  refine ⟨h.limit, h.minimum, h.version, h.ihl, h.header, h.declared, fun hcut hmode => hcut (h.complete hmode),
    h.checksum, ?_⟩
  have hoptions := h.options
  unfold ipv4Options ipv4HeaderLength at hoptions
  rw [hoptions]
  refine ite_error_eq_ok.2 ⟨?_, ite_error_eq_ok.2 ⟨?_, rfl⟩⟩
  · simpa only [not_and, not_or, not_not, decide_eq_true_eq] using h.flags
  · exact fun hboth => hboth.2 (h.fragments (of_decide_eq_true hboth.1))

end NodeNet.Protocols
