import NodeNet.Protocols.Types

/-!
# Ethernet frames and ARP packets

Building and parsing of Ethernet II frames with at most two VLAN tags, and parsing of ARP packets by the address
lengths they declare.  A built frame parses back exactly if its type is not that of one more tag
(`EthernetFrame.parse_build_iff`).
-/

namespace NodeNet.Protocols

open List

def maxVlanHeaderCount : Nat := 2

/-! ### Hardware addresses -/

abbrev MacAddress := BitVec 48

def macOctets (a : MacAddress) : Bytes := beBytes 6 a.toNat

def macAt (l : Bytes) (offset : Nat) : MacAddress := BitVec.ofNat 48 (beValue (field l offset 6))

@[simp] theorem macOctets_length (a : MacAddress) : (macOctets a).length = 6 := beBytes_length ..

@[simp] theorem macAt_skip {a l : Bytes} {offset : Nat} (h : a.length ≤ offset) :
    macAt (a ++ l) offset = macAt l (offset - a.length) := by
  rw [macAt, macAt, field_skip h]

@[simp] theorem macAt_head (address : MacAddress) (l : Bytes) : macAt (macOctets address ++ l) 0 = address := by
  have hlt : address.toNat < 256 ^ 6 := address.isLt
  rw [macAt, field_head (macOctets_length address), macOctets, beValue_beBytes hlt]
  simp

/-! ### VLAN tags -/

def etherTypeIpv4 : UInt16 := 0x0800
def etherTypeArp : UInt16 := 0x0806
def etherTypeVlan : UInt16 := 0x8100
def etherTypeIpv6 : UInt16 := 0x86dd
def etherTypeProviderBridging : UInt16 := 0x88a8

inductive VlanTagProtocol where
  | dot1Q | providerBridging
deriving DecidableEq

def VlanTagProtocol.etherType : VlanTagProtocol → UInt16
  | dot1Q => etherTypeVlan
  | providerBridging => etherTypeProviderBridging

def VlanTagProtocol.fromEtherType (value : UInt16) : Option VlanTagProtocol :=
  if value = etherTypeVlan then some .dot1Q
  else if value = etherTypeProviderBridging then some .providerBridging
  else none

/-- A tag whose fields fit their bits of the control information. -/
structure VlanTag where
  protocol : VlanTagProtocol
  priorityCodePoint : UInt8
  dropEligible : Bool
  identifier : UInt16
  priority_le : priorityCodePoint ≤ 7
  identifier_le : identifier ≤ 0x0fff
deriving DecidableEq

private theorem priority_fits (value : UInt16) : ((value >>> 13) &&& 0x7).toUInt8 ≤ 7 := by
  have hle : ((value >>> 13) &&& 0x7).toNat ≤ 7 := by
    rw [UInt16.toNat_and]
    exact Nat.and_le_right
  rw [UInt8.le_iff_toNat_le, UInt16.toNat_toUInt8]
  exact (Nat.mod_le ..).trans hle

private theorem identifier_fits (value : UInt16) : value &&& 0x0fff ≤ 0x0fff := by
  rw [UInt16.le_iff_toNat_le, UInt16.toNat_and]
  exact Nat.and_le_right

def VlanTag.fromWire (protocol : VlanTagProtocol) (value : UInt16) : VlanTag where
  protocol := protocol
  priorityCodePoint := ((value >>> 13) &&& 0x7).toUInt8
  dropEligible := value &&& 0x1000 ≠ 0
  identifier := value &&& 0x0fff
  priority_le := priority_fits value
  identifier_le := identifier_fits value

def VlanTag.controlInformation (tag : VlanTag) : UInt16 :=
  (tag.priorityCodePoint.toUInt16 <<< 13) ||| (if tag.dropEligible then 0x1000 else 0) ||| tag.identifier

/-- No, one or two tags, the outer one first. -/
inductive VlanStack where
  | none
  | one (tag : VlanTag)
  | two (outer inner : VlanTag)
deriving DecidableEq

def VlanStack.ofTags : List VlanTag → VlanStack
  | [] => .none
  | [tag] => .one tag
  | outer :: inner :: _ => .two outer inner

def VlanStack.asSlice : VlanStack → List VlanTag
  | none => []
  | one tag => [tag]
  | two outer inner => [outer, inner]

/-! ### Frames -/

def ethernetHeaderLength : Nat := 14
def vlanHeaderLength : Nat := 4

structure EthernetHeader where
  destination : MacAddress
  source : MacAddress
  vlan : VlanStack
  etherType : UInt16
deriving DecidableEq

def EthernetHeader.encodedLength (header : EthernetHeader) : Nat :=
  ethernetHeaderLength + header.vlan.asSlice.length * vlanHeaderLength

structure EthernetFrame where
  header : EthernetHeader
  payload : Bytes
deriving DecidableEq

namespace EthernetFrame

def requiredLength (f : EthernetFrame) : Except BuildError Nat :=
  PacketLength.new (f.header.encodedLength + f.payload.length) .ethernet

/-- The type in front of the given tags: that of the first tag, or that of the payload. -/
def typeBefore (etherType : UInt16) : List VlanTag → UInt16
  | [] => etherType
  | tag :: _ => tag.protocol.etherType

def encodeTags (etherType : UInt16) : List VlanTag → Bytes
  | [] => []
  | tag :: rest => be16 tag.controlInformation ++ (be16 (typeBefore etherType rest) ++ encodeTags etherType rest)

def encode (f : EthernetFrame) : Bytes :=
  let tags := f.header.vlan.asSlice
  macOctets f.header.destination ++ (macOctets f.header.source ++ (be16 (typeBefore f.header.etherType tags) ++
    (encodeTags f.header.etherType tags ++ f.payload)))

def build (f : EthernetFrame) : Except BuildError Bytes :=
  match f.requiredLength with
  | .error error => .error error
  | .ok _ => .ok f.encode

end EthernetFrame

structure ParsedEthernetFrame where
  header : EthernetHeader
  payload : Bytes
  headerLength : Nat
deriving DecidableEq

variable (input : Bytes)

def requireLength (required : Nat) (layer : Layer) : Except ParseError Unit :=
  if input.length < required then .error (.truncated layer required input.length) else .ok ()

/-- The tags from `offset` on, the type behind them and the offset of the payload; `allowed` more tags may follow.
-/
def parseVlanTags (input : Bytes) : Nat → UInt16 → Nat → Except ParseError (List VlanTag × UInt16 × Nat)
  | allowed, etherType, offset =>
    match VlanTagProtocol.fromEtherType etherType with
    | none => .ok ([], etherType, offset)
    | some protocol =>
      match allowed with
      | 0 => .error (.limitExceeded .vlanHeaders (maxVlanHeaderCount + 1) maxVlanHeaderCount)
      | allowed + 1 =>
        match requireLength input (offset + vlanHeaderLength) .vlan with
        | .error error => .error error
        | .ok () =>
          match parseVlanTags input allowed (u16At input (offset + 2)) (offset + vlanHeaderLength) with
          | .error error => .error error
          | .ok (tags, rest) => .ok (.fromWire protocol (u16At input offset) :: tags, rest)

def parseEthernetFrame : Except ParseError ParsedEthernetFrame :=
  if input.length > maxEthernetFrameLength then
    .error (.limitExceeded .frameBytes input.length maxEthernetFrameLength)
  else
    match requireLength input ethernetHeaderLength .link with
    | .error error => .error error
    | .ok () =>
      match parseVlanTags input maxVlanHeaderCount (u16At input 12) ethernetHeaderLength with
      | .error error => .error error
      | .ok (tags, etherType, offset) =>
        .ok {
          header := {
            destination := macAt input 0
            source := macAt input 6
            vlan := .ofTags tags
            etherType }
          payload := input.drop offset
          headerLength := offset }

/-! ### Reading back what was built -/

@[simp] theorem VlanTagProtocol.fromEtherType_etherType (protocol : VlanTagProtocol) :
    fromEtherType protocol.etherType = some protocol := by
  cases protocol <;> rfl

/-- The three bit fields stand side by side. -/
private theorem VlanTag.controlInformation_toNat (tag : VlanTag) :
    tag.controlInformation.toNat =
      tag.priorityCodePoint.toNat * 8192 + (if tag.dropEligible then 4096 else 0) + tag.identifier.toNat := by
  have hpriority : tag.priorityCodePoint.toNat ≤ 7 := UInt8.le_iff_toNat_le.mp tag.priority_le
  have hidentifier : tag.identifier.toNat ≤ 4095 := UInt16.le_iff_toNat_le.mp tag.identifier_le
  have hshift : (tag.priorityCodePoint.toUInt16 <<< 13).toNat = tag.priorityCodePoint.toNat * 8192 := by
    rw [UInt16.toNat_shiftLeft, UInt8.toNat_toUInt16, Nat.shiftLeft_eq]
    exact Nat.mod_eq_of_lt (by change _ * 2 ^ 13 < 2 ^ 16; omega)
  have hdrop : (if tag.dropEligible then (0x1000 : UInt16) else 0).toNat =
      if tag.dropEligible then 4096 else 0 := by
    split <;> rfl
  rw [controlInformation, UInt16.toNat_or, UInt16.toNat_or, hshift, hdrop,
    lor_eq_add (a := tag.priorityCodePoint.toNat * 8192) 13 (by split <;> omega) (by omega),
    lor_eq_add 12 (by omega) (by split <;> omega)]

theorem VlanTag.fromWire_controlInformation (tag : VlanTag) :
    fromWire tag.protocol tag.controlInformation = tag := by
  have hvalue := tag.controlInformation_toNat
  have hpriority : tag.priorityCodePoint.toNat ≤ 7 := UInt8.le_iff_toNat_le.mp tag.priority_le
  have hidentifier : tag.identifier.toNat ≤ 4095 := UInt16.le_iff_toNat_le.mp tag.identifier_le
  generalize tag.controlInformation = value at hvalue
  have hreadPriority : ((value >>> 13) &&& 0x7).toUInt8 = tag.priorityCodePoint := by
    rw [← UInt8.toNat_inj, UInt16.toNat_toUInt8, u16_and_mask (k := 3) rfl, UInt16.toNat_shiftRight,
      Nat.shiftRight_eq_div_pow, hvalue, show (13 : UInt16).toNat % 16 = 13 from rfl]
    split <;> omega
  have hreadDrop : decide (value &&& 0x1000 ≠ 0) = tag.dropEligible := by
    have hzero : value &&& 0x1000 = 0 ↔ tag.dropEligible = false := by
      rw [u16_and_bit_eq_zero (k := 12) rfl, hvalue]
      cases tag.dropEligible
      · simp
        omega
      · simp
        omega
    simp [hzero]
  have hreadIdentifier : value &&& 0x0fff = tag.identifier := by
    rw [← UInt16.toNat_inj, u16_and_mask (k := 12) rfl, hvalue]
    split <;> omega
  cases tag
  simp only [fromWire, mk.injEq]
  exact ⟨trivial, hreadPriority, hreadDrop, hreadIdentifier⟩

private theorem u16At_add (offset k : Nat) : u16At input (offset + k) = u16At (input.drop offset) k := by
  rw [u16At, u16At, field, field, drop_drop]

/-- The tags that were written are read first; what is read behind them does not depend on them. -/
private theorem parseVlanTags_encodeTags {etherType : UInt16} {payload input : Bytes} {tags : List VlanTag}
    {allowed offset : Nat} (h : input.drop offset = EthernetFrame.encodeTags etherType tags ++ payload)
    (hallowed : tags.length ≤ allowed) :
    parseVlanTags input allowed (EthernetFrame.typeBefore etherType tags) offset =
      (parseVlanTags input (allowed - tags.length) etherType (offset + tags.length * vlanHeaderLength)).map
        (Prod.map (tags ++ ·) id) := by
  induction tags generalizing allowed offset with
  | nil =>
    rw [length_nil, Nat.sub_zero, Nat.zero_mul, Nat.add_zero, EthernetFrame.typeBefore]
    cases parseVlanTags input allowed etherType offset <;> rfl
  | cons tag rest ih =>
    obtain ⟨allowed, rfl⟩ := Nat.exists_eq_add_of_le' (Nat.one_le_of_lt hallowed)
    simp only [EthernetFrame.encodeTags, append_assoc] at h
    have hbehind : input.drop (offset + vlanHeaderLength) = EthernetFrame.encodeTags etherType rest ++
      payload := by
      rw [← drop_drop, h, ← append_assoc]
      exact drop_left' rfl
    have hrequired : requireLength input (offset + vlanHeaderLength) .vlan = .ok () := by
      have hlength := congrArg List.length h
      simp only [length_drop, length_append, be16_length] at hlength
      exact if_neg (by rw [vlanHeaderLength]; omega)
    have hcontrol : u16At input offset = tag.controlInformation := by
      rw [← Nat.add_zero offset, u16At_add, h, u16At_head]
    have hnext : u16At input (offset + 2) = EthernetFrame.typeBefore etherType rest := by
      rw [u16At_add, h]
      simp
    rw [length_cons, Nat.add_sub_add_right, Nat.succ_mul, Nat.add_comm (_ * _), ← Nat.add_assoc, parseVlanTags]
    simp only [show EthernetFrame.typeBefore etherType (tag :: rest) = tag.protocol.etherType from rfl,
      VlanTagProtocol.fromEtherType_etherType, hrequired, hcontrol, hnext,
      ih hbehind (Nat.le_of_succ_le_succ hallowed), VlanTag.fromWire_controlInformation]
    cases parseVlanTags input _ etherType _ <;> rfl

private theorem fromEtherType_of_parseVlanTags {input : Bytes} {allowed offset offset' : Nat}
    {etherType etherType' : UInt16} {tags : List VlanTag}
    (h : parseVlanTags input allowed etherType offset = .ok (tags, etherType', offset')) :
    VlanTagProtocol.fromEtherType etherType' = none := by
  induction allowed generalizing etherType offset tags with
  | zero =>
    rw [parseVlanTags] at h
    split at h
    · next hnone =>
      cases h
      exact hnone
    · cases h
  | succ allowed ih =>
    rw [parseVlanTags] at h
    split at h
    · next hnone =>
      cases h
      exact hnone
    simp only at h
    split at h
    · cases h
    split at h
    · cases h
    next hrest =>
    cases h
    exact ih hrest

@[simp] private theorem VlanStack.ofTags_asSlice (vlan : VlanStack) : ofTags vlan.asSlice = vlan := by
  cases vlan <;> rfl

private theorem VlanStack.length_asSlice_le (vlan : VlanStack) : vlan.asSlice.length ≤ maxVlanHeaderCount := by
  cases vlan <;> simp [asSlice, maxVlanHeaderCount]

private theorem EthernetFrame.length_encodeTags (etherType : UInt16) (tags : List VlanTag) :
    (encodeTags etherType tags).length = tags.length * vlanHeaderLength := by
  induction tags with
  | nil => simp [encodeTags]
  | cons tag rest ih =>
    simp only [encodeTags, length_append, be16_length, ih, length_cons, vlanHeaderLength]
    omega

private theorem EthernetFrame.length_encode (f : EthernetFrame) :
    f.encode.length = f.header.encodedLength + f.payload.length := by
  simp only [encode, length_append, macOctets_length, be16_length, length_encodeTags, EthernetHeader.encodedLength,
    ethernetHeaderLength]
  omega

private theorem EthernetFrame.drop_encode (f : EthernetFrame) : f.encode.drop ethernetHeaderLength =
    encodeTags f.header.etherType f.header.vlan.asSlice ++ f.payload := by
  rw [encode, ← append_assoc, ← append_assoc, append_assoc (macOctets _)]
  exact drop_left' rfl

/-- What the parser makes of a built frame: the fields of the frame, if what stands behind its tags is not one more
tag. -/
private theorem EthernetFrame.parse_encode (f : EthernetFrame)
    (hlength : f.header.encodedLength + f.payload.length ≤ maxEthernetFrameLength) :
    parseEthernetFrame f.encode =
      (parseVlanTags f.encode (maxVlanHeaderCount - f.header.vlan.asSlice.length) f.header.etherType
        f.header.encodedLength).map fun r => {
          header := ⟨f.header.destination, f.header.source, .ofTags (f.header.vlan.asSlice ++ r.1), r.2.1⟩
          payload := f.encode.drop r.2.2
          headerLength := r.2.2 } := by
  have hshort : requireLength f.encode ethernetHeaderLength .link = .ok () := by
    rw [requireLength, f.length_encode, if_neg]
    rw [EthernetHeader.encodedLength]
    omega
  have hfirst : u16At f.encode 12 = typeBefore f.header.etherType f.header.vlan.asSlice := by simp [encode]
  have hdestination : macAt f.encode 0 = f.header.destination := by simp [encode]
  have hsource : macAt f.encode 6 = f.header.source := by simp [encode]
  have htags := parseVlanTags_encodeTags f.drop_encode f.header.vlan.length_asSlice_le
  rw [parseEthernetFrame, if_neg (by rw [f.length_encode]; omega), hshort]
  simp only [hfirst, hdestination, hsource, htags, ← EthernetHeader.encodedLength.eq_1]
  cases parseVlanTags f.encode _ f.header.etherType f.header.encodedLength <;> rfl

/-- A built frame is read back as it was exactly if its type does not announce one more tag. -/
theorem EthernetFrame.parse_build_iff {f : EthernetFrame} {bytes : Bytes} (h : f.build = .ok bytes) :
    (∃ r, parseEthernetFrame bytes = .ok r ∧ r.header = f.header ∧ r.payload = f.payload) ↔
      VlanTagProtocol.fromEtherType f.header.etherType = none := by
  rw [build, requiredLength, PacketLength.new, PacketKind.maximumLength] at h
  split at h
  · cases h
  next hok =>
  obtain ⟨hlength, -⟩ := ite_error_eq_ok.mp hok
  cases h
  rw [f.parse_encode (Nat.le_of_not_lt hlength)]
  constructor
  · rintro ⟨r, hparse, hheader, -⟩
    -- the parser stops at a type that is not that of a tag, and it has read the type of the frame
    rw [Except.map.eq_def] at hparse
    split at hparse
    · cases hparse
    next hrest =>
    cases hparse
    rw [← hheader]
    exact fromEtherType_of_parseVlanTags hrest
  intro hnone
  have hrest : ∀ input allowed offset, parseVlanTags input allowed f.header.etherType offset =
      .ok ([], f.header.etherType, offset) := by
    intro input allowed offset
    cases allowed <;> rw [parseVlanTags, hnone]
  have hpayload : f.encode.drop f.header.encodedLength = f.payload := by
    rw [EthernetHeader.encodedLength, ← drop_drop, f.drop_encode]
    exact drop_left' (length_encodeTags ..)
  rw [hrest]
  refine ⟨_, rfl, ?_, hpayload⟩
  simp only [append_nil, VlanStack.ofTags_asSlice]

/-- A frame of a customer network in a provider network. -/
def EthernetFrame.doubleTagged : EthernetFrame where
  header := {
    destination := 0x020000000001
    source := 0x020000000002
    vlan := .two (.fromWire .providerBridging 0xa064) (.fromWire .dot1Q 0x1005)
    etherType := etherTypeIpv4 }
  payload := [0x45, 0]

theorem EthernetFrame.parse_build_doubleTagged :
    ∃ r, parseEthernetFrame doubleTagged.encode = .ok r ∧ r.header = doubleTagged.header ∧
      r.payload = doubleTagged.payload :=
  (parse_build_iff (f := doubleTagged) rfl).mpr rfl

/-- A frame without tags, with the type of a tag in front of four bytes of payload. -/
def EthernetFrame.disguised : EthernetFrame where
  header := { destination := 0x020000000001, source := 0x020000000002, vlan := .none, etherType := etherTypeVlan }
  payload := [0x00, 0x05, 0x08, 0x00]

/-- The builder takes the type of a tag, and the parser reads the payload as that tag. -/
theorem EthernetFrame.payload_read_as_tag :
    disguised.build = .ok disguised.encode ∧ disguised.header.vlan = .none ∧
      ∃ r, parseEthernetFrame disguised.encode = .ok r ∧ r.header.vlan = .one (.fromWire .dot1Q 5) ∧
        r.header.etherType = etherTypeIpv4 ∧ r.payload = [] :=
  ⟨rfl, rfl, _, rfl, rfl, rfl, rfl⟩

/-! ### ARP -/

def arpFixedLength : Nat := 8

inductive ArpEthernetIpv4Operation where
  | request | reply
deriving DecidableEq

def ArpEthernetIpv4Operation.fromWire (value : UInt16) : Option ArpEthernetIpv4Operation :=
  if value = 1 then some .request else if value = 2 then some .reply else none

structure ArpEthernetIpv4Packet where
  operation : ArpEthernetIpv4Operation
  senderHardwareAddress : MacAddress
  senderProtocolAddress : Ipv4Address
  targetHardwareAddress : MacAddress
  targetProtocolAddress : Ipv4Address
deriving DecidableEq

/-- A packet of another format than Ethernet and IPv4, or with another operation. -/
structure UnknownArpPacket where
  hardwareType : UInt16
  protocolType : UInt16
  hardwareAddressLength : UInt8
  protocolAddressLength : UInt8
  operation : UInt16
  senderHardwareAddress : Bytes
  senderProtocolAddress : Bytes
  targetHardwareAddress : Bytes
  targetProtocolAddress : Bytes
deriving DecidableEq

inductive ParsedArpPacket where
  | ethernetIpv4 (packet : ArpEthernetIpv4Packet)
  | unknown (packet : UnknownArpPacket)
deriving DecidableEq

/-- The four addresses stand one behind the other, in the lengths that the packet declares. -/
def arpFields : UnknownArpPacket :=
  let hardwareLength := (u8At input 4).toNat
  let protocolLength := (u8At input 5).toNat
  { hardwareType := u16At input 0
    protocolType := u16At input 2
    hardwareAddressLength := u8At input 4
    protocolAddressLength := u8At input 5
    operation := u16At input 6
    senderHardwareAddress := field input arpFixedLength hardwareLength
    senderProtocolAddress := field input (arpFixedLength + hardwareLength) protocolLength
    targetHardwareAddress := field input (arpFixedLength + hardwareLength + protocolLength) hardwareLength
    targetProtocolAddress := field input (arpFixedLength + hardwareLength + protocolLength + hardwareLength)
      protocolLength }

def parseArpPacket : Except ParseError ParsedArpPacket :=
  if input.length > maxEthernetFrameLength then
    .error (.limitExceeded .frameBytes input.length maxEthernetFrameLength)
  else if input.length < arpFixedLength then .error (.truncated .arp arpFixedLength input.length)
  else
    let unknown := arpFields input
    let required :=
      arpFixedLength + (unknown.hardwareAddressLength.toNat + unknown.protocolAddressLength.toNat) * 2
    if input.length < required then .error (.truncated .arp required input.length)
    else
      match ArpEthernetIpv4Operation.fromWire unknown.operation with
      | none => .ok (.unknown unknown)
      | some operation =>
        if unknown.hardwareType ≠ 1 ∨ unknown.protocolType ≠ etherTypeIpv4 ∨ unknown.hardwareAddressLength ≠ 6 ∨
            unknown.protocolAddressLength ≠ 4 then .ok (.unknown unknown)
        else
          .ok (.ethernetIpv4 {
            operation
            senderHardwareAddress := macAt unknown.senderHardwareAddress 0
            senderProtocolAddress := ipv4At unknown.senderProtocolAddress 0
            targetHardwareAddress := macAt unknown.targetHardwareAddress 0
            targetProtocolAddress := ipv4At unknown.targetProtocolAddress 0 })

end NodeNet.Protocols
