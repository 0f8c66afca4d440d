import NodeNet.Base.Bytes
import NodeNet.Engine.Types

/-!
# Values shared by the packet codecs

Errors, ceilings, addresses as octets, and the disposition of the bytes behind the last header of an IP packet.
Sums of lengths are exact: no byte string in memory is long enough for them to overflow.
-/

namespace NodeNet.Protocols

open Engine (IpAddress)

/-! ### Errors -/

inductive Layer where
  | link | vlan | arp | network | ipv4 | ipv6 | ipv6Extension | transport | icmpv4 | icmpv6 | ndp | udp | tcp
  | payload
deriving DecidableEq

inductive Field where
  | address | addressLength | acknowledgment | checksum | code | dscp | ecn | extensionLength | extensionOrder
  | flags | flowLabel | fragmentOffset | hardwareType | headerLength | hopLimit | operation | optionKind
  | optionLength | packetLength | payloadLength | port | protocol | protocolType | sequence | span
  | templateDescriptor | templatePatch | totalLength | trafficClass | type | urgentPointer | version | vlanCount
  | vlanIdentifier | vlanPriority | window
deriving DecidableEq

inductive Resource where
  | frameBytes | ipPacketBytes | ipv6ExtensionBytes | ipv6ExtensionHeaders | ndpOptionBytes | ndpOptions
  | ownedOptions | ownedPayload | templateDescriptors | tcpOptionBytes | tcpOptions | transportBytes | vlanHeaders
deriving DecidableEq

inductive ParseError where
  | truncated (layer : Layer) (required actual : Nat)
  | malformed (layer : Layer) (field : Field)
  | unsupported (layer : Layer) (field : Field)
  | limitExceeded (resource : Resource) (actual maximum : Nat)
  | arithmeticOverflow (field : Field)
deriving DecidableEq

inductive PacketKind where
  | ip | ethernet
deriving DecidableEq

inductive BuildError where
  | bufferTooSmall (required actual : Nat)
  | lengthExceedsLimit (actual maximum : Nat) (kind : PacketKind)
  | invalidValue (field : Field)
  | arithmeticOverflow (field : Field)
deriving DecidableEq

/-- The lengths of the elements of a list, added to the length of what stands before them. -/
def addLengths {α : Type} (lengthOf : α → Except BuildError Nat) (length : Nat) : List α → Except BuildError Nat
  | [] => .ok length
  | a :: rest =>
    match lengthOf a with
    | .error error => .error error
    | .ok more => addLengths lengthOf (length + more) rest

/-- Where the length of an element is that of its bytes, the sum is the length of all bytes. -/
theorem addLengths_eq_ok_iff {α : Type} {lengthOf : α → Except BuildError Nat} {encode : α → Bytes}
    (h : ∀ a n, lengthOf a = .ok n → (encode a).length = n) {length total : Nat} {l : List α} :
    addLengths lengthOf length l = .ok total ↔
      (∀ a ∈ l, lengthOf a = .ok (encode a).length) ∧ total = length + (l.flatMap encode).length := by
  induction l generalizing length with
  | nil => simp [addLengths, eq_comm]
  | cons a rest ih =>
    rw [addLengths, List.forall_mem_cons, List.flatMap_cons, List.length_append]
    cases hlength : lengthOf a with
    | error e => simp
    | ok more =>
      have hmore := h a more hlength
      simp only [ih, hmore, true_and, Nat.add_assoc]

/-! ### Ceilings -/

def maxIpPacketLength : Nat := 65575
def maxEthernetFrameLength : Nat := 65597
def maxIpv6ExtensionHeaderCount : Nat := 8
def maxIpv6ExtensionBytes : Nat := 2048

def PacketKind.maximumLength : PacketKind → Nat
  | ip => maxIpPacketLength
  | ethernet => maxEthernetFrameLength

/-- A length that the enclosing packet may have. -/
def PacketLength.new (value : Nat) (kind : PacketKind) : Except BuildError Nat :=
  if value > kind.maximumLength then .error (.lengthExceedsLimit value kind.maximumLength kind) else .ok value

/-! ### Addresses -/

abbrev Ipv4Address := BitVec 32

abbrev Ipv6Address := BitVec 128

def ipv4Octets (a : Ipv4Address) : Bytes := beBytes 4 a.toNat

def ipv6Octets (a : Ipv6Address) : Bytes := beBytes 16 a.toNat

def ipv4At (l : Bytes) (offset : Nat) : Ipv4Address := BitVec.ofNat 32 (beValue (field l offset 4))

def ipv6At (l : Bytes) (offset : Nat) : Ipv6Address := BitVec.ofNat 128 (beValue (field l offset 16))

@[simp] theorem ipv4Octets_length (a : Ipv4Address) : (ipv4Octets a).length = 4 := beBytes_length ..

@[simp] theorem ipv6Octets_length (a : Ipv6Address) : (ipv6Octets a).length = 16 := beBytes_length ..

@[simp] theorem ipv4At_skip {a l : Bytes} {offset : Nat} (h : a.length ≤ offset) :
    ipv4At (a ++ l) offset = ipv4At l (offset - a.length) := by
  rw [ipv4At, ipv4At, field_skip h]

@[simp] theorem ipv4At_cons_succ (b : UInt8) (l : Bytes) (offset : Nat) :
    ipv4At (b :: l) (offset + 1) = ipv4At l offset := rfl

@[simp] theorem ipv4At_head (address : Ipv4Address) (l : Bytes) :
    ipv4At (ipv4Octets address ++ l) 0 = address := by
  have hlt : address.toNat < 256 ^ 4 := address.isLt
  rw [ipv4At, field_head (ipv4Octets_length address), ipv4Octets, beValue_beBytes hlt]
  simp

theorem ipv4Octets_ipv4At {l : Bytes} {offset : Nat} (h : offset + 4 ≤ l.length) :
    ipv4Octets (ipv4At l offset) = field l offset 4 := by
  have hlt : beValue (field l offset 4) < 2 ^ 32 := beValue_field_lt h
  rw [ipv4Octets, ipv4At, BitVec.toNat_ofNat, Nat.mod_eq_of_lt hlt, beBytes_beValue_field h]

@[simp] theorem ipv6At_skip {a l : Bytes} {offset : Nat} (h : a.length ≤ offset) :
    ipv6At (a ++ l) offset = ipv6At l (offset - a.length) := by
  rw [ipv6At, ipv6At, field_skip h]

@[simp] theorem ipv6At_cons_succ (b : UInt8) (l : Bytes) (offset : Nat) :
    ipv6At (b :: l) (offset + 1) = ipv6At l offset := rfl

@[simp] theorem ipv6At_head (address : Ipv6Address) (l : Bytes) :
    ipv6At (ipv6Octets address ++ l) 0 = address := by
  have hlt : address.toNat < 256 ^ 16 := address.isLt
  rw [ipv6At, field_head (ipv6Octets_length address), ipv6Octets, beValue_beBytes hlt]
  simp

theorem ipv4At_take {l : Bytes} {offset n : Nat} (h : offset + 4 ≤ n) :
    ipv4At (l.take n) offset = ipv4At l offset := by
  rw [ipv4At, ipv4At, field_take h]

theorem ipv6At_take {l : Bytes} {offset n : Nat} (h : offset + 16 ≤ n) :
    ipv6At (l.take n) offset = ipv6At l offset := by
  rw [ipv6At, ipv6At, field_take h]

/-! ### Network layer -/

inductive ParseMode where
  | strict | compatibleIcmpQuote
deriving DecidableEq

inductive FragmentState where
  | unfragmented
  | first (moreFragments : Bool)
  | nonFirst (offsetUnits : UInt16) (moreFragments : Bool)
deriving DecidableEq

def FragmentState.isNonFirst : FragmentState → Bool
  | nonFirst _ _ => true
  | _ => false

def FragmentState.isFragmented : FragmentState → Bool
  | unfragmented => false
  | _ => true

/-- What the bytes behind the last traversed header are. -/
inductive UpperLayerState where
  | reachable (protocol : UInt8) (payload : Bytes) (fragment : FragmentState)
  | insufficient (protocol : UInt8) (payload : Bytes) (required : Nat) (fragment : FragmentState)
  | nonFirstFragment (protocol : UInt8) (payload : Bytes) (fragment : FragmentState)
  | esp (payload : Bytes) (fragment : FragmentState)
  | noNextHeader (trailing : Bytes)
  | unknown (protocol : UInt8) (payload : Bytes) (fragment : FragmentState)
deriving DecidableEq

/-- The shortest transport header, for the protocols that have one. -/
def transportMinimum (protocol : UInt8) : Option Nat :=
  if protocol = 6 then some 20
  else if protocol = 17 then some 8
  else if protocol = 1 ∨ protocol = 58 then some 4
  else none

def classifyUpperLayer (protocol : UInt8) (payload : Bytes) (fragment : FragmentState) (ipv6 : Bool) :
    UpperLayerState :=
  if fragment.isNonFirst then .nonFirstFragment protocol payload fragment
  else if protocol = 50 then .esp payload fragment
  else if protocol = 59 ∧ ipv6 then .noNextHeader payload
  else
    match transportMinimum protocol with
    | some required =>
      if payload.length < required then .insufficient protocol payload required fragment
      else .reachable protocol payload fragment
    | none => .unknown protocol payload fragment

end NodeNet.Protocols
