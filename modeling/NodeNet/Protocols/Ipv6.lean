import NodeNet.Protocols.Types

/-!
# IPv6 packets

Building with an extension sequence, and parsing with a bounded walk over the extension headers
(`parseIpv6Packet_eq_ok_iff`).
-/

namespace NodeNet.Protocols

def ipv6HeaderLength : Nat := 40
def maxFragmentOffset : UInt16 := 0x1fff

def hopByHop : UInt8 := 0
def routing : UInt8 := 43
def fragmentHeader : UInt8 := 44
def authentication : UInt8 := 51
def destinationOptions : UInt8 := 60

inductive Ipv6Extension where
  | hopByHopOptions (options : Bytes)
  | routing (routingType segmentsLeft : UInt8) (data : Bytes)
  | fragment (offsetUnits : UInt16) (moreFragments : Bool) (identification : UInt32)
  | destinationOptions (options : Bytes)
  | authentication (securityParametersIndex sequenceNumber : UInt32) (authenticationData : Bytes)
deriving DecidableEq

def isExtension (protocol : UInt8) : Bool :=
  protocol = hopByHop ∨ protocol = routing ∨ protocol = fragmentHeader ∨ protocol = authentication ∨
    protocol = destinationOptions

/-- Walks over the options; every option takes at least one byte of what is left. -/
def scanIpv6Options : Nat → Bytes → Bool
  | 0, options => options.isEmpty
  | _, [] => true
  | left + 1, kind :: rest =>
    if kind = 0 then scanIpv6Options left rest
    else
      match rest with
      | [] => false
      | length :: rest => if length.toNat > rest.length then false else
        scanIpv6Options left (rest.drop length.toNat)

def ipv6OptionsAreValid (options : Bytes) : Bool := scanIpv6Options options.length options

namespace Ipv6Extension

def protocol : Ipv6Extension → UInt8
  | hopByHopOptions _ => Protocols.hopByHop
  | routing _ _ _ => Protocols.routing
  | fragment _ _ _ => Protocols.fragmentHeader
  | destinationOptions _ => Protocols.destinationOptions
  | authentication _ _ _ => Protocols.authentication

def encodedLength : Ipv6Extension → Except BuildError Nat
  | hopByHopOptions options | destinationOptions options =>
    if options.length < 6 ∨ (options.length + 2) % 8 ≠ 0 ∨ !ipv6OptionsAreValid options then
      .error (.invalidValue .optionLength)
    else .ok (options.length + 2)
  | routing _ _ data =>
    let length := data.length + 4
    if length < 8 ∨ length % 8 ≠ 0 then .error (.invalidValue .extensionLength) else .ok length
  | fragment offsetUnits _ _ =>
    if offsetUnits > maxFragmentOffset then .error (.invalidValue .fragmentOffset) else .ok 8
  | authentication _ _ authenticationData =>
    let length := authenticationData.length + 12
    if authenticationData.length % 4 ≠ 0 ∨ length > 1028 then .error (.invalidValue .extensionLength)
    else .ok length

end Ipv6Extension

/-! ### Order of the extension headers -/

/-- Deviations that do not make a packet unusable. -/
structure Ipv6Conformance where
  hopByHopNotFirst : Bool
  duplicateHopByHop : Bool
  duplicateRouting : Bool
  duplicateFragment : Bool
  duplicateAuthentication : Bool
  tooManyDestinationOptions : Bool
  nonCanonicalOrder : Bool
  noNextHeaderData : Bool
deriving DecidableEq

def Ipv6Conformance.default : Ipv6Conformance := ⟨false, false, false, false, false, false, false, false⟩

def Ipv6Conformance.isCanonical (c : Ipv6Conformance) : Bool := c = .default

structure ExtensionOrder where
  issues : Ipv6Conformance
  stage : Nat
  hopByHop : Nat
  routing : Nat
  fragment : Nat
  authentication : Nat
  destinationOptions : Nat
deriving DecidableEq

def ExtensionOrder.default : ExtensionOrder := ⟨.default, 0, 0, 0, 0, 0, 0⟩

def ExtensionOrder.observe (o : ExtensionOrder) (protocol : UInt8) (index : Nat) : ExtensionOrder :=
  if protocol = Protocols.hopByHop then
    let hopByHop := o.hopByHop + 1
    { o with
      hopByHop
      issues := { o.issues with
        hopByHopNotFirst := o.issues.hopByHopNotFirst || decide (index ≠ 0)
        duplicateHopByHop := o.issues.duplicateHopByHop || decide (hopByHop > 1)
        nonCanonicalOrder := o.issues.nonCanonicalOrder || decide (o.stage ≠ 0) } }
  else if protocol = Protocols.destinationOptions then
    let destinationOptions := o.destinationOptions + 1
    { o with
      destinationOptions
      stage := if destinationOptions = 1 then if o.stage ≤ 1 then 1 else 5 else 5
      issues := { o.issues with
        tooManyDestinationOptions := o.issues.tooManyDestinationOptions || decide (destinationOptions > 2)
        nonCanonicalOrder := o.issues.nonCanonicalOrder || decide (destinationOptions ≠ 1 ∧ o.routing = 0) } }
  else if protocol = Protocols.routing then
    let routing := o.routing + 1
    { o with
      routing
      stage := max o.stage 2
      issues := { o.issues with
        duplicateRouting := o.issues.duplicateRouting || decide (routing > 1)
        nonCanonicalOrder := o.issues.nonCanonicalOrder || decide (o.stage > 1) } }
  else if protocol = fragmentHeader then
    let fragment := o.fragment + 1
    { o with
      fragment
      stage := max o.stage 3
      issues := { o.issues with
        duplicateFragment := o.issues.duplicateFragment || decide (fragment > 1)
        nonCanonicalOrder := o.issues.nonCanonicalOrder ||
          decide (o.destinationOptions > 0 ∧ o.routing = 0) || decide (o.stage > 2) } }
  else if protocol = Protocols.authentication then
    let authentication := o.authentication + 1
    { o with
      authentication
      stage := max o.stage 4
      issues := { o.issues with
        duplicateAuthentication := o.issues.duplicateAuthentication || decide (authentication > 1)
        nonCanonicalOrder := o.issues.nonCanonicalOrder ||
          decide (o.destinationOptions > 0 ∧ o.routing = 0) || decide (o.stage > 3) } }
  else o

/-! ### Building -/

structure Ipv6Packet where
  trafficClass : UInt8
  flowLabel : UInt32
  hopLimit : UInt8
  source : Ipv6Address
  destination : Ipv6Address
  extensions : List Ipv6Extension
  upperLayerProtocol : UInt8
  payload : Bytes
deriving DecidableEq

namespace Ipv6Packet

/-- What the walk over the extensions to be built has found: their order, their length, and the last fragment
header. -/
structure Survey where
  order : ExtensionOrder
  extensionBytes : Nat
  fragment : Option (Nat × UInt16 × Bool)
deriving DecidableEq

def surveyExtensions : Nat → List Ipv6Extension → Survey → Except BuildError Survey
  | _, [], s => .ok s
  | index, extension :: rest, s =>
    match extension.encodedLength with
    | .error error => .error error
    | .ok length =>
      let extensionBytes := s.extensionBytes + length
      if extensionBytes > maxIpv6ExtensionBytes then .error (.invalidValue .extensionLength)
      else
        surveyExtensions (index + 1) rest {
          order := s.order.observe extension.protocol index
          extensionBytes
          fragment := match extension with
            | .fragment offsetUnits moreFragments _ => some (index, offsetUnits, moreFragments)
            | _ => s.fragment }

/-- The encoded length of a list of extensions that were surveyed; an invalid one counts as nothing. -/
def encodedBytes (extensions : List Ipv6Extension) : Nat :=
  (extensions.map fun extension =>
    match extension.encodedLength with
    | .ok length => length
    | .error _ => 0).sum

variable (p : Ipv6Packet)

/-- A fragment with a successor ends at a multiple of eight bytes, and a later one has nothing but its payload. -/
def validateFragment (s : Survey) : Except BuildError Unit :=
  match s.fragment with
  | none => .ok ()
  | some (index, offset, more) =>
    if offset ≠ 0 ∧ index + 1 ≠ p.extensions.length then .error (.invalidValue .extensionOrder)
    else if more ∧
        (s.extensionBytes - encodedBytes (p.extensions.take (index + 1)) + p.payload.length) % 8 ≠ 0 then
      .error (.invalidValue .payloadLength)
    else .ok ()

def validate : Except BuildError Nat :=
  if p.flowLabel > 0x000fffff then .error (.invalidValue .flowLabel)
  else if p.extensions.length > maxIpv6ExtensionHeaderCount then .error (.invalidValue .extensionLength)
  else
    match surveyExtensions 0 p.extensions ⟨.default, 0, none⟩ with
    | .error error => .error error
    | .ok s =>
      if !s.order.issues.isCanonical then .error (.invalidValue .extensionOrder)
      else if p.upperLayerProtocol = 59 ∧ !p.payload.isEmpty then .error (.invalidValue .payloadLength)
      else
        match p.validateFragment s with
        | .error error => .error error
        | .ok () =>
          let payloadLength := s.extensionBytes + p.payload.length
          if payloadLength > 65535 then
            .error (.lengthExceedsLimit (ipv6HeaderLength + payloadLength) (ipv6HeaderLength + 65535) .ip)
          else .ok s.extensionBytes

def requiredLength : Except BuildError Nat :=
  match p.validate with
  | .error error => .error error
  | .ok extensionBytes => PacketLength.new (ipv6HeaderLength + (extensionBytes + p.payload.length)) .ip

def octetOrZero (n : Nat) : UInt8 := if n ≤ 255 then UInt8.ofNat n else 0

theorem octetOrZero_toNat {n : Nat} (h : n ≤ 255) : (octetOrZero n).toNat = n := by
  rw [octetOrZero, if_pos h, UInt8.toNat_ofNat']
  exact Nat.mod_eq_of_lt (by omega)

def encodeExtension (extension : Ipv6Extension) (next : UInt8) : Bytes :=
  let length := encodedBytes [extension]
  next :: match extension with
    | .hopByHopOptions options | .destinationOptions options => octetOrZero (length / 8 - 1) :: options
    | .routing routingType segmentsLeft data => octetOrZero (length / 8 - 1) :: routingType :: segmentsLeft :: data
    | .fragment offsetUnits moreFragments identification =>
      0 :: be16 ((offsetUnits <<< 3) ||| (if moreFragments then 1 else 0)) ++ be32 identification
    | .authentication securityParametersIndex sequenceNumber authenticationData =>
      octetOrZero (length / 4 - 2) :: 0 :: 0 :: be32 securityParametersIndex ++ be32 sequenceNumber ++
        authenticationData

/-- The extensions in order, each naming the one behind it. -/
def encodeExtensions (upperLayerProtocol : UInt8) : List Ipv6Extension → Bytes
  | [] => []
  | extension :: rest =>
    encodeExtension extension (match rest with
      | [] => upperLayerProtocol
      | following :: _ => following.protocol) ++ encodeExtensions upperLayerProtocol rest

def firstProtocol : UInt8 :=
  match p.extensions with
  | [] => p.upperLayerProtocol
  | extension :: _ => extension.protocol

def firstWord : UInt32 := ((6 : UInt32) <<< 28) ||| (p.trafficClass.toUInt32 <<< 20) ||| p.flowLabel

def encodeIpv6 : Bytes :=
  let payloadLength := encodedBytes p.extensions + p.payload.length
  be32 p.firstWord ++ (be16 (if payloadLength ≤ 65535 then UInt16.ofNat payloadLength else 65535) ++
    ([p.firstProtocol, p.hopLimit] ++ (ipv6Octets p.source ++ (ipv6Octets p.destination ++
      (encodeExtensions p.upperLayerProtocol p.extensions ++ p.payload)))))

def build : Except BuildError Bytes :=
  match p.requiredLength with
  | .error error => .error error
  | .ok _ => .ok p.encodeIpv6

end Ipv6Packet

/-! ### Parsing -/

structure ParsedIpv6Packet where
  trafficClass : UInt8
  flowLabel : UInt32
  declaredPayloadLength : Nat
  firstNextHeader : UInt8
  hopLimit : UInt8
  source : Ipv6Address
  destination : Ipv6Address
  extensions : List Ipv6Extension
  extensionBytes : Nat
  fragment : FragmentState
  upperLayer : UpperLayerState
  trailing : Bytes
  complete : Bool
  conformance : Ipv6Conformance
deriving DecidableEq

/-- The extension at the front of the input, the protocol it names, and its length. -/
def parseExtension (protocol : UInt8) (input : Bytes) : Except ParseError (Ipv6Extension × UInt8 × Nat) :=
  let require (required : Nat) (k : Except ParseError (Ipv6Extension × UInt8 × Nat)) :=
    if input.length < required then .error (.truncated .ipv6Extension required input.length) else k
  require (if protocol = fragmentHeader then 8 else 2) <|
    let following := u8At input 0
    if protocol = hopByHop ∨ protocol = destinationOptions then
      let length := ((u8At input 1).toNat + 1) * 8
      require length <|
        let options := (input.take length).drop 2
        if !ipv6OptionsAreValid options then .error (.malformed .ipv6Extension .optionLength)
        else if protocol = hopByHop then .ok (.hopByHopOptions options, following, length)
        else .ok (.destinationOptions options, following, length)
    else if protocol = routing then
      let length := ((u8At input 1).toNat + 1) * 8
      require (max length 8) <|
        .ok (.routing (u8At input 2) (u8At input 3) ((input.take length).drop 4), following, length)
    else if protocol = fragmentHeader then
      let field := u16At input 2
      if u8At input 1 ≠ 0 ∨ field &&& 0x0006 ≠ 0 then .error (.malformed .ipv6Extension .flags)
      else .ok (.fragment (field >>> 3) (field &&& 1 ≠ 0) (u32At input 4), following, 8)
    else
      let length := ((u8At input 1).toNat + 2) * 4
      if length < 12 then .error (.malformed .ipv6Extension .extensionLength)
      else
        require length <|
          if u8At input 2 ≠ 0 ∨ u8At input 3 ≠ 0 then .error (.malformed .ipv6Extension .flags)
          else .ok (.authentication (u32At input 4) (u32At input 8) ((input.take length).drop 12),
            following, length)

/-- The state of the walk over the extension headers. -/
structure ExtensionWalk where
  cursor : Nat
  nextHeader : UInt8
  extensions : List Ipv6Extension
  extensionBytes : Nat
  fragment : FragmentState
  fragmentPayloadStart : Option Nat
  order : ExtensionOrder
deriving DecidableEq

/-- Takes the extension headers one by one; `left` of the permitted number are left. -/
def walkExtensions (available : Bytes) : Nat → ExtensionWalk → Except ParseError ExtensionWalk
  | 0, w =>
    if isExtension w.nextHeader then
      .error (.limitExceeded .ipv6ExtensionHeaders (w.extensions.length + 1) maxIpv6ExtensionHeaderCount)
    else .ok w
  | left + 1, w =>
    if !isExtension w.nextHeader then .ok w
    else
      let order := w.order.observe w.nextHeader w.extensions.length
      match parseExtension w.nextHeader (available.drop w.cursor) with
      | .error error => .error error
      | .ok (parsed, following, encodedLength) =>
        let extensionBytes := w.extensionBytes + encodedLength
        if extensionBytes > maxIpv6ExtensionBytes then
          .error (.limitExceeded .ipv6ExtensionBytes extensionBytes maxIpv6ExtensionBytes)
        else
          let w' : ExtensionWalk :=
            { w with
              cursor := w.cursor + encodedLength
              nextHeader := following
              extensions := w.extensions ++ [parsed]
              extensionBytes, order }
          match parsed with
          | .fragment offsetUnits moreFragments _ =>
            -- nothing behind the header of a later fragment is traversed
            if offsetUnits = 0 then
              walkExtensions available left
                { w' with fragment := .first moreFragments, fragmentPayloadStart := some w'.cursor }
            else
              .ok { w' with
                fragment := .nonFirst offsetUnits moreFragments, fragmentPayloadStart := some w'.cursor }
          | _ => walkExtensions available left w'

def FragmentState.hasMore : FragmentState → Bool
  | .first moreFragments => moreFragments
  | .nonFirst _ moreFragments => moreFragments
  | .unfragmented => false

def parseIpv6Packet (input : Bytes) (mode : ParseMode) : Except ParseError ParsedIpv6Packet :=
  if input.length > maxIpPacketLength then .error (.limitExceeded .ipPacketBytes input.length maxIpPacketLength)
  else if input.length < ipv6HeaderLength then .error (.truncated .ipv6 ipv6HeaderLength input.length)
  else if u8At input 0 >>> 4 ≠ 6 then .error (.malformed .ipv6 .version)
  else
    let declaredPayloadLength := (u16At input 4).toNat
    let firstNextHeader := u8At input 6
    if declaredPayloadLength = 0 ∧ firstNextHeader = hopByHop then .error (.unsupported .ipv6 .payloadLength)
    else
      let declaredEnd := ipv6HeaderLength + declaredPayloadLength
      let complete : Bool := input.length ≥ declaredEnd
      if !complete ∧ mode = .strict then .error (.truncated .ipv6 declaredEnd input.length)
      else
        let available := input.take (min input.length declaredEnd)
        match walkExtensions available maxIpv6ExtensionHeaderCount
            ⟨ipv6HeaderLength, firstNextHeader, [], 0, .unfragmented, none, .default⟩ with
        | .error error => .error error
        | .ok w =>
          let payload := available.drop w.cursor
          let fragmentLength := match w.fragmentPayloadStart with
            | some start => declaredEnd - start
            | none => 0
          if w.fragment.hasMore ∧ fragmentLength % 8 ≠ 0 then .error (.malformed .ipv6 .payloadLength)
          else
            let upperLayer := classifyUpperLayer w.nextHeader payload w.fragment true
            let noNextHeaderData := match upperLayer with
              | .noNextHeader trailing => !trailing.isEmpty
              | _ => false
            let versionTrafficFlow := u32At input 0
            .ok {
              trafficClass := UInt8.ofNat ((versionTrafficFlow >>> 20) &&& 0xff).toNat
              flowLabel := versionTrafficFlow &&& 0x000fffff
              declaredPayloadLength, firstNextHeader
              hopLimit := u8At input 7
              source := ipv6At input 8
              destination := ipv6At input 24
              extensions := w.extensions
              extensionBytes := w.extensionBytes
              fragment := w.fragment
              upperLayer
              trailing := if complete then input.drop declaredEnd else []
              complete
              conformance := { w.order.issues with
                noNextHeaderData := w.order.issues.noNextHeaderData || noNextHeaderData } }

/-! ### One extension header -/

/-- The length of an extension header, as its second byte gives it. -/
def extensionLength (protocol lengthField : UInt8) : Nat :=
  if protocol = fragmentHeader then 8
  else if protocol = authentication then (lengthField.toNat + 2) * 4
  else (lengthField.toNat + 1) * 8

/-- What the bytes of one extension header mean. -/
def extensionOf (protocol : UInt8) (header : Bytes) : Option Ipv6Extension :=
  if protocol = hopByHop then
    if ipv6OptionsAreValid (header.drop 2) then some (.hopByHopOptions (header.drop 2)) else none
  else if protocol = destinationOptions then
    if ipv6OptionsAreValid (header.drop 2) then some (.destinationOptions (header.drop 2)) else none
  else if protocol = routing then some (.routing (u8At header 2) (u8At header 3) (header.drop 4))
  else if protocol = fragmentHeader then
    if u8At header 1 = 0 ∧ u16At header 2 &&& 0x0006 = 0 then
      some (.fragment (u16At header 2 >>> 3) (u16At header 2 &&& 1 ≠ 0) (u32At header 4))
    else none
  else if 12 ≤ header.length ∧ u8At header 2 = 0 ∧ u8At header 3 = 0 then
    some (.authentication (u32At header 4) (u32At header 8) (header.drop 12))
  else none

private theorem isExtension_iff {protocol : UInt8} : isExtension protocol = true ↔
    protocol = hopByHop ∨ protocol = routing ∨ protocol = fragmentHeader ∨ protocol = authentication ∨
      protocol = destinationOptions := decide_eq_true_iff

theorem eight_le_extensionLength (protocol lengthField : UInt8) : 8 ≤ extensionLength protocol lengthField := by
  unfold extensionLength
  split
  · exact Nat.le_refl 8
  · split <;> omega

/-- One extension header is read off its own bytes. -/
theorem parseExtension_eq_ok_iff {protocol : UInt8} {input : Bytes} {e : Ipv6Extension}
    {following : UInt8} {length : Nat}
    (hext : isExtension protocol = true) : parseExtension protocol input = .ok (e, following, length) ↔
      length = extensionLength protocol (u8At input 1) ∧ following = u8At input 0 ∧ length ≤ input.length ∧
        extensionOf protocol (input.take length) = some e := by
  have height := eight_le_extensionLength protocol (u8At input 1)
  rcases isExtension_iff.mp hext with rfl | rfl | rfl | rfl | rfl <;>
    simp +decide only [parseExtension, extensionLength, extensionOf, ite_error_eq_ok, reduceIte, Except.ok.injEq,
      Prod.mk.injEq] at height ⊢
  -- hop-by-hop and destination options are read alike
  pick_goal 5
  iterate 2
    constructor
    · rintro ⟨hshort, hlong, hvalid, rfl, rfl, rfl⟩
      exact ⟨rfl, rfl, Nat.le_of_not_lt hlong, if_pos (by simpa using hvalid)⟩
    · rintro ⟨rfl, rfl, hlong, h⟩
      rw [Option.ite_none_right_eq_some] at h
      exact ⟨by omega, by omega, by simpa using h.1, Option.some.inj h.2, rfl, rfl⟩
  · constructor
    · rintro ⟨hshort, hlong, rfl, rfl, rfl⟩
      have hlength : ((u8At input 1).toNat + 1) * 8 ≤ input.length := by omega
      refine ⟨rfl, rfl, hlength, ?_⟩
      simp (disch := omega) only [u8At_take]
    rintro ⟨rfl, rfl, hlong, h⟩
    simp (disch := omega) only [u8At_take] at h
    exact ⟨by omega, by omega, Option.some.inj h, rfl, rfl⟩
  · constructor
    · rintro ⟨hshort, hflags, rfl, rfl, rfl⟩
      refine ⟨rfl, rfl, Nat.le_of_not_lt hshort, ?_⟩
      rw [u8At_take (by omega), u16At_take (by omega), u32At_take (by omega)]
      simp only [not_or, ne_eq, not_not] at hflags
      rw [if_pos hflags]
    rintro ⟨rfl, rfl, hlong, h⟩
    rw [u8At_take (by omega), u16At_take (by omega), u32At_take (by omega), Option.ite_none_right_eq_some] at h
    exact ⟨by omega, by simpa using h.1, Option.some.inj h.2, rfl, rfl⟩
  · constructor
    · rintro ⟨hshort, htwelve, hlong, hflags, rfl, rfl, rfl⟩
      have hlength : ((u8At input 1).toNat + 2) * 4 ≤ input.length := by omega
      refine ⟨rfl, rfl, hlength, ?_⟩
      simp (disch := omega) only [u8At_take, u32At_take, List.length_take, Nat.min_eq_left]
      simp only [not_or, ne_eq, not_not] at hflags
      rw [if_pos ⟨by omega, hflags⟩]
    rintro ⟨rfl, rfl, hlong, h⟩
    rw [Option.ite_none_right_eq_some, List.length_take, Nat.min_eq_left hlong] at h
    obtain ⟨⟨htwelve, hflags⟩, h⟩ := h
    simp (disch := omega) only [u8At_take, u32At_take] at hflags h
    exact ⟨by omega, by omega, by omega, by simpa using hflags, Option.some.inj h, rfl, rfl⟩

/-! ### One step of the walk -/

def Ipv6Extension.isLaterFragment : Ipv6Extension → Bool
  | fragment offsetUnits _ _ => offsetUnits ≠ 0
  | _ => false

/-- The walk with one more extension behind it. -/
def ExtensionWalk.push (w : ExtensionWalk) (parsed : Ipv6Extension) (following : UInt8) (length : Nat) :
    ExtensionWalk :=
  let w' : ExtensionWalk :=
    { w with
      cursor := w.cursor + length
      nextHeader := following
      extensions := w.extensions ++ [parsed]
      extensionBytes := w.extensionBytes + length
      order := w.order.observe w.nextHeader w.extensions.length }
  match parsed with
  | .fragment offsetUnits moreFragments _ =>
    { w' with
      fragment := if offsetUnits = 0 then .first moreFragments else .nonFirst offsetUnits moreFragments
      fragmentPayloadStart := some (w.cursor + length) }
  | _ => w'

section Push

variable (w : ExtensionWalk) (parsed : Ipv6Extension) (following : UInt8) (length : Nat)

@[simp] theorem ExtensionWalk.push_cursor : (w.push parsed following length).cursor = w.cursor + length := by
  cases parsed <;> rfl

@[simp] theorem ExtensionWalk.push_nextHeader : (w.push parsed following length).nextHeader = following := by
  cases parsed <;> rfl

@[simp] theorem ExtensionWalk.push_extensions :
    (w.push parsed following length).extensions = w.extensions ++ [parsed] := by
  cases parsed <;> rfl

@[simp] theorem ExtensionWalk.push_extensionBytes :
    (w.push parsed following length).extensionBytes = w.extensionBytes + length := by
  cases parsed <;> rfl

@[simp] theorem ExtensionWalk.push_order :
    (w.push parsed following length).order = w.order.observe w.nextHeader w.extensions.length := by
  cases parsed <;> rfl

end Push

/-- The walk takes one extension and goes on, unless the extension is the header of a later fragment. -/
theorem walkExtensions_succ (available : Bytes) (left : Nat) (w : ExtensionWalk)
    (hext : isExtension w.nextHeader = true) : walkExtensions available (left + 1) w =
      match parseExtension w.nextHeader (available.drop w.cursor) with
      | .error error => .error error
      | .ok (parsed, following, length) =>
        if w.extensionBytes + length > maxIpv6ExtensionBytes then
          .error (.limitExceeded .ipv6ExtensionBytes (w.extensionBytes + length) maxIpv6ExtensionBytes)
        else if parsed.isLaterFragment then .ok (w.push parsed following length)
        else walkExtensions available left (w.push parsed following length) := by
  rw [walkExtensions, hext]
  cases parseExtension w.nextHeader (available.drop w.cursor) with
  | error error => rfl
  | ok result =>
    obtain ⟨parsed, following, length⟩ := result
    by_cases hbytes : w.extensionBytes + length > maxIpv6ExtensionBytes
    · simp [hbytes]
    simp only [if_neg hbytes]
    cases parsed with
    | fragment offsetUnits moreFragments identification =>
      by_cases hoffset : offsetUnits = 0 <;> simp [Ipv6Extension.isLaterFragment, ExtensionWalk.push, hoffset]
    | _ => rfl

theorem walkExtensions_of_not_extension {available : Bytes} {w : ExtensionWalk} (left : Nat)
    (h : isExtension w.nextHeader = false) : walkExtensions available left w = .ok w := by
  cases left with
  | zero | succ left => rw [walkExtensions, h]; rfl

/-- What a walk that took one more extension has passed: the step, and the rest of the walk. -/
theorem walkExtensions_succ_eq_ok {available : Bytes} {left : Nat} {w w' : ExtensionWalk}
    (hext : isExtension w.nextHeader = true) (h : walkExtensions available (left + 1) w = .ok w') :
    ∃ parsed following length,
      parseExtension w.nextHeader (available.drop w.cursor) = .ok (parsed, following, length) ∧
      w.extensionBytes + length ≤ maxIpv6ExtensionBytes ∧
      ((parsed.isLaterFragment = true ∧ w' = w.push parsed following length) ∨
        (parsed.isLaterFragment = false ∧ walkExtensions available left (w.push parsed following length) =
          .ok w')) := by
  rw [walkExtensions_succ _ _ _ hext] at h
  split at h
  · cases h
  next parsed following length hparse =>
  obtain ⟨hbytes, h⟩ := ite_error_eq_ok.mp h
  refine ⟨parsed, following, length, hparse, Nat.le_of_not_lt hbytes, ?_⟩
  split at h
  · next hlater => exact .inl ⟨hlater, (Except.ok.inj h).symm⟩
  · next hlater => exact .inr ⟨Bool.eq_false_of_not_eq_true hlater, h⟩

/-- A walk has come from `w` to `w'`: it has added extensions within their limit and moved on by their bytes, up to
a header that is no extension or to that of a later fragment. -/
structure ExtensionWalk.Reaches (w w' : ExtensionWalk) : Prop where
  extensions : w.extensions.length ≤ w'.extensions.length
  more : isExtension w.nextHeader = true → w.extensions.length < w'.extensions.length
  bytes : w.extensionBytes ≤ w'.extensionBytes
  cursor : w'.cursor + w.extensionBytes = w.cursor + w'.extensionBytes
  limit : w.extensionBytes ≤ maxIpv6ExtensionBytes → w'.extensionBytes ≤ maxIpv6ExtensionBytes
  ended : isExtension w'.nextHeader = false ∨ w'.fragment.isNonFirst = true

private theorem ExtensionWalk.Reaches.refl {w : ExtensionWalk} (h : isExtension w.nextHeader = false) :
    w.Reaches w :=
  ⟨Nat.le_refl _, fun hext => (by rw [h] at hext; cases hext), Nat.le_refl _, rfl, id, .inl h⟩

theorem walkExtensions_reaches {available : Bytes} {left : Nat} {w w' : ExtensionWalk}
    (h : walkExtensions available left w = .ok w') : w.Reaches w' := by
  induction left generalizing w with
  | zero =>
    rw [walkExtensions] at h
    obtain ⟨hext, h⟩ := ite_error_eq_ok.mp h
    cases h
    exact .refl (Bool.eq_false_of_not_eq_true hext)
  | succ left ih =>
    cases hext : isExtension w.nextHeader with
    | false =>
      rw [walkExtensions_of_not_extension _ hext] at h
      cases h
      exact .refl hext
    | true =>
      obtain ⟨parsed, following, length, -, hbytes, ⟨hlater, rfl⟩ | ⟨-, hrest⟩⟩ := walkExtensions_succ_eq_ok hext h
      · refine ⟨by simp, by simp, by simp, by simp; omega, by simp [hbytes], .inr ?_⟩
        cases parsed with
        | fragment offsetUnits moreFragments identification =>
          have hoffset : offsetUnits ≠ 0 := of_decide_eq_true hlater
          simp [ExtensionWalk.push, hoffset, FragmentState.isNonFirst]
        | _ => cases hlater
      obtain ⟨hadded, -, hmore, hcursor, hlimit, hended⟩ := ih hrest
      simp only [ExtensionWalk.push_extensionBytes, ExtensionWalk.push_cursor, ExtensionWalk.push_extensions,
        List.length_append, List.length_singleton] at hadded hmore hcursor hlimit
      exact ⟨Nat.le_of_succ_le hadded, fun _ => hadded, by omega, by omega, fun _ => hlimit hbytes, hended⟩

/-! ### What the parser takes -/

def ipv6DeclaredEnd (input : Bytes) : Nat := ipv6HeaderLength + (u16At input 4).toNat

/-- The bytes that belong to the packet and are there. -/
def ipv6Available (input : Bytes) : Bytes := input.take (min input.length (ipv6DeclaredEnd input))

def ExtensionWalk.initial (firstNextHeader : UInt8) : ExtensionWalk :=
  ⟨ipv6HeaderLength, firstNextHeader, [], 0, .unfragmented, none, .default⟩

/-- The bytes of the fragment that follow its header. -/
def ExtensionWalk.fragmentLength (w : ExtensionWalk) (declaredEnd : Nat) : Nat :=
  match w.fragmentPayloadStart with
  | some start => declaredEnd - start
  | none => 0

/-- The fields of a packet, read off its bytes and the walk over its extensions. -/
def ipv6Fields (input : Bytes) (w : ExtensionWalk) : ParsedIpv6Packet :=
  let complete : Bool := input.length ≥ ipv6DeclaredEnd input
  let upperLayer := classifyUpperLayer w.nextHeader ((ipv6Available input).drop w.cursor) w.fragment true
  { trafficClass := UInt8.ofNat ((u32At input 0 >>> 20) &&& 0xff).toNat
    flowLabel := u32At input 0 &&& 0x000fffff
    declaredPayloadLength := (u16At input 4).toNat
    firstNextHeader := u8At input 6
    hopLimit := u8At input 7
    source := ipv6At input 8
    destination := ipv6At input 24
    extensions := w.extensions
    extensionBytes := w.extensionBytes
    fragment := w.fragment
    upperLayer
    trailing := if complete then input.drop (ipv6DeclaredEnd input) else []
    complete
    conformance := { w.order.issues with
      noNextHeaderData := w.order.issues.noNextHeaderData ||
        match upperLayer with
        | .noNextHeader trailing => !trailing.isEmpty
        | _ => false } }

/-- What the parser asks of a packet. -/
structure Ipv6Accepts (input : Bytes) (mode : ParseMode) (w : ExtensionWalk) : Prop where
  limit : input.length ≤ maxIpPacketLength
  minimum : ipv6HeaderLength ≤ input.length
  version : u8At input 0 >>> 4 = 6
  jumbogram : ¬ ((u16At input 4).toNat = 0 ∧ u8At input 6 = hopByHop)
  complete : mode = .strict → ipv6DeclaredEnd input ≤ input.length
  walk : walkExtensions (ipv6Available input) maxIpv6ExtensionHeaderCount (.initial (u8At input 6)) = .ok w
  fragments : w.fragment.hasMore = true → w.fragmentLength (ipv6DeclaredEnd input) % 8 = 0

theorem parseIpv6Packet_eq_ok_iff {input : Bytes} {mode : ParseMode} {r : ParsedIpv6Packet} :
    parseIpv6Packet input mode = .ok r ↔ ∃ w, Ipv6Accepts input mode w ∧ r = ipv6Fields input w := by
  unfold parseIpv6Packet
  simp only [ite_error_eq_ok, not_and, not_not, Nat.not_lt, Bool.not_eq_true', decide_eq_false_iff_not]
  constructor
  · rintro ⟨hlimit, hshort, hversion, hjumbogram, hcomplete, hrest⟩
    split at hrest
    · cases hrest
    next w hwalk =>
    obtain ⟨hfragments, hr⟩ := ite_error_eq_ok.mp hrest
    exact ⟨w, ⟨hlimit, hshort, hversion, not_and.2 hjumbogram, fun hmode => not_not.1 fun hcut =>
      hcomplete hcut hmode,
      hwalk, fun hmore => not_not.1 fun hrest => hfragments ⟨hmore, hrest⟩⟩, (Except.ok.inj hr).symm⟩
  rintro ⟨w, h, rfl⟩
  refine ⟨h.limit, h.minimum, h.version, not_and.1 h.jumbogram, fun hcut hmode => hcut (h.complete hmode), ?_⟩
  have hwalk := h.walk
  unfold ipv6Available ipv6DeclaredEnd ExtensionWalk.initial at hwalk
  rw [hwalk]
  exact ite_error_eq_ok.mpr ⟨fun hboth => hboth.2 (h.fragments hboth.1), rfl⟩

/-! ### The recommended order -/

inductive ExtensionKind where
  | hopByHop | destinationOptions | routing | fragment | authentication
deriving DecidableEq

namespace ExtensionKind

def protocol : ExtensionKind → UInt8
  | hopByHop => Protocols.hopByHop
  | destinationOptions => Protocols.destinationOptions
  | routing => Protocols.routing
  | fragment => fragmentHeader
  | authentication => Protocols.authentication

/-- The order that the headers of a packet were found in. -/
def order (kinds : List ExtensionKind) : ExtensionOrder :=
  kinds.zipIdx.foldl (fun o entry => o.observe entry.1.protocol entry.2) .default

/-- `HopByHop? (DestinationOptions? Routing)? Fragment? Authentication?` -/
def recommendedFront : List (List ExtensionKind) := do
  let first ← [[], [hopByHop]]
  let route ← [[], [routing], [destinationOptions, routing]]
  let middle ← [[], [fragment]]
  let last ← [[], [authentication]]
  pure (first ++ route ++ middle ++ last)

/-- The recommended order ends with destination options or without. -/
def recommended : List (List ExtensionKind) := recommendedFront ++ recommendedFront.map (· ++ [destinationOptions])

/-- Two headers with destination options in a row, behind the only routing header. -/
def doubled : List (List ExtensionKind) :=
  (recommendedFront.filter fun kinds => routing ∈ kinds ∧ destinationOptions ∉ kinds).map
    (· ++ [destinationOptions, destinationOptions])

/-- An issue that was noted stays noted. -/
private theorem issues_of_append {kinds : List ExtensionKind} {kind : ExtensionKind}
    (h : (order (kinds ++ [kind])).issues = .default) : (order kinds).issues = .default := by
  rw [order, List.zipIdx_append, List.foldl_append] at h
  change ((order kinds).observe kind.protocol _).issues = _ at h
  generalize order kinds = o at h ⊢
  obtain ⟨⟨⟩⟩ := o
  cases kind <;> simp +decide [ExtensionOrder.observe, Ipv6Conformance.default] at h ⊢ <;> simp [h]

private theorem issues_iff (kinds : List ExtensionKind) :
    (order kinds).issues = .default ↔ kinds ∈ recommended ++ doubled := by
  constructor
  · induction kinds using List.reverseRecOn with
    | nil => decide
    | append_singleton kinds kind ih =>
      intro h
      have hnext : ∀ kinds ∈ recommended ++ doubled,
          ∀ kind ∈ [hopByHop, destinationOptions, routing, fragment, authentication],
          (order (kinds ++ [kind])).issues = .default → kinds ++ [kind] ∈ recommended ++
            doubled := by decide +kernel
      exact hnext kinds (ih (issues_of_append h)) kind (by cases kind <;> decide) h
  · have hall : ∀ kinds ∈ recommended ++ doubled, (order kinds).issues = .default := by decide +kernel
    exact hall kinds

theorem recommended_order_iff (kinds : List ExtensionKind) :
    ((order kinds).issues = .default ↔ kinds ∈ recommended) ↔ kinds ∉ doubled := by
  have hdisjoint : ∀ kinds ∈ doubled, kinds ∉ recommended := by decide +kernel
  have hkinds := hdisjoint kinds
  rw [issues_iff, List.mem_append]
  tauto

theorem doubled_options_unnoticed :
    (order [routing, destinationOptions, destinationOptions]).issues = .default ∧
      [routing, destinationOptions, destinationOptions] ∉ recommended := by decide +kernel

end ExtensionKind

end NodeNet.Protocols
