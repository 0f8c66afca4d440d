import NodeNet.Protocols.Passive

/-!
# Rows of a capture session

A captured frame becomes a row with the fields of its classification and, if the kernel has judged the checksum,
one more. A row with more than 32 fields is refused, and the capture session fails with it.

How many fields a frame gives can be told from the options and records that it holds (`passiveFieldCount`).  The
fields of a router advertisement are cut before those of its envelope are put in front, and those of DHCP and
neighbor discovery messages are not cut at all, so that rows are refused (`decodeRow_accepted_iff`).
-/

namespace NodeNet.Platform

open List Protocols Protocols.Passive
open Discovery (DiscoveryDnsRecord parseDiscoveryDnsMessage)

/-! ### Rows -/

def fieldText : FieldName → String
  | .senderMac => "senderMac"
  | .senderIpv4 => "senderIpv4"
  | .targetMac => "targetMac"
  | .targetIpv4 => "targetIpv4"
  | .sourceIpv4 => "sourceIpv4"
  | .destinationIpv4 => "destinationIpv4"
  | .sourceIpv6 => "sourceIpv6"
  | .destinationIpv6 => "destinationIpv6"
  | .hopLimit => "hopLimit"
  | .sourcePort => "sourcePort"
  | .destinationPort => "destinationPort"
  | .dhcpClientAddress => "dhcpClientAddress"
  | .dhcpYourAddress => "dhcpYourAddress"
  | .dhcpServerAddress => "dhcpServerAddress"
  | .dhcpClientHardwareAddress => "dhcpClientHardwareAddress"
  | .dhcpDnsServers => "dhcpDnsServers"
  | .dhcpHostName => "dhcpHostName"
  | .dhcpDomainName => "dhcpDomainName"
  | .dhcpRequestedAddress => "dhcpRequestedAddress"
  | .dhcpLeaseTime => "dhcpLeaseTime"
  | .dhcpMessageType => "dhcpMessageType"
  | .dhcpServerIdentifier => "dhcpServerIdentifier"
  | .dhcpParameterRequestList => "dhcpParameterRequestList"
  | .dhcpVendorClass => "dhcpVendorClass"
  | .dhcpClientIdentifier => "dhcpClientIdentifier"
  | .dhcpDomainSearch => "dhcpDomainSearch"
  | .dhcpv6MessageType => "dhcpv6MessageType"
  | .dhcpv6RelayHopCount => "dhcpv6RelayHopCount"
  | .dhcpv6RelayLinkAddress => "dhcpv6RelayLinkAddress"
  | .dhcpv6RelayPeerAddress => "dhcpv6RelayPeerAddress"
  | .dhcpv6TransactionId => "dhcpv6TransactionId"
  | .dhcpv6ClientId => "dhcpv6ClientId"
  | .dhcpv6ServerId => "dhcpv6ServerId"
  | .dhcpv6IdentityAssociation => "dhcpv6IdentityAssociation"
  | .dhcpv6DnsServers => "dhcpv6DnsServers"
  | .dhcpv6DomainSearch => "dhcpv6DomainSearch"
  | .dhcpv6ClientFqdn => "dhcpv6ClientFqdn"
  | .dnsTransactionId => "dnsTransactionId"
  | .dnsRecordName => "dnsRecordName"
  | .dnsRecordType => "dnsRecordType"
  | .dnsTtl => "dnsTtl"
  | .dnsCacheFlush => "dnsCacheFlush"
  | .dnsPtr => "dnsPtr"
  | .dnsSrvPort => "dnsSrvPort"
  | .dnsSrvTarget => "dnsSrvTarget"
  | .dnsIpv4 => "dnsIpv4"
  | .dnsIpv6 => "dnsIpv6"
  | .dnsTxtKey => "dnsTxtKey"
  | .dnsTxtValue => "dnsTxtValue"
  | .ssdpStartLine => "ssdpStartLine"
  | .ssdpCacheControl => "ssdpCacheControl"
  | .ssdpMaxAge => "ssdpMaxAge"
  | .ssdpLocation => "ssdpLocation"
  | .ssdpUsn => "ssdpUsn"
  | .ssdpTarget => "ssdpTarget"
  | .ssdpNts => "ssdpNts"
  | .ssdpServer => "ssdpServer"
  | .wsMessageId => "wsMessageId"
  | .wsRelatesTo => "wsRelatesTo"
  | .wsEndpointAddress => "wsEndpointAddress"
  | .wsTypes => "wsTypes"
  | .wsScopes => "wsScopes"
  | .wsXAddrs => "wsXAddrs"
  | .wsMetadataVersion => "wsMetadataVersion"
  | .icmpv6Type => "icmpv6Type"
  | .ndpTargetAddress => "ndpTargetAddress"
  | .ndpAdvertisementFlags => "ndpAdvertisementFlags"
  | .ndpRedirectTarget => "ndpRedirectTarget"
  | .ndpRedirectDestination => "ndpRedirectDestination"
  | .ndpSourceMac => "ndpSourceMac"
  | .ndpTargetMac => "ndpTargetMac"
  | .currentHopLimit => "currentHopLimit"
  | .routerFlags => "routerFlags"
  | .routerPreference => "routerPreference"
  | .routerLifetime => "routerLifetime"
  | .reachableTime => "reachableTime"
  | .retransTimer => "retransTimer"
  | .routerSourceMac => "routerSourceMac"
  | .prefixLength => "prefixLength"
  | .prefixFlags => "prefixFlags"
  | .prefixValidLifetime => "prefixValidLifetime"
  | .prefixPreferredLifetime => "prefixPreferredLifetime"
  | .prefixAddress => "prefix"
  | .mtu => "mtu"
  | .routePrefixLength => "routePrefixLength"
  | .routePreference => "routePreference"
  | .routeLifetime => "routeLifetime"
  | .routePrefix => "routePrefix"
  | .rdnssLifetime => "rdnssLifetime"
  | .rdnssServers => "rdnssServers"
  | .dnsslLifetime => "dnsslLifetime"
  | .dnsslDomains => "dnsslDomains"
  | .captivePortal => "captivePortal"
  | .unknownRaOptionType => "unknownRaOptionType"
  | .unknownRaOptionLength => "unknownRaOptionLength"
  | .chassisIdSubtype => "chassisIdSubtype"
  | .chassisId => "chassisId"
  | .portIdSubtype => "portIdSubtype"
  | .portId => "portId"
  | .ttl => "ttl"
  | .portDescription => "portDescription"
  | .systemName => "systemName"
  | .systemDescription => "systemDescription"
  | .systemCapabilitiesAvailable => "systemCapabilitiesAvailable"
  | .systemCapabilitiesEnabled => "systemCapabilitiesEnabled"
  | .managementAddressSubtype => "managementAddressSubtype"
  | .managementAddress => "managementAddress"
  | .lldpOrganizationSubtype => "lldpOrganizationSubtype"
  | .portVlanId => "portVlanId"

private theorem fieldText_length (name : FieldName) : 1 ≤ (fieldText name).length ∧
    (fieldText name).length ≤ 64 := by
  cases name <;> decide +kernel

structure ObservationMetadataField where
  key : String
  value : Bytes
deriving DecidableEq

/-- The parts of a row that are checked. -/
structure ObservationRow where
  sourceMac : Bytes
  destinationMac : Bytes
  etherType : UInt16
  vlanIds : List UInt16
  metadata : List ObservationMetadataField
deriving DecidableEq

/-- What the kernel says about the checksum of a packet. -/
inductive ChecksumStatus where
  | unknown | valid | notReady
deriving DecidableEq

/-- The bits of the auxiliary data; a checksum that is valid is not asked whether it is ready. -/
def ChecksumStatus.fromBits (bits : UInt32) : ChecksumStatus :=
  if bits &&& 0x80 ≠ 0 then .valid else if bits &&& 0x08 ≠ 0 then .notReady else .unknown

def ChecksumStatus.fields : ChecksumStatus → List ObservationMetadataField
  | unknown => []
  | valid => [⟨"transportChecksumStatus", ascii "kernelValidated"⟩]
  | notReady => [⟨"transportChecksumStatus", ascii "offloadPending"⟩]

/-- The type and the identifiers behind at most the given number of VLAN tags that are there. -/
def rowVlanTags (data : Bytes) : Nat → UInt16 → Nat → List UInt16 → UInt16 × List UInt16
  | 0, etherType, _, vlanIds => (etherType, vlanIds)
  | left + 1, etherType, offset, vlanIds =>
    if ¬ (etherType = 0x8100 ∨ etherType = 0x88a8) ∨ data.length < offset + 4 then (etherType, vlanIds)
    else rowVlanTags data left (u16At data (offset + 2)) (offset + 4) (vlanIds ++ [u16At data offset &&& 0x0fff])

section Readers

variable (readers : PassiveReaders)

def decodeRow (data : Bytes) (originalLength : Nat) (checksumStatus : UInt32) : ObservationRow :=
  let status := ChecksumStatus.fromBits checksumStatus
  let tags := rowVlanTags data 2 (if data.length < 14 then 0 else u16At data 12) 14 []
  { destinationMac := if data.length < 6 then [] else field data 0 6
    sourceMac := if data.length < 12 then [] else field data 6 6
    etherType := tags.1
    vlanIds := tags.2
    metadata :=
      match decodePassiveFrameWithChecksumPolicy readers data originalLength (status = .unknown) with
      | .error _ => []
      | .ok metadata => metadata.fields.map (fun f => ⟨fieldText f.name, f.value⟩) ++ status.fields }

end Readers

/-- Whether a row is handed on; otherwise the batch is refused. -/
def publicObservationRowAccepts (row : ObservationRow) : Bool :=
  row.metadata.length ≤ 32 ∧ row.sourceMac.length ≤ 6 ∧ row.destinationMac.length ≤ 6 ∧ row.vlanIds.length ≤ 2 ∧
    row.vlanIds.all (fun identifier => identifier.toNat ≤ 4095) ∧
    ∀ f ∈ row.metadata, 1 ≤ f.key.length ∧ f.key.length ≤ 64 ∧ f.value.length ≤ 512

/-! ### How many fields a frame gives -/

/-- The options of a message that are read, at most `room` of them. -/
def dhcpv4Items : Nat → Nat → Bytes → List (UInt8 × Bytes)
  | 0, _, _ => []
  | _ + 1, _, [] => []
  | left + 1, room, code :: rest =>
    if room = 0 then []
    else if code = 0 then dhcpv4Items left room rest
    else if code = 255 then []
    else
      match rest with
      | [] => []
      | length :: rest =>
        if rest.length < length.toNat then []
        else (code, rest.take length.toNat) :: dhcpv4Items left (room - 1) (rest.drop length.toNat)

/-- The options of which a field is kept. -/
def dhcpv4IsKept (item : UInt8 × Bytes) : Bool :=
  item.1 = 6 ∨ item.1 = 12 ∨ item.1 = 15 ∨ item.1 = 50 ∨ item.1 = 51 ∨
    (item.1 = 53 ∧ item.2.length = 1 ∧ 1 ≤ u8At item.2 0 ∧ u8At item.2 0 ≤ 8) ∨
    item.1 = 54 ∨ item.1 = 55 ∨ item.1 = 60 ∨ item.1 = 61 ∨ item.1 = 119

variable (payload : Bytes)

def dhcpv4FieldCount : Nat :=
  if payload.length < 240 ∨ field payload 236 4 ≠ [99, 130, 83, 99] then 0
  else 4 + (dhcpv4Items payload.length 32 (payload.drop 240)).countP dhcpv4IsKept

def dhcpv6Items : Nat → Bytes → List UInt16
  | 0, _ => []
  | left + 1, rest =>
    if rest.length < 4 then []
    else
      let length := (u16At rest 2).toNat
      let value := rest.drop 4
      if value.length < length then [] else u16At rest 0 :: dhcpv6Items left (value.drop length)

def dhcpv6IsKept (code : UInt16) : Bool := code = 1 ∨ code = 2 ∨ code = 3 ∨ code = 23 ∨ code = 24 ∨ code = 39

def dhcpv6FieldCount : Nat :=
  let messageType := u8At payload 0
  if payload = [] ∨ ¬ (1 ≤ messageType ∧ messageType ≤ 13) then 0
  else if messageType = 12 ∨ messageType = 13 then
    if payload.length < 34 then 1 else 4 + (dhcpv6Items 32 (payload.drop 34)).countP dhcpv6IsKept
  else if payload.length < 4 then 1
  else 2 + (dhcpv6Items 32 (payload.drop 4)).countP dhcpv6IsKept

def dnsRecordFieldCount (record : DiscoveryDnsRecord) : Nat :=
  4 + match record.data with
    | .ptr _ | .a _ | .aaaa _ => 1
    | .srv .. => 2
    | .txt entries => 2 * min 8 entries.length
    | .unknown => 0

/-- The fields in front count, as does the cut behind. -/
def dnsFieldCount (before : Nat) : Nat :=
  match parseDiscoveryDnsMessage payload with
  | .error _ => before
  | .ok message =>
    if !message.isResponse ∨ message.truncated ∨ message.records.isEmpty then before
    else min 32 (before + 1 + ((message.records.take (31 - before)).map dnsRecordFieldCount).sum)

def ssdpHeaders : List String := ["location", "usn", "nt", "st", "nts", "server"]

/-- The options of a neighbor discovery message, each as its kind and its length. -/
def ndpItems (options : Bytes) : Nat → Nat → List (UInt8 × Nat)
  | 0, _ => []
  | left + 1, offset =>
    if ¬ offset < options.length then []
    else
      let length := (u8At options (offset + 1)).toNat * 8
      (u8At options offset, length) :: ndpItems options left (offset + length)

/-- The link layer address of a source or of a target is a field. -/
def linkOptionFieldCount (option : UInt8 × Nat) : Nat :=
  if (option.1 = 1 ∧ option.2 = 8) ∨ (option.1 = 2 ∧ option.2 = 8) then 1 else 0

/-- An option that is not known gives its type and its length. -/
def raOptionFieldCount (option : UInt8 × Nat) : Nat :=
  if option.1 = 1 ∧ option.2 = 8 then 1
  else if option.1 = 3 ∧ option.2 = 32 then 5
  else if option.1 = 5 ∧ option.2 = 8 then 1
  else if option.1 = 24 ∧ 8 ≤ option.2 ∧ option.2 ≤ 24 then 4
  else if option.1 = 25 ∧ 24 ≤ option.2 ∧ option.2 ≤ maxPassiveFieldBytes then 2
  else if option.1 = 31 ∧ 16 ≤ option.2 ∧ option.2 ≤ maxPassiveFieldBytes then 2
  else if option.1 = 37 ∧ 8 ≤ option.2 ∧ option.2 ≤ maxPassiveFieldBytes then 1
  else 2

/-- The type is a field; those of a router advertisement are cut by themselves. -/
def icmpv6FieldCount : Nat :=
  let kind := u8At payload 0
  let links (offset : Nat) := ((ndpItems (payload.drop offset) 64 0).map linkOptionFieldCount).sum
  if kind = 134 then 1 + min 32 (6 + ((ndpItems payload 64 16).map raOptionFieldCount).sum)
  else if kind = 135 then 2 + links 24
  else if kind = 136 then 3 + links 24
  else if kind = 137 then 3 + links 40
  else 1

/-- The TLVs of an LLDP message, each as its kind and its value. -/
def lldpItems (payload : Bytes) : Nat → Nat → List (UInt8 × Bytes)
  | 0, _ => []
  | left + 1, offset =>
    let combined := u16At payload offset
    let kind := UInt8.ofNat (combined >>> 9).toNat
    let length := (combined &&& 0x01ff).toNat
    (kind, field payload (offset + 2) length) :: if kind = 0 then [] else
      lldpItems payload left (offset + 2 + length)

/-- A value with a type of its own gives two fields. -/
def lldpTlvFieldCount (tlv : UInt8 × Bytes) : Nat :=
  let kind := tlv.1
  let value := tlv.2
  if value.length > 512 then 0
  else if (kind = 1 ∧ !value.isEmpty) ∨ (kind = 2 ∧ !value.isEmpty) then 2
  else if kind = 3 ∨ kind = 4 ∨ kind = 5 ∨ kind = 6 then 1
  else if kind = 7 ∧ value.length = 4 then 2
  else if kind = 8 ∧ value.length ≥ 2 then
    if (u8At value 0).toNat ≥ 1 ∧ (u8At value 0).toNat < value.length then 2 else 0
  else if kind = 127 ∧ value.length ≥ 6 ∧ value.take 3 = [0x00, 0x80, 0xc2] then
    (if u8At value 3 = 1 ∧ value.length = 6 then 1 else 0) + 1
  else 0

section Readers

variable (readers : PassiveReaders)

/-- A header that is kept is a field; the lifetime of a cache is a second one. -/
def ssdpLineFieldCount (line : Bytes) : Nat :=
  let line := stripCarriageReturn line
  match line.findIdx? (· = 58) with
  | none => 0
  | some separator =>
    let name := line.take separator
    if eqIgnoreAsciiCase name (ascii "cache-control") then
      if (readers.asciiMaxAge (trimAscii (line.drop (separator + 1)))).isSome then 2 else 1
    else if ssdpHeaders.any fun header => eqIgnoreAsciiCase name (ascii header) then 1
    else 0

def ssdpFieldCount (payload : Bytes) (before : Nat) : Nat :=
  let lines := (payload.splitOn 10).take 64
  if payload.length > maxPassiveFieldBytes * 8 ∨ !([13, 10, 13, 10] : Bytes).isSuffixOf payload then before
  else if !isAdvertisement (stripCarriageReturn (lines.headD [])) then before
  else min 32 (before + 1 + ((lines.drop 1).map (ssdpLineFieldCount readers)).sum)

def wsDiscoveryFieldCount (payload : Bytes) : Nat :=
  if payload.length > maxPassiveFieldBytes * 8 ∨ !payload.all (· < 128) then 0
  else if !hasDiscoveryEvidence (readers.xmlEvents payload) 512 0 0 false then 0
  else wsDiscoveryTexts.countP fun text => (extractXmlLocalText payload text.1).isSome

def udpFieldCount (datagram : Bytes) (before : Nat) : Nat :=
  let body := datagram.drop 8
  match udpCandidate (u16At datagram 0) (u16At datagram 2) with
  | .dhcpv4 => before + 2 + dhcpv4FieldCount body
  | .dhcpv6 => before + 2 + dhcpv6FieldCount body
  | .mdns | .llmnr | .nbns => dnsFieldCount body (before + 2)
  | .ssdp => ssdpFieldCount readers body (before + 2)
  | .wsDiscovery => before + 2 + wsDiscoveryFieldCount readers body
  | _ => before + 2

/-- The datagram at the start of a payload. -/
def udpDatagram (payload : Bytes) : Bytes := payload.take (u16At payload 4).toNat

def ipv4FieldCount (input : Bytes) : Nat :=
  match parseIpv4Packet input .strict with
  | .error _ => 0
  | .ok packet =>
    match packet.upperLayer with
    | .reachable _ payload _ =>
      if packet.protocol = 17 ∧ !packet.fragment.isFragmented then
        udpFieldCount readers (udpDatagram payload) 2 else 2
    | _ => 2

def ipv6FieldCount (input : Bytes) : Nat :=
  match parseIpv6Packet input .strict with
  | .error _ => 0
  | .ok packet =>
    let (next, payload) := nextAndPayload packet
    if next = 17 ∧ !packet.fragment.isFragmented then udpFieldCount readers (udpDatagram payload) 3
    else if next = 58 then 3 + icmpv6FieldCount payload
    else 3

/-- How many fields the headers, the options and the records of a frame call for, with the cuts that are made. -/
def passiveFieldCount (frame : Bytes) : Nat :=
  match passiveVlanTags frame 2 (u16At frame 12) 14 [] with
  | .error _ => 0
  | .ok (etherType, offset, _) =>
    if etherType = 0x0806 then 4
    else if etherType = 0x0800 then ipv4FieldCount readers (frame.drop offset)
    else if etherType = 0x86dd then ipv6FieldCount readers (frame.drop offset)
    else if etherType = 0x88cc then min 32 ((lldpItems (frame.drop offset) 64 0).map lldpTlvFieldCount).sum
    else 0

end Readers

private theorem length_dhcpv4Field (code : UInt8) (value : Bytes) :
    (dhcpv4Field code value).length = if dhcpv4IsKept (code, value) then 1 else 0 := by
  simp [dhcpv4Field, dhcpv4IsKept, ite_or, apply_ite List.length]

private theorem length_dhcpv6Field (code : UInt16) (value : Bytes) :
    (dhcpv6Field code value).length = if dhcpv6IsKept code then 1 else 0 := by
  simp [dhcpv6Field, dhcpv6IsKept, ite_or, apply_ite List.length]

private theorem length_dhcpv4Options (left : Nat) (rest : Bytes) (count : Nat) (fields : List PassiveField)
    (messageType : Bool) : (dhcpv4Options left rest count fields messageType).2.length =
      fields.length + (dhcpv4Items left (32 - count) rest).countP dhcpv4IsKept := by
  fun_induction dhcpv4Options left rest count fields messageType with
  | case1 | case2 | case5 => simp [dhcpv4Items]
  | case3 left code rest count fields messageType hcount =>
    have hroom : 32 - count = 0 := Nat.sub_eq_zero_of_le (Nat.le_of_not_lt hcount)
    simp [dhcpv4Items, hroom]
  | case4 left rest count fields messageType hcount ih =>
    have hroom : 32 - count ≠ 0 := Nat.sub_ne_zero_of_lt (not_not.mp hcount)
    rw [ih]
    cases rest <;> rw [dhcpv4Items, if_neg hroom, if_pos rfl]
  | case6 | case7 => simp [dhcpv4Items, *]
  | case8 left code count fields messageType hcount hpad hend length rest hlength value ih =>
    have hroom : 32 - count ≠ 0 := Nat.sub_ne_zero_of_lt (not_not.mp hcount)
    have hitems : dhcpv4Items (left + 1) (32 - count) (code :: length :: rest) =
        (code, value) :: dhcpv4Items left (32 - (count + 1)) (rest.drop length.toNat) := by
      rw [dhcpv4Items, if_neg hroom, if_neg hpad, if_neg hend, if_neg hlength, Nat.sub_add_eq]
    rw [ih, hitems, length_append, length_dhcpv4Field, countP_cons]
    omega

private theorem length_dhcpv6Options (left : Nat) (rest : Bytes) (fields : List PassiveField) :
    (dhcpv6Options left rest fields).2.length = fields.length + (dhcpv6Items left rest).countP dhcpv6IsKept := by
  fun_induction dhcpv6Options left rest fields with
  | case1 => simp [dhcpv6Items]
  | case2 => simp [dhcpv6Items, *]
  | case3 left rest fields hrest length value hlength =>
    rw [dhcpv6Items, if_neg hrest]
    dsimp only
    rw [if_pos hlength, countP_nil, Nat.add_zero]
  | case4 left rest fields hrest length value hlength ih =>
    have hitems : dhcpv6Items (left + 1) rest = u16At rest 0 :: dhcpv6Items left (value.drop length) := by
      rw [dhcpv6Items, if_neg hrest]
      dsimp only
      rw [if_neg hlength]
    rw [ih, hitems, length_append, length_dhcpv6Field, countP_cons]
    omega

private theorem length_parseDhcpv4Fields (payload : Bytes) (fields : List PassiveField) :
    (parseDhcpv4Fields payload fields).2.length = fields.length + dhcpv4FieldCount payload := by
  unfold parseDhcpv4Fields dhcpv4FieldCount
  split
  · rfl
  rw [length_dhcpv4Options, length_append]
  simp only [length_cons, length_nil, Nat.sub_zero]
  omega

private theorem length_parseDhcpv6Fields (payload : Bytes) (fields : List PassiveField) :
    (parseDhcpv6Fields payload fields).2.length = fields.length + dhcpv6FieldCount payload := by
  cases payload with
  | nil => rfl
  | cons messageType rest =>
    have hfirst : u8At (messageType :: rest) 0 = messageType := rfl
    simp only [parseDhcpv6Fields, dhcpv6FieldCount, hfirst, cons_ne_nil, false_or]
    split
    · rfl
    split
    · split
      · simp
      rw [length_dhcpv6Options]
      simp only [length_append, length_cons, length_nil, maxPassiveFields]
      omega
    split
    · simp
    rw [length_dhcpv6Options]
    simp only [length_append, length_cons, length_nil, maxPassiveFields]
    omega

private theorem length_dnsRecordFields (record : DiscoveryDnsRecord) :
    (dnsRecordFields record).length = dnsRecordFieldCount record := by
  unfold dnsRecordFields dnsRecordFieldCount
  cases record.data with
  | txt entries =>
    have htwo : ∀ entry ∈ entries.take 8, (dnsTxtFields entry).length = 2 := fun entry _ => rfl
    simp only [length_append, length_cons, length_nil, length_flatMap, map_congr_left htwo,
      map_const', length_take, sum_replicate_nat]
    omega
  | _ => rfl

private theorem length_parseDnsFields (payload : Bytes) (fields : List PassiveField) :
    (parseDnsFields payload fields).2.length = dnsFieldCount payload fields.length := by
  unfold parseDnsFields dnsFieldCount
  cases parseDiscoveryDnsMessage payload with
  | error e => rfl
  | ok message =>
    dsimp only
    split
    · rfl
    simp only [length_take, length_append, length_cons, length_nil, length_flatMap,
      length_dnsRecordFields, maxPassiveFields, Nat.zero_add]
    rw [show 32 - (fields.length + 1) = 31 - fields.length by omega]

section Readers

variable (readers : PassiveReaders)

private theorem length_ssdpLineFields (line : Bytes) :
    (ssdpLineFields readers line).length = ssdpLineFieldCount readers line := by
  unfold ssdpLineFields ssdpLineFieldCount
  dsimp only
  cases (stripCarriageReturn line).findIdx? (· = 58) with
  | none => rfl
  | some separator =>
    dsimp only
    split
    · cases readers.asciiMaxAge _ <;> rfl
    · simp [ssdpHeaders, ite_or, apply_ite List.length]

private theorem length_parseSsdpFields (payload : Bytes) (fields : List PassiveField) :
    (parseSsdpFields readers payload fields).2.length = ssdpFieldCount readers payload fields.length := by
  unfold parseSsdpFields ssdpFieldCount
  dsimp only
  split
  · rfl
  split
  · rfl
  · simp only [length_take, length_append, length_cons, length_nil, length_flatMap,
      length_ssdpLineFields, maxPassiveFields, Nat.zero_add]

private theorem length_parseWsDiscoveryFields (payload : Bytes) (fields : List PassiveField) :
    (parseWsDiscoveryFields readers payload fields).2.length =
    fields.length + wsDiscoveryFieldCount readers payload := by
  unfold parseWsDiscoveryFields wsDiscoveryFieldCount
  split
  · rfl
  split
  · rfl
  · simp [length_filterMap_eq_countP, length_append]

private theorem length_classifyUdp (datagram : Bytes) (fields : List PassiveField)
    (hlength : 8 ≤ datagram.length) :
    (classifyUdp readers datagram fields).2.length = udpFieldCount readers datagram fields.length := by
  unfold classifyUdp udpFieldCount
  rw [if_neg (by omega)]
  dsimp only
  cases udpCandidate (u16At datagram 0) (u16At datagram 2) with
  | dhcpv4 => simp [parseServiceFields, length_parseDhcpv4Fields]
  | dhcpv6 => simp [parseServiceFields, length_parseDhcpv6Fields]
  | mdns | llmnr | nbns => simp [parseServiceFields, length_parseDnsFields]
  | ssdp => simp [parseServiceFields, length_parseSsdpFields]
  | wsDiscovery => simp [parseServiceFields, length_parseWsDiscoveryFields]
  | _ => simp [parseServiceFields]

variable {fields fields' : List PassiveField} {offset : Nat}

private theorem length_walkNdpOptions {options : Bytes} {fieldsOf : Nat → Nat → List PassiveField}
    {fieldCount : UInt8 × Nat → Nat}
    (hcount : ∀ offset length, (fieldsOf offset length).length = fieldCount (u8At options offset, length))
    {left : Nat} (h : walkNdpOptions options fieldsOf left offset fields = .ok fields') :
    fields'.length = fields.length + ((ndpItems options left offset).map fieldCount).sum := by
  induction left generalizing offset fields with
  | zero =>
    obtain ⟨-, h⟩ := ite_error_eq_ok.mp h
    cases h
    rfl
  | succ left ih =>
    unfold walkNdpOptions at h
    unfold ndpItems
    split at h
    next hend =>
      obtain ⟨-, h⟩ := ite_error_eq_ok.mp h
      cases h
      rw [if_pos hend]
      rfl
    next hmore =>
    obtain ⟨-, h⟩ := ite_error_eq_ok.mp h
    obtain ⟨-, h⟩ := ite_error_eq_ok.mp h
    rw [if_neg hmore, ih h, length_append, hcount, map_cons, sum_cons]
    omega

private theorem length_ndpLinkOptionFields (options : Bytes) (offset length : Nat) :
    (ndpLinkOptionFields options offset length).length = linkOptionFieldCount (u8At options offset, length) := by
  simp [ndpLinkOptionFields, linkOptionFieldCount, ite_or, apply_ite List.length]

private theorem length_raOptionFields (options : Bytes) (offset length : Nat) :
    (raOptionFields options offset length).length = raOptionFieldCount (u8At options offset, length) := by
  simp [raOptionFields, raOptionFieldCount, apply_ite List.length]

private theorem length_lldpTlvFields (kind : UInt8) (value : Bytes) :
    (lldpTlvFields kind value).length = lldpTlvFieldCount (kind, value) := by
  simp [lldpTlvFields, lldpTlvFieldCount, ite_or, apply_ite List.length, maxPassiveFieldBytes]

variable {payload : Bytes}

private theorem length_parseLldpTlvs {left count : Nat}
    (h : parseLldpTlvs payload left offset count fields = .ok fields') :
    fields'.length = fields.length + ((lldpItems payload left offset).map lldpTlvFieldCount).sum := by
  induction left generalizing offset count fields with
  | zero => cases h
  | succ left ih =>
    unfold parseLldpTlvs at h
    dsimp only at h
    iterate 5 obtain ⟨-, h⟩ := ite_error_eq_ok.mp h
    simp only [lldpItems, map_cons, sum_cons]
    split at h
    next hlast =>
      obtain ⟨-, h⟩ := ite_error_eq_ok.mp h
      cases h
      rw [if_pos hlast, length_append, length_lldpTlvFields]
      rfl
    next hmore =>
    rw [if_neg hmore, ih h, length_append, length_lldpTlvFields]
    omega

private theorem length_parseRaFields (h : parseRaFields payload = .ok fields) :
    fields.length = min 32 (6 + ((ndpItems payload 64 16).map raOptionFieldCount).sum) := by
  unfold parseRaFields at h
  obtain ⟨-, h⟩ := ite_error_eq_ok.mp h
  split at h
  · cases h
  next fields' hwalk =>
  cases h
  rw [length_take, length_walkNdpOptions (length_raOptionFields payload) hwalk]
  rfl

private theorem length_parseNeighborFields {kind : UInt8} (h : parseNeighborFields payload kind = .ok fields) :
    fields.length = (if kind = 136 then 2 else 1) +
    ((ndpItems (payload.drop 24) 64 0).map linkOptionFieldCount).sum := by
  unfold parseNeighborFields parseNdpLinkOptions at h
  obtain ⟨-, h⟩ := ite_error_eq_ok.mp h
  rw [length_walkNdpOptions (length_ndpLinkOptionFields _) h, length_cons, apply_ite List.length]
  split <;> rfl

private theorem length_parseRedirectFields (h : parseRedirectFields payload = .ok fields) :
    fields.length = 2 + ((ndpItems (payload.drop 40) 64 0).map linkOptionFieldCount).sum := by
  unfold parseRedirectFields parseNdpLinkOptions at h
  obtain ⟨-, h⟩ := ite_error_eq_ok.mp h
  rw [length_walkNdpOptions (length_ndpLinkOptionFields _) h]
  rfl

variable {protocol : PassiveProtocol}

private theorem length_extendFields {f : PassiveField} {parsed : Except ParseError (List PassiveField)}
    {candidate : PassiveProtocol} {n : Nat}
    (h : extendFields (fields ++ [f]) parsed candidate = .ok (protocol, fields'))
    (hn : ∀ {more}, parsed = .ok more → more.length = n) : fields'.length = fields.length + (1 + n) := by
  cases parsed with
  | error e => cases h
  | ok more =>
    cases h
    rw [append_assoc, length_append, length_append, hn rfl]
    rfl

private theorem length_classifyIcmpv6 (h : classifyIcmpv6 payload fields = .ok (protocol, fields')) :
    fields'.length = fields.length + icmpv6FieldCount payload := by
  cases payload with
  | nil => cases h
  | cons kind rest =>
    have hkind : u8At (kind :: rest) 0 = kind := rfl
    simp only [classifyIcmpv6] at h
    simp only [icmpv6FieldCount, hkind]
    by_cases hadvertisement : kind = 134
    · subst hadvertisement
      simp +decide only [reduceIte] at h ⊢
      exact length_extendFields h length_parseRaFields
    by_cases hsolicited : kind = 135
    · subst hsolicited
      simp +decide only [reduceIte] at h ⊢
      rw [length_extendFields h length_parseNeighborFields, if_neg (by decide)]
      omega
    by_cases hneighbor : kind = 136
    · subst hneighbor
      simp +decide only [reduceIte] at h ⊢
      rw [length_extendFields h length_parseNeighborFields, if_pos rfl]
      omega
    by_cases hredirect : kind = 137
    · subst hredirect
      simp +decide only [reduceIte] at h ⊢
      rw [length_extendFields h length_parseRedirectFields]
      omega
    -- no other message is looked into
    simp only [hadvertisement, hsolicited, hneighbor, hredirect, or_self, if_false] at h ⊢
    split at h
    · cases h
      exact length_append ..
    split at h <;>
    · cases h
      exact length_append ..

variable {policy : Bool}

private theorem length_of_validatedUdpPayload {datagram : Bytes} {context : TransportChecksumContext}
    {zeroChecksumAllowed : Bool}
    (h : validatedUdpPayload payload context zeroChecksumAllowed policy = .ok datagram) :
    datagram = udpDatagram payload ∧ 8 ≤ datagram.length := by
  unfold validatedUdpPayload at h
  dsimp only at h
  obtain ⟨-, h⟩ := ite_error_eq_ok.mp h
  obtain ⟨hminimum, h⟩ := ite_error_eq_ok.mp h
  obtain ⟨hlength, h⟩ := ite_error_eq_ok.mp h
  obtain ⟨-, h⟩ := ite_error_eq_ok.mp h
  cases h
  refine ⟨rfl, ?_⟩
  rw [length_take]
  omega

variable {frame : Bytes}

private theorem length_ipv4Metadata {fragmented : Bool}
    (h : ipv4Metadata readers frame offset policy = .ok (protocol, fields, fragmented)) :
    fields.length = ipv4FieldCount readers (frame.drop offset) := by
  unfold ipv4Metadata at h
  split at h
  · cases h
  next packet hpacket =>
  rw [ipv4FieldCount, hpacket]
  dsimp only at h ⊢
  by_cases hudp : packet.protocol = 17 ∧ (!packet.fragment.isFragmented) = true
  · rw [if_neg (by rw [hudp.1]; decide), if_neg (by rw [hudp.1]; decide), if_neg (by rw [hudp.1]; decide),
      if_pos hudp] at h
    cases hupper : packet.upperLayer with
    | reachable next payload fragment =>
      rw [hupper] at h
      dsimp only at h ⊢
      rw [if_pos hudp]
      split at h
      · cases h
      next datagram hdatagram =>
      obtain ⟨rfl, hlength⟩ := length_of_validatedUdpPayload hdatagram
      cases h
      exact length_classifyUdp readers _ _ hlength
    | insufficient | nonFirstFragment | unknown | esp | noNextHeader =>
      rw [hupper] at h
      cases h
      rfl
  -- the two addresses otherwise
  · have hheader : fields.length = 2 := by
      rw [if_neg hudp] at h
      iterate 2
        split at h
        · cases h
          rfl
      split at h <;>
      · cases h
        rfl
    rw [hheader]
    cases packet.upperLayer with
    | reachable => exact (if_neg hudp).symm
    | insufficient | nonFirstFragment | unknown | esp | noNextHeader => rfl

private theorem length_ipv6Metadata {fragmented : Bool}
    (h : ipv6Metadata readers frame offset policy = .ok (protocol, fields, fragmented)) :
    fields.length = ipv6FieldCount readers (frame.drop offset) := by
  unfold ipv6Metadata at h
  split at h
  · cases h
  next packet hpacket =>
  rw [ipv6FieldCount, hpacket]
  dsimp only at h ⊢
  generalize packet.fragment.isFragmented = whole at h ⊢
  by_cases hudp : (nextAndPayload packet).1 = 17 ∧ (!whole) = true
  · rw [if_pos hudp] at h ⊢
    split at h
    · cases h
    next datagram hdatagram =>
    obtain ⟨rfl, hlength⟩ := length_of_validatedUdpPayload hdatagram
    cases h
    exact length_classifyUdp readers _ _ hlength
  rw [if_neg hudp] at h ⊢
  by_cases hicmpv6 : (nextAndPayload packet).1 = 58
  · rw [if_pos hicmpv6] at h ⊢
    split at h
    · cases h
    split at h
    · cases h
    next hclassify =>
    cases h
    exact length_classifyIcmpv6 hclassify
  rw [if_neg hicmpv6] at h ⊢
  split at h
  · cases h
    rfl
  split at h <;>
  · cases h
    rfl

private theorem length_of_decode {originalLength : Nat} {m : PassivePacketMetadata}
    (h : decodePassiveFrameWithChecksumPolicy readers frame originalLength policy = .ok m) :
    m.fields.length = passiveFieldCount readers frame := by
  unfold decodePassiveFrameWithChecksumPolicy at h
  obtain ⟨-, h⟩ := ite_error_eq_ok.mp h
  split at h
  · cases h
  next etherType offset vlanIds htags =>
  rw [passiveFieldCount, htags]
  dsimp only
  split at h
  · cases h
  next protocol fields fragmented hcontent =>
  cases h
  unfold passiveContent at hcontent
  dsimp only
  split_ifs at hcontent ⊢
  · obtain ⟨_, harpFields, heq⟩ := map_eq_ok hcontent
    cases heq
    unfold Passive.arpFields at harpFields
    dsimp only at harpFields
    iterate 5 obtain ⟨-, harpFields⟩ := ite_error_eq_ok.mp harpFields
    cases harpFields
    rfl
  · exact length_ipv4Metadata readers hcontent
  · exact length_ipv6Metadata readers hcontent
  · obtain ⟨_, hfields, heq⟩ := map_eq_ok hcontent
    cases heq
    unfold parseLldpFields at hfields
    split at hfields
    · cases hfields
    next more hmore =>
    cases hfields
    rw [length_take, length_parseLldpTlvs hmore]
    simp [maxPassiveFields, maxLldpTlvs]
  all_goals
    cases hcontent
    rfl

private theorem rowVlanTags_bounded (data : Bytes) (left : Nat) (etherType : UInt16) (offset : Nat)
    {vlanIds : List UInt16} (hids : ∀ identifier ∈ vlanIds, identifier.toNat ≤ 4095) :
    (rowVlanTags data left etherType offset vlanIds).2.length ≤ vlanIds.length + left ∧
      ∀ identifier ∈ (rowVlanTags data left etherType offset vlanIds).2, identifier.toNat ≤ 4095 := by
  induction left generalizing etherType offset vlanIds with
  | zero => exact ⟨le_refl _, hids⟩
  | succ left ih =>
    unfold rowVlanTags
    split
    · exact ⟨Nat.le_add_right .., hids⟩
    have hlast : (u16At data offset &&& 0x0fff).toNat ≤ 4095 := by
      rw [UInt16.toNat_and]
      exact Nat.and_le_right
    have hnext : ∀ identifier ∈ vlanIds ++ [u16At data offset &&& 0x0fff], identifier.toNat ≤ 4095 :=
      forall_mem_append.mpr ⟨hids, forall_mem_singleton.mpr hlast⟩
    obtain ⟨hlength, hmembers⟩ := ih (u16At data (offset + 2)) (offset + 4) hnext
    rw [length_append, length_singleton] at hlength
    exact ⟨by omega, hmembers⟩

private theorem status_fields_wellFormed (status : ChecksumStatus) :
    ∀ f ∈ status.fields, 1 ≤ f.key.length ∧ f.key.length ≤ 64 ∧ f.value.length ≤ 512 := by
  cases status <;> decide

/-- All that can be wrong with a row is that it has too many fields. -/
private theorem publicObservationRowAccepts_iff (data : Bytes) (originalLength : Nat) (checksumStatus : UInt32) :
    publicObservationRowAccepts (decodeRow readers data originalLength checksumStatus) = true ↔
      (decodeRow readers data originalLength checksumStatus).metadata.length ≤ 32 := by
  have hmac : ∀ (n offset : Nat), (if data.length < n then [] else field data offset 6).length ≤ 6 := by
    intro n offset
    split
    · exact Nat.zero_le _
    · exact length_take_le ..
  have htags := rowVlanTags_bounded data 2 (if data.length < 14 then 0 else u16At data 12) 14 (forall_mem_nil _)
  have hfields : ∀ f ∈ (decodeRow readers data originalLength checksumStatus).metadata,
      1 ≤ f.key.length ∧ f.key.length ≤ 64 ∧ f.value.length ≤ 512 := by
    intro f hf
    unfold decodeRow at hf
    dsimp only at hf
    split at hf
    · cases hf
    rcases mem_append.mp hf with hf | hf
    · obtain ⟨g, -, rfl⟩ := mem_map.mp hf
      exact ⟨(fieldText_length g.name).1, (fieldText_length g.name).2, g.value_le⟩
    · exact status_fields_wellFormed _ f hf
  unfold publicObservationRowAccepts
  rw [decide_eq_true_eq]
  exact ⟨fun h => h.1, fun h => ⟨h, hmac 12 6, hmac 6 0, htags.1, by simpa [decodeRow] using htags.2, hfields⟩⟩

/-- The values of fields are bounded.  Fields are no more than 32, exactly if the frame calls for no more, and its
row is accepted, exactly if this holds with the field for the checksum that the kernel has judged. -/
theorem decodeRow_accepted_iff (data : Bytes) (originalLength : Nat) (checksumStatus : UInt32) :
    (∀ policy m, decodePassiveFrameWithChecksumPolicy readers data originalLength policy = .ok m →
      (∀ f ∈ m.fields, f.value.length ≤ 512) ∧ (m.fields.length ≤ 32 ↔ passiveFieldCount readers data ≤ 32)) ∧
    (publicObservationRowAccepts (decodeRow readers data originalLength checksumStatus) = true ↔
      ((decodePassiveFrameWithChecksumPolicy readers data originalLength
        (ChecksumStatus.fromBits checksumStatus = .unknown)).isOk = true →
          passiveFieldCount readers data + (ChecksumStatus.fromBits checksumStatus).fields.length ≤ 32)) := by
  refine ⟨fun policy m hm => ⟨fun f _ => f.value_le, by rw [length_of_decode readers hm]⟩, ?_⟩
  rw [publicObservationRowAccepts_iff]
  unfold decodeRow
  dsimp only
  cases hdecode : decodePassiveFrameWithChecksumPolicy readers data originalLength
      (ChecksumStatus.fromBits checksumStatus = .unknown) with
  | error e => simp [Except.isOk, Except.toBool]
  | ok m =>
    dsimp only
    rw [length_append, length_map, length_of_decode readers hdecode]
    simp [Except.isOk, Except.toBool]

end Readers

/-- A router advertisement between link-local addresses, with the given number of options of a kind that is not
known. -/
def advertisementFrame (options : Nat) (checksum : UInt16) : Bytes :=
  macOctets 2 ++ (macOctets 3 ++ ([0x86, 0xdd, 0x60, 0, 0, 0, 0, UInt8.ofNat (16 + 8 * options), 58, 255] ++
    (ipv6Octets 0xfe800000000000000000000000000001 ++ (ipv6Octets 0xff020000000000000000000000000001 ++
      ([134, 0] ++ be16 checksum ++ [64, 0, 7, 8, 0, 0, 0, 0, 0, 0, 0, 0] ++
        (List.replicate options [200, 1, 0, 0, 0, 0, 0, 0]).flatten)))))

/-- Thirteen options of eight bytes are enough: thirty-two fields are kept behind the four of the envelope. -/
theorem advertisement_row_refused :
    ((decodePassiveFrame noReaders (advertisementFrame 13 3240) 174).toOption.map fun m => m.fields.length) =
      some 36 ∧ publicObservationRowAccepts (decodeRow noReaders (advertisementFrame 13 3240) 174 0) = false := by
  decide +kernel

end NodeNet.Platform
