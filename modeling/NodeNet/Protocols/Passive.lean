import NodeNet.Discovery.Dns
import NodeNet.Protocols.Link
import NodeNet.Protocols.Quoted

/-!
# Classification of captured frames

A captured frame is classified by its headers and, where the protocol has a service parser, by its payload.  What
is kept of it is a list of fields, none longer than 512 bytes.  The reader of XML events and the reader of a cache
lifetime are given (`PassiveReaders`).

Payload of an IP fragment is not looked at, with one exception: the ICMPv6 message at the start of a first fragment
(`decodePassiveFrame_fragmented`).
-/

namespace NodeNet.Protocols.Passive

open Discovery (DiscoveryDnsRecord DiscoveryDnsRecordData DiscoveryDnsTxtEntry parseDiscoveryDnsMessage lowercase)

def maxPassiveFields : Nat := 32
def maxPassiveFieldBytes : Nat := 512
def maxLldpTlvs : Nat := 64
def maxRaOptions : Nat := 64

inductive PassiveProtocol where
  | arp | ipv6NeighborDiscovery | dhcpv4 | dhcpv6 | mdns | llmnr | nbns | ssdp | wsDiscovery | routerAdvertisement
  | routerSolicitation | ipv6Redirect | lldp | stp | lacp | vrrp | igmp | mld | rip | ospf | other
deriving DecidableEq

inductive FieldName where
  | senderMac | senderIpv4 | targetMac | targetIpv4 | sourceIpv4 | destinationIpv4 | sourceIpv6 | destinationIpv6
  | hopLimit | sourcePort | destinationPort
  | dhcpClientAddress | dhcpYourAddress | dhcpServerAddress | dhcpClientHardwareAddress | dhcpDnsServers
  | dhcpHostName | dhcpDomainName | dhcpRequestedAddress | dhcpLeaseTime | dhcpMessageType | dhcpServerIdentifier
  | dhcpParameterRequestList | dhcpVendorClass | dhcpClientIdentifier | dhcpDomainSearch
  | dhcpv6MessageType | dhcpv6RelayHopCount | dhcpv6RelayLinkAddress | dhcpv6RelayPeerAddress | dhcpv6TransactionId
  | dhcpv6ClientId | dhcpv6ServerId | dhcpv6IdentityAssociation | dhcpv6DnsServers | dhcpv6DomainSearch
  | dhcpv6ClientFqdn | dnsTransactionId | dnsRecordName | dnsRecordType | dnsTtl | dnsCacheFlush | dnsPtr
  | dnsSrvPort | dnsSrvTarget | dnsIpv4 | dnsIpv6 | dnsTxtKey | dnsTxtValue
  | ssdpStartLine | ssdpCacheControl | ssdpMaxAge | ssdpLocation | ssdpUsn | ssdpTarget | ssdpNts | ssdpServer
  | wsMessageId | wsRelatesTo | wsEndpointAddress | wsTypes | wsScopes | wsXAddrs | wsMetadataVersion
  | icmpv6Type | ndpTargetAddress | ndpAdvertisementFlags | ndpRedirectTarget | ndpRedirectDestination
  | ndpSourceMac | ndpTargetMac | currentHopLimit | routerFlags | routerPreference | routerLifetime
  | reachableTime | retransTimer | routerSourceMac | prefixLength | prefixFlags | prefixValidLifetime
  | prefixPreferredLifetime | prefixAddress | mtu
  | routePrefixLength | routePreference | routeLifetime | routePrefix | rdnssLifetime | rdnssServers
  | dnsslLifetime | dnsslDomains | captivePortal | unknownRaOptionType | unknownRaOptionLength
  | chassisIdSubtype | chassisId | portIdSubtype | portId | ttl | portDescription | systemName | systemDescription
  | systemCapabilitiesAvailable | systemCapabilitiesEnabled | managementAddressSubtype | managementAddress
  | lldpOrganizationSubtype | portVlanId
deriving DecidableEq

/-- A field of a frame; its value is bounded. -/
structure PassiveField where
  name : FieldName
  value : Bytes
  value_le : value.length ≤ maxPassiveFieldBytes
deriving DecidableEq

/-- A field keeps no more than the first bytes of what is read. -/
def passiveField (name : FieldName) (bytes : Bytes) : PassiveField :=
  ⟨name, bytes.take maxPassiveFieldBytes, List.length_take_le ..⟩

structure PassivePacketMetadata where
  protocol : PassiveProtocol
  etherType : UInt16
  sourceMac : MacAddress
  destinationMac : MacAddress
  vlanIds : List UInt16
  fields : List PassiveField
  fragmented : Bool
  truncated : Bool
deriving DecidableEq

inductive XmlEvent where
  | start (localName : Bytes)
  | stop
  | eof
  | failed
  | other
deriving DecidableEq

/-- Readers that are not modelled: the events of a document in order, which a library reads, and the lifetime in a
cache control header (`parse_ascii_max_age`). -/
structure PassiveReaders where
  xmlEvents : Bytes → Nat → XmlEvent
  asciiMaxAge : Bytes → Option UInt32

/-! ### ARP -/

def arpFields (frame : Bytes) (offset : Nat) : Except ParseError (List PassiveField) :=
  if frame.length < offset + 28 then .error (.truncated .arp (offset + 28) frame.length)
  else
    let packet := field frame offset 28
    if u16At packet 0 ≠ 1 then .error (.unsupported .arp .hardwareType)
    else if u16At packet 2 ≠ 0x0800 then .error (.unsupported .arp .protocolType)
    else if u8At packet 4 ≠ 6 ∨ u8At packet 5 ≠ 4 then .error (.malformed .arp .addressLength)
    else if ¬ (u16At packet 6 = 1 ∨ u16At packet 6 = 2) then .error (.unsupported .arp .operation)
    else .ok [passiveField .senderMac (field packet 8 6), passiveField .senderIpv4 (field packet 14 4),
      passiveField .targetMac (field packet 18 6), passiveField .targetIpv4 (field packet 24 4)]

/-! ### DHCP -/

def dhcpv4Field (code : UInt8) (value : Bytes) : List PassiveField :=
  if code = 6 then [passiveField .dhcpDnsServers value]
  else if code = 12 then [passiveField .dhcpHostName value]
  else if code = 15 then [passiveField .dhcpDomainName value]
  else if code = 50 then [passiveField .dhcpRequestedAddress value]
  else if code = 51 then [passiveField .dhcpLeaseTime value]
  else if code = 53 ∧ value.length = 1 ∧ 1 ≤ u8At value 0 ∧ u8At value 0 ≤ 8 then
    [passiveField .dhcpMessageType value]
  else if code = 54 then [passiveField .dhcpServerIdentifier value]
  else if code = 55 then [passiveField .dhcpParameterRequestList value]
  else if code = 60 then [passiveField .dhcpVendorClass value]
  else if code = 61 then [passiveField .dhcpClientIdentifier value]
  else if code = 119 then [passiveField .dhcpDomainSearch value]
  else []

/-- Walks over the options, padding not counted; the result is whether the end was reached with a message type. -/
def dhcpv4Options : Nat → Bytes → Nat → List PassiveField → Bool → Bool × List PassiveField
  | 0, _, _, fields, _ => (false, fields)
  | _ + 1, [], _, fields, _ => (false, fields)
  | left + 1, code :: rest, count, fields, messageType =>
    if ¬ count < maxPassiveFields then (false, fields)
    else if code = 0 then dhcpv4Options left rest count fields messageType
    else if code = 255 then (messageType, fields)
    else
      match rest with
      | [] => (false, fields)
      | length :: rest =>
        if rest.length < length.toNat then (false, fields)
        else
          let value := rest.take length.toNat
          dhcpv4Options left (rest.drop length.toNat) (count + 1) (fields ++ dhcpv4Field code value)
            (messageType || decide (code = 53 ∧ value.length = 1 ∧ 1 ≤ u8At value 0 ∧ u8At value 0 ≤ 8))

def parseDhcpv4Fields (payload : Bytes) (fields : List PassiveField) : Bool × List PassiveField :=
  if payload.length < 240 ∨ field payload 236 4 ≠ [99, 130, 83, 99] then (false, fields)
  else
    dhcpv4Options payload.length (payload.drop 240) 0
      (fields ++ [passiveField .dhcpClientAddress (field payload 12 4),
        passiveField .dhcpYourAddress (field payload 16 4), passiveField .dhcpServerAddress (field payload 20 4),
        passiveField .dhcpClientHardwareAddress (field payload 28 (min (u8At payload 2).toNat 16))]) false

def dhcpv6Field (code : UInt16) (value : Bytes) : List PassiveField :=
  if code = 1 then [passiveField .dhcpv6ClientId value]
  else if code = 2 then [passiveField .dhcpv6ServerId value]
  else if code = 3 then [passiveField .dhcpv6IdentityAssociation value]
  else if code = 23 then [passiveField .dhcpv6DnsServers value]
  else if code = 24 then [passiveField .dhcpv6DomainSearch value]
  else if code = 39 then [passiveField .dhcpv6ClientFqdn value]
  else []

/-- Walks over at most the given number of options; the result is whether the options end where the message does.
An option that does not fit its message has its header taken off before the walk ends. -/
def dhcpv6Options : Nat → Bytes → List PassiveField → Bool × List PassiveField
  | 0, rest, fields => (rest.isEmpty, fields)
  | left + 1, rest, fields =>
    if rest.length < 4 then (rest.isEmpty, fields)
    else
      let length := (u16At rest 2).toNat
      let value := rest.drop 4
      if value.length < length then (value.isEmpty, fields)
      else dhcpv6Options left (value.drop length) (fields ++ dhcpv6Field (u16At rest 0) (value.take length))

def parseDhcpv6Fields (payload : Bytes) (fields : List PassiveField) : Bool × List PassiveField :=
  match payload with
  | [] => (false, fields)
  | messageType :: _ =>
    if ¬ (1 ≤ messageType ∧ messageType ≤ 13) then (false, fields)
    else
      let fields := fields ++ [passiveField .dhcpv6MessageType (payload.take 1)]
      if messageType = 12 ∨ messageType = 13 then
        if payload.length < 34 then (false, fields)
        else
          dhcpv6Options maxPassiveFields (payload.drop 34)
            (fields ++ [passiveField .dhcpv6RelayHopCount (field payload 1 1),
              passiveField .dhcpv6RelayLinkAddress (field payload 2 16),
              passiveField .dhcpv6RelayPeerAddress (field payload 18 16)])
      else if payload.length < 4 then (false, fields)
      else
        dhcpv6Options maxPassiveFields (payload.drop 4)
          (fields ++ [passiveField .dhcpv6TransactionId (field payload 1 3)])

/-! ### DNS -/

def dnsTxtFields (entry : DiscoveryDnsTxtEntry) : List PassiveField :=
  [passiveField .dnsTxtKey entry.key, passiveField .dnsTxtValue entry.value]

def dnsRecordFields (record : DiscoveryDnsRecord) : List PassiveField :=
  [passiveField .dnsRecordName record.name.canonicalWire, passiveField .dnsRecordType (be16 record.recordType),
    passiveField .dnsTtl (be32 record.ttl), passiveField .dnsCacheFlush [if record.cacheFlush then 1 else 0]] ++
  match record.data with
  | .ptr name => [passiveField .dnsPtr name.canonicalWire]
  | .srv _ _ port target => [passiveField .dnsSrvPort (be16 port), passiveField .dnsSrvTarget target.canonicalWire]
  | .a address => [passiveField .dnsIpv4 address]
  | .aaaa address => [passiveField .dnsIpv6 address]
  | .txt entries => (entries.take 8).flatMap dnsTxtFields
  | .unknown => []

def parseDnsFields (payload : Bytes) (fields : List PassiveField) : Bool × List PassiveField :=
  match parseDiscoveryDnsMessage payload with
  | .error _ => (false, fields)
  | .ok message =>
    if !message.isResponse ∨ message.truncated ∨ message.records.isEmpty then (false, fields)
    else
      let fields := fields ++ [passiveField .dnsTransactionId (be16 message.id)]
      let records := message.records.take (maxPassiveFields - fields.length)
      (true, (fields ++ records.flatMap dnsRecordFields).take maxPassiveFields)

/-! ### SSDP -/

def ascii (text : String) : Bytes := text.toList.map fun c => UInt8.ofNat c.toNat

def eqIgnoreAsciiCase (a b : Bytes) : Bool := lowercase a = lowercase b

def stripCarriageReturn (line : Bytes) : Bytes := if line.getLast? = some 13 then line.dropLast else line

def isAsciiWhitespace (byte : UInt8) : Bool := byte = 32 ∨ byte = 9 ∨ byte = 10 ∨ byte = 12 ∨ byte = 13

def isAsciiDigit (byte : UInt8) : Bool := 48 ≤ byte ∧ byte ≤ 57

def trimAscii (value : Bytes) : Bytes :=
  ((value.dropWhile isAsciiWhitespace).reverse.dropWhile isAsciiWhitespace).reverse

def isAdvertisement (first : Bytes) : Bool :=
  eqIgnoreAsciiCase first (ascii "NOTIFY * HTTP/1.1") ||
    ((ascii "HTTP/1.1 ").isPrefixOf first &&
      let status := first.drop 9
      decide (status.length ≥ 3) && (status.take 3).all isAsciiDigit)

section Readers

variable (readers : PassiveReaders)

def ssdpLineFields (line : Bytes) : List PassiveField :=
  let line := stripCarriageReturn line
  match line.findIdx? (· = 58) with
  | none => []
  | some separator =>
    let name := line.take separator
    let value := trimAscii (line.drop (separator + 1))
    if eqIgnoreAsciiCase name (ascii "cache-control") then
      passiveField .ssdpCacheControl value ::
        match readers.asciiMaxAge value with
        | some seconds => [passiveField .ssdpMaxAge (be32 seconds)]
        | none => []
    else if eqIgnoreAsciiCase name (ascii "location") then [passiveField .ssdpLocation value]
    else if eqIgnoreAsciiCase name (ascii "usn") then [passiveField .ssdpUsn value]
    else if eqIgnoreAsciiCase name (ascii "nt") ∨ eqIgnoreAsciiCase name (ascii "st") then
      [passiveField .ssdpTarget value]
    else if eqIgnoreAsciiCase name (ascii "nts") then [passiveField .ssdpNts value]
    else if eqIgnoreAsciiCase name (ascii "server") then [passiveField .ssdpServer value]
    else []

def parseSsdpFields (payload : Bytes) (fields : List PassiveField) : Bool × List PassiveField :=
  if payload.length > maxPassiveFieldBytes * 8 ∨ !([13, 10, 13, 10] : Bytes).isSuffixOf payload then
    (false, fields)
  else
    let lines := (payload.splitOn 10).take 64
    let first := stripCarriageReturn (lines.headD [])
    if !isAdvertisement first then (false, fields)
    else
      let fields := fields ++ [passiveField .ssdpStartLine first]
      (true, (fields ++ (lines.drop 1).flatMap (ssdpLineFields readers)).take maxPassiveFields)

/-! ### WS-Discovery -/

/-- Reads events up to the end of the document, at most 512 of them and at most 32 levels deep. -/
def hasDiscoveryEvidence (events : Nat → XmlEvent) : Nat → Nat → Nat → Bool → Bool
  | 0, _, _, _ => false
  | left + 1, index, depth, saw =>
    match events index with
    | .start name =>
      if depth + 1 > 32 then false
      else
        hasDiscoveryEvidence events left (index + 1) (depth + 1)
          (saw || decide (name = ascii "ProbeMatches" ∨ name = ascii "Hello" ∨ name = ascii "Bye"))
    | .stop => if depth = 0 then false else hasDiscoveryEvidence events left (index + 1) (depth - 1) saw
    | .eof => depth = 0 && saw
    | .failed => false
    | .other => hasDiscoveryEvidence events left (index + 1) depth saw

/-- The first place where a window of the given width has the property. -/
def windowPosition (p : Bytes → Bool) (width : Nat) (l : Bytes) : Option Nat :=
  (List.range (l.length + 1 - width)).find? fun i => p (field l i width)

def extractXmlLocalText (payload : Bytes) (localName : String) : Option Bytes :=
  let suffix := ascii localName ++ [62]
  match windowPosition (eqIgnoreAsciiCase suffix) suffix.length payload with
  | none => none
  | some start =>
    if start = 0 ∨ ¬ (u8At payload (start - 1) = 60 ∨ u8At payload (start - 1) = 58) then none
    else
      let remaining := payload.drop (start + suffix.length)
      match windowPosition (· = [60, 47]) 2 remaining with
      | none => none
      | some stop =>
        let value := trimAscii (remaining.take stop)
        if value.isEmpty ∨ value.length > maxPassiveFieldBytes then none else some value

def wsDiscoveryTexts : List (String × FieldName) :=
  [("MessageID", .wsMessageId), ("RelatesTo", .wsRelatesTo), ("Address", .wsEndpointAddress), ("Types", .wsTypes),
    ("Scopes", .wsScopes), ("XAddrs", .wsXAddrs), ("MetadataVersion", .wsMetadataVersion)]

def parseWsDiscoveryFields (payload : Bytes) (fields : List PassiveField) : Bool × List PassiveField :=
  if payload.length > maxPassiveFieldBytes * 8 ∨ !payload.all (· < 128) then (false, fields)
  else if !hasDiscoveryEvidence (readers.xmlEvents payload) 512 0 0 false then (false, fields)
  else
    (true, fields ++ wsDiscoveryTexts.filterMap fun (localName, name) =>
      (extractXmlLocalText payload localName).map (passiveField name))

/-! ### UDP -/

def validRipMessage (payload : Bytes) : Bool :=
  payload.length ≥ 4 ∧ (payload.length - 4) % 20 = 0 ∧ (u8At payload 0 = 1 ∨ u8At payload 0 = 2) ∧
    (u8At payload 1 = 1 ∨ u8At payload 1 = 2) ∧ field payload 2 2 = [0, 0]

def validatedUdpPayload (payload : Bytes) (context : TransportChecksumContext)
    (zeroChecksumAllowed validateChecksumBytes : Bool) : Except ParseError Bytes :=
  if payload.length < 8 then .error (.truncated .udp 8 payload.length)
  else
    let length := (u16At payload 4).toNat
    if length < 8 then .error (.malformed .udp .totalLength)
    else if payload.length < length then .error (.truncated .udp length payload.length)
    else
      let datagram := payload.take length
      let checksum := u16At payload 6
      if validateChecksumBytes ∧ (!zeroChecksumAllowed ∨ checksum ≠ 0) ∧
          !validateTransportChecksum context udpProtocol datagram then
        .error (.malformed .udp .checksum)
      else .ok datagram

def udpCandidate (source destination : UInt16) : PassiveProtocol :=
  let either (port : UInt16) : Bool := source = port ∨ destination = port
  if (source = 67 ∨ source = 68) ∧ (destination = 67 ∨ destination = 68) then .dhcpv4
  else if (source = 546 ∨ source = 547) ∧ (destination = 546 ∨ destination = 547) then .dhcpv6
  else if either 5353 then .mdns
  else if either 5355 then .llmnr
  else if either 137 then .nbns
  else if either 1900 then .ssdp
  else if either 3702 then .wsDiscovery
  else if either 520 then .rip
  else .other

/-- What the service parser of a protocol makes of a datagram's payload. -/
def parseServiceFields (candidate : PassiveProtocol) (body : Bytes) (fields : List PassiveField) :
    Bool × List PassiveField :=
  match candidate with
  | .dhcpv4 => parseDhcpv4Fields body fields
  | .dhcpv6 => parseDhcpv6Fields body fields
  | .mdns | .llmnr | .nbns => parseDnsFields body fields
  | .ssdp => parseSsdpFields readers body fields
  | .wsDiscovery => parseWsDiscoveryFields readers body fields
  | .rip => (validRipMessage body, fields)
  | _ => (false, fields)

def classifyUdp (payload : Bytes) (fields : List PassiveField) : PassiveProtocol × List PassiveField :=
  if payload.length < 8 then (.other, fields)
  else
    let source := u16At payload 0
    let destination := u16At payload 2
    let fields :=
      fields ++ [passiveField .sourcePort (be16 source), passiveField .destinationPort (be16 destination)]
    let candidate := udpCandidate source destination
    let (valid, fields) := parseServiceFields readers candidate (payload.drop 8) fields
    (if valid then candidate else .other, fields)

/-! ### Neighbor discovery -/

/-- Walks over at most 64 options, each of a multiple of eight bytes, which have to end with the message. -/
def walkNdpOptions (options : Bytes) (fieldsOf : Nat → Nat → List PassiveField) :
    Nat → Nat → List PassiveField → Except ParseError (List PassiveField)
  | 0, offset, fields => if offset ≠ options.length then .error (.malformed .ndp .optionLength) else .ok fields
  | left + 1, offset, fields =>
    if ¬ offset < options.length then
      if offset ≠ options.length then .error (.malformed .ndp .optionLength) else .ok fields
    else if options.length < offset + 2 then .error (.truncated .ndp (offset + 2) options.length)
    else
      let length := (u8At options (offset + 1)).toNat * 8
      if length = 0 ∨ offset + length > options.length then .error (.malformed .ndp .optionLength)
      else walkNdpOptions options fieldsOf left (offset + length) (fields ++ fieldsOf offset length)

def ndpLinkOptionFields (options : Bytes) (offset length : Nat) : List PassiveField :=
  let kind := u8At options offset
  if kind = 1 ∧ length = 8 then [passiveField .ndpSourceMac (field options (offset + 2) 6)]
  else if kind = 2 ∧ length = 8 then [passiveField .ndpTargetMac (field options (offset + 2) 6)]
  else []

def parseNdpLinkOptions (options : Bytes) (fields : List PassiveField) : Except ParseError (List PassiveField) :=
  walkNdpOptions options (ndpLinkOptionFields options) maxRaOptions 0 fields

def parseNeighborFields (payload : Bytes) (kind : UInt8) : Except ParseError (List PassiveField) :=
  if payload.length < 24 then .error (.truncated .ndp 24 payload.length)
  else
    parseNdpLinkOptions (payload.drop 24)
      (passiveField .ndpTargetAddress (field payload 8 16) ::
        if kind = 136 then [passiveField .ndpAdvertisementFlags (field payload 4 4)] else [])

def parseRedirectFields (payload : Bytes) : Except ParseError (List PassiveField) :=
  if payload.length < 40 then .error (.truncated .ndp 40 payload.length)
  else
    parseNdpLinkOptions (payload.drop 40)
      [passiveField .ndpRedirectTarget (field payload 8 16), passiveField .ndpRedirectDestination
        (field payload 24 16)]

def raOptionFields (payload : Bytes) (offset length : Nat) : List PassiveField :=
  let kind := u8At payload offset
  if kind = 1 ∧ length = 8 then [passiveField .routerSourceMac (field payload (offset + 2) 6)]
  else if kind = 3 ∧ length = 32 then
    [passiveField .prefixLength (field payload (offset + 2) 1),
      passiveField .prefixFlags (field payload (offset + 3) 1),
      passiveField .prefixValidLifetime (field payload (offset + 4) 4),
      passiveField .prefixPreferredLifetime (field payload (offset + 8) 4),
      passiveField .prefixAddress (field payload (offset + 16) 16)]
  else if kind = 5 ∧ length = 8 then [passiveField .mtu (field payload (offset + 4) 4)]
  else if kind = 24 ∧ 8 ≤ length ∧ length ≤ 24 then
    [passiveField .routePrefixLength (field payload (offset + 2) 1),
      passiveField .routePreference [(u8At payload (offset + 3) >>> 3) &&& 0x03],
      passiveField .routeLifetime (field payload (offset + 4) 4),
      passiveField .routePrefix (field payload (offset + 8) (length - 8))]
  else if kind = 25 ∧ 24 ≤ length ∧ length ≤ maxPassiveFieldBytes then
    [passiveField .rdnssLifetime (field payload (offset + 4) 4),
      passiveField .rdnssServers (field payload (offset + 8) (length - 8))]
  else if kind = 31 ∧ 16 ≤ length ∧ length ≤ maxPassiveFieldBytes then
    [passiveField .dnsslLifetime (field payload (offset + 4) 4),
      passiveField .dnsslDomains (field payload (offset + 8) (length - 8))]
  else if kind = 37 ∧ 8 ≤ length ∧ length ≤ maxPassiveFieldBytes then
    [passiveField .captivePortal (field payload (offset + 2) (length - 2))]
  else
    [passiveField .unknownRaOptionType (field payload offset 1),
      passiveField .unknownRaOptionLength (field payload (offset + 1) 1)]

def parseRaFields (payload : Bytes) : Except ParseError (List PassiveField) :=
  if payload.length < 16 then .error (.truncated .icmpv6 16 payload.length)
  else
    match walkNdpOptions payload (raOptionFields payload) maxRaOptions 16
      [passiveField .currentHopLimit (field payload 4 1), passiveField .routerFlags (field payload 5 1),
        passiveField .routerPreference [(u8At payload 5 >>> 3) &&& 0x03],
          passiveField .routerLifetime (field payload 6 2),
        passiveField .reachableTime (field payload 8 4), passiveField .retransTimer (field payload 12 4)] with
    | .error error => .error error
    | .ok fields => .ok (fields.take maxPassiveFields)

/-- Adds the fields of a message behind those before it. -/
def extendFields (fields : List PassiveField) (parsed : Except ParseError (List PassiveField))
    (protocol : PassiveProtocol) : Except ParseError (PassiveProtocol × List PassiveField) :=
  match parsed with
  | .error error => .error error
  | .ok more => .ok (protocol, fields ++ more)

def classifyIcmpv6 (payload : Bytes) (fields : List PassiveField) :
    Except ParseError (PassiveProtocol × List PassiveField) :=
  match payload with
  | [] => .error (.truncated .icmpv6 1 payload.length)
  | kind :: _ =>
    let fields := fields ++ [passiveField .icmpv6Type [kind]]
    if (130 ≤ kind ∧ kind ≤ 132) ∨ kind = 143 then .ok (.mld, fields)
    else if kind = 133 then .ok (.routerSolicitation, fields)
    else if kind = 134 then extendFields fields (parseRaFields payload) .routerAdvertisement
    else if kind = 135 ∨ kind = 136 then extendFields fields (parseNeighborFields payload kind)
      .ipv6NeighborDiscovery
    else if kind = 137 then extendFields fields (parseRedirectFields payload) .ipv6Redirect
    else .ok (.other, fields)

/-! ### LLDP -/

def lldpTlvFields (kind : UInt8) (value : Bytes) : List PassiveField :=
  if value.length > maxPassiveFieldBytes then []
  else if kind = 1 ∧ !value.isEmpty then
    [passiveField .chassisIdSubtype (value.take 1), passiveField .chassisId (value.drop 1)]
  else if kind = 2 ∧ !value.isEmpty then
    [passiveField .portIdSubtype (value.take 1), passiveField .portId (value.drop 1)]
  else if kind = 3 then [passiveField .ttl value]
  else if kind = 4 then [passiveField .portDescription value]
  else if kind = 5 then [passiveField .systemName value]
  else if kind = 6 then [passiveField .systemDescription value]
  else if kind = 7 ∧ value.length = 4 then
    [passiveField .systemCapabilitiesAvailable (value.take 2), passiveField .systemCapabilitiesEnabled
      (field value 2 2)]
  else if kind = 8 ∧ value.length ≥ 2 then
    let addressLength := (u8At value 0).toNat
    if addressLength ≥ 1 ∧ addressLength < value.length then
      [passiveField .managementAddressSubtype (field value 1 1),
        passiveField .managementAddress (field value 2 (addressLength - 1))]
    else []
  else if kind = 127 ∧ value.length ≥ 6 ∧ value.take 3 = [0x00, 0x80, 0xc2] then
    passiveField .lldpOrganizationSubtype (field value 3 1) ::
      if u8At value 3 = 1 ∧ value.length = 6 then [passiveField .portVlanId (field value 4 2)] else []
  else []

/-- The first three TLVs have kinds of their own. -/
def lldpKindInOrder (count : Nat) (kind : UInt8) : Bool :=
  match count with
  | 0 => kind = 1
  | 1 => kind = 2
  | 2 => kind = 3
  | _ => true

def parseLldpTlvs (payload : Bytes) : Nat → Nat → Nat → List PassiveField → Except ParseError (List PassiveField)
  | 0, _, _, _ => .error (.malformed .link .optionLength)
  | left + 1, offset, count, fields =>
    if ¬ offset < payload.length then .error (.malformed .link .optionLength)
    else if payload.length < offset + 2 then .error (.truncated .link (offset + 2) payload.length)
    else
      let combined := u16At payload offset
      let kind := UInt8.ofNat (combined >>> 9).toNat
      let length := (combined &&& 0x01ff).toNat
      let offset := offset + 2
      if payload.length < offset + length then .error (.truncated .link (offset + length) payload.length)
      else
        let value := field payload offset length
        if !lldpKindInOrder count kind then .error (.malformed .link .optionKind)
        else if ((kind = 1 ∨ kind = 2) ∧ length < 2) ∨ (kind = 3 ∧ length ≠ 2) ∨ (kind = 0 ∧ length ≠ 0) then
          .error (.malformed .link .optionLength)
        else
          let fields := fields ++ lldpTlvFields kind value
          let offset := offset + length
          if kind = 0 then
            if (payload.drop offset).any (· ≠ 0) then .error (.malformed .link .optionLength) else .ok fields
          else parseLldpTlvs payload left offset (count + 1) fields

def parseLldpFields (payload : Bytes) : Except ParseError (List PassiveField) :=
  match parseLldpTlvs payload maxLldpTlvs 0 0 [] with
  | .error error => .error error
  | .ok fields => .ok (fields.take maxPassiveFields)

/-! ### IP -/

def ipv4Metadata (frame : Bytes) (offset : Nat) (validateTransportChecksumBytes : Bool) :
    Except ParseError (PassiveProtocol × List PassiveField × Bool) :=
  match parseIpv4Packet (frame.drop offset) .strict with
  | .error error => .error error
  | .ok packet =>
    let fragmented := packet.fragment.isFragmented
    let fields := [passiveField .sourceIpv4 (ipv4Octets packet.source),
      passiveField .destinationIpv4 (ipv4Octets packet.destination)]
    if packet.protocol = 2 then .ok (.igmp, fields, fragmented)
    else if packet.protocol = 89 then .ok (.ospf, fields, fragmented)
    else if packet.protocol = 112 then .ok (.vrrp, fields, fragmented)
    else if packet.protocol = 17 ∧ !fragmented then
      match packet.upperLayer with
      | .reachable _ payload _ =>
        match validatedUdpPayload payload (.ipv4 packet.source packet.destination) true
          validateTransportChecksumBytes with
        | .error error => .error error
        | .ok datagram =>
          let (protocol, fields) := classifyUdp readers datagram fields
          .ok (protocol, fields, fragmented)
      | _ => .ok (.other, fields, fragmented)
    else .ok (.other, fields, fragmented)

variable (packet : ParsedIpv6Packet)

/-- The checks on an ICMPv6 message in front of its classification. -/
def checkIcmpv6 (payload : Bytes) (validateTransportChecksumBytes : Bool) : Except ParseError Unit :=
  let kind := payload.headD 0
  let source := ipv6Octets packet.source
  if 133 ≤ kind ∧ kind ≤ 137 ∧ packet.hopLimit ≠ 255 then .error (.malformed .ndp .hopLimit)
  else if (kind = 134 ∨ kind = 137) ∧ (u8At source 0 ≠ 0xfe ∨ u8At source 1 &&& 0xc0 ≠ 0x80) then
    .error (.malformed .ndp .address)
  else if validateTransportChecksumBytes ∧ !validateTransportChecksum (.ipv6 packet.source packet.destination)
    58 payload then
    .error (.malformed .icmpv6 .checksum)
  else .ok ()

/-- The protocol of the payload that can be read, or else of the first header. -/
def nextAndPayload : UInt8 × Bytes :=
  match packet.upperLayer with
  | .reachable protocol payload _ | .unknown protocol payload _ => (protocol, payload)
  | _ => (packet.firstNextHeader, [])

def ipv6Metadata (frame : Bytes) (offset : Nat) (validateTransportChecksumBytes : Bool) :
    Except ParseError (PassiveProtocol × List PassiveField × Bool) :=
  match parseIpv6Packet (frame.drop offset) .strict with
  | .error error => .error error
  | .ok packet =>
    let fields := [passiveField .sourceIpv6 (ipv6Octets packet.source),
      passiveField .destinationIpv6 (ipv6Octets packet.destination), passiveField .hopLimit [packet.hopLimit]]
    let fragmented := packet.fragment.isFragmented
    let (next, payload) := nextAndPayload packet
    if next = 17 ∧ !fragmented then
      match validatedUdpPayload payload (.ipv6 packet.source packet.destination) false
        validateTransportChecksumBytes with
      | .error error => .error error
      | .ok datagram =>
        let (protocol, fields) := classifyUdp readers datagram fields
        .ok (protocol, fields, fragmented)
    else if next = 58 then
      match checkIcmpv6 packet payload validateTransportChecksumBytes with
      | .error error => .error error
      | .ok () =>
        match classifyIcmpv6 payload fields with
        | .error error => .error error
        | .ok (protocol, fields) => .ok (protocol, fields, fragmented)
    else if next = 89 then .ok (.ospf, fields, fragmented)
    else if next = 112 then .ok (.vrrp, fields, fragmented)
    else .ok (.other, fields, fragmented)

/-! ### Frames -/

def bridgeGroupAddress : MacAddress := 0x0180c2000000

/-- The type, the place and the identifiers behind at most the given number of VLAN tags. -/
def passiveVlanTags (frame : Bytes) : Nat → UInt16 → Nat → List UInt16 → Except ParseError
    (UInt16 × Nat × List UInt16)
  | 0, etherType, offset, vlanIds => .ok (etherType, offset, vlanIds)
  | left + 1, etherType, offset, vlanIds =>
    if ¬ (etherType = 0x8100 ∨ etherType = 0x88a8) then .ok (etherType, offset, vlanIds)
    else if frame.length < offset + 4 then .error (.truncated .vlan (offset + 4) frame.length)
    else
      passiveVlanTags frame left (u16At frame (offset + 2)) (offset + 4) (vlanIds ++
        [u16At frame offset &&& 0x0fff])

/-- The protocol, the fields and whether the packet is a fragment, by the type of the frame. -/
def passiveContent (frame : Bytes) (etherType : UInt16) (offset : Nat) (validateTransportChecksumBytes : Bool) :
    Except ParseError (PassiveProtocol × List PassiveField × Bool) :=
  if etherType = 0x0806 then (arpFields frame offset).map fun fields => (.arp, fields, false)
  else if etherType = 0x0800 then ipv4Metadata readers frame offset validateTransportChecksumBytes
  else if etherType = 0x86dd then ipv6Metadata readers frame offset validateTransportChecksumBytes
  else if etherType = 0x88cc then (parseLldpFields (frame.drop offset)).map fun fields => (.lldp, fields, false)
  else if etherType = 0x8809 then .ok (.lacp, [], false)
  else if macAt frame 0 = bridgeGroupAddress then .ok (.stp, [], false)
  else .ok (.other, [], false)

def decodePassiveFrameWithChecksumPolicy (frame : Bytes) (originalLength : Nat)
    (validateTransportChecksumBytes : Bool) : Except ParseError PassivePacketMetadata :=
  if frame.length < 14 then .error (.truncated .link 14 frame.length)
  else
    match passiveVlanTags frame 2 (u16At frame 12) 14 [] with
    | .error error => .error error
    | .ok (etherType, offset, vlanIds) =>
      match passiveContent readers frame etherType offset validateTransportChecksumBytes with
      | .error error => .error error
      | .ok (protocol, fields, fragmented) => .ok {
          protocol
          etherType
          sourceMac := macAt frame 6
          destinationMac := macAt frame 0
          vlanIds
          fields
          fragmented
          truncated := originalLength > frame.length }

def decodePassiveFrame (frame : Bytes) (originalLength : Nat) : Except ParseError PassivePacketMetadata :=
  decodePassiveFrameWithChecksumPolicy readers frame originalLength true

/-! ### Fragments -/

/-- What the header of an IP packet gives. -/
def FieldName.isIpHeader : FieldName → Bool
  | sourceIpv4 | destinationIpv4 | sourceIpv6 | destinationIpv6 | hopLimit => true
  | _ => false

/-- The protocols that are told by looking at the payload. -/
def PassiveProtocol.inspectsPayload : PassiveProtocol → Bool
  | dhcpv4 | dhcpv6 | mdns | llmnr | nbns | ssdp | wsDiscovery | rip | routerAdvertisement | routerSolicitation
  | ipv6NeighborDiscovery | ipv6Redirect | mld => true
  | _ => false

/-- The payload of a packet starts with an ICMPv6 message. -/
def reachesIcmpv6 : Except ParseError ParsedIpv6Packet → Bool
  | .error _ => false
  | .ok packet =>
    match packet.upperLayer with
    | .reachable protocol _ _ => decide (protocol = 58)
    | _ => false

theorem reachesIcmpv6_iff :
    reachesIcmpv6 (.ok packet) = true ↔
    ∃ payload fragment, packet.upperLayer = .reachable 58 payload fragment := by
  rw [reachesIcmpv6]
  cases packet.upperLayer <;> simp

/-- The frame has an IPv6 packet that starts with an ICMPv6 message behind its extensions. -/
def carriesIcmpv6 (frame : Bytes) : Bool :=
  match passiveVlanTags frame 2 (u16At frame 12) 14 [] with
  | .error _ => false
  | .ok (etherType, offset, _) =>
    decide (etherType = 0x86dd) && reachesIcmpv6 (parseIpv6Packet (frame.drop offset) .strict)

/-- Only the header of an IP packet has been read. -/
def HeaderOnly (protocol : PassiveProtocol) (fields : List PassiveField) : Prop :=
  (∀ f ∈ fields, f.name.isIpHeader = true) ∧ protocol.inspectsPayload = false

variable {fields : List PassiveField} {protocol : PassiveProtocol}

private theorem headerOnly_of (hfields : fields.all (·.name.isIpHeader) = true)
    (hprotocol : protocol.inspectsPayload = false) :
    HeaderOnly protocol fields := ⟨List.all_eq_true.mp hfields, hprotocol⟩

private theorem ipv4Metadata_fragmented {frame : Bytes} {offset : Nat} {policy : Bool}
    (h : ipv4Metadata readers frame offset policy = .ok (protocol, fields, true)) :
    HeaderOnly protocol fields := by
  unfold ipv4Metadata at h
  split at h
  · cases h
  next packet hpacket =>
  dsimp only at h
  generalize packet.fragment.isFragmented = fragmented at h
  iterate 3
    split at h
    · cases h
      exact headerOnly_of rfl rfl
  split at h
  next hudp =>
    -- a datagram is only looked at in a whole packet
    split at h
    · split at h
      · cases h
      · obtain rfl : fragmented = true := congrArg (fun r => r.2.2) (Except.ok.inj h)
        exact absurd hudp.2 (by decide)
    · cases h
      exact headerOnly_of rfl rfl
  · cases h
    exact headerOnly_of rfl rfl

private theorem unknown_ne_icmpv6 {input : Bytes} {packet : ParsedIpv6Packet} {protocol : UInt8} {payload : Bytes}
    {fragment : FragmentState} (h : parseIpv6Packet input .strict = .ok packet)
    (hupper : packet.upperLayer = .unknown protocol payload fragment) : protocol ≠ 58 := by
  obtain ⟨w, haccepts, rfl⟩ := parseIpv6Packet_eq_ok_iff.mp h
  change classifyUpperLayer _ _ _ _ = _ at hupper
  unfold classifyUpperLayer at hupper
  rintro rfl
  iterate 3
    split at hupper
    · cases hupper
  split at hupper
  · split at hupper <;> cases hupper
  next hminimum =>
  obtain ⟨hprotocol, -, -⟩ := UpperLayerState.unknown.inj hupper
  rw [hprotocol] at hminimum
  exact absurd hminimum (by decide)

private theorem icmpv6Type_mem_of_classifyIcmpv6 {payload : Bytes} {fields' : List PassiveField}
    (h : classifyIcmpv6 payload fields = .ok (protocol, fields')) :
    payload ≠ [] ∧ ∃ f ∈ fields', f.name = .icmpv6Type := by
  cases payload with
  | nil => cases h
  | cons kind rest =>
    refine ⟨List.cons_ne_nil _ _, passiveField .icmpv6Type [kind], ?_, rfl⟩
    have hextend : ∀ {parsed : Except ParseError (List PassiveField)} {candidate : PassiveProtocol},
        extendFields (fields ++ [passiveField .icmpv6Type [kind]]) parsed candidate = .ok (protocol, fields') →
          passiveField .icmpv6Type [kind] ∈ fields' := by
      intro parsed candidate hextend
      cases parsed with
      | error e => cases hextend
      | ok more =>
        cases hextend
        simp
    unfold classifyIcmpv6 at h
    dsimp only at h
    split at h
    · cases h
      simp
    split at h
    · cases h
      simp
    iterate 3
      split at h
      · exact hextend h
    · cases h
      simp

private theorem ipv6Metadata_fragmented {frame : Bytes} {offset : Nat} {policy : Bool}
    (h : ipv6Metadata readers frame offset policy = .ok (protocol, fields, true)) :
    HeaderOnly protocol fields ↔ reachesIcmpv6 (parseIpv6Packet (frame.drop offset) .strict) = false := by
  unfold ipv6Metadata at h
  split at h
  · cases h
  next packet hpacket =>
  rw [hpacket, ← Bool.not_eq_true, reachesIcmpv6_iff]
  have hother : (nextAndPayload packet).1 ≠ 58 →
      ¬ ∃ payload fragment, packet.upperLayer = .reachable 58 payload fragment := by
    rintro hnext ⟨payload, fragment, hupper⟩
    exact hnext (by rw [nextAndPayload, hupper])
  dsimp only at h
  generalize packet.fragment.isFragmented = fragmented at h
  split at h
  next hudp =>
    split at h
    · cases h
    · obtain rfl : fragmented = true := congrArg (fun r => r.2.2) (Except.ok.inj h)
      exact absurd hudp.2 (by decide)
  split at h
  next hicmpv6 =>
    split at h
    · cases h
    split at h
    · cases h
    next protocol' fields' hclassify =>
    cases h
    obtain ⟨hpayload, f, hf, hname⟩ := icmpv6Type_mem_of_classifyIcmpv6 hclassify
    have hreachable : ∃ payload fragment, packet.upperLayer = .reachable 58 payload fragment := by
      cases hupper : packet.upperLayer with
      | reachable next payload fragment =>
        have hprotocol : next = 58 := by rwa [nextAndPayload, hupper] at hicmpv6
        exact ⟨payload, fragment, by rw [hprotocol]⟩
      | unknown next payload fragment =>
        have hprotocol : next = 58 := by rwa [nextAndPayload, hupper] at hicmpv6
        exact absurd hprotocol (unknown_ne_icmpv6 hpacket hupper)
      | insufficient | nonFirstFragment | esp | noNextHeader =>
        rw [nextAndPayload, hupper] at hpayload
        exact absurd rfl hpayload
    refine ⟨fun hheaders => ?_, fun hnone => absurd hreachable hnone⟩
    have hheader := hheaders.1 f hf
    rw [hname] at hheader
    cases hheader
  next hnot =>
  -- a payload that is not that of ICMPv6 leaves the header alone
  split at h
  · cases h
    exact iff_of_true (headerOnly_of rfl rfl) (hother hnot)
  split at h <;> (cases h; exact iff_of_true (headerOnly_of rfl rfl) (hother hnot))

variable {readers} in
/-- Of a fragment, only the header of its packet is read, exactly if it is not an IPv6 packet that starts with an
ICMPv6 message. -/
theorem decodePassiveFrame_fragmented {frame : Bytes} {originalLength : Nat} {policy : Bool}
    {m : PassivePacketMetadata}
    (h : decodePassiveFrameWithChecksumPolicy readers frame originalLength policy = .ok m)
    (hfragmented : m.fragmented = true) :
    ((∀ f ∈ m.fields, f.name.isIpHeader = true) ∧ m.protocol.inspectsPayload = false) ↔
    carriesIcmpv6 frame = false := by
  unfold decodePassiveFrameWithChecksumPolicy at h
  obtain ⟨-, h⟩ := ite_error_eq_ok.mp h
  unfold carriesIcmpv6
  split at h
  · cases h
  next etherType offset vlanIds htags =>
  split at h
  · cases h
  next protocol fields fragmented hcontent =>
  cases h
  obtain rfl : fragmented = true := hfragmented
  change HeaderOnly protocol fields ↔ _
  unfold passiveContent at hcontent
  by_cases hipv6 : etherType = 0x86dd
  · subst hipv6
    simp +decide only [reduceIte] at hcontent
    rw [ipv6Metadata_fragmented readers hcontent, decide_eq_true rfl, Bool.true_and]
  rw [decide_eq_false hipv6, Bool.false_and]
  refine iff_of_true ?_ rfl
  have hwhole : ∀ {parsed : Except ParseError (List PassiveField)} {candidate : PassiveProtocol},
      parsed.map (fun fields => (candidate, fields, false)) ≠ .ok (protocol, fields, true) := by
    intro parsed candidate
    cases parsed <;> simp [Except.map]
  split at hcontent
  · exact absurd hcontent hwhole
  split at hcontent
  · exact ipv4Metadata_fragmented readers hcontent
  split at hcontent
  · exact absurd hcontent hwhole
  split at hcontent
  · cases hcontent
  split at hcontent <;> cases hcontent

end Readers

def noReaders : PassiveReaders := ⟨fun _ _ => .eof, fun _ => none⟩

/-- The first fragment of an IPv6 packet, between link-local addresses. -/
def fragmentFrame (protocol : UInt8) (payload : Bytes) : Bytes :=
  macOctets 2 ++ (macOctets 3 ++ ([0x86, 0xdd, 0x60, 0, 0, 0, 0, UInt8.ofNat (8 + payload.length), 44, 255] ++
    (ipv6Octets 0xfe800000000000000000000000000001 ++ (ipv6Octets 0xfe800000000000000000000000000002 ++
      ([protocol, 0, 0, 1, 0, 0, 0, 7] ++ payload)))))

/-- The first bytes of a datagram to the port of a name service. -/
def fragmentedDatagram : Bytes := fragmentFrame 17 [0x13, 0x88, 0x14, 0xe9, 0, 100, 0, 0]

def fragmentedDatagramMetadata : PassivePacketMetadata where
  protocol := .other
  etherType := 0x86dd
  sourceMac := 3
  destinationMac := 2
  vlanIds := []
  fields := [passiveField .sourceIpv6 (ipv6Octets 0xfe800000000000000000000000000001),
    passiveField .destinationIpv6 (ipv6Octets 0xfe800000000000000000000000000002), passiveField .hopLimit [255]]
  fragmented := true
  truncated := false

theorem decodePassiveFrame_fragmented_datagram :
    decodePassiveFrame noReaders fragmentedDatagram 70 = .ok fragmentedDatagramMetadata ∧
      (∀ f ∈ fragmentedDatagramMetadata.fields, f.name.isIpHeader = true) ∧
      fragmentedDatagramMetadata.protocol.inspectsPayload = false := by
  have hdecode : decodePassiveFrameWithChecksumPolicy noReaders fragmentedDatagram 70 true =
      .ok fragmentedDatagramMetadata := by decide +kernel
  exact ⟨hdecode, (decodePassiveFrame_fragmented hdecode rfl).mpr (by decide +kernel)⟩

/-- A neighbor solicitation at the start of a fragment that announces more. -/
def fragmentedSolicitation (checksum : UInt16) : Bytes :=
  fragmentFrame 58 ([135, 0] ++ (be16 checksum ++ ([0, 0, 0, 0] ++ ipv6Octets 0xfe800000000000000000000000000002)))

/-- It is read as neighbor discovery, although it is a fragment. -/
theorem fragment_read_as_neighbor_discovery :
    (decodePassiveFrame noReaders (fragmentedSolicitation 32037) 86).map
        (fun m => (m.protocol, m.fragmented, m.fields.map (·.name))) =
      .ok (.ipv6NeighborDiscovery, true, [.sourceIpv6, .destinationIpv6, .hopLimit, .icmpv6Type,
        .ndpTargetAddress]) := by
  decide +kernel

end NodeNet.Protocols.Passive
