import NodeNet.Discovery.Dns
import NodeNet.Discovery.Session

/-!
# Multicast DNS

The context of a multicast DNS query collects the services that responses announce, and asks about each new name
itself (`MdnsContext.schedule`).  After every response it answers one row per service (`MdnsContext.parseRows`).

Names go from the wire to text and back.  The question asks about the announced name exactly if there is no full
stop in one of its labels (`follow_up_asks_announced`).
-/

namespace NodeNet.Discovery

open Engine (IpAddress)

instance instLinearOrderUInt16 : LinearOrder UInt16 := LinearOrder.lift' UInt16.toNat fun _ _ h =>
    UInt16.toNat_inj.1 h

def maxMdnsQueriesPerScopeMember : Nat := 256

def ascii (text : String) : Bytes := text.toList.map fun c => UInt8.ofNat c.toNat

/-- The name under which the types of services are enumerated. -/
def enumerationName : Bytes := wireName [ascii "_services", ascii "_dns-sd", ascii "_udp", ascii "local"]

structure MdnsService where
  serviceType : Option Bytes := none
  instanceName : Option Bytes := none
  targetWire : Option Bytes := none
  target : Option Bytes := none
  port : Option UInt16 := none
  addresses : OrdSet Bytes := OrdSet.empty
  txt : List NativeDiscoveryMetadataField := []
  ttls : OrdSet Nat := OrdSet.empty
  partialWireResponse : Bool := false

structure MdnsContext where
  initialTransactionId : UInt16
  nextTransactionId : UInt16
  outstanding : OrdMap UInt16 (Bytes × UInt16)
  scheduled : OrdSet (Bytes ×ₗ UInt16)
  queued : List OutboundDatagram
  services : OrdMap Bytes MdnsService

namespace MdnsContext

def new (transactionId : UInt16) : MdnsContext where
  initialTransactionId := transactionId
  nextTransactionId := max (transactionId + 1) 1
  outstanding := (∅ : OrdMap UInt16 (Bytes × UInt16)).insert transactionId (enumerationName, 12)
  scheduled := OrdSet.empty.insert (toLex (enumerationName, 12))
  queued := []
  services := ∅

/-- The first identifier from `id` on that is neither zero nor in use. -/
def freeTransaction (outstanding : OrdMap UInt16 (Bytes × UInt16)) : Nat → UInt16 → Option UInt16
  | 0, _ => none
  | tries + 1, id =>
    if id = 0 ∨ outstanding.contains id then freeTransaction outstanding tries (id + 1) else some id

/-- Queues a query about a name, unless there was one already. -/
def schedule (context : MdnsContext) (nameWire : Bytes) (nameText : Option Bytes) (queryType : UInt16)
    (destination : SocketAddr) : MdnsContext :=
  match nameText with
  | none => context
  | some nameText =>
    if context.scheduled.elements.length ≥ maxMdnsQueriesPerScopeMember ∨
        toLex (nameWire, queryType) ∈ context.scheduled then context
    else
      let context := { context with scheduled := context.scheduled.insert (toLex (nameWire, queryType)) }
      match freeTransaction context.outstanding 65536 context.nextTransactionId with
      | none => context
      | some transactionId =>
        let context := { context with nextTransactionId := max (transactionId + 1) 1 }
        match buildDiscoveryDnsQuery transactionId nameText queryType true with
        | .error _ => context
        | .ok bytes =>
          { context with
            outstanding := context.outstanding.insert transactionId (nameWire, queryType)
            queued := context.queued ++ [⟨bytes, destination, .adaptiveQuery⟩] }

end MdnsContext

/-! ### Responses -/

/-- A name to ask about, and the type of the query. -/
structure Schedule where
  nameWire : Bytes
  nameText : Option Bytes
  queryType : UInt16

section Rows

variable (display : IpAddress → Bytes)

/-- Notes the lifetime of a record and whether its message was complete. -/
def MdnsService.noteRecord (service : MdnsService) (ttl : UInt32) (truncated : Bool) : MdnsService :=
  { service with
    ttls := service.ttls.insert ttl.toNat
    partialWireResponse := service.partialWireResponse || truncated }

/-- Adds an address to the services at a host. -/
def addHostAddress (services : OrdMap Bytes MdnsService) (host : Bytes) (address : IpAddress) (ttl : UInt32)
    (truncated : Bool) : OrdMap Bytes MdnsService :=
  services.mapValues fun service =>
    if service.targetWire = some host then
      { service with addresses := service.addresses.insert (display address) }.noteRecord ttl truncated
    else service

/-- Takes over what a record says of the services. -/
def applyRecord (truncated : Bool) (services : OrdMap Bytes MdnsService) (record : DiscoveryDnsRecord) :
    OrdMap Bytes MdnsService :=
  match record.data with
  | .ptr name =>
    if record.name.canonicalWire = enumerationName then services
    else
      let service := (services.get? name.canonicalWire).getD {}
      services.insert name.canonicalWire
        ({ service with serviceType := record.name.text, instanceName := name.text }.noteRecord
          record.ttl truncated)
  | .srv _ _ port target =>
    let service := (services.get? record.name.canonicalWire).getD {}
    services.insert record.name.canonicalWire
      ({ service with
        instanceName := record.name.text
        targetWire := some target.canonicalWire
        target := target.text
        port := some port }.noteRecord record.ttl truncated)
  | .txt entries =>
    let service := (services.get? record.name.canonicalWire).getD {}
    services.insert record.name.canonicalWire
      ({ service with
        instanceName := record.name.text
        txt := entries.foldl
          (fun txt (entry : DiscoveryDnsTxtEntry) => addDistinct txt ⟨entry.key, entry.value, entry.textValue⟩)
          service.txt }.noteRecord record.ttl truncated)
  | .a address =>
    addHostAddress display services record.name.canonicalWire (.v4 (BitVec.ofNat 32 (beValue address)))
      record.ttl truncated
  | .aaaa address =>
    addHostAddress display services record.name.canonicalWire (.v6 (BitVec.ofNat 128 (beValue address))) record.ttl
      truncated
  | .unknown => services

/-- The names a record gives cause to ask about. -/
def schedulesOf (record : DiscoveryDnsRecord) : List Schedule :=
  match record.data with
  | .ptr name =>
    if record.name.canonicalWire = enumerationName then [⟨name.canonicalWire, name.text, 12⟩]
    else [⟨name.canonicalWire, name.text, 33⟩, ⟨name.canonicalWire, name.text, 16⟩]
  | .srv _ _ _ target => [⟨target.canonicalWire, target.text, 1⟩, ⟨target.canonicalWire, target.text, 28⟩]
  | _ => []

def fieldText (key : String) (value : Bytes) : NativeDiscoveryMetadataField := ⟨ascii key, value, some value⟩

/-- A datagram with a response to a multicast DNS query. -/
structure MdnsDatagram where
  source : SocketAddr
  interfaceIndex : Option Nat
  hopLimit : Option Nat
  bytes : Bytes
deriving DecidableEq

/-- The row for an identity, before what is special to the operation. -/
def baseRow (datagram : MdnsDatagram) (identity : Bytes) (metadata : List NativeDiscoveryMetadataField) :
    Option NativeDiscoveryRow :=
  boundedRow
    { operationId := 1
      outcome := .complete
      responder := display datagram.source.ip
      responderPort := datagram.source.port
      interfaceIndex := datagram.interfaceIndex
      identity := identity
      addresses := [display datagram.source.ip]
      metadata :=
        metadata ++ (datagram.hopLimit.map fun value => fieldText "receivedHopLimit" (decimal value)).toList
      truncated := false }

def MdnsService.metadata (service : MdnsService) : List NativeDiscoveryMetadataField :=
  (service.instanceName.map (fieldText "instance")).toList ++
    (service.serviceType.map (fieldText "serviceType")).toList ++
    (service.target.map (fieldText "target")).toList ++
    (service.port.map fun value => fieldText "port" (decimal value.toNat)).toList ++
    service.ttls.elements.map (fun ttl => fieldText "ttl" (decimal ttl)) ++ service.txt

def serviceRow (datagram : MdnsDatagram) (identity : Bytes) (service : MdnsService) : Option NativeDiscoveryRow :=
  (baseRow display datagram identity service.metadata).map fun row =>
    let row := { row with addresses := service.addresses.elements }
    if service.port.isNone || service.target.isNone || service.addresses.elements.isEmpty ||
      service.partialWireResponse
    then { row with outcome := .partially }
    else row

/-- The response, if the datagram answers a query of the context. -/
def MdnsContext.response (context : MdnsContext) (datagram : MdnsDatagram) : Option DiscoveryDnsMessage :=
  match parseDiscoveryDnsMessage datagram.bytes with
  | .error _ => none
  | .ok message => if message.isResponse && context.outstanding.contains message.id then some message else none

def MdnsContext.absorb (context : MdnsContext) (destination : SocketAddr) (message : DiscoveryDnsMessage) :
    MdnsContext :=
  let services := message.records.foldl (applyRecord display message.truncated) context.services
  (message.records.flatMap schedulesOf).foldl
    (fun context entry => context.schedule entry.nameWire entry.nameText entry.queryType destination)
    { context with services }

/-- The rows for a datagram, one for each service of the context, and the context after it. -/
def MdnsContext.parseRows (context : MdnsContext) (destination : SocketAddr) (datagram : MdnsDatagram) :
    Option (List NativeDiscoveryRow) × MdnsContext :=
  match context.response datagram with
  | none => (none, context)
  | some message =>
    let context := context.absorb display destination message
    (context.services.entries.mapM fun entry => serviceRow display datagram entry.1 entry.2, context)

end Rows

/-! ### Follow-up questions -/

/-- The labels of a name on the wire, read for at most so many labels. -/
def wireLabelsFrom : Nat → Bytes → List Bytes
  | 0, _ => []
  | _, [] => []
  | count + 1, length :: rest =>
    if length = 0 then [] else rest.take length.toNat :: wireLabelsFrom count (rest.drop length.toNat)

def wireLabels (wire : Bytes) : List Bytes := wireLabelsFrom wire.length wire

/-- No label of the name has a full stop in it. -/
def StopFree (wire : Bytes) : Prop := ∀ label ∈ wireLabels wire, fullStop ∉ label

instance (wire : Bytes) : Decidable (StopFree wire) := inferInstanceAs (Decidable (∀ label ∈ wireLabels wire, _))

private theorem wireLabelsFrom_wireName {labels : List Bytes} (hvalid : ∀ label ∈ labels, ValidLabel label)
    {count : Nat} (hcount : labels.length < count) : wireLabelsFrom count (wireName labels) = labels := by
  induction labels generalizing count with
  | nil =>
    cases count with
    | zero => cases hcount
    | succ count => rfl
  | cons label labels ih =>
    rw [List.forall_mem_cons] at hvalid
    obtain ⟨count, rfl⟩ : ∃ n, count = n + 1 := ⟨count - 1, by omega⟩
    rw [wireName_cons, wireLabelsFrom, if_neg (ofNat_length_ne_zero hvalid.1), toNat_ofNat_length hvalid.1,
      List.take_left, List.drop_left, ih hvalid.2 (Nat.lt_of_succ_lt_succ hcount)]

theorem wireLabels_wireName {labels : List Bytes} (hvalid : ∀ label ∈ labels, ValidLabel label) :
    wireLabels (wireName labels) = labels :=
  wireLabelsFrom_wireName hvalid (length_lt_length_wireName labels)

theorem stopFree_wireName_lowercase {labels : List Bytes} (hvalid : ∀ label ∈ labels, ValidLabel label) :
    StopFree (wireName (labels.map lowercase)) ↔ ∀ label ∈ labels, fullStop ∉ label := by
  have hlower : ∀ label ∈ labels.map lowercase, ValidLabel label :=
    List.forall_mem_map.2 fun label hmem => validLabel_lowercase.2 (hvalid label hmem)
  rw [StopFree, wireLabels_wireName hlower, List.forall_mem_map]
  refine forall₂_congr fun label _ => ?_
  rw [fullStop_mem_lowercase]

/-- A decoded name is asked about under its own text exactly if no label has a full stop in it. -/
theorem encodeName_decoded {input : Bytes} {start consumed : Nat} {name : DiscoveryDnsName} {text : Bytes}
    (hname : decodeName input start = .ok (name, consumed)) (htext : name.text = some text) :
    (∃ output, encodeName text = .ok output ∧ lowercase output = name.canonicalWire) ↔
    StopFree name.canonicalWire := by
  obtain ⟨labels, _, hexpands, -, hshort, rfl⟩ := decodeName_eq_ok_iff.1 hname
  have hvalid := hexpands.validLabel
  rw [expandedName, Option.ite_none_right_eq_some, Option.some.injEq] at htext
  rw [← htext.2, expandedName, lowercase_wireName hvalid, encodeName_presentation hvalid hshort,
    stopFree_wireName_lowercase hvalid]

/-- What scheduling a name does: nothing to the queue, or a query under a new identifier. -/
theorem MdnsContext.schedule_cases (context : MdnsContext) (nameWire : Bytes) (nameText : Option Bytes)
    (queryType : UInt16) (destination : SocketAddr) :
    (context.schedule nameWire nameText queryType destination).queued = context.queued ∨
      ∃ text id bytes, nameText = some text ∧ buildDiscoveryDnsQuery id text queryType true = .ok bytes ∧
        (context.schedule nameWire nameText queryType destination).queued =
          context.queued ++ [⟨bytes, destination, .adaptiveQuery⟩] ∧
        (context.schedule nameWire nameText queryType destination).outstanding =
          context.outstanding.insert id (nameWire, queryType) := by
  unfold schedule
  cases nameText with
  | none => exact Or.inl rfl
  | some text =>
    simp only
    split
    · exact Or.inl rfl
    split
    · exact Or.inl rfl
    next id _ =>
    cases hbuild : buildDiscoveryDnsQuery id text queryType true with
    | error error => exact Or.inl rfl
    | ok bytes => exact Or.inr ⟨text, id, bytes, rfl, hbuild, rfl, rfl⟩

/-- The question that is queued for a decoded name is read back as one question, about the name that is recorded
for its identifier exactly if no label of the name has a full stop in it; and so it is for the text of the name by
itself. -/
theorem follow_up_asks_announced (input : Bytes) (start consumed : Nat) (name : DiscoveryDnsName)
    (hname : decodeName input start = .ok (name, consumed)) :
    (∀ (context : MdnsContext) (queryType : UInt16) (destination : SocketAddr) (outbound : OutboundDatagram),
      (context.schedule name.canonicalWire name.text queryType destination).queued = context.queued ++ [outbound] →
      ∃ message question,
        parseDiscoveryDnsMessage outbound.bytes = .ok message ∧ message.questions = [question] ∧
        (context.schedule name.canonicalWire name.text queryType destination).outstanding.get? message.id =
          some (name.canonicalWire, queryType) ∧
        (question.name.canonicalWire = name.canonicalWire ↔ StopFree name.canonicalWire)) ∧
    ∀ text, name.text = some text →
      ((∃ output, encodeName text = .ok output ∧ lowercase output = name.canonicalWire) ↔
        StopFree name.canonicalWire) := by
  refine ⟨fun context queryType destination outbound hqueued => ?_, fun text htext =>
    encodeName_decoded hname htext⟩
  rcases context.schedule_cases name.canonicalWire name.text queryType destination with
    hsame | ⟨text, id, bytes, htext, hbuild, hnew, houtstanding⟩
  · rw [hsame] at hqueued
    have hlength := congrArg List.length hqueued
    rw [List.length_append, List.length_singleton] at hlength
    omega
  rw [hnew] at hqueued
  obtain rfl := List.singleton_inj.1 (List.append_cancel_left hqueued)
  obtain ⟨encoded, text', hencode, hparse⟩ := parse_build hbuild
  refine ⟨_, _, hparse, rfl, ?_, ?_⟩
  · rw [houtstanding, OrdMap.get?_insert_self]
  rw [← encodeName_decoded hname htext]
  constructor
  · exact fun heq => ⟨encoded, hencode, heq⟩
  rintro ⟨output, houtput, heq⟩
  rw [hencode] at houtput
  cases houtput
  exact heq

/-- The host and port to which multicast DNS queries are sent. -/
def mdnsGroup : SocketAddr := ⟨.v4 0xe00000fb, 5353⟩

/-- What is asked in the queued datagrams. -/
def MdnsContext.askedNames (context : MdnsContext) : List (Option (UInt16 × List Bytes)) :=
  context.queued.map fun outbound =>
    (parseDiscoveryDnsMessage outbound.bytes).toOption.map fun message =>
      (message.id, message.questions.map fun question => question.name.canonicalWire)

/-- A name of plain labels is asked about. -/
theorem follow_up_asks_announced_plain :
    (((MdnsContext.new 1).schedule (wireName [ascii "tv"]) (some (ascii "TV.")) 33 mdnsGroup).askedNames =
      [some (2, [wireName [ascii "tv"]])]) ∧
    ((∃ output, encodeName (ascii "TV.") = .ok output ∧ lowercase output = wireName [ascii "tv"]) ↔
      StopFree (wireName [ascii "tv"])) :=
  ⟨by decide +kernel,
    (follow_up_asks_announced (wireName [ascii "TV"]) 0 4 ⟨wireName [ascii "tv"], some (ascii "TV.")⟩
    (by decide +kernel)).2 _ rfl⟩

/-- An instance whose one label is `a.b` is asked about as `b` in the domain `a`. -/
theorem follow_up_splits_label :
    decodeName (wireName [ascii "a.b"]) 0 = .ok (⟨wireName [ascii "a.b"], some (ascii "a.b.")⟩, 5) ∧
    ((MdnsContext.new 1).schedule (wireName [ascii "a.b"]) (some (ascii "a.b.")) 33 mdnsGroup).askedNames =
      [some (2, [wireName [ascii "a", ascii "b"]])] ∧
    ((MdnsContext.new 1).schedule (wireName [ascii "a.b"]) (some (ascii "a.b.")) 33 mdnsGroup).outstanding.get? 2 =
      some (wireName [ascii "a.b"], 33) := by
  decide +kernel

end NodeNet.Discovery
