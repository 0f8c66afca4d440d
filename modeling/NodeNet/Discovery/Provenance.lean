import NodeNet.Discovery.Mdns

/-!
# Who announced a service

The services of a multicast DNS context come from all responders that have answered, and every response is answered
with a row for each of them under the name of the responder that sent it.  So the rows of a response name exactly
the services that the responses up to it have announced (`history_rows`), and a responder is credited with its own
services alone exactly if it has announced every service that was announced before (`responders_credited_iff`).
-/

namespace NodeNet.Discovery

open List
open Engine (IpAddress)

/-! ### Announcements -/

/-- The services a record announces. -/
def announcedNames (record : DiscoveryDnsRecord) : List Bytes :=
  match record.data with
  | .ptr name => [name.canonicalWire]
  | .srv _ _ _ _ | .txt _ => [record.name.canonicalWire]
  | _ => []

/-- The services a record adds to a context: what an enumeration lists are types of services. -/
def serviceNames (record : DiscoveryDnsRecord) : List Bytes :=
  match record.data with
  | .ptr name => if record.name.canonicalWire = enumerationName then [] else [name.canonicalWire]
  | .srv _ _ _ _ | .txt _ => [record.name.canonicalWire]
  | _ => []

theorem announcedNames_of_serviceNames {record : DiscoveryDnsRecord} {name : Bytes}
    (h : name ∈ serviceNames record) : name ∈ announcedNames record := by
  unfold serviceNames at h
  unfold announcedNames
  cases hdata : record.data with
  | ptr target =>
    simp only [hdata] at h
    split at h
    · exact absurd h not_mem_nil
    · exact h
  | srv | txt | a | aaaa | unknown => simpa only [hdata] using h

variable (datagram : MdnsDatagram)

def MdnsDatagram.records : List DiscoveryDnsRecord :=
  match parseDiscoveryDnsMessage datagram.bytes with
  | .ok message => message.records
  | .error _ => []

variable (name : Bytes)

def MdnsDatagram.Announces : Prop := name ∈ datagram.records.flatMap announcedNames

def MdnsDatagram.Adds : Prop := name ∈ datagram.records.flatMap serviceNames

instance : Decidable (datagram.Announces name) := inferInstanceAs (Decidable (_ ∈ _))

instance : Decidable (datagram.Adds name) := inferInstanceAs (Decidable (_ ∈ _))

theorem MdnsDatagram.Adds.announces {datagram : MdnsDatagram} {name : Bytes} (h : datagram.Adds name) :
    datagram.Announces name := by
  obtain ⟨record, hrecord, hname⟩ := mem_flatMap.1 h
  exact mem_flatMap.2 ⟨record, hrecord, announcedNames_of_serviceNames hname⟩

/-! ### Names in messages -/

private theorem bind_eq_ok {α β : Type} {x : Except DiscoveryDnsError α}
    {f : α → Except DiscoveryDnsError β} {b : β} : (x >>= f) = .ok b ↔ ∃ a, x = .ok a ∧ f a = .ok b := by
  cases x <;> simp [bind, Except.bind]

/-- A name that fits in the identity of a row. -/
def FitsIdentity : Prop := name ≠ [] ∧ name.length ≤ 1024

theorem fitsIdentity_of_decodeName {input : Bytes} {start consumed : Nat} {name : DiscoveryDnsName}
    (h : decodeName input start = .ok (name, consumed)) : FitsIdentity name.canonicalWire := by
  obtain ⟨labels, _, -, -, hshort, rfl⟩ := decodeName_eq_ok_iff.1 h
  have hpos := length_lt_length_wireName labels
  have hbound : maxDiscoveryDnsNameBytes = 255 := rfl
  rw [FitsIdentity, ← length_pos_iff, expandedName, length_lowercase]
  omega

private theorem fitsIdentity_of_ptr {input : Bytes} {offset dataLength : Nat} {recordType : UInt16}
    {name : DiscoveryDnsName} (h : parseRecordData input offset dataLength recordType = .ok (.ptr name)) :
    FitsIdentity name.canonicalWire := by
  unfold parseRecordData at h
  split at h
  · cases h
  split at h
  · simp only [bind_eq_ok, ite_error_eq_ok] at h
    obtain ⟨⟨value, valueLength⟩, hdecode, -, h⟩ := h
    cases h
    exact fitsIdentity_of_decodeName hdecode
  split at h
  · obtain ⟨entries, -, h⟩ := bind_eq_ok.1 h
    cases h
  split at h
  · cases h
  split at h
  · simp only [bind_eq_ok] at h
    obtain ⟨priority, -, weight, -, port, -, ⟨target, targetLength⟩, -, h⟩ := h
    split at h <;> cases h
  · split at h <;> cases h

private theorem parseRecords_fit {input : Bytes} {count offset offset' : Nat} {records : List DiscoveryDnsRecord}
    (h : parseRecords input count offset = .ok (records, offset')) :
    ∀ record ∈ records, ∀ name ∈ serviceNames record, FitsIdentity name := by
  induction count generalizing offset records with
  | zero =>
    cases h
    exact fun _ hmem => absurd hmem not_mem_nil
  | succ count ih =>
    simp only [parseRecords, bind_eq_ok, ite_error_eq_ok] at h
    obtain ⟨⟨name, consumed⟩, hname, recordType, -, rawClass, -, ttl, -, dataLength, -, -, data,
      hdata, ⟨rest, end'⟩, hrest, h⟩ := h
    cases h
    refine forall_mem_cons.2 ⟨fun service hservice => ?_, ih hrest⟩
    -- the service is the owner of the record or what it points to
    unfold serviceNames at hservice
    cases data with
    | ptr target =>
      simp only at hservice
      split at hservice
      · exact absurd hservice not_mem_nil
      · rw [mem_singleton.1 hservice]
        exact fitsIdentity_of_ptr hdata
    | srv | txt =>
      rw [mem_singleton.1 hservice]
      exact fitsIdentity_of_decodeName hname
    | a | aaaa | unknown => exact absurd hservice not_mem_nil

theorem message_names_fit {bytes : Bytes} {message : DiscoveryDnsMessage}
    (h : parseDiscoveryDnsMessage bytes = .ok message) :
    ∀ record ∈ message.records, ∀ name ∈ serviceNames record, FitsIdentity name := by
  simp only [parseDiscoveryDnsMessage, ite_error_eq_ok, bind_eq_ok] at h
  obtain ⟨-, -, id, -, flags, -, questionCount, -, answerCount, -, authorityCount, -, additionalCount, -, -,
    ⟨questions, offset⟩, -, ⟨answers, offset1⟩, hanswers, ⟨authorities, offset2⟩, hauthorities,
    ⟨additionals, offset3⟩, hadditionals, -, h⟩ := h
  cases h
  intro record hrecord
  simp only [DiscoveryDnsMessage.records, mem_append] at hrecord
  rcases hrecord with (hrecord | hrecord) | hrecord
  · exact parseRecords_fit hanswers record hrecord
  · exact parseRecords_fit hauthorities record hrecord
  · exact parseRecords_fit hadditionals record hrecord

/-! ### Services -/

section Context

variable {display : IpAddress → Bytes} {destination : SocketAddr}

theorem mem_keys_applyRecord {truncated : Bool} {services : OrdMap Bytes MdnsService} {record : DiscoveryDnsRecord}
    {name : Bytes} : name ∈ (applyRecord display truncated services record).keys ↔
      name ∈ services.keys ∨ name ∈ serviceNames record := by
  have hinsert : ∀ (key : Bytes) (service : MdnsService),
      name ∈ (services.insert key service).keys ↔ name ∈ services.keys ∨ name = key := by
    intro key service
    simp only [OrdMap.mem_keys, OrdMap.get?_insert]
    by_cases heq : name = key <;> simp [heq]
  have hmap : ∀ f : MdnsService → MdnsService, (services.mapValues f).keys = services.keys := by
    intro f
    simp only [OrdMap.keys, OrdMap.mapValues, map_map]
    rfl
  unfold applyRecord serviceNames
  cases hdata : record.data with
  | ptr target =>
    simp only
    by_cases henumeration : record.name.canonicalWire = enumerationName
    · simp only [if_pos henumeration, not_mem_nil, or_false]
    · simp only [if_neg henumeration, hinsert, mem_singleton]
  | srv | txt => simp only [hinsert, mem_singleton]
  | a | aaaa => simp only [addHostAddress, hmap, not_mem_nil, or_false]
  | unknown => simp only [not_mem_nil, or_false]

private theorem mem_keys_foldl {truncated : Bool} {services : OrdMap Bytes MdnsService}
    (records : List DiscoveryDnsRecord) {name : Bytes} :
    name ∈ (records.foldl (applyRecord display truncated) services).keys ↔
      name ∈ services.keys ∨ name ∈ records.flatMap serviceNames := by
  induction records generalizing services with
  | nil => simp
  | cons record records ih =>
    rw [foldl_cons, ih, mem_keys_applyRecord, flatMap_cons, mem_append, or_assoc]

theorem MdnsContext.schedule_services (context : MdnsContext) (nameWire : Bytes) (nameText : Option Bytes)
    (queryType : UInt16) :
    (context.schedule nameWire nameText queryType destination).services = context.services := by
  unfold schedule
  split
  · rfl
  split
  · rfl
  simp only
  split
  · rfl
  · split <;> rfl

theorem MdnsContext.mem_keys_absorb {context : MdnsContext} {message : DiscoveryDnsMessage} {name : Bytes} :
    name ∈ (context.absorb display destination message).services.keys ↔
      name ∈ context.services.keys ∨ name ∈ message.records.flatMap serviceNames := by
  have hfold : ∀ (schedules : List Schedule) (context : MdnsContext),
      (schedules.foldl (fun context entry =>
        context.schedule entry.nameWire entry.nameText entry.queryType destination) context).services =
        context.services := by
    intro schedules
    induction schedules with
    | nil => exact fun _ => rfl
    | cons entry schedules ih => exact fun context => (ih _).trans (context.schedule_services _ _ _)
  rw [absorb, hfold]
  exact mem_keys_foldl message.records

/-! ### Rows of a response -/

theorem boundedRow_of_fits (row : NativeDiscoveryRow) (h : FitsIdentity row.identity) :
    ∃ row', boundedRow row = some row' ∧ row'.identity = row.identity ∧ row'.responder = row.responder := by
  have hok : ¬ (row.identity.isEmpty = true ∨ row.identity.length > 1024) := by
    rintro (hempty | hlong)
    · exact h.1 (List.isEmpty_iff.1 hempty)
    · exact absurd h.2 (Nat.not_le.2 hlong)
  unfold boundedRow
  rw [if_neg hok]
  refine ⟨_, rfl, ?_⟩
  simp only [NativeDiscoveryRow.markTruncated]
  repeat' split
  all_goals exact ⟨rfl, rfl⟩

theorem serviceRow_of_fits (display : IpAddress → Bytes) (datagram : MdnsDatagram) {identity : Bytes}
    (service : MdnsService) (h : FitsIdentity identity) :
    ∃ row, serviceRow display datagram identity service = some row ∧ row.identity = identity ∧
      row.responder = display datagram.source.ip := by
  obtain ⟨row, hrow, hboth⟩ : ∃ row, baseRow display datagram identity service.metadata = some row ∧
      row.identity = identity ∧ row.responder = display datagram.source.ip := boundedRow_of_fits _ h
  rw [serviceRow, hrow]
  refine ⟨_, rfl, ?_⟩
  simp only
  split
  · exact hboth
  · exact hboth

private theorem mapM_serviceRow (display : IpAddress → Bytes) (datagram : MdnsDatagram)
    {entries : List (Bytes × MdnsService)}
    (h : ∀ entry ∈ entries, FitsIdentity entry.1) :
    ∃ rows, (entries.mapM fun entry => serviceRow display datagram entry.1 entry.2) = some rows ∧
      rows.map NativeDiscoveryRow.identity = entries.map Prod.fst ∧
      ∀ row ∈ rows, row.responder = display datagram.source.ip := by
  induction entries with
  | nil => exact ⟨[], rfl, rfl, fun _ hmem => absurd hmem not_mem_nil⟩
  | cons entry entries ih =>
    obtain ⟨row, hrow, hidentity, hresponder⟩ := serviceRow_of_fits display datagram entry.2
      (h entry (mem_cons_self ..))
    obtain ⟨rows, hrows, hidentities, hresponders⟩ := ih (forall_mem_cons.1 h).2
    refine ⟨row :: rows, ?_, ?_, forall_mem_cons.2 ⟨hresponder, hresponders⟩⟩
    · rw [mapM_cons, hrow, hrows]
      rfl
    · rw [map_cons, map_cons, hidentity, hidentities]

/-- The services of the context can be the identities of rows. -/
def MdnsContext.Usable (context : MdnsContext) : Prop := ∀ name ∈ context.services.keys, FitsIdentity name

/-- A response is answered with rows for the services known before and those it adds. -/
theorem MdnsContext.parseRows_spec (display : IpAddress → Bytes) (destination : SocketAddr) {context : MdnsContext}
    (h : context.Usable) (datagram : MdnsDatagram) :
    (context.parseRows display destination datagram = (none, context)) ∨
      ∃ rows next, context.parseRows display destination datagram = (some rows, next) ∧ next.Usable ∧
        (∀ row ∈ rows, row.responder = display datagram.source.ip) ∧
        (∀ name, name ∈ rows.map NativeDiscoveryRow.identity ↔ name ∈ next.services.keys) ∧
        ∀ name, name ∈ next.services.keys ↔ name ∈ context.services.keys ∨ datagram.Adds name := by
  unfold parseRows
  cases hresponse : context.response datagram with
  | none => exact Or.inl rfl
  | some message =>
    have hparse : parseDiscoveryDnsMessage datagram.bytes = .ok message := by
      unfold response at hresponse
      split at hresponse
      · cases hresponse
      next message' hmessage =>
      split at hresponse
      · cases hresponse
        exact hmessage
      · cases hresponse
    have hadds : ∀ name, name ∈ message.records.flatMap serviceNames ↔ datagram.Adds name := by
      intro name
      rw [MdnsDatagram.Adds, MdnsDatagram.records, hparse]
    have hkeys : ∀ name, name ∈ (context.absorb display destination message).services.keys ↔
        name ∈ context.services.keys ∨ datagram.Adds name := by
      intro name
      rw [mem_keys_absorb, hadds]
    have husable : (context.absorb display destination message).Usable := by
      intro name hname
      rcases mem_keys_absorb.1 hname with hold | hnew
      · exact h name hold
      · obtain ⟨record, hrecord, hname⟩ := mem_flatMap.1 hnew
        exact message_names_fit hparse record hrecord name hname
    have hentries : ∀ entry ∈ (context.absorb display destination message).services.entries,
      FitsIdentity entry.1 :=
      fun entry hentry => husable entry.1 (mem_map_of_mem hentry)
    obtain ⟨rows, hrows, hidentities, hresponders⟩ := mapM_serviceRow display datagram hentries
    refine Or.inr ⟨rows, _, by simp only [hrows], husable, hresponders, fun name => ?_, hkeys⟩
    rw [hidentities]
    rfl

end Context

/-! ### Runs -/

/-- A datagram that was accepted, and the rows it was answered with. -/
structure Accepted where
  datagram : MdnsDatagram
  rows : List NativeDiscoveryRow

/-- The datagrams of a sequence that a context accepts. -/
def history (display : IpAddress → Bytes) (destination : SocketAddr) :
    MdnsContext → List MdnsDatagram → List Accepted
  | _, [] => []
  | context, datagram :: datagrams =>
    match context.parseRows display destination datagram with
    | (some rows, next) => ⟨datagram, rows⟩ :: history display destination next datagrams
    | (none, next) => history display destination next datagrams

variable {display : IpAddress → Bytes} {destination : SocketAddr}

/-- The rows of an accepted datagram bear its sender, and name the services announced until then. -/
theorem history_rows {context : MdnsContext} (h : context.Usable) {datagrams : List MdnsDatagram}
    {before after : List Accepted} {entry : Accepted}
    (hhistory : history display destination context datagrams = before ++ entry :: after) :
    (∀ row ∈ entry.rows, row.responder = display entry.datagram.source.ip) ∧
      ∀ name, name ∈ entry.rows.map NativeDiscoveryRow.identity ↔
        name ∈ context.services.keys ∨ ∃ accepted ∈ before ++ [entry], accepted.datagram.Adds name := by
  induction datagrams generalizing context before with
  | nil => exact absurd hhistory.symm (append_ne_nil_of_right_ne_nil _ (cons_ne_nil _ _))
  | cons datagram datagrams ih =>
    rcases MdnsContext.parseRows_spec display destination h datagram with
      hnone | ⟨rows, next, hrows, hnext, hresponders, hidentities, hkeys⟩
    · rw [history, hnone] at hhistory
      exact ih h hhistory
    rw [history, hrows] at hhistory
    cases before with
    | nil =>
      obtain ⟨rfl, -⟩ := List.cons.inj hhistory
      refine ⟨hresponders, fun name => ?_⟩
      rw [hidentities, hkeys]
      simp only [nil_append, mem_singleton, exists_eq_left]
    | cons first before =>
      obtain ⟨rfl, hrest⟩ := List.cons.inj hhistory
      obtain ⟨hresponders', hnames⟩ := ih hnext hrest
      refine ⟨hresponders', fun name => ?_⟩
      rw [hnames, hkeys]
      simp only [cons_append, mem_cons, exists_eq_or_imp, or_assoc]

/-- Every row of an accepted datagram names a service that its responder has announced exactly if, whenever a
datagram is accepted, its sender has announced every service that the datagrams before it have added. -/
theorem responders_credited_iff (display : IpAddress → Bytes) (destination : SocketAddr) (transactionId : UInt16)
    (datagrams : List MdnsDatagram) :
    (∀ before entry after,
      history display destination (MdnsContext.new transactionId) datagrams = before ++ entry :: after →
      ∀ row ∈ entry.rows, ∃ accepted ∈ before ++ [entry],
        display accepted.datagram.source.ip = row.responder ∧ accepted.datagram.Announces row.identity) ↔
    (∀ before entry after,
      history display destination (MdnsContext.new transactionId) datagrams = before ++ entry :: after →
      ∀ earlier ∈ before, ∀ name, earlier.datagram.Adds name → ∃ accepted ∈ before ++ [entry],
        display accepted.datagram.source.ip = display entry.datagram.source.ip ∧
          accepted.datagram.Announces name) := by
  have husable : (MdnsContext.new transactionId).Usable := fun _ hmem => absurd hmem not_mem_nil
  have hempty : ∀ name, name ∉ (MdnsContext.new transactionId).services.keys := fun _ => not_mem_nil
  refine forall₃_congr fun before entry after => forall_congr' fun hhistory => ?_
  obtain ⟨hresponders, hnames⟩ := history_rows husable hhistory
  constructor
  · intro hcredited earlier hearlier name hadds
    have hname := (hnames name).2 (Or.inr ⟨earlier, mem_append_left _ hearlier, hadds⟩)
    obtain ⟨row, hrow, rfl⟩ := mem_map.1 hname
    rw [← hresponders row hrow]
    exact hcredited row hrow
  intro hannounced row hrow
  rw [hresponders row hrow]
  rcases (hnames row.identity).1 (mem_map_of_mem hrow) with hold | ⟨accepted, hmem, hadds⟩
  · exact absurd hold (hempty _)
  rcases mem_append.1 hmem with hearlier | hself
  · exact hannounced accepted hearlier row.identity hadds
  · rw [mem_singleton.1 hself] at hadds
    exact ⟨entry, mem_append_right _ (mem_singleton_self _), rfl, hadds.announces⟩

/-- A response of a host with a text record for each of the given names. -/
def announcement (host : BitVec 32) (names : List Bytes) : MdnsDatagram where
  source := ⟨.v4 host, 5353⟩
  interfaceIndex := none
  hopLimit := none
  bytes := be16 1 ++ be16 0x8400 ++ be16 0 ++ be16 (UInt16.ofNat names.length) ++ be16 0 ++ be16 0 ++
    names.flatMap fun name => name ++ be16 16 ++ be16 1 ++ be32 120 ++ be16 0

/-- Addresses written as their bytes. -/
def plainDisplay : IpAddress → Bytes
  | .v4 address => beBytes 4 address.toNat
  | .v6 address => beBytes 16 address.toNat

/-- The second host has announced nothing, and is credited with the service of the first one. -/
theorem responder_credited_with_another :
    ((history plainDisplay mdnsGroup (MdnsContext.new 1)
        [announcement 1 [wireName [ascii "tv"]], announcement 2 []]).map fun accepted =>
      accepted.rows.map fun row => (row.responder, row.identity)) =
      [[(plainDisplay (.v4 1), wireName [ascii "tv"])], [(plainDisplay (.v4 2), wireName [ascii "tv"])]] ∧
    ¬ (announcement 2 []).Announces (wireName [ascii "tv"]) := by
  decide +kernel

end NodeNet.Discovery
