import NodeNet.Platform.Sensors
import NodeNet.Protocols.Passive

/-!
# Fusion in JavaScript

The package for Node fuses envelopes on its own: it adds five fields of provenance to each record, validates the
result, and only then remembers the sequence number.  `validateSensorEnvelope` keeps room for the number of these
fields, not for their bytes, so a valid envelope is admitted exactly if its records leave that room
(`stream_advances_iff`).
-/

namespace NodeNet.Platform.JavaScript

open List Evidence
open Protocols.Passive (ascii)

structure SensorCapability where
  id : Bytes
  version : Bytes
deriving DecidableEq

structure SensorCaptureVisibility where
  interfaces : List Bytes
  protocols : List Bytes
deriving DecidableEq

structure SensorSummary where
  acceptedRecords : Int
  droppedRecords : Int
deriving DecidableEq

/-- An envelope; texts are in UTF-8. -/
structure SensorEnvelope where
  version : Nat
  sensorId : Bytes
  networkScopeId : Bytes
  sequence : Int
  monotonicStartNanoseconds : Int
  monotonicEndNanoseconds : Int
  clockUncertaintyMilliseconds : Int
  capabilities : Option (List SensorCapability)
  captureVisibility : Option SensorCaptureVisibility
  summary : Option SensorSummary
  records : List EvidenceRecordInput
deriving DecidableEq

/-! ### Validation -/

/-- A text that is not empty, has at most so many bytes and no NUL. -/
def boundedText (maximum : Nat) (value : Bytes) : Bool := !value.isEmpty && value.length ≤ maximum &&
    !value.contains 0

variable (record : EvidenceRecordInput)

def evidenceBytes : Nat :=
  record.origin.runId.length + record.entity.canonical.length +
    (record.fields.map fun field => field.key.length + field.value.length).sum +
    (record.relations.map fun relation => relation.target.canonical.length).sum

/-- The checks are those of `EvidenceRecord.new`, and that no target of a relation is empty. -/
def Importable : Prop :=
  record.check = none ∧ (∀ relation ∈ record.relations, relation.target.canonical ≠ []) ∧
    evidenceBytes record ≤ maxEvidenceRecordBytes

instance : Decidable (Importable record) := inferInstanceAs (Decidable (_ ∧ _ ∧ _))

/-- The bytes of a record, none where the source throws. -/
def validateImportedEvidence : Option Nat :=
  if Importable record then some (evidenceBytes record) else none

/-- The loop over records that counts their bytes and throws above 16 MiB. -/
def aggregate (bytes : EvidenceRecordInput → Option Nat) : Nat → List EvidenceRecordInput → Option Nat
  | total, [] => some total
  | total, record :: records => do
    let count ← bytes record
    if total + count > maxEvidenceBatchBytes then none else aggregate bytes (total + count) records

variable (envelope : SensorEnvelope)

/-- Whether the source does not throw. -/
def validateSensorEnvelope : Bool :=
  envelope.version = 1 && boundedText 256 envelope.sensorId && boundedText 256 envelope.networkScopeId &&
  envelope.sequence ≥ 1 && envelope.monotonicStartNanoseconds ≥ 0 &&
  envelope.monotonicEndNanoseconds ≥ envelope.monotonicStartNanoseconds &&
  envelope.clockUncertaintyMilliseconds ≥ 0 && envelope.clockUncertaintyMilliseconds ≤ 86400000 &&
  envelope.records.length ≤ 8192 &&
  envelope.capabilities.all (fun capabilities => capabilities.length ≤ 256 && (capabilities.map (·.id)).Nodup &&
    capabilities.all fun entry => boundedText 256 entry.id && boundedText 64 entry.version) &&
  envelope.captureVisibility.all (fun visibility => visibility.interfaces.length ≤ 64 &&
    visibility.protocols.length ≤ 32 && (visibility.interfaces ++ visibility.protocols).all (boundedText 256)) &&
  envelope.summary.all (fun summary => summary.acceptedRecords ≥ 0 && summary.acceptedRecords ≤ 8192 &&
    summary.droppedRecords ≥ 0 && summary.droppedRecords ≤ 4294967295) &&
  (aggregate (fun record => (validateImportedEvidence record).filter fun _ => record.fields.length ≤ 123) 0
    envelope.records).isSome

/-! ### Fusion -/

/-- What `JSON.stringify` writes for one byte of a text. -/
def jsonEscape (b : UInt8) : Bytes :=
  if b = 34 ∨ b = 92 then [92, b]
  else if b = 8 then ascii "\\b"
  else if b = 9 then ascii "\\t"
  else if b = 10 then ascii "\\n"
  else if b = 12 then ascii "\\f"
  else if b = 13 then ascii "\\r"
  else if b < 32 then ascii "\\u00" ++ ([b.toNat / 16, b.toNat % 16].map fun digit =>
    UInt8.ofNat digit.digitChar.toNat)
  else [b]

/-- What `JSON.stringify` writes for a list of texts. -/
def jsonTexts (texts : List Bytes) : Bytes :=
  91 :: [44].intercalate (texts.map fun text => 34 :: text.flatMap jsonEscape ++ [34]) ++ [93]

def sourceName : EvidenceSourceKind → String
  | .scanResult => "scanResult"
  | .discoveryResult => "discoveryResult"
  | .passiveObservation => "passiveObservation"
  | .pathObservation => "pathObservation"
  | .serviceConversation => "serviceConversation"
  | .localContext => "localContext"
  | .importedSensor => "importedSensor"

def sensorProvenanceFields : List Bytes :=
  ["sensorId", "networkScopeId", "upstreamSource", "upstreamRunId", "upstreamRecordId"].map ascii

/-- The run that fused records belong to. -/
def fusedRunId : Bytes := jsonTexts [envelope.sensorId, envelope.networkScopeId, ascii envelope.sequence.repr]

/-- The fields of provenance. -/
def provenance (record : EvidenceRecordInput) : List EvidenceField := [ ⟨ascii "sensorId", envelope.sensorId⟩,
  ⟨ascii "networkScopeId", envelope.networkScopeId⟩,
  ⟨ascii "upstreamSource", ascii (sourceName record.origin.source)⟩,
  ⟨ascii "upstreamRunId", record.origin.runId⟩,
  ⟨ascii "upstreamRecordId", ascii record.origin.recordId.repr⟩]

def keptFields (record : EvidenceRecordInput) : List EvidenceField :=
  record.fields.filter fun field => !sensorProvenanceFields.contains field.key

def fuseRecord (record : EvidenceRecordInput) (index : Nat) : EvidenceRecordInput :=
  { record with
    origin := ⟨.importedSensor, envelope.version, fusedRunId envelope, index⟩
    fields := keptFields record ++ provenance envelope record }

def fuseSensorEnvelope : Option (List EvidenceRecordInput) :=
  let records := envelope.records.zipIdx.map fun entry => fuseRecord envelope entry.1 entry.2
  if validateSensorEnvelope envelope then (aggregate validateImportedEvidence 0 records).map fun _ => records
  else none

/-- The last sequence numbers by sensor and scope. -/
structure SensorFusion where
  sequences : OrdMap Bytes Int

def streamKey : Bytes := jsonTexts [envelope.sensorId, envelope.networkScopeId]

/-- The fused records, none where the source throws, and the state after the call. -/
def SensorFusion.admitEnvelope (fusion : SensorFusion) (envelope : SensorEnvelope) :
    Option (List EvidenceRecordInput) × SensorFusion :=
  let previous := fusion.sequences.get? (streamKey envelope)
  if !validateSensorEnvelope envelope then (none, fusion)
  else if previous.any fun previous => envelope.sequence ≤ previous then (none, fusion)
  else if previous.any fun previous => envelope.sequence ≠ previous + 1 then (none, fusion)
  else if previous.isNone ∧ fusion.sequences.size ≥ maxSensorStreams then (none, fusion)
  else match fuseSensorEnvelope envelope with
    | none => (none, fusion)
    | some fused => (some fused, ⟨fusion.sequences.insert (streamKey envelope) envelope.sequence⟩)

/-! ### Room for provenance -/

/-- The bytes of a record once it is fused, from those of its parts. -/
def fusedBytes (record : EvidenceRecordInput) : Nat :=
  (fusedRunId envelope).length + record.entity.canonical.length +
    ((keptFields record).map fun field => field.key.length + field.value.length).sum +
    (record.relations.map fun relation => relation.target.canonical.length).sum +
    ("sensorId".length + envelope.sensorId.length) + ("networkScopeId".length + envelope.networkScopeId.length) +
    ("upstreamSource".length + (sourceName record.origin.source).length) +
    ("upstreamRunId".length + record.origin.runId.length) +
    ("upstreamRecordId".length + record.origin.recordId.repr.length)

/-- The records leave room for their provenance. -/
def Reserved : Prop :=
  (∀ record ∈ envelope.records, (fusedRunId envelope).length ≤ maxEvidenceItemBytes ∧
    record.origin.recordId.repr.length ≤ maxEvidenceItemBytes ∧ fusedBytes envelope record ≤
      maxEvidenceRecordBytes) ∧
  (envelope.records.map (fusedBytes envelope)).sum ≤ maxEvidenceBatchBytes

variable {envelope : SensorEnvelope} {record : EvidenceRecordInput}

private theorem aggregate_isSome_iff {bytes : EvidenceRecordInput → Option Nat} {p : EvidenceRecordInput → Prop}
    [DecidablePred p] (hbytes : ∀ record, bytes record = if p record then some (evidenceBytes record) else none)
    (records : List EvidenceRecordInput) {total : Nat} (h : total ≤ maxEvidenceBatchBytes) :
    (aggregate bytes total records).isSome = true ↔
      (∀ record ∈ records, p record) ∧ total + (records.map evidenceBytes).sum ≤ maxEvidenceBatchBytes := by
  induction records generalizing total with
  | nil => simp [aggregate, h]
  | cons record records ih =>
    rw [aggregate, hbytes, forall_mem_cons, map_cons, sum_cons, ← Nat.add_assoc]
    by_cases hp : p record
    · rw [if_pos hp, and_iff_right hp, Option.bind_eq_bind, Option.bind_some]
      by_cases hroom : total + evidenceBytes record ≤ maxEvidenceBatchBytes
      · rw [if_neg (Nat.not_lt.2 hroom), ih hroom]
      · rw [if_pos (Nat.lt_of_not_le hroom)]
        exact iff_of_false Bool.false_ne_true fun hsum => hroom (by omega)
    · simp [hp]

private theorem length_ascii (text : String) : (ascii text).length = text.length := by
  rw [ascii, length_map, String.length_toList]

private theorem evidenceBytes_fuseRecord (index : Nat) :
    evidenceBytes (fuseRecord envelope record index) = fusedBytes envelope record := by
  simp only [evidenceBytes, fusedBytes, fuseRecord, provenance, length_ascii, map_append, sum_append,
    map_cons, map_nil, sum_cons, sum_nil]
  omega

private theorem of_valid (h : validateSensorEnvelope envelope = true) :
    envelope.version = 1 ∧ envelope.sensorId.length ≤ 256 ∧ envelope.networkScopeId.length ≤ 256 ∧
      ∀ record ∈ envelope.records, Importable record ∧ record.fields.length ≤ 123 := by
  simp only [validateSensorEnvelope, boundedText, Bool.and_eq_true, decide_eq_true_eq, and_assoc] at h
  obtain ⟨hversion, -, hsensor, -, -, hscope, -, -, -, -, -, -, -, -, -, -, hrecords⟩ := h
  refine ⟨hversion, hsensor, hscope, ((aggregate_isSome_iff (fun record => ?_) _ (Nat.zero_le _)).1 hrecords).1⟩
  by_cases hrecord : Importable record <;> simp [validateImportedEvidence, hrecord, Option.filter]

private theorem importable_fuseRecord (hvalid : validateSensorEnvelope envelope = true)
    (hrecord : record ∈ envelope.records)
    (index : Nat) : Importable (fuseRecord envelope record index) ↔ (fusedRunId envelope).length ≤
      maxEvidenceItemBytes ∧ record.origin.recordId.repr.length ≤ maxEvidenceItemBytes ∧
      fusedBytes envelope record ≤ maxEvidenceRecordBytes := by
  obtain ⟨hversion, hsensor, hscope, hall⟩ := of_valid hvalid
  obtain ⟨⟨hcheck, htargets, -⟩, hcount⟩ := hall record hrecord
  rw [EvidenceRecordInput.check_eq_none_iff] at hcheck
  obtain ⟨-, -, hkey, -, hrelations, hkeys, hexpires, ⟨⟨hrun, hkeyLe⟩, hitems⟩, htargetItems⟩ := hcheck
  rw [Importable, evidenceBytes_fuseRecord, EvidenceRecordInput.check_eq_none_iff]
  have hkept : ∀ field ∈ keptFields record, field ∈ record.fields := fun _ h => (mem_filter.1 h).1
  have hlength := (length_filter_le _ _ : (keptFields record).length ≤ record.fields.length)
  have hsource : (sourceName record.origin.source).length ≤ maxEvidenceItemBytes := by
    cases record.origin.source <;> decide
  simp only [fuseRecord, length_append, forall_mem_append, provenance, forall_mem_cons, length_ascii]
  constructor
  · rintro ⟨⟨-, -, -, -, -, -, -, ⟨⟨hrunLe, -⟩, -, -, -, -, -, ⟨-, hid⟩, -⟩, -⟩, -, hbytes⟩
    exact ⟨hrunLe, hid, hbytes⟩
  rintro ⟨hrunLe, hid, hbytes⟩
  have hitem : 256 ≤ maxEvidenceItemBytes := by decide
  refine ⟨⟨by simp [fusedRunId, jsonTexts], by omega, hkey, ?_, hrelations,
    ⟨fun field hfield => hkeys field (hkept field hfield), by decide, by decide, by decide, by decide,
      by decide, by simp⟩,
    hexpires, ⟨⟨hrunLe, hkeyLe⟩, fun field hfield => hitems field (hkept field hfield), ⟨by decide, by omega⟩,
      ⟨by decide, by omega⟩, ⟨by decide, hsource⟩, ⟨by decide, hrun⟩, ⟨by decide, hid⟩, by simp⟩, htargetItems⟩,
    htargets, hbytes⟩
  exact Nat.add_le_add (hlength.trans hcount) (Nat.le_refl 5)

private theorem fuse_isSome_iff (hvalid : validateSensorEnvelope envelope = true) :
    (fuseSensorEnvelope envelope).isSome = true ↔ Reserved envelope := by
  have hmap : envelope.records.zipIdx.map Prod.fst = envelope.records := zipIdx_map_fst ..
  have hmem {entry : EvidenceRecordInput × Nat} (h : entry ∈ envelope.records.zipIdx) :
    entry.1 ∈ envelope.records :=
    hmap ▸ mem_map_of_mem h
  have hsum : envelope.records.zipIdx.map (fun entry => evidenceBytes (fuseRecord envelope entry.1 entry.2)) =
      envelope.records.map (fusedBytes envelope) := by
    conv_rhs => rw [← hmap, map_map]
    exact map_congr_left fun entry _ => evidenceBytes_fuseRecord entry.2
  rw [fuseSensorEnvelope, if_pos hvalid, Option.isSome_map,
    aggregate_isSome_iff (fun record => (rfl : validateImportedEvidence record = _)) _ (Nat.zero_le _),
    forall_mem_map, map_map, Nat.zero_add, Reserved]
  refine and_congr ?_ ?_
  · rw [← hmap, forall_mem_map, hmap]
    exact forall₂_congr fun entry hentry => importable_fuseRecord hvalid (hmem hentry) entry.2
  · rw [← hsum]
    rfl

theorem stream_advances_iff (envelope : SensorEnvelope) (hvalid : validateSensorEnvelope envelope = true) :
    ((fuseSensorEnvelope envelope).isSome = true ↔ Reserved envelope) ∧
    (∀ fused, fuseSensorEnvelope envelope = some fused → ∀ record ∈ fused,
      (record.fields.filter fun field => field.key = ascii "networkScopeId") =
        [⟨ascii "networkScopeId", envelope.networkScopeId⟩]) ∧
    ∀ (fusion : SensorFusion) (previous : Int), fusion.sequences.get? (streamKey envelope) = some previous →
      envelope.sequence = previous + 1 →
      (Reserved envelope → ∃ fused, fuseSensorEnvelope envelope = some fused ∧ fusion.admitEnvelope envelope =
        (some fused, ⟨fusion.sequences.insert (streamKey envelope) envelope.sequence⟩)) ∧
      (¬ Reserved envelope → fusion.admitEnvelope envelope = (none, fusion)) := by
  refine ⟨fuse_isSome_iff hvalid, fun fused hfused record hrecord => ?_, fun fusion previous hget hnext => ?_⟩
  · rw [fuseSensorEnvelope, if_pos hvalid, Option.map_eq_some_iff] at hfused
    obtain ⟨-, -, rfl⟩ := hfused
    obtain ⟨entry, -, rfl⟩ := mem_map.1 hrecord
    have hkept : ((keptFields entry.1).filter fun field => field.key = ascii "networkScopeId") = [] := by
      rw [keptFields, filter_filter, filter_eq_nil_iff]
      intro field _ h
      simp only [Bool.and_eq_true, decide_eq_true_eq] at h
      rw [h.1] at h
      exact absurd h.2 (by decide)
    rw [fuseRecord, filter_append, hkept]
    rfl
  rw [← fuse_isSome_iff hvalid, SensorFusion.admitEnvelope]
  cases fuseSensorEnvelope envelope <;> simp [hvalid, hget, hnext]

/-- A record that a sensor observed. -/
def observedRecord (fields : List EvidenceField) : EvidenceRecordInput :=
  ⟨⟨.passiveObservation, 1, [1], 1⟩, ⟨.deviceCandidate, [1]⟩, .structural, .observed, 1, none, none, fields, []⟩

/-- The second envelope of a sensor. -/
def secondEnvelope (fields : List EvidenceField) : SensorEnvelope :=
  ⟨1, ascii "sensor", ascii "scope", 2, 1, 2, 0, none, none, none, [observedRecord fields]⟩

/-- An envelope with a forged scope is admitted with the scope of its sensor, and the stream advances. -/
theorem second_envelope_admitted :
    let envelope := secondEnvelope [⟨ascii "name", ascii "printer"⟩, ⟨ascii "networkScopeId", ascii "forged"⟩]
    let fusion : SensorFusion := ⟨(∅ : OrdMap Bytes Int).insert (streamKey envelope) 1⟩
    ∃ fused, (fusion.admitEnvelope envelope).1 = some fused ∧
      (fusion.admitEnvelope envelope).2.sequences.get? (streamKey envelope) = some 2 ∧
      ∀ record ∈ fused, (record.fields.filter fun field => field.key = ascii "networkScopeId") =
        [⟨ascii "networkScopeId", ascii "scope"⟩] := by
  intro envelope fusion
  have hvalid : validateSensorEnvelope envelope = true := by decide +kernel
  obtain ⟨hreserved, hscope, hadmits⟩ := stream_advances_iff envelope hvalid
  obtain ⟨fused, hfused, hnew⟩ :=
    (hadmits fusion 1 (OrdMap.get?_insert_self ..) rfl).1 (hreserved.1 (by decide +kernel))
  rw [hnew]
  exact ⟨fused, rfl, OrdMap.get?_insert_self .., hscope fused hfused⟩

/-- Sixteen fields that fill a record up to 84 bytes. -/
def nearLimitFields : List EvidenceField :=
  (List.range 16).map fun i => ⟨ascii "f" ++ ascii i.repr, List.replicate (if i = 15 then 900 else 1024) 0⟩

/-- A valid envelope with the next sequence number is refused, and its stream stays where it was. -/
theorem near_limit_envelope_refused :
    let envelope := secondEnvelope nearLimitFields
    let fusion : SensorFusion := ⟨(∅ : OrdMap Bytes Int).insert (streamKey envelope) 1⟩
    validateSensorEnvelope envelope = true ∧ envelope.sequence = 1 + 1 ∧ fuseSensorEnvelope envelope = none ∧
      (fusion.admitEnvelope envelope).1 = none ∧
      (fusion.admitEnvelope envelope).2.sequences.get? (streamKey envelope) = some 1 := by
  decide +kernel

end NodeNet.Platform.JavaScript
