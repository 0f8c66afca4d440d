import NodeNet.Base.UnionFind
import NodeNet.Evidence.Record

/-!
# Reconciliation of assets

Evidence of one asset is recognised by strong identifiers: two records that have one in common, in the same scope,
are about the same asset.  `reconcileAssets` unites the identifiers of each record in a union-find and collects the
records by the root of their identifiers; a record without strong identifiers is collected under its scoped entity
key.

The assets are the connected components of the records (`Names`): an identifier determines its scope, its kind and
its value, so an entity key is never taken for a strong identifier, and the root of a component is its least
identifier, so the order of the records plays no part.
-/

namespace NodeNet.Platform

open List Evidence
open Relation (EqvGen)

def maxAssets : Nat := 8192

/-! ### Identifiers -/

/-- The bytes of `mac`. -/
def macKey : Bytes := [109, 97, 99]

/-- The bytes of `lldpChassisId`. -/
def lldpChassisIdKey : Bytes := [108, 108, 100, 112, 67, 104, 97, 115, 115, 105, 115, 73, 100]

/-- The bytes of `smbServerGuid`. -/
def smbServerGuidKey : Bytes := [115, 109, 98, 83, 101, 114, 118, 101, 114, 71, 117, 105, 100]

/-- The bytes of `snmpEngineId`. -/
def snmpEngineIdKey : Bytes := [115, 110, 109, 112, 69, 110, 103, 105, 110, 101, 73, 100]

/-- The bytes of `upnpUdn`. -/
def upnpUdnKey : Bytes := [117, 112, 110, 112, 85, 100, 110]

/-- The bytes of `networkScopeId`. -/
def networkScopeIdKey : Bytes := [110, 101, 116, 119, 111, 114, 107, 83, 99, 111, 112, 101, 73, 100]

/-- The bytes of `local`. -/
def localScope : Bytes := [108, 111, 99, 97, 108]

/-- The bytes of `ambiguous:`. -/
def ambiguousMark : Bytes := [97, 109, 98, 105, 103, 117, 111, 117, 115, 58]

/-- The bytes of `address`. -/
def addressKey : Bytes := [97, 100, 100, 114, 101, 115, 115]

/-- The bytes of `responder`. -/
def responderKey : Bytes := [114, 101, 115, 112, 111, 110, 100, 101, 114]

/-- The bytes of `name`. -/
def nameKey : Bytes := [110, 97, 109, 101]

/-- The bytes of `hostname`. -/
def hostnameKey : Bytes := [104, 111, 115, 116, 110, 97, 109, 101]

/-- The bytes of `protocol`. -/
def protocolKey : Bytes := [112, 114, 111, 116, 111, 99, 111, 108]

/-- The bytes of `service`. -/
def serviceKey : Bytes := [115, 101, 114, 118, 105, 99, 101]

def strongKeys : List Bytes := [macKey, lldpChassisIdKey, smbServerGuidKey, snmpEngineIdKey, upnpUdnKey]

/-- A field that identifies an asset in its scope. -/
def isStrong (field : EvidenceField) : Bool := strongKeys.contains field.key && !field.value.isEmpty

variable (record : EvidenceRecord)

/-- The scope a record names, or one of its own if it names several. -/
def evidenceScope : Bytes :=
  match (record.fields.filter fun field => field.key = networkScopeIdKey).map EvidenceField.value with
  | [scope] => scope
  | [] => localScope
  | _ :: _ :: _ => ambiguousMark ++ record.origin.runId ++ beBytes 8 record.origin.recordId

/-- Three components, each after its length. -/
def scopedIdentifier (scope kind value : Bytes) : Bytes :=
  [scope, kind, value].flatMap fun component => beBytes 4 (min component.length (2 ^ 32 - 1)) ++ component

def strongIdentifiers : List Bytes :=
  (record.fields.filter isStrong).map fun field => scopedIdentifier (evidenceScope record) field.key field.value

/-- What a record without strong identifiers is collected under. -/
def entityIdentifier : Bytes :=
  scopedIdentifier (evidenceScope record) [UInt8.ofNat record.entity.kind.discriminant] record.entity.canonical

def findIdentifier (fuel : Nat) (value : Bytes) (parents : OrdMap Bytes Bytes) :
    Option (Bytes × OrdMap Bytes Bytes) :=
  UnionFind.find fuel value parents

def unionIdentifier (fuel : Nat) (left right : Bytes) (parents : OrdMap Bytes Bytes) :
    Option (OrdMap Bytes Bytes) :=
  UnionFind.union fuel left right parents

/-! ### Assets -/

section Assets

variable {Text Addr : Type} [LinearOrder Text] [LinearOrder Addr]

structure AssetCandidate (Text Addr : Type) [LinearOrder Text] [LinearOrder Addr] where
  id : Bytes
  strongIdentifiers : OrdSet Bytes
  addresses : OrdSet Addr
  names : OrdSet Text
  services : OrdSet Text
  conflicts : OrdSet Bytes
deriving DecidableEq

/-- What a field says of an asset. -/
inductive FieldRole where
  | address
  | name
  | service
  | other
deriving DecidableEq

def fieldRole (key : Bytes) : FieldRole :=
  if key = addressKey ∨ key = responderKey then .address
  else if key = nameKey ∨ key = hostnameKey then .name
  else if key = protocolKey ∨ key = serviceKey then .service
  else .other

-- how bytes are read as text, and text as an address
variable (fromUtf8 : Bytes → Option Text) (parse : Text → Option Addr)

namespace AssetCandidate

def new (id : Bytes) : AssetCandidate Text Addr := ⟨id, .empty, .empty, .empty, .empty, .empty⟩

/-- Adds what a field says to an asset. -/
def absorbField (asset : AssetCandidate Text Addr) (field : EvidenceField) : AssetCandidate Text Addr :=
  match fieldRole field.key with
  | .address =>
    match (fromUtf8 field.value).bind parse with
    | some address => { asset with addresses := asset.addresses.insert address }
    | none => asset
  | .name =>
    match fromUtf8 field.value with
    | some text => { asset with names := asset.names.insert text }
    | none => asset
  | .service =>
    match fromUtf8 field.value with
    | some text => { asset with services := asset.services.insert text }
    | none => asset
  | .other => asset

/-- Adds what a record says to an asset. -/
def absorb (asset : AssetCandidate Text Addr) (record : EvidenceRecord) : AssetCandidate Text Addr :=
  record.fields.foldl (absorbField fromUtf8 parse) { asset with
    strongIdentifiers := (Platform.strongIdentifiers record).foldl OrdSet.insert asset.strongIdentifiers }

end AssetCandidate

/-- Unites the strong identifiers of a record. -/
def linkRecord (fuel : Nat) (parents : OrdMap Bytes Bytes) (record : EvidenceRecord) :
    Option (OrdMap Bytes Bytes) :=
  match strongIdentifiers record with
  | [] => some parents
  | first :: others => others.foldlM (fun parents other => unionIdentifier fuel first other parents) parents

/-- The identifier of the asset of a record. -/
def identify (fuel : Nat) (parents : OrdMap Bytes Bytes) (record : EvidenceRecord) :
    Option (Bytes × OrdMap Bytes Bytes) :=
  match strongIdentifiers record with
  | [] => some (entityIdentifier record, parents)
  | first :: _ => findIdentifier fuel first parents

/-- Adds a record to the asset of an identifier. -/
def deposit (id : Bytes) (record : EvidenceRecord) (assets : OrdMap Bytes (AssetCandidate Text Addr)) :
    OrdMap Bytes (AssetCandidate Text Addr) :=
  assets.insert id (((assets.get? id).getD (.new id)).absorb fromUtf8 parse record)

def collect (fuel : Nat) (state : OrdMap Bytes Bytes × OrdMap Bytes (AssetCandidate Text Addr))
    (record : EvidenceRecord) : Option (OrdMap Bytes Bytes × OrdMap Bytes (AssetCandidate Text Addr)) :=
  (identify fuel state.1 record).map fun (id, parents) => (parents, deposit fromUtf8 parse id record state.2)

/-- The records that count: neither expired nor withdrawn. -/
def activeRecords (records : List EvidenceRecord) : List EvidenceRecord :=
  (records.take maxEvidenceRecords).filter fun record =>
    record.disposition ≠ .expired ∧ record.disposition ≠ .withdrawn

/-- Reconciles evidence only when a scoped strong identifier overlaps.  The fuel bounds the recursion of
`findIdentifier`. -/
def reconcileAssets (fuel : Nat) (records : List EvidenceRecord) : Option (List (AssetCandidate Text Addr)) := do
  let active := activeRecords records
  let parents ← active.foldlM (linkRecord fuel) ∅
  let (_, assets) ← active.foldlM (collect fromUtf8 parse fuel) (parents, ∅)
  some (assets.values.take maxAssets)

end Assets

/-! ### Components -/

def SharesStrong (r s : EvidenceRecord) : Prop :=
  evidenceScope r = evidenceScope s ∧ ∃ field, isStrong field = true ∧ field ∈ r.fields ∧ field ∈ s.fields

/-- Two records without strong identifiers are about the same entity. -/
def SameEntity (r s : EvidenceRecord) : Prop :=
  strongIdentifiers r = [] ∧ strongIdentifiers s = [] ∧ evidenceScope r = evidenceScope s ∧ r.entity = s.entity

/-- Two records are in the same connected component. -/
def Connected (active : List EvidenceRecord) : EvidenceRecord → EvidenceRecord → Prop :=
  EqvGen fun r s => r ∈ active ∧ s ∈ active ∧ (SharesStrong r s ∨ SameEntity r s)

/-- The identifiers of a record: the strong ones, or its entity key if it has none. -/
def identifiers (record : EvidenceRecord) : List Bytes :=
  if strongIdentifiers record = [] then [entityIdentifier record] else strongIdentifiers record

/-- A name for each component: its least identifier. -/
structure Names (active : List EvidenceRecord) (name : EvidenceRecord → Bytes) : Prop where
  component : ∀ r ∈ active, ∀ s ∈ active, name r = name s ↔ Connected active r s
  attained : ∀ r ∈ active, ∃ s ∈ active, Connected active r s ∧ name r ∈ identifiers s
  least : ∀ r ∈ active, ∀ s ∈ active, Connected active r s → ∀ id ∈ identifiers s, name r ≤ id

/-! ### Identifiers determine their components -/

private theorem lengthPrefixed_inj {a b x y : Bytes} (ha : a.length < 2 ^ 32) (hb : b.length < 2 ^ 32)
    (h : beBytes 4 (min a.length (2 ^ 32 - 1)) ++ a ++ x = beBytes 4 (min b.length (2 ^ 32 - 1)) ++ b ++ y) :
    a = b ∧ x = y := by
  rw [append_assoc, append_assoc] at h
  obtain ⟨hlengths, hrest⟩ := append_inj h (by rw [beBytes_length, beBytes_length])
  have hlength : a.length = b.length := by
    have hvalues := congrArg beValue hlengths
    rw [beValue_beBytes (by omega), beValue_beBytes (by omega)] at hvalues
    omega
  exact append_inj hrest hlength

/-- Three components whose lengths fit in four bytes. -/
private def Short (scope kind value : Bytes) : Prop :=
  scope.length < 2 ^ 32 ∧ kind.length < 2 ^ 32 ∧ value.length < 2 ^ 32

private theorem scopedIdentifier_inj {scope kind value scope' kind' value' : Bytes}
    (hshort : Short scope kind value) (hshort' : Short scope' kind' value')
    (h : scopedIdentifier scope kind value = scopedIdentifier scope' kind' value') :
    scope = scope' ∧ kind = kind' ∧ value = value' := by
  simp only [scopedIdentifier, flatMap_cons] at h
  obtain ⟨hscopes, h⟩ := lengthPrefixed_inj hshort.1 hshort'.1 h
  obtain ⟨hkinds, h⟩ := lengthPrefixed_inj hshort.2.1 hshort'.2.1 h
  exact ⟨hscopes, hkinds, (lengthPrefixed_inj hshort.2.2 hshort'.2.2 h).1⟩

variable {r s : EvidenceRecord} {active : List EvidenceRecord}

private theorem scope_short (r : EvidenceRecord) : (evidenceScope r).length < 2 ^ 32 := by
  obtain ⟨⟨hrun, -⟩, hfields⟩ := (EvidenceRecordInput.check_eq_none_iff.1 r.checked).2.2.2.2.2.2.2.1
  have hmax : maxEvidenceItemBytes = 1024 := rfl
  unfold evidenceScope
  split
  · next scope hscopes =>
    have hmem : scope ∈ (r.fields.filter fun field => field.key = networkScopeIdKey).map EvidenceField.value := by
      rw [hscopes]
      exact mem_singleton_self scope
    obtain ⟨field, hfield, rfl⟩ := mem_map.1 hmem
    have hvalue := (hfields field (mem_of_mem_filter hfield)).2
    omega
  · decide
  have hmark : ambiguousMark.length = 10 := rfl
  simp only [length_append, beBytes_length]
  omega

private theorem entity_short (r : EvidenceRecord) :
    Short (evidenceScope r) [UInt8.ofNat r.entity.kind.discriminant] r.entity.canonical := by
  obtain ⟨⟨-, hcanonical⟩, -⟩ := (EvidenceRecordInput.check_eq_none_iff.1 r.checked).2.2.2.2.2.2.2.1
  have hmax : maxEvidenceItemBytes = 1024 := rfl
  exact ⟨scope_short r, by rw [length_singleton]; decide, by omega⟩

private theorem field_short {field : EvidenceField} (h : field ∈ r.fields) :
    Short (evidenceScope r) field.key field.value := by
  obtain ⟨hkey, hvalue⟩ := (EvidenceRecordInput.check_eq_none_iff.1 r.checked).2.2.2.2.2.2.2.1.2 field h
  have hmax : maxEvidenceItemBytes = 1024 := rfl
  exact ⟨scope_short r, by omega, by omega⟩

theorem mem_strongIdentifiers {id : Bytes} : id ∈ strongIdentifiers r ↔
    ∃ field ∈ r.fields, isStrong field = true ∧ scopedIdentifier (evidenceScope r) field.key field.value = id := by
  simp only [strongIdentifiers, mem_map, mem_filter, and_assoc]

/-- Records share a strong field in one scope if and only if they have an identifier in common. -/
theorem sharesStrong_iff : SharesStrong r s ↔ ∃ id ∈ strongIdentifiers r, id ∈ strongIdentifiers s := by
  simp only [mem_strongIdentifiers]
  constructor
  · rintro ⟨hscope, field, hstrong, hr, hs⟩
    exact ⟨_, ⟨field, hr, hstrong, rfl⟩, field, hs, hstrong, by rw [hscope]⟩
  rintro ⟨id, ⟨field, hr, hstrong, hid⟩, field', hs, -, hid'⟩
  obtain ⟨hscope, hkey, hvalue⟩ := scopedIdentifier_inj (field_short hr) (field_short hs) (hid.trans hid'.symm)
  have heq : field = field' := by
    change EvidenceField.mk field.key field.value = _
    rw [hkey, hvalue]
  exact ⟨hscope, field, hstrong, hr, heq ▸ hs⟩

private theorem strongKey_length {key : Bytes} (h : key ∈ strongKeys) : key.length ≠ 1 := by
  revert key
  decide

/-- An entity key is not a strong identifier. -/
theorem entityIdentifier_not_strong (r s : EvidenceRecord) : entityIdentifier r ∉ strongIdentifiers s := by
  rw [mem_strongIdentifiers]
  rintro ⟨field, hfield, hstrong, hid⟩
  have hkind := (scopedIdentifier_inj (field_short hfield) (entity_short r) hid).2.1
  have hkey : field.key ∈ strongKeys := by
    rw [isStrong, Bool.and_eq_true, contains_iff_mem] at hstrong
    exact hstrong.1
  exact strongKey_length hkey (by rw [hkind]; rfl)

theorem entityIdentifier_inj (h : entityIdentifier r = entityIdentifier s) :
    evidenceScope r = evidenceScope s ∧ r.entity = s.entity := by
  obtain ⟨hscope, hkind, hcanonical⟩ := scopedIdentifier_inj (entity_short r) (entity_short s) h
  refine ⟨hscope, ?_⟩
  have hdiscriminant : r.entity.kind.discriminant = s.entity.kind.discriminant := by
    have hbyte := congrArg UInt8.toNat (List.cons.inj hkind).1
    rwa [UInt8.toNat_ofNat_of_lt' r.entity.kind.discriminant_lt,
      UInt8.toNat_ofNat_of_lt' s.entity.kind.discriminant_lt] at hbyte
  change EvidenceEntityKey.mk r.entity.kind r.entity.canonical = _
  rw [EvidenceEntityKind.discriminant_injective hdiscriminant, hcanonical]

/-! ### Roots name the components -/

/-- The pairs of identifiers that a record unites. -/
def links (record : EvidenceRecord) : List (Bytes × Bytes) :=
  match strongIdentifiers record with
  | [] => []
  | first :: others => others.map fun other => (first, other)

/-- The name of a record under given representatives. -/
def rootName (rep : Bytes → Bytes) (record : EvidenceRecord) : Bytes :=
  match strongIdentifiers record with
  | [] => entityIdentifier record
  | first :: _ => rep first

theorem linkRecord_eq (fuel : Nat) (parents : OrdMap Bytes Bytes) (record : EvidenceRecord) :
    linkRecord fuel parents record = UnionFind.linkAll fuel (links record) parents := by
  unfold linkRecord links
  split
  · rfl
  · rw [UnionFind.linkAll, foldlM_map]
    rfl

/-- The first loop unites the links of all records. -/
theorem foldlM_linkRecord (fuel : Nat) (records : List EvidenceRecord) (parents : OrdMap Bytes Bytes) :
    records.foldlM (linkRecord fuel) parents = UnionFind.linkAll fuel (records.flatMap links) parents := by
  induction records generalizing parents with
  | nil => rfl
  | cons record records ih =>
    rw [foldlM_cons, flatMap_cons, UnionFind.linkAll, foldlM_append, linkRecord_eq]
    exact bind_congr fun parents => ih parents

theorem mem_links {a b : Bytes} (h : (a, b) ∈ links r) : a ∈ strongIdentifiers r ∧ b ∈ strongIdentifiers r := by
  unfold links at h
  split at h
  · cases h
  next first others hstrong =>
  obtain ⟨other, hother, heq⟩ := mem_map.1 h
  obtain ⟨rfl, rfl⟩ := Prod.mk.inj heq
  rw [hstrong]
  exact ⟨mem_cons_self .., mem_cons_of_mem _ hother⟩

private def Adjacent (active : List EvidenceRecord) (a b : Bytes) : Prop :=
  ∃ q ∈ active, a ∈ strongIdentifiers q ∧ b ∈ strongIdentifiers q

private theorem adjacent_path {a b : Bytes} (h : EqvGen (fun a b => (a, b) ∈ active.flatMap links) a b) :
    Relation.ReflTransGen (Adjacent active) a b := by
  have hsymm : Std.Symm (Adjacent active) := ⟨fun _ _ ⟨q, hq, ha, hb⟩ => ⟨q, hq, hb, ha⟩⟩
  have hgen : EqvGen (Adjacent active) a b := by
    refine EqvGen.mono (fun a b hab => ?_) a b h
    obtain ⟨q, hq, hlink⟩ := mem_flatMap.1 hab
    exact ⟨q, hq, mem_links hlink⟩
  rwa [Relation.EqvGen.eqvGen_eq_reflTransGen] at hgen

private theorem connected_of_path {a b : Bytes} (hab : Relation.ReflTransGen (Adjacent active) a b)
    (hr : r ∈ active) (hs : s ∈ active) (ha : a ∈ strongIdentifiers r) (hb : b ∈ strongIdentifiers s) :
    Connected active r s := by
  induction hab using Relation.ReflTransGen.head_induction_on generalizing r with
  | refl => exact .rel _ _ ⟨hr, hs, Or.inl (sharesStrong_iff.2 ⟨b, ha, hb⟩)⟩
  | head hac _ ih =>
    obtain ⟨q, hq, haq, hcq⟩ := hac
    exact .trans _ _ _ (.rel _ _ ⟨hr, hq, Or.inl (sharesStrong_iff.2 ⟨_, ha, haq⟩)⟩) (ih hq hcq)

/-- The representatives of the links of the active records. -/
structure Represents (active : List EvidenceRecord) (rep : Bytes → Bytes) : Prop where
  le : ∀ id, rep id ≤ id
  idem : ∀ id, rep (rep id) = rep id
  mem : ∀ id ∈ active.flatMap strongIdentifiers, rep id ∈ active.flatMap strongIdentifiers
  classes : ∀ a b, rep a = rep b ↔ EqvGen (fun a b => (a, b) ∈ active.flatMap links) a b

variable {rep : Bytes → Bytes}

/-- All strong identifiers of a record have its name as their representative. -/
theorem Represents.rep_of_mem (h : Represents active rep) (hr : r ∈ active) {id : Bytes}
    (hid : id ∈ strongIdentifiers r) : rep id = rootName rep r := by
  unfold rootName
  cases hstrong : strongIdentifiers r with
  | nil =>
    rw [hstrong] at hid
    cases hid
  | cons first others =>
    rw [hstrong] at hid
    rcases mem_cons.1 hid with rfl | hid
    · rfl
    refine (h.classes _ _).2 (.symm _ _ (.rel _ _ (mem_flatMap.2 ⟨r, hr, ?_⟩)))
    unfold links
    rw [hstrong]
    exact mem_map.2 ⟨id, hid, rfl⟩

theorem rootName_of_nil (h : strongIdentifiers r = []) : rootName rep r = entityIdentifier r := by
  unfold rootName
  rw [h]

theorem Represents.rootName_mem (h : Represents active rep) (hr : r ∈ active)
    (hstrong : strongIdentifiers r ≠ []) : ∃ s ∈ active, rootName rep r ∈ strongIdentifiers s := by
  obtain ⟨first, hfirst⟩ := exists_mem_of_ne_nil _ hstrong
  have hmem := h.mem first (mem_flatMap.2 ⟨r, hr, hfirst⟩)
  rw [h.rep_of_mem hr hfirst] at hmem
  exact mem_flatMap.1 hmem

private theorem Represents.rootName_eq (h : Represents active rep) (hrs : Connected active r s) :
    rootName rep r = rootName rep s := by
  induction hrs with
  | rel r s hshare =>
    obtain ⟨hr, hs, hshare | ⟨hr', hs', hscope, hentity⟩⟩ := hshare
    · obtain ⟨id, hid, hid'⟩ := sharesStrong_iff.1 hshare
      rw [← h.rep_of_mem hr hid, h.rep_of_mem hs hid']
    · rw [rootName_of_nil hr', rootName_of_nil hs', entityIdentifier, entityIdentifier, hscope, hentity]
  | refl => rfl
  | symm _ _ _ ih => exact ih.symm
  | trans _ _ _ _ _ ih ih' => exact ih.trans ih'

/-- A name taken from an entity key is not the name of a record with strong identifiers. -/
private theorem Represents.entity_ne (h : Represents active rep) (hr : strongIdentifiers r = []) (hs : s ∈ active)
    (hstrong : strongIdentifiers s ≠ []) : rootName rep r ≠ rootName rep s := by
  rw [rootName_of_nil hr]
  intro heq
  obtain ⟨q, -, hmem⟩ := h.rootName_mem hs hstrong
  rw [← heq] at hmem
  exact entityIdentifier_not_strong r q hmem

private theorem Represents.connected (h : Represents active rep) (hr : r ∈ active) (hs : s ∈ active)
    (heq : rootName rep r = rootName rep s) : Connected active r s := by
  by_cases hrs : strongIdentifiers r = []
  · by_cases hss : strongIdentifiers s = []
    · rw [rootName_of_nil hrs, rootName_of_nil hss] at heq
      obtain ⟨hscope, hentity⟩ := entityIdentifier_inj heq
      exact .rel _ _ ⟨hr, hs, Or.inr ⟨hrs, hss, hscope, hentity⟩⟩
    · exact absurd heq (h.entity_ne hrs hs hss)
  by_cases hss : strongIdentifiers s = []
  · exact absurd heq.symm (h.entity_ne hss hr hrs)
  obtain ⟨a, ha⟩ := exists_mem_of_ne_nil _ hrs
  obtain ⟨b, hb⟩ := exists_mem_of_ne_nil _ hss
  have hab : rep a = rep b := by rw [h.rep_of_mem hr ha, heq, h.rep_of_mem hs hb]
  exact connected_of_path (adjacent_path ((h.classes a b).1 hab)) hr hs ha hb

theorem Represents.names (h : Represents active rep) : Names active (rootName rep) where
  component r hr s hs := ⟨h.connected hr hs, h.rootName_eq⟩
  attained r hr := by
    by_cases hstrong : strongIdentifiers r = []
    · refine ⟨r, hr, .refl r, ?_⟩
      rw [identifiers, if_pos hstrong, rootName_of_nil hstrong]
      exact mem_singleton_self _
    obtain ⟨s, hs, hmem⟩ := h.rootName_mem hr hstrong
    -- the root is an identifier of `s`, and its own representative
    have hname : rootName rep r = rootName rep s := by
      obtain ⟨first, hfirst⟩ := exists_mem_of_ne_nil _ hstrong
      rw [← h.rep_of_mem hs hmem, ← h.rep_of_mem hr hfirst, h.idem]
    refine ⟨s, hs, h.connected hr hs hname, ?_⟩
    rw [identifiers, if_neg (ne_nil_of_mem hmem)]
    exact hmem
  least r _ s hs hrs id hid := by
    rw [h.rootName_eq hrs]
    unfold identifiers at hid
    split at hid
    · next hstrong =>
      rw [rootName_of_nil hstrong, mem_singleton.1 hid]
    · rw [← h.rep_of_mem hs hid]
      exact h.le id

/-- The least identifiers are determined by the components. -/
theorem Names.unique {active' : List EvidenceRecord} {name name' : EvidenceRecord → Bytes} (h : Names active name)
    (h' : Names active' name') (hmem : ∀ r, r ∈ active' ↔ r ∈ active) (hr : r ∈ active) : name r = name' r := by
  have hconnected : ∀ r s, Connected active' r s ↔ Connected active r s := by
    intro r s
    simp only [Connected, hmem]
  have hr' := (hmem r).2 hr
  refine le_antisymm ?_ ?_
  · obtain ⟨s, hs, hrs, hid⟩ := h'.attained r hr'
    exact h.least r hr s ((hmem s).1 hs) ((hconnected r s).1 hrs) _ hid
  · obtain ⟨s, hs, hrs, hid⟩ := h.attained r hr
    exact h'.least r hr' s ((hmem s).2 hs) ((hconnected r s).2 hrs) _ hid

/-! ### Collecting the records -/

section Collect

variable {Text Addr : Type} [LinearOrder Text] [LinearOrder Addr] (fromUtf8 : Bytes → Option Text)
  (parse : Text → Option Addr)

/-- What a list of records says of an asset. -/
def AssetCandidate.of (id : Bytes) (group : List EvidenceRecord) : AssetCandidate Text Addr :=
  group.foldl (AssetCandidate.absorb fromUtf8 parse) (.new id)

namespace AssetCandidate

/-- The parts of an asset as one set of facts. -/
inductive Fact (Text Addr : Type) where
  | strong (id : Bytes)
  | address (address : Addr)
  | name (text : Text)
  | service (text : Text)

def Holds (asset : AssetCandidate Text Addr) : Fact Text Addr → Prop
  | .strong id => id ∈ asset.strongIdentifiers
  | .address address => address ∈ asset.addresses
  | .name text => text ∈ asset.names
  | .service text => text ∈ asset.services

def Says (field : EvidenceField) : Fact Text Addr → Prop
  | .strong _ => False
  | .address address => fieldRole field.key = .address ∧ (fromUtf8 field.value).bind parse = some address
  | .name text => fieldRole field.key = .name ∧ fromUtf8 field.value = some text
  | .service text => fieldRole field.key = .service ∧ fromUtf8 field.value = some text

def Tells (record : EvidenceRecord) : Fact Text Addr → Prop
  | .strong id => id ∈ Platform.strongIdentifiers record
  | fact => ∃ field ∈ record.fields, Says fromUtf8 parse field fact

/-- An asset is its identifier and its facts. -/
theorem ext_holds {a b : AssetCandidate Text Addr} (hid : a.id = b.id) (hconflicts : a.conflicts = b.conflicts)
    (h : ∀ fact, a.Holds fact ↔ b.Holds fact) : a = b := by
  obtain ⟨id, strong, addresses, names, services, conflicts⟩ := a
  obtain ⟨id', strong', addresses', names', services', conflicts'⟩ := b
  obtain rfl : strong = strong' := OrdSet.ext_mem fun id => h (.strong id)
  obtain rfl : addresses = addresses' := OrdSet.ext_mem fun address => h (.address address)
  obtain rfl : names = names' := OrdSet.ext_mem fun text => h (.name text)
  obtain rfl : services = services' := OrdSet.ext_mem fun text => h (.service text)
  obtain rfl : id = id' := hid
  obtain rfl : conflicts = conflicts' := hconflicts
  rfl

variable {fromUtf8 parse} {asset : AssetCandidate Text Addr} {field : EvidenceField} {fact : Fact Text Addr}

theorem holds_absorbField :
    (asset.absorbField fromUtf8 parse field).Holds fact ↔ asset.Holds fact ∨ Says fromUtf8 parse field fact := by
  unfold absorbField
  cases hrole : fieldRole field.key with
  | address =>
    cases hvalue : (fromUtf8 field.value).bind parse <;> cases fact <;>
      simp [Holds, Says, hrole, hvalue, or_comm, eq_comm]
  | name | service =>
    cases hvalue : fromUtf8 field.value <;> cases fact <;> simp [Holds, Says, hrole, hvalue, or_comm, eq_comm]
  | other => cases fact <;> simp [Says, hrole]

theorem absorbField_id : (asset.absorbField fromUtf8 parse field).id = asset.id ∧
    (asset.absorbField fromUtf8 parse field).conflicts = asset.conflicts := by
  unfold absorbField
  split <;> (try split) <;> exact ⟨rfl, rfl⟩

private theorem holds_foldl_absorbField (fields : List EvidenceField) :
    (fields.foldl (absorbField fromUtf8 parse) asset).Holds fact ↔
      asset.Holds fact ∨ ∃ field ∈ fields, Says fromUtf8 parse field fact := by
  induction fields generalizing asset with
  | nil => simp
  | cons field fields ih =>
    rw [foldl_cons, ih, holds_absorbField, exists_mem_cons_iff]
    exact or_assoc

private theorem foldl_absorbField_id (fields : List EvidenceField) :
    (fields.foldl (absorbField fromUtf8 parse) asset).id = asset.id ∧
      (fields.foldl (absorbField fromUtf8 parse) asset).conflicts = asset.conflicts := by
  refine List.foldlRecOn (motive := fun a : AssetCandidate Text Addr => a.id = asset.id ∧
    a.conflicts = asset.conflicts) fields _ ⟨rfl, rfl⟩ fun a ha field _ => ?_
  exact ⟨absorbField_id.1.trans ha.1, absorbField_id.2.trans ha.2⟩

theorem holds_absorb {record : EvidenceRecord} :
    (asset.absorb fromUtf8 parse record).Holds fact ↔ asset.Holds fact ∨ Tells fromUtf8 parse record fact := by
  rw [absorb, holds_foldl_absorbField]
  cases fact with
  | strong id => simp [Holds, Says, Tells, OrdSet.mem_foldl_insert]
  | address | name | service => exact Iff.rfl

theorem of_append (id : Bytes) (group : List EvidenceRecord) (record : EvidenceRecord) :
    of fromUtf8 parse id (group ++ [record]) = (of fromUtf8 parse id group).absorb fromUtf8 parse record := by
  rw [of, of, foldl_append]
  rfl

variable (fromUtf8 parse) in
private theorem of_spec (id : Bytes) (group : List EvidenceRecord) :
    (of fromUtf8 parse id group).id = id ∧ (of fromUtf8 parse id group).conflicts = .empty ∧
      ∀ fact, (of fromUtf8 parse id group).Holds fact ↔ ∃ record ∈ group, Tells fromUtf8 parse record fact := by
  induction group using List.reverseRecOn with
  | nil => refine ⟨rfl, rfl, fun fact => ?_⟩; cases fact <;> simp [of, Holds, new]
  | append_singleton group record ih =>
    obtain ⟨hid, hconflicts, hholds⟩ := ih
    rw [of_append]
    refine ⟨(foldl_absorbField_id _).1.trans hid, (foldl_absorbField_id _).2.trans hconflicts, fun fact => ?_⟩
    rw [holds_absorb, hholds]
    simp

/-- An asset depends only on the set of its records. -/
theorem of_congr (id : Bytes) {group group' : List EvidenceRecord} (h : ∀ r, r ∈ group ↔ r ∈ group') :
    of fromUtf8 parse id group = of fromUtf8 parse id group' := by
  obtain ⟨hid, hconflicts, hholds⟩ := of_spec fromUtf8 parse id group
  obtain ⟨hid', hconflicts', hholds'⟩ := of_spec fromUtf8 parse id group'
  refine ext_holds (hid.trans hid'.symm) (hconflicts.trans hconflicts'.symm) fun fact => ?_
  simp only [hholds, hholds', h]

end AssetCandidate

variable (name : EvidenceRecord → Bytes)

/-- The assets of records under given names. -/
def gathered (records : List EvidenceRecord) : OrdMap Bytes (AssetCandidate Text Addr) :=
  records.foldl (fun assets record => deposit fromUtf8 parse (name record) record assets) ∅

def grouped (records : List EvidenceRecord) (id : Bytes) : List EvidenceRecord :=
  records.filter fun record => name record = id

theorem get?_gathered (records : List EvidenceRecord) (id : Bytes) :
    (gathered fromUtf8 parse name records).get? id =
      if grouped name records id = [] then none
      else some (AssetCandidate.of fromUtf8 parse id (grouped name records id)) := by
  induction records using List.reverseRecOn with
  | nil => rfl
  | append_singleton records record ih =>
    have hnext : gathered fromUtf8 parse name (records ++ [record]) =
        deposit fromUtf8 parse (name record) record (gathered fromUtf8 parse name records) := by
      rw [gathered, gathered, foldl_append]
      rfl
    rw [hnext, deposit]
    by_cases hid : id = name record
    · subst hid
      have hgroup : grouped name (records ++ [record]) (name record) = grouped name records (name record) ++
        [record] := by
        simp [grouped]
      have hne : grouped name records (name record) ++ [record] ≠ [] := by simp
      rw [OrdMap.get?_insert_self, ih, hgroup, if_neg hne, AssetCandidate.of_append]
      split
      · next hnil => rw [hnil]; rfl
      · rfl
    have hgroup : grouped name (records ++ [record]) id = grouped name records id := by
      simp [grouped, Ne.symm hid]
    rw [OrdMap.get?_insert_of_ne _ _ hid, ih, hgroup]

/-- The assets in the order of their names. -/
theorem values_gathered (records : List EvidenceRecord) : (gathered fromUtf8 parse name records).values =
      (sortDedup (records.map name)).map fun id =>
        AssetCandidate.of fromUtf8 parse id (grouped name records id) := by
  have hkeys : (gathered fromUtf8 parse name records).keys = sortDedup (records.map name) := by
    refine List.Pairwise.eq_of_mem_iff (pairwise_map.2 (OrdMap.sorted _)) (sortDedup_sorted _) fun id => ?_
    rw [OrdMap.mem_keys, mem_sortDedup, mem_map, get?_gathered]
    constructor
    · rintro ⟨asset, hasset⟩
      split at hasset
      · cases hasset
      next hgroup =>
      obtain ⟨r, hr⟩ := exists_mem_of_ne_nil _ hgroup
      obtain ⟨hmem, hname⟩ := mem_filter.1 hr
      exact ⟨r, hmem, by simpa using hname⟩
    rintro ⟨r, hr, rfl⟩
    have hmem : r ∈ grouped name records (name r) := mem_filter.2 ⟨hr, by simp⟩
    rw [if_neg (ne_nil_of_mem hmem)]
    exact ⟨_, rfl⟩
  rw [← hkeys, OrdMap.keys, OrdMap.values, map_map]
  refine map_congr_left fun entry hentry => ?_
  have hget := get?_gathered fromUtf8 parse name records entry.1
  rw [OrdMap.get?_eq_some_iff.2 (show (entry.1, entry.2) ∈ _ from hentry)] at hget
  split at hget
  · cases hget
  · exact Option.some.inj hget

/-- The second loop collects every record under its name. -/
theorem foldlM_collect {S : List Bytes} {parents : OrdMap Bytes Bytes} (h : UnionFind.Forest S parents rep)
    {fuel : Nat} (hfuel : S.length < fuel) {records : List EvidenceRecord}
    (hrecords : ∀ r ∈ records, ∀ id ∈ strongIdentifiers r, id ∈ S)
    (assets : OrdMap Bytes (AssetCandidate Text Addr)) :
    ∃ parents', records.foldlM (collect fromUtf8 parse fuel) (parents, assets) = some (parents',
      records.foldl (fun assets record => deposit fromUtf8 parse (rootName rep record) record assets) assets) := by
  induction records generalizing parents assets with
  | nil => exact ⟨parents, rfl⟩
  | cons record records ih =>
    have hidentify : ∃ parents', identify fuel parents record = some (rootName rep record, parents') ∧
        UnionFind.Forest S parents' rep := by
      unfold identify rootName
      cases hstrong : strongIdentifiers record with
      | nil => exact ⟨parents, rfl, h⟩
      | cons first others =>
        have hfirst : first ∈ S := hrecords record (mem_cons_self ..) first (hstrong ▸ mem_cons_self ..)
        exact UnionFind.find_spec h hfirst (Nat.lt_of_le_of_lt countP_le_length hfuel)
    obtain ⟨parents', hidentify, h'⟩ := hidentify
    have hstep : collect fromUtf8 parse fuel (parents, assets) record =
        some (parents', deposit fromUtf8 parse (rootName rep record) record assets) := by
      rw [collect, hidentify]
      rfl
    obtain ⟨parents'', hrest⟩ := ih h' (forall_mem_cons.1 hrecords).2
      (deposit fromUtf8 parse (rootName rep record) record assets)
    refine ⟨parents'', ?_⟩
    rw [foldlM_cons, hstep]
    exact hrest

/-! ### The result -/

/-- The assets of the components: one for each name, with all that the records of the component say. -/
def componentAssets (active : List EvidenceRecord) : List (AssetCandidate Text Addr) :=
  (sortDedup (active.map name)).map fun id => AssetCandidate.of fromUtf8 parse id (grouped name active id)

theorem componentAssets_congr {name name' : EvidenceRecord → Bytes} {active' : List EvidenceRecord}
    (hmem : ∀ r, r ∈ active' ↔ r ∈ active) (hname : ∀ r ∈ active, name r = name' r) :
    componentAssets fromUtf8 parse name' active' = componentAssets fromUtf8 parse name active := by
  have hnames : sortDedup (active'.map name') = sortDedup (active.map name) := by
    refine sortDedup_congr fun id => ?_
    simp only [mem_map, hmem]
    exact exists_congr fun r => and_congr_right fun hr => by rw [hname r hr]
  rw [componentAssets, componentAssets, hnames]
  refine map_congr_left fun id _ => AssetCandidate.of_congr id fun r => ?_
  simp only [grouped, mem_filter, hmem]
  exact and_congr_right fun hr => by rw [hname r hr]

/-- An asset holds what the records of its component say. -/
theorem Names.holds {name : EvidenceRecord → Bytes} (h : Names active name) {asset : AssetCandidate Text Addr}
    (hasset : asset ∈ componentAssets fromUtf8 parse name active) :
    asset.conflicts = .empty ∧ ∃ r ∈ active, asset.id = name r ∧ ∀ fact, asset.Holds fact ↔
      ∃ s ∈ active, Connected active r s ∧ AssetCandidate.Tells fromUtf8 parse s fact := by
  obtain ⟨id, hid, rfl⟩ := mem_map.1 hasset
  obtain ⟨r, hr, rfl⟩ := mem_map.1 (mem_sortDedup.1 hid)
  obtain ⟨hname, hconflicts, hholds⟩ :=
    AssetCandidate.of_spec fromUtf8 parse (name r) (grouped name active (name r))
  refine ⟨hconflicts, r, hr, hname, fun fact => ?_⟩
  rw [hholds]
  refine exists_congr fun s => ?_
  rw [grouped, mem_filter, decide_eq_true_eq, and_assoc]
  exact and_congr_right fun hs => and_congr_left fun _ => eq_comm.trans (h.component r hr s hs)

/-- With more fuel than there are identifiers, the assets of the components are returned. -/
theorem reconcileAssets_eq (records : List EvidenceRecord) {fuel : Nat}
    (hfuel : ((activeRecords records).flatMap strongIdentifiers).length < fuel) :
    ∃ name, Names (activeRecords records) name ∧
      reconcileAssets fromUtf8 parse fuel records =
        some (componentAssets fromUtf8 parse name (activeRecords records)) := by
  have hpairs : ∀ pair ∈ (activeRecords records).flatMap links,
      pair.1 ∈ (activeRecords records).flatMap strongIdentifiers ∧
        pair.2 ∈ (activeRecords records).flatMap strongIdentifiers := by
    intro pair hpair
    obtain ⟨r, hr, hlink⟩ := mem_flatMap.1 hpair
    obtain ⟨hleft, hright⟩ := mem_links (a := pair.1) (b := pair.2) hlink
    exact ⟨mem_flatMap.2 ⟨r, hr, hleft⟩, mem_flatMap.2 ⟨r, hr, hright⟩⟩
  obtain ⟨parents, rep, hlink, hforest, hclasses⟩ := UnionFind.linkAll_empty hpairs hfuel
  have hrep : Represents (activeRecords records) rep := ⟨hforest.le, hforest.idem, hforest.mem, hclasses⟩
  obtain ⟨parents', hcollect⟩ := foldlM_collect fromUtf8 parse hforest hfuel
    (fun r hr id hid => mem_flatMap.2 ⟨r, hr, hid⟩) ∅
  refine ⟨rootName rep, hrep.names, ?_⟩
  -- there are no more assets than records, so none is cut off
  have hfew : (componentAssets fromUtf8 parse (rootName rep) (activeRecords records)).length ≤ maxAssets := by
    rw [componentAssets, length_map]
    refine (length_sortDedup_le _).trans ?_
    rw [length_map]
    exact (length_filter_le _ _).trans (length_take_le _ _)
  rw [reconcileAssets, foldlM_linkRecord, hlink]
  simp only [Option.bind_eq_bind, Option.bind_some, hcollect]
  rw [← take_of_length_le hfew, componentAssets, ← values_gathered]
  rfl

/-- `reconcileAssets` returns, for every list of records that is not cut off, one asset for each connected
component of the active records, named by its least identifier and with all that the records of the component say;
the order of the records does not matter, and the recursion of `findIdentifier` ends, because the links it follows
decrease. -/
theorem reconcile_components (records : List EvidenceRecord) (hlength : records.length ≤ maxEvidenceRecords) :
    ∃ name, Names (activeRecords records) name ∧
      (∀ asset ∈ componentAssets fromUtf8 parse name (activeRecords records),
        asset.conflicts = .empty ∧ ∃ r ∈ activeRecords records, asset.id = name r ∧ ∀ fact, asset.Holds fact ↔
          ∃ s ∈ activeRecords records, Connected (activeRecords records) r s ∧
            AssetCandidate.Tells fromUtf8 parse s fact) ∧
      ∀ records' : List EvidenceRecord, records'.Perm records →
        ∀ fuel, ((activeRecords records).flatMap strongIdentifiers).length < fuel →
          reconcileAssets fromUtf8 parse fuel records' =
            some (componentAssets fromUtf8 parse name (activeRecords records)) := by
  obtain ⟨name, hnames, -⟩ := reconcileAssets_eq fromUtf8 parse records (Nat.lt_succ_self _)
  refine ⟨name, hnames, fun asset => hnames.holds fromUtf8 parse, fun records' hperm fuel hfuel => ?_⟩
  have hactive : (activeRecords records').Perm (activeRecords records) := by
    rw [activeRecords, activeRecords, take_of_length_le hlength, take_of_length_le (hperm.length_eq ▸ hlength)]
    exact hperm.filter _
  have hfuel' : ((activeRecords records').flatMap strongIdentifiers).length < fuel := by
    rw [(hactive.flatMap_right strongIdentifiers).length_eq]
    exact hfuel
  obtain ⟨name', hnames', hreconcile⟩ := reconcileAssets_eq fromUtf8 parse records' hfuel'
  rw [hreconcile, componentAssets_congr fromUtf8 parse (fun r => hactive.mem_iff) fun r hr =>
    hnames.unique hnames' (fun r => hactive.mem_iff) hr]

end Collect

/-- A device that was seen with a link address and a UPnP name of one byte each, in the local scope. -/
def sightedDevice (mac udn : UInt8) (recordId : Nat) : EvidenceRecord where
  origin := ⟨.passiveObservation, 1, [114, 117, 110], recordId⟩
  entity := ⟨.deviceCandidate, [100, 101, 118]⟩
  confidence := .structural
  disposition := .observed
  observedAtNanos := 10
  expiresAtNanos := none
  wallTimeMillis := none
  fields := [⟨macKey, [mac]⟩, ⟨upnpUdnKey, [udn]⟩]
  relations := []
  variableBytes := 18
  checked := by rfl
  fieldsSorted := pairwise_pair.2 (Prod.Lex.left _ _ (show macKey < upnpUdnKey by decide))
  relationsSorted := EvidenceRecord.noRelations_sorted
  measured := by rfl
  bounded := by decide

/-- Three sightings of one device, of which the first and the last share no identifier, and one of another device.
-/
theorem reconcile_components_sightings :
    let records := [sightedDevice 1 1 1, sightedDevice 3 3 2, sightedDevice 2 2 3, sightedDevice 2 1 4]
    let fromUtf8 : Bytes → Option Bytes := some
    let parse : Bytes → Option Nat := fun _ => none
    records.length ≤ maxEvidenceRecords ∧ ∃ name, Names (activeRecords records) name ∧
      name (sightedDevice 1 1 1) = name (sightedDevice 2 2 3) ∧
      (componentAssets fromUtf8 parse name (activeRecords records)).map (·.strongIdentifiers.elements.length) =
        [4, 2] ∧
      reconcileAssets fromUtf8 parse 9 records.reverse =
        some (componentAssets fromUtf8 parse name (activeRecords records)) := by
  intro records fromUtf8 parse
  have hlength : records.length ≤ maxEvidenceRecords := by decide
  obtain ⟨name, hnames, -, hassets⟩ := reconcile_components fromUtf8 parse records hlength
  have hreverse := hassets _ (reverse_perm _) 9 (by decide +kernel)
  have hactive : activeRecords records = records := rfl
  have hmem : sightedDevice 1 1 1 ∈ records ∧ sightedDevice 2 1 4 ∈ records ∧ sightedDevice 2 2 3 ∈ records := by
    simp [records]
  -- the last record has the name of the first and the link address of the third
  have hconnected : Connected records (sightedDevice 1 1 1) (sightedDevice 2 2 3) := by
    have hname : SharesStrong (sightedDevice 1 1 1) (sightedDevice 2 1 4) :=
      ⟨rfl, ⟨upnpUdnKey, [1]⟩, by decide, by decide, by decide⟩
    have haddress : SharesStrong (sightedDevice 2 1 4) (sightedDevice 2 2 3) :=
      ⟨rfl, ⟨macKey, [2]⟩, by decide, by decide, by decide⟩
    exact .trans _ _ _ (.rel _ _ ⟨hmem.1, hmem.2.1, Or.inl hname⟩) (.rel _ _ ⟨hmem.2.1, hmem.2.2, Or.inl haddress⟩)
  have hidentifiers : (reconcileAssets fromUtf8 parse 9 records.reverse).map
      (·.map (·.strongIdentifiers.elements.length)) = some [4, 2] := by decide +kernel
  rw [hreverse] at hidentifiers
  rw [hactive] at hnames
  exact ⟨hlength, name, hnames, (hnames.component _ hmem.1 _ hmem.2.2).2 hconnected,
    Option.some.inj hidentifiers, hreverse⟩

end NodeNet.Platform
