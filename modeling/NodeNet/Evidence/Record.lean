import NodeNet.Base.Bytes
import NodeNet.Base.Sorted
import NodeNet.Engine.Types

/-!
# Evidence records

A record says what one source observed of one entity.  `EvidenceRecord.new` checks the input, sorts its fields and
relations, and counts its variable bytes; a value of `EvidenceRecord` carries the proof that this was done.  The
types are ordered as the source derives it: by their fields, the first one first.
-/

namespace NodeNet.Evidence

open Engine (checkedAdd u64Max)

def maxEvidenceRecords : Nat := 8192
def maxEvidenceFields : Nat := 128
def maxEvidenceRelations : Nat := 64
def maxEvidenceItemBytes : Nat := 1024
def maxEvidenceRecordBytes : Nat := 16 * 1024
def maxEvidenceBatchBytes : Nat := 16 * 1024 * 1024

/-! ### Enumerations -/

inductive EvidenceSourceKind where
  | scanResult | discoveryResult | passiveObservation | pathObservation | serviceConversation | localContext
  | importedSensor
deriving DecidableEq

inductive EvidenceEntityKind where
  | deviceCandidate | interface | address | name | service | router | networkPrefix | path | hop | adjacency
  | classification
deriving DecidableEq

inductive EvidenceRelationKind where
  | hasAddress | hasName | offersService | attachedToInterface | routesPrefix | nextHop | advertisedBy
  | derivedFrom
  | classifiedAs
deriving DecidableEq

inductive EvidenceConfidence where
  | weak | structural | transactionCorrelated | strongCorrelated
deriving DecidableEq

inductive EvidenceDisposition where
  | observed | inferred | expired | withdrawn | conflict
deriving DecidableEq

namespace EvidenceSourceKind

def discriminant (kind : EvidenceSourceKind) : Nat := kind.ctorIdx + 1

instance : LinearOrder EvidenceSourceKind :=
  LinearOrder.lift' discriminant fun a b h => by cases a <;> cases b <;> first | rfl | cases h

end EvidenceSourceKind

namespace EvidenceEntityKind

def discriminant (kind : EvidenceEntityKind) : Nat := kind.ctorIdx + 1

theorem discriminant_injective : Function.Injective discriminant := fun a b h => by
  cases a <;> cases b <;> first | rfl | cases h

theorem discriminant_lt (kind : EvidenceEntityKind) : kind.discriminant < 256 := by
  cases kind <;> decide

instance : LinearOrder EvidenceEntityKind := LinearOrder.lift' discriminant discriminant_injective

end EvidenceEntityKind

namespace EvidenceRelationKind

def discriminant (kind : EvidenceRelationKind) : Nat := kind.ctorIdx + 1

instance : LinearOrder EvidenceRelationKind :=
  LinearOrder.lift' discriminant fun a b h => by cases a <;> cases b <;> first | rfl | cases h

end EvidenceRelationKind

namespace EvidenceConfidence

def discriminant (confidence : EvidenceConfidence) : Nat := confidence.ctorIdx + 1

instance : LinearOrder EvidenceConfidence :=
  LinearOrder.lift' discriminant fun a b h => by cases a <;> cases b <;> first | rfl | cases h

end EvidenceConfidence

namespace EvidenceDisposition

def discriminant (disposition : EvidenceDisposition) : Nat := disposition.ctorIdx + 1

instance : LinearOrder EvidenceDisposition :=
  LinearOrder.lift' discriminant fun a b h => by cases a <;> cases b <;> first | rfl | cases h

end EvidenceDisposition

/-! ### Parts of a record -/

structure EvidenceOrigin where
  source : EvidenceSourceKind
  sourceSchema : Nat
  runId : Bytes
  recordId : Nat
deriving DecidableEq

structure EvidenceEntityKey where
  kind : EvidenceEntityKind
  canonical : Bytes
deriving DecidableEq

structure EvidenceField where
  key : Bytes
  value : Bytes
deriving DecidableEq

structure EvidenceRelation where
  kind : EvidenceRelationKind
  target : EvidenceEntityKey
deriving DecidableEq

namespace EvidenceOrigin

def sortKey (origin : EvidenceOrigin) : EvidenceSourceKind ×ₗ Nat ×ₗ Bytes ×ₗ Nat :=
  toLex (origin.source, toLex (origin.sourceSchema, toLex (origin.runId, origin.recordId)))

theorem sortKey_injective : Function.Injective sortKey := fun a b h => by
  cases a
  cases b
  simpa [sortKey] using h

instance : LinearOrder EvidenceOrigin := LinearOrder.lift' sortKey sortKey_injective

end EvidenceOrigin

namespace EvidenceEntityKey

def sortKey (entity : EvidenceEntityKey) : EvidenceEntityKind ×ₗ Bytes := toLex (entity.kind, entity.canonical)

theorem sortKey_injective : Function.Injective sortKey := fun a b h => by
  cases a
  cases b
  simpa [sortKey] using h

instance : LinearOrder EvidenceEntityKey := LinearOrder.lift' sortKey sortKey_injective

end EvidenceEntityKey

namespace EvidenceField

def sortKey (field : EvidenceField) : Bytes ×ₗ Bytes := toLex (field.key, field.value)

theorem sortKey_injective : Function.Injective sortKey := fun a b h => by
  cases a
  cases b
  simpa [sortKey] using h

instance : LinearOrder EvidenceField := LinearOrder.lift' sortKey sortKey_injective

end EvidenceField

namespace EvidenceRelation

def sortKey (relation : EvidenceRelation) : EvidenceRelationKind ×ₗ EvidenceEntityKey :=
  toLex (relation.kind, relation.target)

theorem sortKey_injective : Function.Injective sortKey := fun a b h => by
  cases a
  cases b
  simpa [sortKey] using h

instance : LinearOrder EvidenceRelation := LinearOrder.lift' sortKey sortKey_injective

end EvidenceRelation

/-! ### Checks -/

inductive EvidenceValidationError where
  | emptyRunId
  | zeroSourceSchema
  | emptyCanonicalKey
  | tooManyFields
  | tooManyRelations
  | emptyFieldKey
  | itemTooLarge
  | recordTooLarge
  | invalidExpiry
  | arithmeticOverflow
deriving DecidableEq

structure EvidenceRecordInput where
  origin : EvidenceOrigin
  entity : EvidenceEntityKey
  confidence : EvidenceConfidence
  disposition : EvidenceDisposition
  observedAtNanos : Nat
  expiresAtNanos : Option Nat
  wallTimeMillis : Option Int
  fields : List EvidenceField
  relations : List EvidenceRelation
deriving DecidableEq

def itemTooLarge (value : Bytes) : Bool := value.length > maxEvidenceItemBytes

namespace EvidenceRecordInput

variable (input : EvidenceRecordInput)

/-- The error of the first check that fails. -/
def check : Option EvidenceValidationError :=
  if input.origin.runId.isEmpty then some .emptyRunId
  else if input.origin.sourceSchema = 0 then some .zeroSourceSchema
  else if input.entity.canonical.isEmpty then some .emptyCanonicalKey
  else if input.fields.length > maxEvidenceFields then some .tooManyFields
  else if input.relations.length > maxEvidenceRelations then some .tooManyRelations
  else if input.fields.any fun field => field.key.isEmpty then some .emptyFieldKey
  else if input.expiresAtNanos.any fun expires => expires < input.observedAtNanos then some .invalidExpiry
  else if itemTooLarge input.origin.runId || itemTooLarge input.entity.canonical ||
      (input.fields.any fun field => itemTooLarge field.key || itemTooLarge field.value) ||
      (input.relations.any fun relation => itemTooLarge relation.target.canonical) then some .itemTooLarge
  else none

/-- The fields and the relations, each once and in order. -/
def canonicalized : EvidenceRecordInput :=
  { input with fields := sortDedup input.fields, relations := sortDedup input.relations }

/-- The bytes of the run id, the canonical key, the fields and the targets, unless a `usize` cannot count them. -/
def measure : Option Nat := do
  let base ← checkedAdd u64Max input.origin.runId.length input.entity.canonical.length
  let total ← input.fields.foldlM (fun total field => do
    let withKey ← checkedAdd u64Max total field.key.length
    checkedAdd u64Max withKey field.value.length) base
  input.relations.foldlM (fun sum relation => checkedAdd u64Max sum relation.target.canonical.length) total

private theorem ite_some_eq_none {α : Type} {c : Prop} [Decidable c] {e : α} {rest : Option α} :
    (if c then some e else rest) = none ↔ ¬ c ∧ rest = none := by
  split <;> simp [*]

/-- What an input that passes all checks satisfies. -/
theorem check_eq_none_iff {input : EvidenceRecordInput} : input.check = none ↔
    input.origin.runId ≠ [] ∧ input.origin.sourceSchema ≠ 0 ∧ input.entity.canonical ≠ [] ∧
      input.fields.length ≤ maxEvidenceFields ∧ input.relations.length ≤ maxEvidenceRelations ∧
      (∀ field ∈ input.fields, field.key ≠ []) ∧
      (∀ expires ∈ input.expiresAtNanos, input.observedAtNanos ≤ expires) ∧
      ((input.origin.runId.length ≤ maxEvidenceItemBytes ∧ input.entity.canonical.length ≤ maxEvidenceItemBytes) ∧
        ∀ field ∈ input.fields,
          field.key.length ≤ maxEvidenceItemBytes ∧ field.value.length ≤ maxEvidenceItemBytes) ∧
      ∀ relation ∈ input.relations, relation.target.canonical.length ≤ maxEvidenceItemBytes := by
  cases hexpires : input.expiresAtNanos <;> simp [check, ite_some_eq_none, itemTooLarge, hexpires]

/-- Sorting the fields and the relations does not break a check. -/
theorem check_canonicalized {input : EvidenceRecordInput} (h : input.check = none) :
    input.canonicalized.check = none := by
  rw [check_eq_none_iff] at h ⊢
  obtain ⟨hrun, hschema, hkey, hfields, hrelations, hkeys, hexpires, ⟨hitems, hfieldItems⟩, htargets⟩ := h
  refine ⟨hrun, hschema, hkey, ?_, ?_, ?_, hexpires, ⟨hitems, ?_⟩, ?_⟩
  · exact (length_sortDedup_le _).trans hfields
  · exact (length_sortDedup_le _).trans hrelations
  · exact fun field hfield => hkeys field (mem_sortDedup.1 hfield)
  · exact fun field hfield => hfieldItems field (mem_sortDedup.1 hfield)
  · exact fun relation hrelation => htargets relation (mem_sortDedup.1 hrelation)

end EvidenceRecordInput

structure EvidenceRecord extends EvidenceRecordInput where
  variableBytes : Nat
  checked : toEvidenceRecordInput.check = none
  fieldsSorted : fields.Pairwise (· < ·)
  relationsSorted : relations.Pairwise (· < ·)
  measured : toEvidenceRecordInput.measure = some variableBytes
  bounded : variableBytes ≤ maxEvidenceRecordBytes
deriving DecidableEq

namespace EvidenceRecord

theorem noRelations_sorted : ([] : List EvidenceRelation).Pairwise (· < ·) := List.Pairwise.nil

/-- Validates and canonicalizes one immutable evidence record. -/
def new (input : EvidenceRecordInput) : Except EvidenceValidationError EvidenceRecord :=
  match hcheck : input.check with
  | some error => .error error
  | none =>
    match hmeasure : input.canonicalized.measure with
    | none => .error .arithmeticOverflow
    | some variableBytes =>
      if hlarge : variableBytes > maxEvidenceRecordBytes then .error .recordTooLarge
      else .ok {
        toEvidenceRecordInput := input.canonicalized
        variableBytes := variableBytes
        checked := EvidenceRecordInput.check_canonicalized hcheck
        fieldsSorted := sortDedup_sorted _
        relationsSorted := sortDedup_sorted _
        measured := hmeasure
        bounded := Nat.not_lt.1 hlarge }

/-- The fields of a record, the first one first. -/
def sortKey (record : EvidenceRecord) :
    EvidenceOrigin ×ₗ EvidenceEntityKey ×ₗ EvidenceConfidence ×ₗ EvidenceDisposition ×ₗ Nat ×ₗ (Bool ×ₗ Nat) ×ₗ
      (Bool ×ₗ Int) ×ₗ List EvidenceField ×ₗ List EvidenceRelation ×ₗ Nat :=
  toLex (record.origin, toLex (record.entity, toLex (record.confidence, toLex (record.disposition,
    toLex (record.observedAtNanos, toLex (optionKey record.expiresAtNanos, toLex (optionKey record.wallTimeMillis,
      toLex (record.fields, toLex (record.relations, record.variableBytes)))))))))

theorem sortKey_injective : Function.Injective sortKey := by
  rintro ⟨⟨a1, a2, a3, a4, a5, a6, a7, a8, a9⟩, a10, _, _, _, _, _⟩ ⟨⟨b1, b2, b3, b4, b5, b6, b7, b8, b9⟩, b10,
    _, _, _, _, _⟩ h
  simp only [sortKey, EmbeddingLike.apply_eq_iff_eq, Prod.mk.injEq] at h
  obtain ⟨rfl, rfl, rfl, rfl, rfl, hexpires, hwall, rfl, rfl, rfl⟩ := h
  obtain rfl := optionKey_injective hexpires
  obtain rfl := optionKey_injective hwall
  rfl

instance : LinearOrder EvidenceRecord := LinearOrder.lift' sortKey sortKey_injective

end EvidenceRecord

end NodeNet.Evidence
