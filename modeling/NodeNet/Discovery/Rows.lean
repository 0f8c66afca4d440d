import Mathlib.Algebra.Order.BigOperators.Group.List
import Mathlib.Data.List.Perm.Subperm
import NodeNet.Base.Bytes
import NodeNet.Base.OrdMap
import NodeNet.Base.Sorted
import NodeNet.Base.StableSort
import NodeNet.Discovery.Budget

/-!
# Discovery rows

What a discovery session retains of the responses: one row per entity.  A row is cut to fixed bounds
(`boundedRow`), a second sighting of an entity is merged into its row (`mergeRow`), and the rows are put in order
at the end of the session (`finishRows`).  `discoveryRowMetadataBytes` is the size of a row that is charged to the
budgets; putting the rows in order never makes it larger (`sum_finishRows_le`).
-/

namespace NodeNet.Discovery

open List
open Engine (saturatingAdd)

def maxMetadataFieldsPerRow : Nat := 128
def maxMetadataBytesPerRow : Nat := 16 * 1024

structure NativeDiscoveryMetadataField where
  key : Bytes
  value : Bytes
  text : Option Bytes
deriving DecidableEq

inductive RowOutcome where
  | complete
  | partially
  | truncatedByPolicy
deriving DecidableEq

structure NativeDiscoveryRow where
  entityId : Bytes := []
  parentEntityId : Option Bytes := none
  derivationKind : Option Bytes := none
  operationId : Nat
  outcome : RowOutcome
  responder : Bytes
  responderPort : Nat
  interfaceIndex : Option Nat
  identity : Bytes
  addresses : List Bytes
  metadata : List NativeDiscoveryMetadataField
  truncated : Bool
deriving DecidableEq

namespace NativeDiscoveryMetadataField

variable (field : NativeDiscoveryMetadataField)

def textLength : Nat := (field.text.map List.length).getD 0

def length : Nat :=
  saturatingAdd usizeMax (saturatingAdd usizeMax field.key.length field.value.length) field.textLength

def sortKey : Bytes ×ₗ Bytes ×ₗ Bool ×ₗ Bytes := toLex (field.key, toLex (field.value, optionKey field.text))

theorem sortKey_injective : Function.Injective sortKey := by
  rintro ⟨key, value, text⟩ ⟨key', value', text'⟩ h
  simp only [sortKey, toLex_inj, Prod.mk.injEq, optionKey_injective.eq_iff] at h
  obtain ⟨rfl, rfl, rfl⟩ := h
  rfl

instance : LinearOrder NativeDiscoveryMetadataField := LinearOrder.lift' sortKey sortKey_injective

end NativeDiscoveryMetadataField

variable (row : NativeDiscoveryRow)

def discoveryRowMetadataBytes : Nat :=
  saturatingAdd usizeMax (saturatingAdd usizeMax row.identity.length (row.addresses.map List.length).sum)
    (row.metadata.map NativeDiscoveryMetadataField.length).sum

/-! ### Bounds -/

namespace NativeDiscoveryRow

def markTruncated : NativeDiscoveryRow :=
  { row with truncated := true, outcome := .truncatedByPolicy }

/-- What makes two sightings one entity. -/
abbrev Key := Nat ×ₗ (Bool ×ₗ Nat) ×ₗ Bytes ×ₗ Nat ×ₗ Bytes

def key : Key :=
  toLex (row.operationId, toLex (optionKey row.interfaceIndex,
    toLex (row.responder, toLex (row.responderPort, row.identity))))

end NativeDiscoveryRow

/-- A field that is not kept, whatever fields there are before it or because of them. -/
def rejectsField (total : Nat) (field : NativeDiscoveryMetadataField) : Bool :=
  field.key.isEmpty || field.key.length > 1024 || field.value.length > 1024 || field.textLength > 1024 ||
    saturatingAdd usizeMax total field.length > maxMetadataBytesPerRow

/-- The fields that are kept, given the bytes of those kept before, and whether any is left out. -/
def retainFields : Nat → List NativeDiscoveryMetadataField → List NativeDiscoveryMetadataField × Bool
  | _, [] => ([], false)
  | total, field :: fields =>
    if rejectsField total field then ((retainFields total fields).1, true)
    else
      let (kept, dropped) := retainFields (total + field.length) fields
      (field :: kept, dropped)

/-- Cuts a row to its bounds.  Answers nothing if its identity is unusable. -/
def boundedRow : Option NativeDiscoveryRow :=
  if row.identity.isEmpty ∨ row.identity.length > 1024 then none
  else
    let addresses := row.addresses.filter fun address => !address.isEmpty && address.length ≤ 128
    let row :=
      if addresses.length ≠ row.addresses.length then { row with addresses }.markTruncated else
        { row with addresses }
    let row :=
      if row.addresses.length > 32 then { row with addresses := row.addresses.take 32 }.markTruncated else row
    let row :=
      if row.metadata.length > maxMetadataFieldsPerRow then
        { row with metadata := row.metadata.take maxMetadataFieldsPerRow }.markTruncated
      else row
    let (metadata, dropped) := retainFields 0 row.metadata
    let row := { row with metadata }
    some (if dropped then row.markTruncated else row)

/-- Adds an address that is not there yet. -/
def addAddress (addresses : List Bytes) (address : Bytes) : List Bytes :=
  if addresses.length < 32 ∧ address ∉ addresses then addresses ++ [address] else addresses

/-- Adds what another sighting of the same entity says. -/
def mergeRow (existing row : NativeDiscoveryRow) : NativeDiscoveryRow :=
  let merged := { existing with
    addresses := row.addresses.foldl addAddress existing.addresses
    metadata := row.metadata.foldl addDistinct existing.metadata }
  if row.outcome = .truncatedByPolicy then merged.markTruncated
  else if row.outcome = .complete ∧ merged.outcome = .partially then { merged with outcome := .complete }
  else merged

/-! ### The end of a session -/

def decimal (n : Nat) : Bytes := (Nat.toDigits 10 n).map fun digit => UInt8.ofNat digit.toNat

/-- Where the parent of a derived entity is looked up. -/
abbrev ParentKey := (Bool ×ₗ Nat) ×ₗ Bytes ×ₗ Bytes

namespace NativeDiscoveryRow

/-- Puts the parts of a row in order. -/
def normalized : NativeDiscoveryRow :=
  { row with addresses := sortDedup row.addresses, metadata := sortDedup row.metadata }

/-- The row may be the parent of derived ones. -/
def isParent : Bool := row.operationId = 7 && row.derivationKind.isNone

def parentKey (identity : Bytes) : ParentKey :=
  toLex (optionKey row.interfaceIndex, toLex (row.responder, identity))

/-- The row is not derived, or its parent is one of the given ones. -/
def hasParent (parents : List ParentKey) (row : NativeDiscoveryRow) : Bool :=
  row.derivationKind.isNone || row.parentEntityId.any fun parent => parents.contains (row.parentKey parent)

/-- Replaces the identity of the parent by its number. -/
def resolveParent (parentIds : OrdMap ParentKey Bytes) (row : NativeDiscoveryRow) : NativeDiscoveryRow :=
  if row.derivationKind.isSome then
    match row.parentEntityId with
    | none => row
    | some parent => { row with parentEntityId := parentIds.get? (row.parentKey parent) }
  else row

end NativeDiscoveryRow

variable (rows : List NativeDiscoveryRow)

def numberRows : List NativeDiscoveryRow :=
  rows.mapIdx fun index row => { row with entityId := decimal (index + 1) }

/-- The rows of a session in their final order and form. -/
def finishRows : List NativeDiscoveryRow :=
  let rows := sortByKey NativeDiscoveryRow.key (rows.map NativeDiscoveryRow.normalized)
  let parents := (rows.filter NativeDiscoveryRow.isParent).map fun row => row.parentKey row.identity
  let rows := numberRows (rows.filter (NativeDiscoveryRow.hasParent parents))
  let parentIds := (rows.filter NativeDiscoveryRow.isParent).foldl
    (fun ids row => ids.insert (row.parentKey row.identity) row.entityId) (∅ : OrdMap ParentKey Bytes)
  rows.map (NativeDiscoveryRow.resolveParent parentIds)

/-! ### Sizes -/

def totalMetadataBytes : Nat := (rows.map discoveryRowMetadataBytes).sum

@[simp]
theorem discoveryRowMetadataBytes_markTruncated :
    discoveryRowMetadataBytes row.markTruncated = discoveryRowMetadataBytes row := rfl

private theorem sum_sortDedup_le {α : Type} [LinearOrder α] (weight : α → Nat) (l : List α) :
    ((sortDedup l).map weight).sum ≤ (l.map weight).sum := by
  have hnodup : (sortDedup l).Nodup := (sortDedup_sorted l).imp fun hlt => ne_of_lt hlt
  obtain ⟨l', hperm, hsublist⟩ := hnodup.subperm fun _ hmem => mem_sortDedup.1 hmem
  rw [← (hperm.map weight).sum_eq]
  exact (hsublist.map weight).sum_le_sum fun _ _ => Nat.zero_le _

theorem discoveryRowMetadataBytes_normalized_le :
    discoveryRowMetadataBytes row.normalized ≤ discoveryRowMetadataBytes row := by
  have haddresses := sum_sortDedup_le List.length row.addresses
  have hmetadata := sum_sortDedup_le NativeDiscoveryMetadataField.length row.metadata
  simp only [discoveryRowMetadataBytes, NativeDiscoveryRow.normalized, Engine.saturatingAdd]
  omega

private theorem length_numberRows : (numberRows rows).length = rows.length := length_mapIdx

private theorem totalMetadataBytes_numberRows :
    totalMetadataBytes (numberRows rows) = totalMetadataBytes rows := by
  have hbytes : (numberRows rows).map discoveryRowMetadataBytes =
    (rows.zipIdx.map Prod.fst).map discoveryRowMetadataBytes := by
    rw [numberRows, mapIdx_eq_zipIdx_map, map_map, map_map]
    rfl
  rw [totalMetadataBytes, hbytes, zipIdx_map_fst]
  rfl

private theorem discoveryRowMetadataBytes_resolveParent (parentIds : OrdMap ParentKey Bytes)
    (row : NativeDiscoveryRow) :
    discoveryRowMetadataBytes (row.resolveParent parentIds) = discoveryRowMetadataBytes row := by
  unfold NativeDiscoveryRow.resolveParent
  split
  · split <;> rfl
  · rfl

theorem length_finishRows_le : (finishRows rows).length ≤ rows.length := by
  simp only [finishRows, length_map, length_numberRows]
  refine (length_filter_le _ _).trans ?_
  rw [(sortByKey_perm _ _).length_eq, length_map]

/-- Putting the rows in order does not make them larger. -/
theorem sum_finishRows_le : totalMetadataBytes (finishRows rows) ≤ totalMetadataBytes rows := by
  have hresolve : ∀ (parentIds : OrdMap ParentKey Bytes) (rows : List NativeDiscoveryRow),
      totalMetadataBytes (rows.map (NativeDiscoveryRow.resolveParent parentIds)) = totalMetadataBytes rows := by
    intro parentIds rows
    rw [totalMetadataBytes, map_map]
    exact congrArg List.sum (map_congr_left fun row _ => discoveryRowMetadataBytes_resolveParent parentIds row)
  simp only [finishRows, hresolve, totalMetadataBytes_numberRows]
  set sorted := sortByKey NativeDiscoveryRow.key (rows.map NativeDiscoveryRow.normalized) with hsorted
  calc
    totalMetadataBytes (sorted.filter _) ≤ totalMetadataBytes sorted :=
      ((filter_sublist (l := sorted)).map discoveryRowMetadataBytes).sum_le_sum fun _ _ => Nat.zero_le _
    _ = totalMetadataBytes (rows.map NativeDiscoveryRow.normalized) :=
      ((sortByKey_perm _ _).map discoveryRowMetadataBytes).sum_eq
    _ ≤ totalMetadataBytes rows := by
      rw [totalMetadataBytes, map_map]
      exact sum_le_sum fun row _ => discoveryRowMetadataBytes_normalized_le row

end NodeNet.Discovery
