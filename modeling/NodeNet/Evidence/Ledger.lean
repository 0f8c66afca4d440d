import Mathlib.Algebra.Order.BigOperators.Group.List
import NodeNet.Base.OrdMap
import NodeNet.Base.Program
import NodeNet.Evidence.Record

/-!
# The evidence ledger

A ledger keeps records by entity, each record once, below a number of records and of bytes.  While the limits are
not reached, the ledger is a join: what it holds is the set of records it was given.  `EvidenceLedger.Sound` is the
invariant of all ledgers, full ones included: the counters are sums over what is stored.
-/

namespace NodeNet.Evidence

open List
open Engine (checkedAdd saturatingAdd u64Max)

structure EvidenceLedgerCounters where
  accepted : Nat := 0
  duplicates : Nat := 0
  conflicts : Nat := 0
  rejectedCapacity : Nat := 0
deriving DecidableEq

inductive EvidenceRetainOutcome where
  | accepted
  | duplicate
  | conflict
deriving DecidableEq

inductive EvidenceLedgerError where
  | recordCapacity
  | byteCapacity
  | arithmeticOverflow
deriving DecidableEq

structure EvidenceLedger where
  records : OrdMap EvidenceEntityKey (OrdSet EvidenceRecord)
  recordCount : Nat
  variableBytes : Nat
  maximumRecords : Nat
  maximumBytes : Nat
  counters : EvidenceLedgerCounters

namespace EvidenceLedger

/-- An empty ledger, unless a capacity is zero or above the contract. -/
def new (maximumRecords maximumBytes : Nat) : Except EvidenceLedgerError EvidenceLedger :=
  if maximumRecords = 0 ∨ maximumRecords > maxEvidenceRecords then .error .recordCapacity
  else if maximumBytes = 0 ∨ maximumBytes > maxEvidenceBatchBytes then .error .byteCapacity
  else .ok {
    records := ∅
    recordCount := 0
    variableBytes := 0
    maximumRecords := maximumRecords
    maximumBytes := maximumBytes
    counters := {} }

variable (ledger : EvidenceLedger)

variable (record : EvidenceRecord)

def stores : Bool := (ledger.records.get? record.entity).any fun records => record ∈ records

/-- The set of a record's entity with the record in it. -/
def entry : OrdSet EvidenceRecord := ((ledger.records.get? record.entity).getD OrdSet.empty).insert record

/-- Retains one record or reports that it is a duplicate. -/
def retain : EStateM EvidenceLedgerError EvidenceLedger EvidenceRetainOutcome := do
  let ledger ← get
  if ledger.stores record then do
    modify fun ledger => { ledger with
      counters.duplicates := saturatingAdd u64Max ledger.counters.duplicates 1 }
    pure .duplicate
  else if ledger.recordCount ≥ ledger.maximumRecords then do
    modify fun ledger => { ledger with
      counters.rejectedCapacity := saturatingAdd u64Max ledger.counters.rejectedCapacity 1 }
    throw .recordCapacity
  else match checkedAdd u64Max ledger.variableBytes record.variableBytes with
    | none => throw .arithmeticOverflow
    | some nextBytes =>
      if nextBytes > ledger.maximumBytes then do
        modify fun ledger => { ledger with
          counters.rejectedCapacity := saturatingAdd u64Max ledger.counters.rejectedCapacity 1 }
        throw .byteCapacity
      else do
        let conflict := ledger.records.contains record.entity
        set { ledger with
          variableBytes := nextBytes
          recordCount := ledger.recordCount + 1
          records := ledger.records.insert record.entity (ledger.entry record) }
        if conflict then do
          modify fun ledger => { ledger with
            counters.conflicts := saturatingAdd u64Max ledger.counters.conflicts 1 }
          pure .conflict
        else do
          modify fun ledger => { ledger with
            counters.accepted := saturatingAdd u64Max ledger.counters.accepted 1 }
          pure .accepted

/-- The ledger after one record was offered, retained or not. -/
def offer : EvidenceLedger := endState (retain record) ledger

/-- The ledger after records were offered in turn. -/
def offerAll (records : List EvidenceRecord) : EvidenceLedger := records.foldl offer ledger

def usage : Nat × Nat := (ledger.recordCount, ledger.variableBytes)

/-- The records by entity, those of one entity in their order. -/
def finish : List EvidenceRecord := ledger.records.values.flatMap OrdSet.elements

/-- The distinct records of a list are within the limits of a ledger. -/
def Fits (records : List EvidenceRecord) : Prop :=
  records.dedup.length ≤ ledger.maximumRecords ∧
    (records.dedup.map EvidenceRecord.variableBytes).sum ≤ ledger.maximumBytes

instance (records : List EvidenceRecord) : Decidable (ledger.Fits records) := inferInstanceAs (Decidable (_ ∧ _))

variable {ledger ledger' : EvidenceLedger} {record : EvidenceRecord}

/-! ### Invariant -/

/-- The counters of a ledger are sums over what it stores. -/
structure Sound (ledger : EvidenceLedger) : Prop where
  keyed : ∀ entity records, ledger.records.get? entity = some records → ∀ r ∈ records, r.entity = entity
  inhabited : ∀ entity records, ledger.records.get? entity = some records → ∃ r, r ∈ records
  nodup : ledger.finish.Nodup
  count : ledger.recordCount = ledger.finish.length
  bytes : ledger.variableBytes = (ledger.finish.map EvidenceRecord.variableBytes).sum
  accepted : ledger.counters.accepted = ledger.records.size
  conflicts : ledger.counters.accepted + ledger.counters.conflicts = ledger.recordCount
  countLe : ledger.recordCount ≤ ledger.maximumRecords
  maximumRecordsLe : ledger.maximumRecords ≤ maxEvidenceRecords
  maximumBytesLe : ledger.maximumBytes ≤ maxEvidenceBatchBytes
  bytesLe : ledger.variableBytes ≤ ledger.maximumBytes

theorem Sound.mem_finish (h : ledger.Sound) : record ∈ ledger.finish ↔ ledger.stores record = true := by
  simp only [finish, mem_flatMap, OrdMap.mem_values, stores, Option.any_eq_true, decide_eq_true_eq]
  constructor
  · rintro ⟨records, ⟨entity, hget⟩, hmem⟩
    obtain rfl := h.keyed entity records hget record hmem
    exact ⟨records, hget, hmem⟩
  · rintro ⟨records, hget, hmem⟩
    exact ⟨records, ⟨record.entity, hget⟩, hmem⟩

/-- A ledger with one more record, its counters apart. -/
def add (ledger : EvidenceLedger) (record : EvidenceRecord) (counters : EvidenceLedgerCounters) : EvidenceLedger :=
  { ledger with
    variableBytes := ledger.variableBytes + record.variableBytes
    recordCount := ledger.recordCount + 1
    records := ledger.records.insert record.entity (ledger.entry record)
    counters := counters }

/-- A record that is not stored is added once to what `finish` returns. -/
theorem finish_add_perm (hnew : ledger.stores record = false) (counters : EvidenceLedgerCounters) :
    (ledger.add record counters).finish.Perm (record :: ledger.finish) := by
  unfold finish OrdMap.values add
  simp only [flatMap_map]
  cases hget : ledger.records.get? record.entity with
  | none =>
    have hentry : (ledger.entry record).elements = [record] := by
      simp only [entry, hget]
      rfl
    have hperm := (OrdMap.entries_insert_perm (ledger.entry record) hget).flatMap_right fun e => e.2.elements
    rw [flatMap_cons, hentry] at hperm
    exact hperm
  | some records =>
    have hfresh : record ∉ records := by
      simpa [stores, hget] using hnew
    have hentry : (ledger.entry record).elements.Perm (record :: records.elements) := by
      simp only [entry, hget]
      exact OrdSet.insert_perm hfresh
    have hold := (OrdMap.entries_erase_perm hget).flatMap_right fun e => e.2.elements
    have hnext := (OrdMap.entries_insert_perm (ledger.entry record)
      (ledger.records.get?_erase_self record.entity)).flatMap_right fun e => e.2.elements
    rw [OrdMap.insert_erase, flatMap_cons] at hnext
    rw [flatMap_cons] at hold
    exact hnext.trans ((hentry.append_right _).trans (hold.cons record))

/-! ### Steps -/

def counted (ledger : EvidenceLedger) (record : EvidenceRecord) : EvidenceLedgerCounters :=
  if ledger.records.contains record.entity then
    { ledger.counters with conflicts := saturatingAdd u64Max ledger.counters.conflicts 1 }
  else { ledger.counters with accepted := saturatingAdd u64Max ledger.counters.accepted 1 }

/-- What an offer does: a record that is stored, or does not fit, changes at most a counter of such records; any
other is added. -/
theorem offer_cases (ledger : EvidenceLedger) (record : EvidenceRecord) :
    (∃ duplicates rejectedCapacity, ledger.offer record = { ledger with
        counters.duplicates := duplicates
        counters.rejectedCapacity := rejectedCapacity } ∧
      (ledger.stores record = true ∨ ledger.maximumRecords ≤ ledger.recordCount ∨
        u64Max < ledger.variableBytes + record.variableBytes ∨
        ledger.maximumBytes < ledger.variableBytes + record.variableBytes)) ∨
    (ledger.offer record = ledger.add record (ledger.counted record) ∧ ledger.stores record = false ∧
      ledger.recordCount < ledger.maximumRecords ∧
      ledger.variableBytes + record.variableBytes ≤ ledger.maximumBytes) := by
  refine Ends.endState (P := fun ledger' => (∃ duplicates rejectedCapacity, ledger' = { ledger with
      counters.duplicates := duplicates
      counters.rejectedCapacity := rejectedCapacity } ∧ _) ∨ (ledger' = _ ∧ _)) ?_
  simp only [retain, ends_bind, ends_get, ends_ite, ends_modify, ends_pure, ends_throw]
  refine ⟨fun hstored => Or.inl ⟨_, _, rfl, Or.inl hstored⟩, fun hnew =>
    ⟨fun hfull => Or.inl ⟨_, _, rfl, Or.inr (Or.inl hfull)⟩, fun hroom => ?_⟩⟩
  have hadd : checkedAdd u64Max ledger.variableBytes record.variableBytes =
      if ledger.variableBytes + record.variableBytes ≤ u64Max then
        some (ledger.variableBytes + record.variableBytes) else none := rfl
  by_cases hmachine : ledger.variableBytes + record.variableBytes ≤ u64Max
  · rw [hadd, if_pos hmachine]
    simp only [ends_bind, ends_ite, ends_set, ends_modify, ends_pure, ends_throw]
    refine ⟨fun hlarge => Or.inl ⟨_, _, rfl, by omega⟩, fun hsmall => ?_⟩
    refine ⟨fun hconflict => Or.inr ⟨?_, by simpa using hnew, by omega, by omega⟩,
      fun hfirst => Or.inr ⟨?_, by simpa using hnew, by omega, by omega⟩⟩
    · simp only [add, counted, if_pos hconflict]
    · simp only [add, counted, if_neg hfirst]
  · rw [hadd, if_neg hmachine]
    exact Or.inl ⟨_, _, rfl, by omega⟩

theorem Sound.offer (h : ledger.Sound) (record : EvidenceRecord) : (ledger.offer record).Sound := by
  rcases offer_cases ledger record with ⟨duplicates, rejected, hnext, -⟩ | ⟨hnext, hnew, hroom, hbytes⟩
  · rw [hnext]
    exact { h with }
  rw [hnext]
  have hperm := finish_add_perm hnew (ledger.counted record)
  have hfresh : record ∉ ledger.finish := by
    rw [h.mem_finish, hnew]
    exact Bool.false_ne_true
  have hcount := h.conflicts
  have hcountLe := h.countLe
  have hcapacity : ledger.maximumRecords ≤ 8192 := h.maximumRecordsLe
  -- the counters stay far below the largest `u64`
  have hmachine : 8193 ≤ u64Max := by decide
  refine ⟨?_, ?_, hperm.nodup_iff.2 (nodup_cons.2 ⟨hfresh, h.nodup⟩), ?_, ?_, ?_, ?_, hroom, h.maximumRecordsLe,
    h.maximumBytesLe, hbytes⟩
  · intro entity records hget r hr
    rcases OrdMap.of_get?_insert hget with ⟨rfl, rfl⟩ | ⟨-, hget⟩
    · rcases OrdSet.mem_insert.1 hr with rfl | hr
      · rfl
      cases hold : ledger.records.get? record.entity with
      | none => simp [hold] at hr
      | some records => exact h.keyed _ records hold r (by simpa [hold] using hr)
    · exact h.keyed entity records hget r hr
  · intro entity records hget
    rcases OrdMap.of_get?_insert hget with ⟨rfl, rfl⟩ | ⟨-, hget⟩
    · exact ⟨record, OrdSet.mem_insert.2 (Or.inl rfl)⟩
    · exact h.inhabited entity records hget
  · rw [hperm.length_eq, length_cons, ← h.count]
    rfl
  · rw [(hperm.map _).sum_eq, map_cons, sum_cons, ← h.bytes, Nat.add_comm]
    rfl
  · simp only [add, counted]
    cases hget : ledger.records.get? record.entity with
    | none =>
      rw [OrdMap.size_insert _ hget, ← h.accepted]
      simp only [OrdMap.contains, hget, Option.isSome_none, Bool.false_eq_true, if_false, saturatingAdd]
      omega
    | some records =>
      rw [OrdMap.size_insert_of_get? hget, ← h.accepted]
      simp [OrdMap.contains, hget]
  · simp only [add, counted, saturatingAdd]
    split <;> simp only <;> omega

theorem Sound.offerAll (h : ledger.Sound) (records : List EvidenceRecord) : (ledger.offerAll records).Sound := by
  induction records generalizing ledger with
  | nil => exact h
  | cons record records ih => exact ih (h.offer record)

theorem new_sound {maximumRecords maximumBytes : Nat} (h : new maximumRecords maximumBytes = .ok ledger) :
    ledger.Sound ∧ ledger.finish = [] := by
  rw [new, ite_error_eq_ok, ite_error_eq_ok] at h
  obtain ⟨hrecords, hbytes, h⟩ := h
  obtain rfl := Except.ok.inj h
  exact ⟨⟨by simp, by simp, nodup_nil, rfl, rfl, rfl, rfl, Nat.zero_le _, Nat.not_lt.1 (not_or.1 hrecords).2,
    Nat.not_lt.1 (not_or.1 hbytes).2, Nat.zero_le _⟩, rfl⟩

/-! ### The ledger as a join -/

theorem offerAll_append (records : List EvidenceRecord) (record : EvidenceRecord) :
    ledger.offerAll (records ++ [record]) = (ledger.offerAll records).offer record := foldl_append ..

theorem offerAll_maxima (records : List EvidenceRecord) :
    (ledger.offerAll records).maximumRecords = ledger.maximumRecords ∧
      (ledger.offerAll records).maximumBytes = ledger.maximumBytes := by
  induction records using List.reverseRecOn with
  | nil => exact ⟨rfl, rfl⟩
  | append_singleton records record ih =>
    rw [offerAll_append]
    rcases offer_cases (ledger.offerAll records) record with ⟨_, _, hnext, -⟩ | ⟨hnext, -⟩ <;>
      rw [hnext] <;> exact ih

/-- The limits are about the set of records. -/
theorem Fits.congr {records records' : List EvidenceRecord} (h : ledger.Fits records)
    (hmem : ∀ r, r ∈ records' ↔ r ∈ records) : ledger.Fits records' := by
  have hperm : records'.dedup.Perm records.dedup := by
    rw [perm_ext_iff_of_nodup (nodup_dedup _) (nodup_dedup _)]
    intro r
    rw [mem_dedup, mem_dedup, hmem]
  unfold Fits
  rw [hperm.length_eq, (hperm.map _).sum_eq]
  exact h

theorem Fits.of_append {records : List EvidenceRecord} (h : ledger.Fits (records ++ [record])) :
    ledger.Fits records := by
  have hsub : records.dedup.Subperm (records ++ [record]).dedup := by
    refine subperm_of_subset (nodup_dedup _) fun r hr => ?_
    rw [mem_dedup] at hr ⊢
    exact mem_append_left _ hr
  have hlength := hsub.length_le
  obtain ⟨l, hl, hsublist⟩ := hsub
  constructor
  · exact hlength.trans h.1
  · rw [← (hl.map _).sum_eq]
    exact (List.Sublist.sum_le_sum (hsublist.map _) fun _ _ => Nat.zero_le _).trans h.2

/-- Below the limits, a ledger holds the records it was given and nothing else. -/
theorem mem_finish_offerAll (h : ledger.Sound) (hempty : ledger.finish = []) {records : List EvidenceRecord}
    (hfits : ledger.Fits records) (r : EvidenceRecord) : r ∈ (ledger.offerAll records).finish ↔ r ∈ records := by
  induction records using List.reverseRecOn generalizing r with
  | nil => simp [offerAll, hempty]
  | append_singleton records record ih =>
    have ih := ih hfits.of_append
    have hsound := h.offerAll records
    obtain ⟨hmaxRecords, hmaxBytes⟩ := @offerAll_maxima ledger records
    rw [offerAll_append]
    generalize hl : ledger.offerAll records = ledger' at *
    rcases offer_cases ledger' record with ⟨_, _, hnext, hwhy⟩ | ⟨hnext, hnew, -, -⟩
    · rw [hnext]
      have hstored : ledger'.stores record = true := by
        by_contra hnew
        -- the stored records and the new one are distinct records of the list, so they fit
        have hfresh : record ∉ ledger'.finish := fun hmem => hnew (hsound.mem_finish.1 hmem)
        have hperm : (record :: ledger'.finish).Perm (records ++ [record]).dedup := by
          rw [perm_ext_iff_of_nodup (nodup_cons.2 ⟨hfresh, hsound.nodup⟩) (nodup_dedup _)]
          intro r
          rw [mem_cons, ih, mem_dedup, mem_append, mem_singleton]
          exact or_comm
        obtain ⟨hcount, hbytes⟩ := hfits
        rw [← hperm.length_eq, length_cons, ← hsound.count] at hcount
        rw [← (hperm.map _).sum_eq, map_cons, sum_cons, ← hsound.bytes] at hbytes
        have hmachine : maxEvidenceBatchBytes ≤ u64Max := by decide
        have hcapacity := hsound.maximumBytesLe
        rcases hwhy with hstored | hfull | hlarge | hlarge
        · exact hnew hstored
        all_goals omega
      have hmem := (ih record).1 (hsound.mem_finish.2 hstored)
      rw [mem_append, mem_singleton, or_iff_left_of_imp fun hr => hr ▸ hmem]
      exact ih r
    · rw [hnext, (finish_add_perm hnew _).mem_iff, mem_cons, ih, mem_append, mem_singleton]
      exact or_comm

theorem Sound.mem_iff (h : ledger.Sound) {entity : EvidenceEntityKey} {records : OrdSet EvidenceRecord}
    (hget : ledger.records.get? entity = some records) : record ∈ records ↔ record.entity = entity ∧
    record ∈ ledger.finish := by
  constructor
  · intro hr
    obtain rfl := h.keyed entity records hget record hr
    exact ⟨rfl, h.mem_finish.2 (by simpa [stores, hget] using hr)⟩
  · rintro ⟨rfl, hr⟩
    simpa [stores, hget] using h.mem_finish.1 hr

/-- What a ledger stores determines its map. -/
theorem Sound.records_eq (h : ledger.Sound) (h' : ledger'.Sound)
    (hmem : ∀ r, r ∈ ledger.finish ↔ r ∈ ledger'.finish) : ledger.records = ledger'.records := by
  -- a set of one ledger is not empty, so the other ledger has a set for its entity, and the same one
  have hsub : ∀ {l l' : EvidenceLedger}, l.Sound → l'.Sound → (∀ r, r ∈ l.finish ↔ r ∈ l'.finish) →
      ∀ entity records, l.records.get? entity = some records → l'.records.get? entity = some records := by
    intro l l' h h' hmem entity records hget
    obtain ⟨r, hr⟩ := h.inhabited entity records hget
    obtain ⟨rfl, hfinish⟩ := (h.mem_iff hget).1 hr
    obtain ⟨records', hget', -⟩ := (Option.any_eq_true ..).1 (h'.mem_finish.1 ((hmem r).1 hfinish))
    have heq : records' = records := OrdSet.ext_mem fun s => by rw [h'.mem_iff hget', h.mem_iff hget, hmem]
    rw [hget', heq]
  refine OrdMap.ext_get? fun entity => Option.ext fun records => ?_
  exact ⟨hsub h h' hmem entity records, hsub h' h (fun r => (hmem r).symm) entity records⟩

/-- A new ledger that was offered records within its limits holds exactly these records, whatever their order and
their repetitions; the usage is the sum over the stored records, and each of them was counted once, as accepted or
as a conflict. -/
theorem ledger_join {maximumRecords maximumBytes : Nat} (hnew : new maximumRecords maximumBytes = .ok ledger)
    (records : List EvidenceRecord) (hfits : ledger.Fits records) :
    (∀ r, r ∈ (ledger.offerAll records).finish ↔ r ∈ records) ∧
    (∀ records' : List EvidenceRecord, (∀ r, r ∈ records' ↔ r ∈ records) →
      (ledger.offerAll records').records = (ledger.offerAll records).records ∧
      (ledger.offerAll records').finish = (ledger.offerAll records).finish ∧
      (ledger.offerAll records').usage = (ledger.offerAll records).usage ∧
      (ledger.offerAll records').counters.accepted = (ledger.offerAll records).counters.accepted ∧
      (ledger.offerAll records').counters.conflicts = (ledger.offerAll records).counters.conflicts) ∧
    (ledger.offerAll records).usage = ((ledger.offerAll records).finish.length,
      ((ledger.offerAll records).finish.map EvidenceRecord.variableBytes).sum) ∧
    (ledger.offerAll records).counters.accepted + (ledger.offerAll records).counters.conflicts =
      (ledger.offerAll records).finish.length := by
  obtain ⟨hsound, hempty⟩ := new_sound hnew
  have hrun := hsound.offerAll records
  have hmem := mem_finish_offerAll hsound hempty hfits
  refine ⟨hmem, fun records' hmem' => ?_, ?_, ?_⟩
  · have hrun' := hsound.offerAll records'
    have heq := hrun'.records_eq hrun fun r => by
      rw [hmem, mem_finish_offerAll hsound hempty (hfits.congr hmem'), hmem']
    have hfinish : (ledger.offerAll records').finish = (ledger.offerAll records).finish := by
      rw [finish, heq, finish]
    have hcount : (ledger.offerAll records').recordCount = (ledger.offerAll records).recordCount := by
      rw [hrun'.count, hrun.count, hfinish]
    have haccepted : (ledger.offerAll records').counters.accepted =
      (ledger.offerAll records).counters.accepted := by
      rw [hrun'.accepted, hrun.accepted, heq]
    refine ⟨heq, hfinish, ?_, haccepted, ?_⟩
    · rw [usage, usage, hcount, hrun'.bytes, hrun.bytes, hfinish]
    have hconflicts := hrun'.conflicts
    have hconflicts' := hrun.conflicts
    omega
  · rw [usage, hrun.count, hrun.bytes]
  · rw [hrun.conflicts, hrun.count]

/-- A device that was observed under a name of one byte. -/
def namedDevice (name : UInt8) (recordId : Nat) : EvidenceRecord where
  origin := ⟨.discoveryResult, 1, [114, 117, 110], recordId⟩
  entity := ⟨.deviceCandidate, [100, 101, 118, 105, 99, 101]⟩
  confidence := .structural
  disposition := .observed
  observedAtNanos := 10
  expiresAtNanos := none
  wallTimeMillis := none
  fields := [⟨[110, 97, 109, 101], [name]⟩]
  relations := []
  variableBytes := 14
  checked := by rfl
  fieldsSorted := pairwise_singleton _ _
  relationsSorted := EvidenceRecord.noRelations_sorted
  measured := by rfl
  bounded := by decide

/-- An empty ledger of eight records and 4096 bytes. -/
def smallLedger : EvidenceLedger := ⟨∅, 0, 0, 8, 4096, {}⟩

/-- Two records of one device are in conflict, and a third that repeats the first one is not stored again. -/
theorem ledger_join_named_devices :
    let records := [namedDevice 1 1, namedDevice 2 2, namedDevice 1 1]
    new 8 4096 = .ok smallLedger ∧ smallLedger.Fits records ∧
      (smallLedger.offerAll [namedDevice 2 2, namedDevice 1 1]).finish = (smallLedger.offerAll records).finish ∧
      (smallLedger.offerAll records).usage = ((smallLedger.offerAll records).finish.length,
        ((smallLedger.offerAll records).finish.map EvidenceRecord.variableBytes).sum) := by
  have hnew : new 8 4096 = .ok smallLedger := by rfl
  have hfits : smallLedger.Fits [namedDevice 1 1, namedDevice 2 2, namedDevice 1 1] := by decide +kernel
  obtain ⟨-, hsame, husage, -⟩ := ledger_join hnew _ hfits
  refine ⟨hnew, hfits, (hsame [namedDevice 2 2, namedDevice 1 1] fun r => ?_).2.1, husage⟩
  simp only [mem_cons, not_mem_nil, or_false]
  tauto

end EvidenceLedger

end NodeNet.Evidence
