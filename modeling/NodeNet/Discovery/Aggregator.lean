import NodeNet.Base.Bytes
import NodeNet.Base.OrdMap
import NodeNet.Base.Sorted
import NodeNet.Base.StableSort
import NodeNet.Engine.Types

/-!
# Aggregation of discovered entities

Candidates are collected by their identity.  The candidates of one identity are sorted by `candidateKey`, the first
one becomes the entity and the others its conflicts.  After any candidates within the limits, the aggregator holds
for each identity the distinct normalized candidates in the order of their keys, and candidates of equal keys in
the order of their first arrival (`run_spec`).  The key leaves out the parent, the interface and the completeness
of a candidate, so the result is independent of the order of arrival exactly if no two candidates tie in their key
and differ there.
-/

namespace NodeNet.Discovery

open List
open Engine (IpAddress checkedAdd u64Max)

def maxDiscoveryEntityAddresses : Nat := 32
def maxDiscoveryEntityMetadataFields : Nat := 128
def maxDiscoveryMetadataValueBytes : Nat := 1024
def maxDiscoveryEntityMetadataBytes : Nat := 16 * 1024

inductive DiscoveryEntityKind where
  | service | device | name | gateway | databaseInstance | authenticationService | route
deriving DecidableEq

inductive DiscoveryEvidenceKind where
  | parsed | queryRelated | transactionCorrelated
deriving DecidableEq

structure DiscoveryMetadataField where
  key : Bytes
  value : Bytes
deriving DecidableEq

namespace DiscoveryMetadataField

def sortKey (field : DiscoveryMetadataField) : Bytes ×ₗ Bytes := toLex (field.key, field.value)

theorem sortKey_injective : Function.Injective sortKey := fun a b h => by
  cases a
  cases b
  simpa [sortKey] using h

instance : LinearOrder DiscoveryMetadataField := LinearOrder.lift' sortKey sortKey_injective

end DiscoveryMetadataField

structure DiscoveryEntityCandidate where
  canonicalIdentity : Bytes
  parentIdentity : Option Bytes
  operation : Nat
  entityKind : DiscoveryEntityKind
  evidence : DiscoveryEvidenceKind
  responder : IpAddress
  interfaceIndex : Option Nat
  addresses : List IpAddress
  metadata : List DiscoveryMetadataField
  complete : Bool
deriving DecidableEq

namespace DiscoveryEntityCandidate

variable (candidate : DiscoveryEntityCandidate)

def metadataBytes : Option Nat :=
  candidate.metadata.foldlM (fun total field => do
    let withKey ← checkedAdd u64Max total field.key.length
    checkedAdd u64Max withKey field.value.length) 0

def validate : Bool :=
  !candidate.canonicalIdentity.isEmpty &&
    candidate.canonicalIdentity.length ≤ maxDiscoveryMetadataValueBytes &&
    candidate.addresses.length ≤ maxDiscoveryEntityAddresses &&
    candidate.metadata.length ≤ maxDiscoveryEntityMetadataFields &&
    candidate.metadata.all (fun field =>
      !field.key.isEmpty && field.key.length ≤ maxDiscoveryMetadataValueBytes &&
        field.value.length ≤ maxDiscoveryMetadataValueBytes) &&
    candidate.metadataBytes.any (· ≤ maxDiscoveryEntityMetadataBytes)

/-- The addresses and the metadata, each once and in order. -/
def normalize : DiscoveryEntityCandidate :=
  { candidate with addresses := sortDedup candidate.addresses, metadata := sortDedup candidate.metadata }

end DiscoveryEntityCandidate

/-- What two candidates are compared by. -/
def candidateKey (candidate : DiscoveryEntityCandidate) :
    Nat ×ₗ Nat ×ₗ Nat ×ₗ IpAddress ×ₗ List IpAddress ×ₗ List DiscoveryMetadataField :=
  toLex (candidate.operation, toLex (candidate.entityKind.ctorIdx, toLex (candidate.evidence.ctorIdx,
    toLex (candidate.responder, toLex (candidate.addresses, candidate.metadata)))))

structure DiscoveryEntity where
  entityId : Nat
  candidate : DiscoveryEntityCandidate
  conflicts : List DiscoveryEntityCandidate
  duplicateObservations : Nat
  ambiguous : Bool
deriving DecidableEq

structure DiscoveryAggregationCounters where
  accepted : Nat := 0
  duplicates : Nat := 0
  rejected : Nat := 0
  conflicts : Nat := 0
  truncated : Nat := 0
deriving DecidableEq

structure DiscoveryAggregator where
  entities : OrdMap Bytes (List DiscoveryEntityCandidate)
  counters : DiscoveryAggregationCounters
  maximumEntities : Nat

namespace DiscoveryAggregator

def new (maximumEntities : Nat) : DiscoveryAggregator := ⟨∅, {}, maximumEntities⟩

def retain (aggregator : DiscoveryAggregator) (candidate : DiscoveryEntityCandidate) : DiscoveryAggregator :=
  if ¬ candidate.validate then
    { aggregator with counters.rejected := aggregator.counters.rejected + 1 }
  else
    let candidate := candidate.normalize
    match aggregator.entities.get? candidate.canonicalIdentity with
    | some conflicts =>
      if candidate ∈ conflicts then
        { aggregator with counters.duplicates := aggregator.counters.duplicates + 1 }
      else if conflicts.length ≥ maxDiscoveryEntityMetadataFields then
        { aggregator with counters.truncated := aggregator.counters.truncated + 1 }
      else
        { aggregator with
          entities := aggregator.entities.insert candidate.canonicalIdentity
            (sortByKey candidateKey (conflicts ++ [candidate]))
          counters.conflicts := aggregator.counters.conflicts + 1 }
    | none =>
      if aggregator.entities.size ≥ aggregator.maximumEntities then
        { aggregator with counters.truncated := aggregator.counters.truncated + 1 }
      else
        { aggregator with
          entities := aggregator.entities.insert candidate.canonicalIdentity [candidate]
          counters.accepted := aggregator.counters.accepted + 1 }

/-- The entity of the candidates of one identity.  There is none without candidates: the source would panic. -/
def entity (duplicates : Nat) (item : List DiscoveryEntityCandidate × Nat) : Option DiscoveryEntity :=
  match sortByKey candidateKey item.1 with
  | [] => none
  | candidate :: conflicts => some {
      entityId := item.2 + 1
      candidate := candidate
      conflicts := conflicts
      duplicateObservations := duplicates
      ambiguous := !conflicts.isEmpty }

def finish (aggregator : DiscoveryAggregator) : Option (List DiscoveryEntity) :=
  aggregator.entities.values.zipIdx.mapM (entity aggregator.counters.duplicates)

/-- The aggregator after candidates arrived in turn. -/
def run (maximumEntities : Nat) (candidates : List DiscoveryEntityCandidate) : DiscoveryAggregator :=
  candidates.foldl retain (new maximumEntities)

end DiscoveryAggregator

/-! ### What is collected -/

section Collected

variable (candidates : List DiscoveryEntityCandidate)

/-- The valid candidates, normalized. -/
def normalized : List DiscoveryEntityCandidate :=
  (candidates.filter fun candidate => candidate.validate).map DiscoveryEntityCandidate.normalize

/-- The distinct candidates of an identity, in the order of their arrival. -/
def candidatesOf (identity : Bytes) : List DiscoveryEntityCandidate :=
  distinct ((normalized candidates).filter fun candidate => candidate.canonicalIdentity = identity)

def identities : List Bytes := distinct ((normalized candidates).map DiscoveryEntityCandidate.canonicalIdentity)

/-- The candidates stay within the limits of an aggregator. -/
def WithinLimits (maximumEntities : Nat) : Prop :=
  (identities candidates).length ≤ maximumEntities ∧
    ∀ identity ∈ identities candidates, (candidatesOf candidates identity).length ≤
      maxDiscoveryEntityMetadataFields

instance (maximumEntities : Nat) : Decidable (WithinLimits candidates maximumEntities) :=
  inferInstanceAs (Decidable (_ ∧ _))

/-- No two candidates of one identity tie in the key and differ elsewhere. -/
def Untied : Prop :=
  ∀ a ∈ normalized candidates, ∀ b ∈ normalized candidates,
    a.canonicalIdentity = b.canonicalIdentity → candidateKey a = candidateKey b → a = b

instance : Decidable (Untied candidates) :=
  inferInstanceAs (Decidable (∀ a ∈ normalized candidates, ∀ b ∈ normalized candidates, _ → _ → _))

end Collected

variable {candidates candidates' : List DiscoveryEntityCandidate} {candidate : DiscoveryEntityCandidate}

theorem normalized_append_invalid (h : ¬ candidate.validate = true) :
    normalized (candidates ++ [candidate]) = normalized candidates := by
  simp [normalized, h]

theorem normalized_append_valid (h : candidate.validate = true) :
    normalized (candidates ++ [candidate]) = normalized candidates ++ [candidate.normalize] := by
  simp [normalized, h]

theorem mem_candidatesOf {identity : Bytes} : candidate ∈ candidatesOf candidates identity ↔
    candidate ∈ normalized candidates ∧ candidate.canonicalIdentity = identity := by
  rw [candidatesOf, mem_distinct, mem_filter, decide_eq_true_eq]

theorem candidatesOf_ne_nil {identity : Bytes} :
    candidatesOf candidates identity ≠ [] ↔ identity ∈ identities candidates := by
  rw [identities, mem_distinct, mem_map]
  constructor
  · intro hne
    obtain ⟨candidate, hmem⟩ := exists_mem_of_ne_nil _ hne
    exact ⟨candidate, mem_candidatesOf.1 hmem⟩
  · rintro ⟨candidate, hmem⟩
    exact ne_nil_of_mem (mem_candidatesOf.2 hmem)

section Append

variable {x : DiscoveryEntityCandidate} (happend : normalized candidates' = normalized candidates ++ [x])
include happend

theorem candidatesOf_append (identity : Bytes) : candidatesOf candidates' identity =
    if x.canonicalIdentity = identity then addDistinct (candidatesOf candidates identity) x
    else candidatesOf candidates identity := by
  rw [candidatesOf, happend, filter_append]
  split_ifs with hself
  · rw [filter_cons_of_pos (by simpa using hself), filter_nil, distinct_append]
    rfl
  · rw [filter_cons_of_neg (by simpa using hself), filter_nil, append_nil]
    rfl

theorem identities_append : identities candidates' = addDistinct (identities candidates) x.canonicalIdentity := by
  rw [identities, happend, map_append, map_singleton, distinct_append]
  rfl

end Append

private theorem sublist_addDistinct {α : Type} [DecidableEq α] (l : List α) (a : α) :
    l.Sublist (addDistinct l a) := by
  unfold addDistinct
  split
  · exact List.Sublist.refl l
  · exact sublist_append_left l [a]

theorem WithinLimits.of_append {maximumEntities : Nat}
    (h : WithinLimits (candidates ++ [candidate]) maximumEntities) : WithinLimits candidates maximumEntities := by
  by_cases hvalid : candidate.validate = true
  · obtain ⟨hidentities, hcandidates⟩ := h
    have happend : normalized (candidates ++ [candidate]) = _ := normalized_append_valid hvalid
    rw [identities_append happend] at hidentities hcandidates
    refine ⟨(sublist_addDistinct ..).length_le.trans hidentities, fun identity hidentity => ?_⟩
    have hle := hcandidates identity ((sublist_addDistinct ..).subset hidentity)
    rw [candidatesOf_append happend] at hle
    split at hle
    · exact (sublist_addDistinct ..).length_le.trans hle
    · exact hle
  · unfold WithinLimits identities candidatesOf at h ⊢
    rwa [normalized_append_invalid hvalid] at h

/-! ### Runs -/

namespace DiscoveryAggregator

/-- What an aggregator holds after candidates within its limits. -/
structure Holds (aggregator : DiscoveryAggregator) (candidates : List DiscoveryEntityCandidate) : Prop where
  entities : ∀ identity, aggregator.entities.get? identity =
    if candidatesOf candidates identity = [] then none
    else some (sortByKey candidateKey (candidatesOf candidates identity))
  size : aggregator.entities.size = (identities candidates).length
  duplicates : aggregator.counters.duplicates + (distinct (normalized candidates)).length =
    (normalized candidates).length

variable {aggregator : DiscoveryAggregator}

private theorem Holds.reject (h : aggregator.Holds candidates) (hvalid : ¬ candidate.validate = true) :
    (aggregator.retain candidate).Holds (candidates ++ [candidate]) := by
  unfold retain
  rw [if_pos hvalid]
  constructor <;> simp only [candidatesOf, identities, normalized_append_invalid hvalid]
  exacts [h.entities, h.size, h.duplicates]

section Append

variable {x : DiscoveryEntityCandidate} (happend : normalized candidates' = normalized candidates ++ [x])
include happend

private theorem Holds.known (h : aggregator.Holds candidates) (hold : x ∈ normalized candidates) :
    Holds { aggregator with counters.duplicates := aggregator.counters.duplicates + 1 } candidates' := by
  have hsame : ∀ identity, candidatesOf candidates' identity = candidatesOf candidates identity :=
    fun identity => by
    rw [candidatesOf_append happend]
    split_ifs with hself
    · exact if_pos (mem_candidatesOf.2 ⟨hold, hself⟩)
    · rfl
  refine ⟨fun identity => ?_, ?_, ?_⟩
  · rw [hsame]
    exact h.entities identity
  · rw [identities_append happend, addDistinct,
      if_pos (candidatesOf_ne_nil.1 (ne_nil_of_mem (mem_candidatesOf.2 ⟨hold, rfl⟩)))]
    exact h.size
  · rw [happend, distinct_append, addDistinct, if_pos (mem_distinct.2 hold), length_append, ← h.duplicates]
    exact Nat.add_right_comm ..

private theorem Holds.insert (h : aggregator.Holds candidates) (hnew : x ∉ normalized candidates)
    (counters : DiscoveryAggregationCounters) (hcounters : counters.duplicates = aggregator.counters.duplicates) :
    Holds { aggregator with
      entities := aggregator.entities.insert x.canonicalIdentity
        (sortByKey candidateKey (candidatesOf candidates' x.canonicalIdentity))
      counters := counters } candidates' := by
  refine ⟨fun identity => ?_, ?_, ?_⟩
  · rcases eq_or_ne identity x.canonicalIdentity with rfl | hne
    · have hmem : x ∈ candidatesOf candidates' x.canonicalIdentity := mem_candidatesOf.2 ⟨by simp [happend], rfl⟩
      rw [OrdMap.get?_insert_self, if_neg (ne_nil_of_mem hmem)]
    · rw [OrdMap.get?_insert_of_ne _ _ hne, candidatesOf_append happend, if_neg hne.symm, h.entities]
  · have hget := h.entities x.canonicalIdentity
    rw [identities_append happend, addDistinct]
    split_ifs at hget ⊢ with hidentity hfirst hfirst
    · exact absurd hfirst (candidatesOf_ne_nil.2 hidentity)
    · rw [← h.size]
      exact OrdMap.size_insert_of_get? hget
    · rw [length_append, ← h.size]
      exact OrdMap.size_insert _ hget
    · exact absurd (candidatesOf_ne_nil.1 hfirst) hidentity
  · rw [happend, distinct_append, addDistinct, if_neg fun hmem => hnew (mem_distinct.1 hmem), length_append,
      length_append, ← h.duplicates, hcounters, Nat.add_assoc]

end Append

theorem Holds.retain (h : aggregator.Holds candidates)
    (hlimits : WithinLimits (candidates ++ [candidate]) aggregator.maximumEntities) :
    (aggregator.retain candidate).Holds (candidates ++ [candidate]) := by
  by_cases hvalid : candidate.validate = true
  swap
  · exact h.reject hvalid
  have happend : normalized (candidates ++ [candidate]) = _ := normalized_append_valid hvalid
  obtain ⟨hidentities, hcandidates⟩ := hlimits
  unfold DiscoveryAggregator.retain
  rw [if_neg (not_not.2 hvalid)]
  simp only
  generalize candidate.normalize = x at happend ⊢
  have hget := h.entities x.canonicalIdentity
  by_cases hold : x ∈ normalized candidates
  · have hmem : x ∈ candidatesOf candidates x.canonicalIdentity := mem_candidatesOf.2 ⟨hold, rfl⟩
    rw [if_neg (ne_nil_of_mem hmem)] at hget
    simp only [hget, if_pos (mem_sortByKey.2 hmem)]
    exact h.known happend hold
  have hfresh : x ∉ candidatesOf candidates x.canonicalIdentity := fun hmem => hold (mem_candidatesOf.1 hmem).1
  have hgroup : candidatesOf (candidates ++ [candidate]) x.canonicalIdentity =
      candidatesOf candidates x.canonicalIdentity ++ [x] := by
    rw [candidatesOf_append happend, if_pos rfl, addDistinct, if_neg hfresh]
  split_ifs at hget with hfirst
  · -- the first candidate of its identity
    rw [identities_append happend, addDistinct, if_neg fun hmem => candidatesOf_ne_nil.2 hmem hfirst,
      length_append, ← h.size] at hidentities
    simp only [hget, if_neg (Nat.not_le.2 hidentities)]
    have hinsert := h.insert happend hold
    rw [hgroup, hfirst] at hinsert
    exact hinsert _ rfl
  · have hle := hcandidates x.canonicalIdentity (candidatesOf_ne_nil.1 (by simp [hgroup]))
    rw [hgroup, length_append, ← (sortByKey_perm candidateKey _).length_eq] at hle
    simp only [hget, if_neg fun hmem => hfresh (mem_sortByKey.1 hmem), if_neg (Nat.not_le.2 hle)]
    rw [sortByKey_append_right, ← hgroup]
    exact h.insert happend hold _ rfl

theorem retain_maximumEntities : (aggregator.retain candidate).maximumEntities = aggregator.maximumEntities := by
  unfold retain
  split
  · rfl
  simp only
  split
  · split
    · rfl
    · split <;> rfl
  · split <;> rfl

theorem run_append (maximumEntities : Nat) :
    run maximumEntities (candidates ++ [candidate]) = (run maximumEntities candidates).retain candidate := by
  rw [run, run, foldl_append]
  rfl

theorem run_spec {maximumEntities : Nat} (h : WithinLimits candidates maximumEntities) :
    (run maximumEntities candidates).Holds candidates ∧
      (run maximumEntities candidates).maximumEntities = maximumEntities := by
  induction candidates using List.reverseRecOn with
  | nil => exact ⟨⟨fun _ => rfl, rfl, rfl⟩, rfl⟩
  | append_singleton candidates candidate ih =>
    obtain ⟨hholds, hmaximum⟩ := ih h.of_append
    rw [run_append]
    exact ⟨hholds.retain (by rwa [hmaximum]), retain_maximumEntities.trans hmaximum⟩

/-! ### The order of arrival -/

/-- All candidates of an entity, the chosen one first. -/
def allCandidates (entity : DiscoveryEntity) : List DiscoveryEntityCandidate :=
    entity.candidate :: entity.conflicts

private theorem mapM_entity (duplicates start : Nat) {groups : List (List DiscoveryEntityCandidate)}
    (h : ∀ group ∈ groups, group ≠ []) :
    ∃ entities, (groups.zipIdx start).mapM (entity duplicates) = some entities ∧
      entities.map allCandidates = groups.map (sortByKey candidateKey) ∧
      entities.map (·.duplicateObservations) = groups.map fun _ => duplicates := by
  induction groups generalizing start with
  | nil => exact ⟨[], rfl, rfl, rfl⟩
  | cons group groups ih =>
    obtain ⟨entities, hmap, hall, hduplicates⟩ := ih (start + 1) (forall_mem_cons.1 h).2
    have hne : sortByKey candidateKey group ≠ [] := fun hnil =>
      h group (mem_cons_self ..) (perm_nil.1 (hnil ▸ (sortByKey_perm candidateKey group).symm))
    cases hsort : sortByKey candidateKey group with
    | nil => exact absurd hsort hne
    | cons first others =>
      have hentity : entity duplicates (group, start) = some ⟨start + 1, first, others, duplicates,
        !others.isEmpty⟩ := by
        simp only [entity, hsort]
      refine ⟨⟨start + 1, first, others, duplicates, !others.isEmpty⟩ :: entities, ?_, ?_, ?_⟩
      · rw [zipIdx_cons, mapM_cons, hentity, hmap]
        rfl
      · rw [map_cons, map_cons, hall, hsort]
        rfl
      · rw [map_cons, map_cons, hduplicates]

variable {maximumEntities : Nat}

theorem Holds.keys_eq (h : aggregator.Holds candidates) : aggregator.entities.keys = sortDedup
    (identities candidates) := by
  refine List.Pairwise.eq_of_mem_iff (pairwise_map.2 (OrdMap.sorted _)) (sortDedup_sorted _) fun identity => ?_
  rw [OrdMap.mem_keys, mem_sortDedup, h.entities, ← candidatesOf_ne_nil]
  split <;> simp [*]

theorem Holds.values_eq (h : aggregator.Holds candidates) : aggregator.entities.values =
    (sortDedup (identities candidates)).map fun identity => sortByKey candidateKey
    (candidatesOf candidates identity) := by
  rw [← h.keys_eq, OrdMap.keys, OrdMap.values, map_map]
  refine map_congr_left fun entry hentry => ?_
  have hget := h.entities entry.1
  rw [OrdMap.get?_eq_some_iff.2 (show (entry.1, entry.2) ∈ _ from hentry)] at hget
  split at hget
  · cases hget
  · exact Option.some.inj hget

/-- An aggregator within its limits returns an entity for each identity. -/
theorem Holds.finish_eq (h : aggregator.Holds candidates) : ∃ entities, aggregator.finish = some entities ∧
    entities.map allCandidates = (sortDedup (identities candidates)).map (fun identity =>
      sortByKey candidateKey (candidatesOf candidates identity)) ∧
    entities.map (·.duplicateObservations) = List.replicate (identities candidates).length
      aggregator.counters.duplicates := by
  have hgroups : ∀ group ∈ aggregator.entities.values, group ≠ [] := by
    rw [h.values_eq]
    intro group hgroup
    obtain ⟨identity, hidentity, rfl⟩ := mem_map.1 hgroup
    have hne := candidatesOf_ne_nil.2 (mem_sortDedup.1 hidentity)
    exact fun hnil => hne (perm_nil.1 (hnil ▸ (sortByKey_perm candidateKey _).symm))
  obtain ⟨entities, hfinish, hall, hduplicates⟩ := mapM_entity aggregator.counters.duplicates 0 hgroups
  refine ⟨entities, hfinish, ?_, ?_⟩
  · rw [hall, h.values_eq, map_map]
    exact map_congr_left fun identity _ => sortByKey_sortByKey _ _
  · rw [hduplicates, map_const', ← h.size, OrdMap.values, length_map]
    rfl

end DiscoveryAggregator

private theorem normalized_perm (h : candidates.Perm candidates') :
    (normalized candidates).Perm (normalized candidates') :=
  (h.filter _).map _

private theorem candidatesOf_perm (h : candidates.Perm candidates') (identity : Bytes) :
    (candidatesOf candidates identity).Perm (candidatesOf candidates' identity) :=
  distinct_perm ((normalized_perm h).filter _)

private theorem identities_perm (h : candidates.Perm candidates') :
    (identities candidates).Perm (identities candidates') :=
  distinct_perm ((normalized_perm h).map _)

private theorem WithinLimits.perm {maximumEntities : Nat} (h : WithinLimits candidates maximumEntities)
    (hperm : candidates'.Perm candidates) : WithinLimits candidates' maximumEntities := by
  refine ⟨(identities_perm hperm).length_eq ▸ h.1, fun identity hidentity => ?_⟩
  rw [(candidatesOf_perm hperm identity).length_eq]
  exact h.2 identity ((identities_perm hperm).mem_iff.1 hidentity)

namespace DiscoveryAggregator

variable {maximumEntities : Nat}

/-- Without ties, the aggregator ends with the same entities and the same number of duplicates in every order. -/
private theorem finish_of_untied (h : WithinLimits candidates maximumEntities) (huntied : Untied candidates)
    (hperm : candidates'.Perm candidates) :
    (run maximumEntities candidates').finish = (run maximumEntities candidates).finish := by
  obtain ⟨⟨hentities, -, hduplicates⟩, -⟩ := run_spec h
  obtain ⟨⟨hentities', -, hduplicates'⟩, -⟩ := run_spec (h.perm hperm)
  have hsame : (run maximumEntities candidates').entities = (run maximumEntities candidates).entities := by
    refine OrdMap.ext_get? fun identity => ?_
    have hgroup := candidatesOf_perm hperm identity
    have hsort : sortByKey candidateKey (candidatesOf candidates' identity) =
        sortByKey candidateKey (candidatesOf candidates identity) := by
      refine (sortByKey_congr hgroup.symm fun a ha b hb hkey => ?_).symm
      obtain ⟨ha, haidentity⟩ := mem_candidatesOf.1 ha
      obtain ⟨hb, hbidentity⟩ := mem_candidatesOf.1 hb
      exact huntied a ha b hb (haidentity.trans hbidentity.symm) hkey
    have hempty : candidatesOf candidates' identity = [] ↔ candidatesOf candidates identity = [] := by
      rw [← length_eq_zero_iff, hgroup.length_eq, length_eq_zero_iff]
    simp only [hentities, hentities', hsort, hempty]
  have hcount : (run maximumEntities candidates').counters.duplicates =
      (run maximumEntities candidates).counters.duplicates := by
    have hdistinct := (distinct_perm (normalized_perm hperm)).length_eq
    have hlength := (normalized_perm hperm).length_eq
    omega
  rw [finish, finish, hsame, hcount]

private theorem head?_of_first {candidate : DiscoveryEntityCandidate} (hvalid : candidate.validate = true)
    (rest : List DiscoveryEntityCandidate) :
    ((sortByKey candidateKey (candidatesOf (candidate :: rest) candidate.normalize.canonicalIdentity)).filter
      fun c => candidateKey c = candidateKey candidate.normalize).head? = some candidate.normalize := by
  have hnormalized : normalized (candidate :: rest) = candidate.normalize :: normalized rest := by
    simp [normalized, hvalid]
  rw [filter_sortByKey, candidatesOf, hnormalized, filter_cons_of_pos (by simp)]
  have hhead := distinct_cons_head? candidate.normalize ((normalized rest).filter fun c =>
    c.canonicalIdentity = candidate.normalize.canonicalIdentity)
  generalize distinct (candidate.normalize :: _) = l at hhead
  cases l with
  | nil => cases hhead
  | cons c l =>
    obtain rfl := Option.some.inj hhead
    rw [filter_cons_of_pos (by simp)]
    rfl

private theorem untied_of_finish (h : WithinLimits candidates maximumEntities)
    (hsame : ∀ candidates' : List DiscoveryEntityCandidate, candidates'.Perm candidates →
      (run maximumEntities candidates').finish = (run maximumEntities candidates).finish) : Untied candidates := by
  intro a' ha' b' hb' hidentity hkey
  obtain ⟨a, hafilter, rfl⟩ := mem_map.1 ha'
  obtain ⟨b, hbfilter, rfl⟩ := mem_map.1 hb'
  obtain ⟨ha, havalid⟩ := mem_filter.1 hafilter
  obtain ⟨hb, hbvalid⟩ := mem_filter.1 hbfilter
  by_contra hne
  have hab : a ≠ b := fun heq => hne (heq ▸ rfl)
  -- either candidate may arrive first
  obtain ⟨rest, hperm⟩ : ∃ rest, (a :: b :: rest).Perm candidates :=
    ⟨_, ((perm_cons_erase ((mem_erase_of_ne (Ne.symm hab)).2 hb)).symm.cons a).trans (perm_cons_erase ha).symm⟩
  have hperm' : (b :: a :: rest).Perm candidates := (List.Perm.swap a b _).trans hperm
  obtain ⟨entities, hfinish, hall, -⟩ := (run_spec (h.perm hperm)).1.finish_eq
  obtain ⟨entities', hfinish', hall', -⟩ := (run_spec (h.perm hperm')).1.finish_eq
  have heq : entities = entities' := by
    have hboth := (hsame _ hperm).trans (hsame _ hperm').symm
    rw [hfinish, hfinish'] at hboth
    exact Option.some.inj hboth
  have hsorted : sortDedup (identities (a :: b :: rest)) = sortDedup (identities (b :: a :: rest)) :=
    sortDedup_congr fun _ => (identities_perm (hperm.trans hperm'.symm)).mem_iff
  rw [heq, hall', hsorted, map_inj_left] at hall
  have hmem : a.normalize.canonicalIdentity ∈ sortDedup (identities (b :: a :: rest)) := by
    rw [mem_sortDedup, identities, mem_distinct]
    refine mem_map.2 ⟨a.normalize, mem_map.2 ⟨a, mem_filter.2 ⟨?_, havalid⟩, rfl⟩, rfl⟩
    exact mem_cons_of_mem _ (mem_cons_self ..)
  have hgroup := hall _ hmem
  have hfirst := head?_of_first havalid (b :: rest)
  have hfirst' := head?_of_first hbvalid (a :: rest)
  rw [← hidentity, ← hkey, hgroup, hfirst] at hfirst'
  exact hne (Option.some.inj hfirst')

/-- Within the limits, every order of arrival gives the same entities if and only if no two candidates of one
identity tie in `candidateKey` and differ elsewhere. -/
theorem order_independent_iff (maximumEntities : Nat) (candidates : List DiscoveryEntityCandidate)
    (h : WithinLimits candidates maximumEntities) :
    (∃ entities, ∀ candidates' : List DiscoveryEntityCandidate, candidates'.Perm candidates →
      (run maximumEntities candidates').finish = some entities) ↔ Untied candidates := by
  constructor
  · rintro ⟨entities, hsame⟩
    exact untied_of_finish h fun candidates' hperm => (hsame _ hperm).trans (hsame _ (List.Perm.refl _)).symm
  intro huntied
  obtain ⟨entities, hfinish, -⟩ := (run_spec h).1.finish_eq
  exact ⟨entities, fun candidates' hperm => (finish_of_untied h huntied hperm).trans hfinish⟩

/-- A service that was seen on an interface. -/
def seenService (interfaceIndex : Nat) : DiscoveryEntityCandidate where
  canonicalIdentity := [115]
  parentIdentity := none
  operation := 1
  entityKind := .service
  evidence := .queryRelated
  responder := .v4 0xC0000201
  interfaceIndex := some interfaceIndex
  addresses := [.v4 0xC0000201]
  metadata := []
  complete := true

/-- The same service in two answers of one interface each: the operations tell them apart in either order. -/
theorem order_independent_pair :
    let first := seenService 2
    let second := { seenService 3 with operation := 2 }
    first.canonicalIdentity = second.canonicalIdentity ∧ WithinLimits [first, second] 8 ∧
      ∃ entities, (run 8 [first, second]).finish = some entities ∧ (run 8 [second, first]).finish =
        some entities := by
  intro first second
  have h : WithinLimits [first, second] 8 := by decide +kernel
  have huntied : Untied [first, second] := by decide +kernel
  obtain ⟨entities, hall⟩ := (order_independent_iff 8 [first, second] h).2 huntied
  exact ⟨rfl, h, entities, hall _ (List.Perm.refl _), hall _ (List.Perm.swap ..)⟩

/-- The same service on two interfaces: which one is kept as the entity depends on the order of arrival. -/
theorem interface_of_first_arrival :
    WithinLimits [seenService 2, seenService 3] 8 ∧
      (run 8 [seenService 2, seenService 3]).finish.map (·.map (·.candidate.interfaceIndex)) = some [some 2] ∧
      (run 8 [seenService 3, seenService 2]).finish.map (·.map (·.candidate.interfaceIndex)) = some [some 3] := by
  decide +kernel

/-! ### Duplicates -/

private theorem distinct_eq_singleton {α : Type} [DecidableEq α] {l : List α} {a : α} (ha : a ∈ l)
    (h : ∀ b ∈ l, b = a) : distinct l = [a] := by
  refine perm_singleton.1 ((perm_ext_iff_of_nodup (distinct_nodup l) (nodup_singleton a)).2 fun b => ?_)
  rw [mem_distinct, mem_singleton]
  exact ⟨h b, fun hb => hb ▸ ha⟩

private theorem forall_eq_of_distinct {α : Type} [DecidableEq α] {l : List α} (h : (distinct l).length = 1) :
    ∃ a ∈ l, ∀ b ∈ l, b = a := by
  obtain ⟨a, ha⟩ := length_eq_one_iff.1 h
  exact ⟨a, mem_distinct.1 (ha ▸ mem_singleton_self a), fun b hb => mem_singleton.1 (ha ▸ mem_distinct.2 hb)⟩

/-- Where `d` elements of a list are repetitions, each value of `f` is there `d + 1` times and there is only one,
or `d` is zero, exactly if the values are different or the elements are all the same. -/
private theorem repetitions_iff {α β : Type} [DecidableEq α] [DecidableEq β] [BEq β] [LawfulBEq β] (f : α → β)
    {l : List α} {d : Nat} (hd : d + (distinct l).length = l.length) :
    (∀ b ∈ l.map f, d + 1 = (l.map f).count b) ∧ (distinct (l.map f)).length * d = d ↔
      (l.map f).Nodup ∨ (distinct l).length = 1 := by
  constructor
  · rintro ⟨hcounts, hsum⟩
    rcases Nat.eq_zero_or_pos d with rfl | hpos
    · exact .inl (nodup_iff_count_eq_one.2 fun b hb => (hcounts b hb).symm)
    obtain ⟨b, hb, hall⟩ :=
      forall_eq_of_distinct (Nat.eq_of_mul_eq_mul_right hpos (hsum.trans (Nat.one_mul d).symm))
    have hcount := hcounts b hb
    rw [count_eq_length.2 fun b' hb' => (hall b' hb').symm, length_map] at hcount
    exact .inr (by omega)
  rintro (hnodup | hone)
  · have hlength := ((perm_ext_iff_of_nodup (distinct_nodup l) hnodup.of_map).2 fun _ => mem_distinct).length_eq
    obtain rfl : d = 0 := by omega
    exact ⟨fun b hb => (count_eq_one_of_mem hnodup hb).symm, Nat.mul_zero _⟩
  · obtain ⟨a, ha, hall⟩ := forall_eq_of_distinct hone
    have hvalues : ∀ b ∈ l.map f, b = f a := forall_mem_map.2 fun a' ha' => congrArg f (hall a' ha')
    rw [distinct_eq_singleton (mem_map_of_mem ha) hvalues, length_singleton, Nat.one_mul]
    refine ⟨fun b hb => ?_, rfl⟩
    rw [hvalues b hb, count_eq_length.2 fun b' hb' => (hvalues b' hb').symm, length_map, ← hd, hone]

/-- The entities count the accepted candidates of their own identity exactly if all of these have different
identities, or are all equal: every entity has the number of duplicates of the whole aggregator. -/
theorem duplicates_counted_iff (maximumEntities : Nat) (candidates : List DiscoveryEntityCandidate)
    (h : WithinLimits candidates maximumEntities) : ∃ entities,
      (run maximumEntities candidates).finish = some entities ∧ ((∀ e ∈ entities, e.duplicateObservations + 1 =
          ((normalized candidates).map (·.canonicalIdentity)).count e.candidate.canonicalIdentity) ∧
        (entities.map (·.duplicateObservations)).sum = (run maximumEntities candidates).counters.duplicates ↔
      ((normalized candidates).map (·.canonicalIdentity)).Nodup ∨
        (distinct (normalized candidates)).length = 1) := by
  obtain ⟨hholds, -⟩ := run_spec h
  obtain ⟨entities, hfinish, hall, hduplicates⟩ := hholds.finish_eq
  refine ⟨entities, hfinish, ?_⟩
  rw [← repetitions_iff _ hholds.duplicates, hduplicates, sum_replicate_nat]
  refine and_congr_left fun _ => ?_
  have hcount : ∀ e ∈ entities, e.duplicateObservations = (run maximumEntities candidates).counters.duplicates :=
    fun e he => eq_of_mem_replicate (hduplicates ▸ mem_map_of_mem he)
  -- the entities stand for the identities
  have hidentity : ∀ e identity, sortByKey candidateKey (candidatesOf candidates identity) = allCandidates e →
      e.candidate.canonicalIdentity = identity := by
    intro e identity heq
    have hmem : e.candidate ∈ allCandidates e := mem_cons_self ..
    rw [← heq, mem_sortByKey, mem_candidatesOf] at hmem
    exact hmem.2
  constructor
  · intro hentities identity hmem
    obtain ⟨e, he, heq⟩ := mem_map.1 (hall ▸ mem_map_of_mem (mem_sortDedup.2 (mem_distinct.2 hmem)))
    rw [← hidentity e identity heq.symm, ← hcount e he]
    exact hentities e he
  · intro hidentities e he
    obtain ⟨identity, hmem, heq⟩ := mem_map.1 (hall ▸ mem_map_of_mem he)
    rw [hcount e he, hidentity e identity heq]
    exact hidentities identity (mem_distinct.1 (mem_sortDedup.1 hmem))

theorem duplicates_counted_twice : WithinLimits [seenService 2, seenService 2] 8 ∧
    ∃ entities, (run 8 [seenService 2, seenService 2]).finish = some entities ∧
      (entities.map (·.duplicateObservations)).sum =
        (run 8 [seenService 2, seenService 2]).counters.duplicates := by
  have h : WithinLimits [seenService 2, seenService 2] 8 := by decide +kernel
  obtain ⟨entities, hfinish, hcounted⟩ := duplicates_counted_iff 8 [seenService 2, seenService 2] h
  exact ⟨h, entities, hfinish, (hcounted.2 (.inr (by decide +kernel))).2⟩

/-- A service that is seen twice, and another one that is seen once and has a duplicate too. -/
theorem duplicate_of_another :
    WithinLimits [seenService 2, seenService 2, { seenService 2 with canonicalIdentity := [116] }] 8 ∧
      (run 8 [seenService 2, seenService 2, { seenService 2 with canonicalIdentity := [116] }]).finish.map
        (·.map fun e => (e.candidate.canonicalIdentity, e.duplicateObservations)) =
          some [([115], 1), ([116], 1)] := by
  decide +kernel

end DiscoveryAggregator

end NodeNet.Discovery
