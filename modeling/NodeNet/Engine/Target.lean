import Mathlib.Data.Set.Card
import Mathlib.Order.CompletePartialOrder
import NodeNet.Base.Blocks
import NodeNet.Engine.Intervals

/-!
# Target sets

`TargetSet.normalize` turns include and exclude lists into sorted, disjoint, exclusion-applied intervals and
numbers the addresses of each family.  A `TargetSet` carries what its numbering relies on (`RawTargetSet.Valid`):
its intervals are ordered, and those of a family are consecutive blocks that end at the running count of their
addresses.  The indices below the count of a family therefore decode to its addresses, each once
(`TargetSet.targetAtFamily_bijOn`).
-/

namespace NodeNet.Engine

/-! ### Numbering -/

structure NormalizedInterval where
  raw : RawInterval
  familyEnd : Nat
deriving DecidableEq

structure RawTargetSet where
  intervals : List NormalizedInterval
  ipv4Indices : List Nat
  ipv6Indices : List Nat
  ipv4Count : Nat
  ipv6Count : Nat
deriving DecidableEq

def emptyTargets : RawTargetSet := ⟨[], [], [], 0, 0⟩

variable (t : RawTargetSet)

/-- Appends one interval and numbers its addresses after those of its family. -/
def RawTargetSet.push (raw : RawInterval) : Except TargetError RawTargetSet :=
  match raw.count.bind (fun value => if value ≤ u64Max then some value else none) with
  | none => .error .targetCountOverflow
  | some count =>
    if raw.group.family = 4 then
      match checkedAdd u64Max t.ipv4Count count with
      | none => .error .targetCountOverflow
      | some total => .ok { t with
          intervals := t.intervals ++ [⟨raw, total⟩]
          ipv4Indices := t.ipv4Indices ++ [t.intervals.length]
          ipv4Count := total }
    else
      match checkedAdd u64Max t.ipv6Count count with
      | none => .error .targetCountOverflow
      | some total => .ok { t with
          intervals := t.intervals ++ [⟨raw, total⟩]
          ipv6Indices := t.ipv6Indices ++ [t.intervals.length]
          ipv6Count := total }

def numberIntervals (applied : List RawInterval) : Except TargetError RawTargetSet :=
  applied.foldlM RawTargetSet.push emptyTargets

def RawTargetSet.build (includes excludes : List TargetInput) : Except TargetError RawTargetSet :=
  if includes.isEmpty then .error .empty
  else if includes.length > maxTargetIncludeIntervals then .error .tooManyIncludes
  else if excludes.length > maxTargetExcludeIntervals then .error .tooManyExcludes
  else
    match mergeInputs includes with
    | .error e => .error e
    | .ok includes =>
      match mergeInputs excludes with
      | .error e => .error e
      | .ok excludes =>
        match subtract includes excludes with
        | .error e => .error e
        | .ok applied =>
          if applied.isEmpty then .error .empty
          else
            match numberIntervals applied with
            | .error e => .error e
            | .ok t => if t.ipv4Count + t.ipv6Count ≤ u64Max then .ok t else .error .targetCountOverflow

def RawTargetSet.familyEndAt (interval : Nat) : Nat :=
  (t.intervals[interval]?.map NormalizedInterval.familyEnd).getD 0

def RawTargetSet.targetAtFamily (family index : Nat) : Option ScanTarget :=
  let indices := if family = 4 then t.ipv4Indices else if family = 6 then t.ipv6Indices else []
  let position := partitionPoint (fun interval => decide (t.familyEndAt interval ≤ index)) indices
  match indices[position]? with
  | none => none
  | some intervalIndex =>
    match t.intervals[intervalIndex]? with
    | none => none
    | some interval =>
      let previousEnd := if position = 0 then 0 else t.familyEndAt (indices.getD (position - 1) 0)
      match checkedSub index previousEnd with
      | none => none
      | some offset =>
        match checkedAdd u128Max interval.raw.start offset with
        | none => none
        | some value => (numericAddress family value).map fun address => ⟨address, interval.raw.group.scope⟩

/-- Whether a fully scoped endpoint belongs to the set. -/
def RawTargetSet.contains (endpoint : TargetEndpoint) : Bool :=
  let (family, numeric) := addressNumeric endpoint.address
  t.intervals.any fun interval =>
    decide (interval.raw.group = ⟨family, endpoint.scope⟩) && decide (interval.raw.start ≤ numeric) &&
      decide (numeric ≤ interval.raw.stop)

def rangesIntersect (start stop otherStart otherStop : Nat) : Bool :=
  decide (start ≤ otherStop) && decide (otherStart ≤ stop)

/-- Whether the set meets IPv4 multicast, the limited broadcast address or IPv6 multicast. -/
def RawTargetSet.containsMulticastOrLimitedBroadcast : Bool :=
  t.intervals.any fun interval =>
    if interval.raw.group.family = 4 then
      rangesIntersect interval.raw.start interval.raw.stop 0xe0000000 0xefffffff ||
        rangesIntersect interval.raw.start interval.raw.stop 0xffffffff 0xffffffff
    else if interval.raw.group.family = 6 then
      rangesIntersect interval.raw.start interval.raw.stop 0xff000000000000000000000000000000 u128Max
    else false

/-! ### The numbering of a family -/

def NormalizedInterval.size (interval : NormalizedInterval) : Nat := interval.raw.stop - interval.raw.start + 1

def RawTargetSet.familyIntervals (family : Nat) : List NormalizedInterval :=
  t.intervals.filter fun interval => decide (interval.raw.group.family = family)

/-- The indices name the intervals of a family, which number its addresses from `0` to `total`. -/
def RawTargetSet.FamilyValid (family : Nat) (indices : List Nat) (total : Nat) : Prop :=
  indices.map (fun i => t.intervals[i]?) = (t.familyIntervals family).map some ∧
    Consecutive NormalizedInterval.size NormalizedInterval.familyEnd 0 (t.familyIntervals family) total

structure RawTargetSet.Valid (t : RawTargetSet) : Prop where
  wellFormed : ∀ interval ∈ t.intervals, interval.raw.WellFormed
  ordered : t.intervals.Pairwise fun a b => a.raw.Before b.raw
  ipv4 : t.FamilyValid 4 t.ipv4Indices t.ipv4Count
  ipv6 : t.FamilyValid 6 t.ipv6Indices t.ipv6Count
  count : t.ipv4Count + t.ipv6Count ≤ u64Max

variable {indices : List Nat}

private theorem map_lookup_append {ivs more : List NormalizedInterval} {found : List NormalizedInterval}
    (h : indices.map (fun i => ivs[i]?) = found.map some) :
    indices.map (fun i => (ivs ++ more)[i]?) = found.map some := by
  rw [← h]
  apply List.map_congr_left
  intro i hi
  have hmem : ivs[i]? ∈ found.map some := h ▸ List.mem_map.2 ⟨i, hi, rfl⟩
  obtain ⟨iv, _, hiv⟩ := List.mem_map.1 hmem
  rw [← hiv, List.getElem?_append_left (List.getElem?_eq_some_iff.1 hiv.symm).1, ← hiv]

variable {t t' : RawTargetSet}

private theorem FamilyValid.extend {family : Nat} {total : Nat} (h : t.FamilyValid family indices total)
    (iv : NormalizedInterval) (ht : t'.intervals = t.intervals ++ [iv]) (hfamily : iv.raw.group.family ≠ family) :
    t'.FamilyValid family indices total := by
  have hkept : t'.familyIntervals family = t.familyIntervals family := by
    simp [RawTargetSet.familyIntervals, ht, hfamily]
  exact ⟨by rw [hkept, ht]; exact map_lookup_append h.1, by rw [hkept]; exact h.2⟩

private theorem FamilyValid.push {family : Nat} {total : Nat} (h : t.FamilyValid family indices total)
    (iv : NormalizedInterval) (ht : t'.intervals = t.intervals ++ [iv]) (hfamily : iv.raw.group.family = family)
    (hend : iv.familyEnd = total + iv.size) :
    t'.FamilyValid family (indices ++ [t.intervals.length]) iv.familyEnd := by
  have hgrown : t'.familyIntervals family = t.familyIntervals family ++ [iv] := by
    simp [RawTargetSet.familyIntervals, ht, hfamily]
  refine ⟨?_, by rw [hgrown]; exact h.2.append hend⟩
  rw [hgrown, ht, List.map_append, List.map_append, map_lookup_append h.1]
  simp

variable {r : RawInterval}

private theorem count_eq {value : Nat}
    (h : r.count.bind (fun value => if value ≤ u64Max then some value else none) = some value) :
    value = r.stop - r.start + 1 := by
  obtain ⟨v, hv, hle⟩ := Option.bind_eq_some_iff.1 h
  split at hle
  · cases hle
    simp only [RawInterval.count, checkedAdd] at hv
    split at hv
    · cases hv; rfl
    · cases hv
  · cases hle

/-- The addresses of both families are numbered. -/
private def Numbered (t : RawTargetSet) : Prop :=
  t.FamilyValid 4 t.ipv4Indices t.ipv4Count ∧ t.FamilyValid 6 t.ipv6Indices t.ipv6Count

private theorem Numbered.push (ht : Numbered t) (hr : r.WellFormed) (h : t.push r = .ok t') :
    Numbered t' ∧ t'.intervals.map NormalizedInterval.raw = t.intervals.map NormalizedInterval.raw ++ [r] := by
  unfold RawTargetSet.push at h
  split at h
  · cases h
  next value hvalue =>
  have hcount := count_eq hvalue
  split at h
  · next hfamily =>
    split at h
    · cases h
    next total htotal =>
    simp only [checkedAdd, Option.ite_none_right_eq_some, Option.some.injEq] at htotal
    cases h
    refine ⟨⟨FamilyValid.push ht.1 ⟨r, total⟩ rfl hfamily ?_, FamilyValid.extend ht.2 ⟨r, total⟩ rfl ?_⟩, by simp⟩
    · simp only [NormalizedInterval.size]
      omega
    · simp only [hfamily]
      decide
  next hfamily =>
  have hsix : r.group.family = 6 := by rcases hr.2 with h | h <;> omega
  split at h
  · cases h
  next total htotal =>
  simp only [checkedAdd, Option.ite_none_right_eq_some, Option.some.injEq] at htotal
  cases h
  refine ⟨⟨FamilyValid.extend ht.1 ⟨r, total⟩ rfl hfamily, FamilyValid.push ht.2 ⟨r, total⟩ rfl hsix ?_⟩, by simp⟩
  simp only [NormalizedInterval.size]
  omega

private theorem Numbered.foldlM {applied : List RawInterval} (ht : Numbered t) (hr : ∀ r ∈ applied, r.WellFormed)
    (h : applied.foldlM RawTargetSet.push t = .ok t') :
    Numbered t' ∧ t'.intervals.map NormalizedInterval.raw = t.intervals.map NormalizedInterval.raw ++ applied := by
  induction applied generalizing t with
  | nil =>
    rw [List.foldlM_nil] at h
    cases h
    exact ⟨ht, by simp⟩
  | cons r applied ih =>
    rw [List.foldlM_cons] at h
    cases hp : t.push r with
    | error e => rw [hp] at h; cases h
    | ok u =>
      rw [hp] at h
      rw [List.forall_mem_cons] at hr
      obtain ⟨hu, hpushed⟩ := ht.push hr.1 hp
      obtain ⟨ht', hraw⟩ := ih hu hr.2 h
      exact ⟨ht', by rw [hraw, hpushed]; simp⟩

variable {excludes includes : List TargetInput}

private theorem build_stages (h : RawTargetSet.build includes excludes = .ok t) :
    ∃ merged removed applied, mergeInputs includes = .ok merged ∧ mergeInputs excludes = .ok removed ∧
      subtract merged removed = .ok applied ∧ numberIntervals applied = .ok t ∧
        t.ipv4Count + t.ipv6Count ≤ u64Max := by
  simp only [RawTargetSet.build] at h
  iterate 4
    split at h
    · cases h
  next merged hincl =>
  split at h
  · cases h
  next removed hexcl =>
  split at h
  · cases h
  next applied hsub =>
  split at h
  · cases h
  split at h
  · cases h
  next numbered hnum =>
  split at h
  · next hcount =>
    cases h
    exact ⟨merged, removed, applied, hincl, hexcl, hsub, hnum, hcount⟩
  · cases h

private theorem build_spec (h : RawTargetSet.build includes excludes = .ok t) :
    t.Valid ∧ ∀ target : ScanTarget, target.point ∈ spanned (t.intervals.map NormalizedInterval.raw) ↔
      (∃ input ∈ includes, input.Names target) ∧ ¬ ∃ input ∈ excludes, input.Names target := by
  obtain ⟨merged, removed, applied, hincl, hexcl, hsub, hnum, hcount⟩ := build_stages h
  obtain ⟨hinclWf, hinclOrdered, hinclSet, -⟩ := mergeInputs_spec hincl
  obtain ⟨hexclWf, hexclOrdered, hexclSet, -⟩ := mergeInputs_spec hexcl
  obtain ⟨hwf, hordered, hset⟩ := subtract_spec hinclWf hexclWf hinclOrdered hexclOrdered hsub
  have hnil : Numbered emptyTargets := ⟨⟨rfl, rfl⟩, rfl, rfl⟩
  obtain ⟨⟨h4, h6⟩, hraw⟩ := hnil.foldlM hwf hnum
  rw [show emptyTargets.intervals = [] from rfl, List.map_nil, List.nil_append] at hraw
  refine ⟨⟨fun iv hiv => hwf _ (hraw ▸ List.mem_map_of_mem hiv), ?_, h4, h6, hcount⟩, fun target => ?_⟩
  · rw [← List.pairwise_map, hraw]
    exact hordered
  · rw [hraw, hset, Set.mem_sdiff, hinclSet, hexclSet]

theorem RawTargetSet.build_valid (h : RawTargetSet.build includes excludes = .ok t) : t.Valid := (build_spec h).1

/-- A sorted, disjoint, exclusion-applied target set. -/
structure TargetSet extends RawTargetSet where
  valid : toRawTargetSet.Valid

def TargetSet.normalize (includes excludes : List TargetInput) : Except TargetError TargetSet :=
  match h : RawTargetSet.build includes excludes with
  | .error e => .error e
  | .ok t => .ok ⟨t, RawTargetSet.build_valid h⟩

/-! ### Decoding -/

def RawTargetSet.Member (t : RawTargetSet) (target : ScanTarget) : Prop :=
  ∃ interval ∈ t.intervals, target.point ∈ interval.raw.points

def RawTargetSet.familyIndices (t : RawTargetSet) (family : Nat) : List Nat :=
  if family = 4 then t.ipv4Indices else if family = 6 then t.ipv6Indices else []

def RawTargetSet.familyCount (t : RawTargetSet) (family : Nat) : Nat :=
  if family = 4 then t.ipv4Count else if family = 6 then t.ipv6Count else 0

/-- No interval belongs to a family other than IPv4 and IPv6. -/
theorem RawTargetSet.Valid.family (h : t.Valid) (family : Nat) :
    t.FamilyValid family (t.familyIndices family) (t.familyCount family) := by
  by_cases h4 : family = 4
  · subst h4
    exact h.ipv4
  by_cases h6 : family = 6
  · subst h6
    exact h.ipv6
  have hnone : t.familyIntervals family = [] := by
    rw [RawTargetSet.familyIntervals, List.filter_eq_nil_iff]
    intro iv hiv
    rw [decide_eq_true_iff]
    rcases (h.wellFormed iv hiv).2 with hf | hf <;> omega
  simp only [RawTargetSet.FamilyValid, RawTargetSet.familyIndices, RawTargetSet.familyCount, h4, h6, ↓reduceIte,
    hnone]
  exact ⟨rfl, rfl⟩

/-- The target at a place of an interval. -/
def NormalizedInterval.targetAt (family : Nat) (interval : NormalizedInterval) (place : Nat) : Option ScanTarget :=
  (checkedAdd u128Max interval.raw.start place).bind fun value =>
    (numericAddress family value).map fun address => ⟨address, interval.raw.group.scope⟩

private theorem targetAtFamily_eq (h : t.Valid) (family index : Nat) : t.targetAtFamily family index =
      (locate NormalizedInterval.familyEnd (t.familyIntervals family) 0 index).bind fun found =>
        found.1.targetAt family found.2 := by
  obtain ⟨hmap, -⟩ := h.family family
  have hposition : partitionPoint (fun i => decide (t.familyEndAt i ≤ index)) (t.familyIndices family) =
      partitionPoint (fun iv => decide (iv.familyEnd ≤ index)) (t.familyIntervals family) := by
    have := congrArg (partitionPoint fun o : Option NormalizedInterval =>
      decide ((o.map NormalizedInterval.familyEnd).getD 0 ≤ index)) hmap
    rwa [partitionPoint_map, partitionPoint_map] at this
  have hlookup : ∀ position : Nat, ((t.familyIndices family)[position]?.bind fun i => t.intervals[i]?) =
      (t.familyIntervals family)[position]? := by
    intro position
    have hjoin := congrArg (fun l => l[position]?.bind id) hmap
    simp only [List.getElem?_map, Option.bind_map] at hjoin
    refine hjoin.trans ?_
    cases (t.familyIntervals family)[position]? <;> rfl
  have hprevious := previous_le NormalizedInterval.familyEnd (t.familyIntervals family) index
  rw [← hposition] at hprevious
  simp only [RawTargetSet.targetAtFamily, locate]
  rw [← RawTargetSet.familyIndices, ← hposition]
  generalize partitionPoint (fun i => decide (t.familyEndAt i ≤ index)) (t.familyIndices family) = position at *
  cases hi : (t.familyIndices family)[position]? with
  | none => simp [← hlookup position, hi]
  | some i =>
    have hiv : (t.familyIntervals family)[position]? = t.intervals[i]? := by rw [← hlookup, hi]; rfl
    have hend : (if position = 0 then 0 else t.familyEndAt ((t.familyIndices family).getD (position - 1) 0)) =
        if position = 0 then 0 else
          ((t.familyIntervals family)[position - 1]?.map NormalizedInterval.familyEnd).getD 0 := by
      split
      · rfl
      have hlt := (List.getElem?_eq_some_iff.1 hi).1
      rw [← hlookup, List.getD_eq_getElem?_getD, List.getElem?_eq_getElem (by omega)]
      rfl
    rw [hiv]
    simp only [hend, checkedSub, hprevious, ↓reduceIte]
    cases t.intervals[i]? with
    | none => rfl
    | some iv =>
      simp only [Option.map_some, Option.bind_some, NormalizedInterval.targetAt]
      cases checkedAdd u128Max iv.raw.start _ <;> rfl

private theorem numericAddress_eq_some {family value : Nat} {address : IpAddress} (h : value ≤ u128Max) :
    numericAddress family value = some address ↔ addressNumeric address = (family, value) := by
  have h128 : value < 2 ^ 128 := Nat.lt_of_le_pred (by decide) h
  constructor
  · intro hsome
    unfold numericAddress at hsome
    split at hsome
    · next hf =>
      split at hsome
      · next hle =>
        cases hsome
        rw [addressNumeric, BitVec.toNat_ofNat, Nat.mod_eq_of_lt (Nat.lt_of_le_pred (by decide) hle), hf]
      · cases hsome
    split at hsome
    · next hf =>
      cases hsome
      rw [addressNumeric, BitVec.toNat_ofNat, Nat.mod_eq_of_lt h128, hf]
    · cases hsome
  intro heq
  rcases address with a | a <;> cases heq
  · simp [numericAddress, show a.toNat ≤ u32Max from Nat.le_pred_of_lt a.isLt]
  · simp [numericAddress]

private theorem targetAt_eq_some (h : t.Valid) {family place : Nat} {iv : NormalizedInterval} {target : ScanTarget}
    (hiv : iv ∈ t.familyIntervals family) (hplace : place < iv.size) :
    iv.targetAt family place = some target ↔ target.point = (iv.raw.group, iv.raw.start + place) := by
  obtain ⟨hmem, hfamily⟩ := List.mem_filter.1 hiv
  rw [decide_eq_true_iff] at hfamily
  obtain ⟨hle, hbound⟩ := h.wellFormed iv hmem
  have hstop : iv.raw.stop ≤ u128Max := by
    rcases hbound with hb | hb
    · exact le_trans hb.2 (by decide)
    · exact hb.2
  have hvalue : iv.raw.start + place ≤ u128Max := by
    simp only [NormalizedInterval.size] at hplace
    omega
  simp only [NormalizedInterval.targetAt, checkedAdd, hvalue, ↓reduceIte, Option.bind_some, Option.map_eq_some_iff,
    numericAddress_eq_some hvalue]
  subst hfamily
  obtain ⟨address, scope⟩ := target
  constructor
  · rintro ⟨a, ha, hmk⟩
    cases hmk
    simp [ScanTarget.point, ha]
  intro hpoint
  simp only [ScanTarget.point, Prod.mk.injEq] at hpoint
  exact ⟨address, Prod.ext (by rw [← hpoint.1]) hpoint.2, by rw [← hpoint.1]⟩

/-- The intervals of a valid set do not overlap. -/
theorem RawTargetSet.Valid.eq_of_mem_points (h : t.Valid) {a b : NormalizedInterval} (ha : a ∈ t.intervals)
    (hb : b ∈ t.intervals) {x : GroupKey × Nat} (hxa : x ∈ a.raw.points) (hxb : x ∈ b.raw.points) : a = b := by
  by_contra hne
  have hdisjoint : t.intervals.Pairwise fun a b => x ∈ a.raw.points → x ∉ b.raw.points :=
    h.ordered.imp fun hab hx => hab.disjoint hx
  have : Std.Symm fun a b : NormalizedInterval => x ∈ a.raw.points → x ∉ b.raw.points :=
    ⟨fun a b hab hx hx' => hab hx' hx⟩
  exact hdisjoint.forall ha hb hne hxa hxb

theorem RawTargetSet.Valid.nodup (h : t.Valid) (family : Nat) : (t.familyIntervals family).Nodup := by
  refine List.Nodup.filter _ ?_
  refine h.ordered.imp_of_mem fun {a b} ha _ hab heq => ?_
  subst heq
  rcases hab with hlt | ⟨-, hlt⟩
  · exact lt_irrefl _ hlt
  · have := (h.wellFormed a ha).1
    omega

private theorem place_mem (h : t.Valid) {family place : Nat} {iv : NormalizedInterval}
    (hiv : iv ∈ t.familyIntervals family) (hplace : place < iv.size) :
    (iv.raw.group, iv.raw.start + place) ∈ iv.raw.points := by
  have hle := (h.wellFormed iv (List.mem_filter.1 hiv).1).1
  simp only [NormalizedInterval.size] at hplace
  exact ⟨rfl, by simp only; omega, by simp only; omega⟩

/-- An index decodes to a target iff it lies at the place of the target in the interval that holds it. -/
private theorem targetAtFamily_eq_some (h : t.Valid) {family index : Nat} {target : ScanTarget} :
    t.targetAtFamily family index = some target ↔ ∃ iv place,
      locate NormalizedInterval.familyEnd (t.familyIntervals family) 0 index = some (iv, place) ∧
        target.point = (iv.raw.group, iv.raw.start + place) := by
  rw [targetAtFamily_eq h, Option.bind_eq_some_iff]
  constructor
  · rintro ⟨⟨iv, place⟩, hfound, htarget⟩
    obtain ⟨hmem, hplace, -⟩ := (h.family family).2.of_locate (Nat.zero_le _) hfound
    exact ⟨iv, place, hfound, (targetAt_eq_some h hmem hplace).1 htarget⟩
  rintro ⟨iv, place, hfound, hpoint⟩
  obtain ⟨hmem, hplace, -⟩ := (h.family family).2.of_locate (Nat.zero_le _) hfound
  exact ⟨(iv, place), hfound, (targetAt_eq_some h hmem hplace).2 hpoint⟩

/-- Every point of a well-formed interval is a target. -/
theorem RawInterval.WellFormed.exists_target (h : r.WellFormed) {x : GroupKey × Nat} (hx : x ∈ r.points) :
    ∃ target : ScanTarget, target.point = x := by
  obtain ⟨⟨family, scope⟩, value⟩ := x
  obtain ⟨hg, -, hstop⟩ := hx
  simp only at hg hstop
  have hbound := h.2
  rw [hg] at hbound
  rcases hbound with ⟨hf, hmax⟩ | ⟨hf, hmax⟩
  · have hlt : value < 2 ^ 32 := Nat.lt_of_le_pred (by decide) (le_trans hstop hmax)
    exact ⟨⟨.v4 (BitVec.ofNat 32 value), scope⟩, by simpa [ScanTarget.point, addressNumeric, ← hf] using hlt⟩
  · have hlt : value < 2 ^ 128 := Nat.lt_of_le_pred (by decide) (le_trans hstop hmax)
    exact ⟨⟨.v6 (BitVec.ofNat 128 value), scope⟩, by simpa [ScanTarget.point, addressNumeric, ← hf] using hlt⟩

namespace TargetSet

/-- An index decodes to a target iff it lies below the count of the family. -/
theorem targetAtFamily_isSome (t : TargetSet) (family index : Nat) :
    (t.targetAtFamily family index).isSome = true ↔ index < t.familyCount family := by
  rw [← (t.valid.family family).2.locate_isSome (Nat.zero_le index), targetAtFamily_eq t.valid]
  cases hfound : locate NormalizedInterval.familyEnd (t.familyIntervals family) 0 index with
  | none => rfl
  | some found =>
    obtain ⟨hmem, hplace, -⟩ := (t.valid.family family).2.of_locate (Nat.zero_le _) hfound
    have hwf := t.valid.wellFormed found.1 (List.mem_filter.1 hmem).1
    obtain ⟨target, htarget⟩ := hwf.exists_target (place_mem t.valid hmem hplace)
    simp [(targetAt_eq_some t.valid hmem hplace).2 htarget]

variable {target : ScanTarget}

theorem member_of_targetAtFamily (t : TargetSet) {family index : Nat}
    (h : t.targetAtFamily family index = some target) : t.Member target ∧ target.point.1.family = family := by
  obtain ⟨iv, place, hfound, hpoint⟩ := (targetAtFamily_eq_some t.valid).1 h
  obtain ⟨hiv, hplace, -⟩ := (t.valid.family family).2.of_locate (Nat.zero_le _) hfound
  obtain ⟨hmem, hfamily⟩ := List.mem_filter.1 hiv
  refine ⟨⟨iv, hmem, hpoint ▸ place_mem t.valid hiv hplace⟩, ?_⟩
  rw [hpoint]
  exact of_decide_eq_true hfamily

theorem exists_targetAtFamily (t : TargetSet) (h : t.Member target) :
    ∃ index, t.targetAtFamily target.point.1.family index = some target := by
  obtain ⟨iv, hmem, hg, hstart, hstop⟩ := h
  have hiv : iv ∈ t.familyIntervals target.point.1.family := by
    rw [RawTargetSet.familyIntervals, List.mem_filter, decide_eq_true_iff, hg]
    exact ⟨hmem, rfl⟩
  have hplace : target.point.2 - iv.raw.start < iv.size := by
    simp only [NormalizedInterval.size]
    omega
  obtain ⟨index, -, -, hfound⟩ := (t.valid.family _).2.exists_locate hiv hplace
  refine ⟨index, (targetAtFamily_eq_some t.valid).2 ⟨iv, _, hfound, Prod.ext hg.symm ?_⟩⟩
  simp only
  omega

theorem targetAtFamily_inj (t : TargetSet) {family i j : Nat} (hi : t.targetAtFamily family i = some target)
    (hj : t.targetAtFamily family j = some target) : i = j := by
  have hblocks := (t.valid.family family).2
  obtain ⟨iv, place, hfound, hpoint⟩ := (targetAtFamily_eq_some t.valid).1 hi
  obtain ⟨iv', place', hfound', hpoint'⟩ := (targetAtFamily_eq_some t.valid).1 hj
  obtain ⟨hmem, hplace, -⟩ := hblocks.of_locate (Nat.zero_le _) hfound
  obtain ⟨hmem', hplace', -⟩ := hblocks.of_locate (Nat.zero_le _) hfound'
  have hpoints := hpoint.symm.trans hpoint'
  -- the two places lie in one interval, since the intervals do not overlap
  have heq : iv = iv' := t.valid.eq_of_mem_points (List.mem_filter.1 hmem).1 (List.mem_filter.1 hmem').1
    (place_mem t.valid hmem hplace) (hpoints ▸ place_mem t.valid hmem' hplace')
  subst heq
  have hsame : place = place' := by
    have := (Prod.mk.inj hpoints).2
    omega
  subst hsame
  exact hblocks.locate_inj (t.valid.nodup family) (Nat.zero_le _) (Nat.zero_le _) hfound hfound'

/-- Every index below the count of a family decodes to a target. -/
theorem targetAtFamily_total (t : TargetSet) (family : Nat) {index : Nat} (h : index < t.familyCount family) :
    ∃ target, t.targetAtFamily family index = some target :=
  Option.isSome_iff_exists.1 ((t.targetAtFamily_isSome family index).2 h)

/-- The count of a family is the number of its members. -/
theorem ncard_members (t : TargetSet) (family : Nat) :
    {target : ScanTarget | t.Member target ∧ target.point.1.family = family}.ncard = t.familyCount family := by
  have hbij : Set.BijOn (t.targetAtFamily family) (Set.Iio (t.familyCount family))
      (some '' {target : ScanTarget | t.Member target ∧ target.point.1.family = family}) := by
    refine ⟨fun index hindex => ?_, fun i hi j hj hij => ?_, ?_⟩
    · obtain ⟨target, htarget⟩ := t.targetAtFamily_total family hindex
      exact ⟨target, t.member_of_targetAtFamily htarget, htarget.symm⟩
    · obtain ⟨target, htarget⟩ := t.targetAtFamily_total family hi
      exact t.targetAtFamily_inj htarget (hij ▸ htarget)
    rintro _ ⟨target, ⟨hmember, rfl⟩, rfl⟩
    obtain ⟨index, hindex⟩ := t.exists_targetAtFamily hmember
    exact ⟨index, (t.targetAtFamily_isSome _ index).1 (by rw [hindex]; rfl), hindex⟩
  rw [← Set.ncard_image_of_injective _ (Option.some_injective _), ← hbij.image_eq, hbij.injOn.ncard_image]
  rw [← Finset.coe_range, Set.ncard_coe_finset, Finset.card_range]

end TargetSet

/-! ### What a normalized set stands for -/

theorem normalize_ok {t : TargetSet} (h : TargetSet.normalize includes excludes = .ok t) :
    RawTargetSet.build includes excludes = .ok t.toRawTargetSet := by
  unfold TargetSet.normalize at h
  split at h
  · cases h
  · next hbuild => cases h; exact hbuild

/-- A set has a target as member iff some include names it and no exclude does. -/
theorem member_iff {t : TargetSet} (h : TargetSet.normalize includes excludes = .ok t) (target : ScanTarget) :
    t.Member target ↔ (∃ input ∈ includes, input.Names target) ∧ ¬ ∃ input ∈ excludes, input.Names target := by
  rw [← (build_spec (normalize_ok h)).2 target]
  simp [RawTargetSet.Member, spanned]

theorem RawTargetSet.contains_iff (t : RawTargetSet) (endpoint : TargetEndpoint) :
    t.contains endpoint = true ↔ t.Member ⟨endpoint.address, endpoint.scope⟩ := by
  simp [RawTargetSet.contains, RawTargetSet.Member, RawInterval.points, ScanTarget.point, and_assoc]

/-- Multicast addresses and the limited broadcast address. -/
def IpAddress.MulticastOrLimitedBroadcast : IpAddress → Prop
  | .v4 a => a.extractLsb' 28 4 = 0xe#4 ∨ a = 0xffffffff#32
  | .v6 a => a.extractLsb' 120 8 = 0xff#8

/-- The ranges that the search for multicast addresses looks at. -/
theorem multicast_iff_point (target : ScanTarget) :
    target.address.MulticastOrLimitedBroadcast ↔
      target.point.1.family = 4 ∧ (0xe0000000 ≤ target.point.2 ∧ target.point.2 ≤ 0xefffffff ∨
        target.point.2 = 0xffffffff) ∨
      target.point.1.family = 6 ∧ 0xff000000000000000000000000000000 ≤ target.point.2 := by
  obtain ⟨a | a, scope⟩ := target
  all_goals
    have hlt := a.isLt
    simp only [IpAddress.MulticastOrLimitedBroadcast, ScanTarget.point, addressNumeric, ← BitVec.toNat_inj,
      BitVec.extractLsb'_toNat, Nat.shiftRight_eq_div_pow, BitVec.toNat_ofNat, true_and]
    omega

/-- Two ranges meet iff they share a number. -/
theorem rangesIntersect_iff {start stop otherStart otherStop : Nat} (h : start ≤ stop)
    (h' : otherStart ≤ otherStop) : rangesIntersect start stop otherStart otherStop = true ↔
      ∃ value, (start ≤ value ∧ value ≤ stop) ∧ otherStart ≤ value ∧ value ≤ otherStop := by
  simp only [rangesIntersect, Bool.and_eq_true, decide_eq_true_eq]
  constructor
  · rintro ⟨h1, h2⟩
    exact ⟨max start otherStart, by omega, by omega⟩
  · rintro ⟨value, ⟨h1, h2⟩, h3, h4⟩
    exact ⟨by omega, by omega⟩

private theorem intersectsMulticast_iff (h : r.WellFormed) :
    (if r.group.family = 4 then
      rangesIntersect r.start r.stop 0xe0000000 0xefffffff || rangesIntersect r.start r.stop 0xffffffff 0xffffffff
    else if r.group.family = 6 then rangesIntersect r.start r.stop 0xff000000000000000000000000000000 u128Max
    else false) = true ↔ ∃ value, (r.start ≤ value ∧ value ≤ r.stop) ∧
      (r.group.family = 4 ∧ (0xe0000000 ≤ value ∧ value ≤ 0xefffffff ∨ value = 0xffffffff) ∨
        r.group.family = 6 ∧ 0xff000000000000000000000000000000 ≤ value) := by
  obtain ⟨hle, ⟨hf, hmax⟩ | ⟨hf, hmax⟩⟩ := h
  · rw [if_pos hf, Bool.or_eq_true, rangesIntersect_iff hle (by decide), rangesIntersect_iff hle (by decide),
      ← exists_or]
    refine exists_congr fun value => ?_
    omega
  · rw [if_neg (by omega), if_pos hf, rangesIntersect_iff hle (by decide)]
    refine exists_congr fun value => and_congr_right fun hvalue => ?_
    omega

theorem RawTargetSet.Valid.containsMulticast_iff (h : t.Valid) : t.containsMulticastOrLimitedBroadcast = true ↔
      ∃ target, t.Member target ∧ target.address.MulticastOrLimitedBroadcast := by
  simp only [RawTargetSet.containsMulticastOrLimitedBroadcast, List.any_eq_true]
  constructor
  · rintro ⟨iv, hiv, htest⟩
    obtain ⟨value, hvalue, hmulticast⟩ := (intersectsMulticast_iff (h.wellFormed iv hiv)).1 htest
    have hpoint : (iv.raw.group, value) ∈ iv.raw.points := ⟨rfl, hvalue⟩
    obtain ⟨target, htarget⟩ := (h.wellFormed iv hiv).exists_target hpoint
    refine ⟨target, ⟨iv, hiv, htarget ▸ hpoint⟩, (multicast_iff_point target).2 ?_⟩
    rw [htarget]
    exact hmulticast
  rintro ⟨target, ⟨iv, hiv, hg, hvalue⟩, hmulticast⟩
  rw [multicast_iff_point, ← hg] at hmulticast
  exact ⟨iv, hiv, (intersectsMulticast_iff (h.wellFormed iv hiv)).2 ⟨_, hvalue, hmulticast⟩⟩

/-- A normalized set is the difference of what its includes and its excludes name: its intervals are sorted and
disjoint, membership, multicast membership and the counts are exact, and the indices of a family enumerate its
members, each once. -/
theorem normalize_exact (includes excludes : List TargetInput) (t : TargetSet)
    (h : TargetSet.normalize includes excludes = .ok t) :
    t.intervals.Pairwise (fun a b => a.raw.group.key < b.raw.group.key ∨
      a.raw.group = b.raw.group ∧ a.raw.start < b.raw.start) ∧
    t.intervals.Pairwise (fun a b => Disjoint a.raw.points b.raw.points) ∧
    (∀ target, t.Member target ↔
      (∃ input ∈ includes, input.Names target) ∧ ¬ ∃ input ∈ excludes, input.Names target) ∧
    (∀ endpoint, t.contains endpoint = true ↔ t.Member ⟨endpoint.address, endpoint.scope⟩) ∧
    (t.containsMulticastOrLimitedBroadcast = true ↔
      ∃ target, t.Member target ∧ target.address.MulticastOrLimitedBroadcast) ∧
    t.ipv4Count = {target : ScanTarget | t.Member target ∧ target.point.1.family = 4}.ncard ∧
    t.ipv6Count = {target : ScanTarget | t.Member target ∧ target.point.1.family = 6}.ncard ∧
    ∀ family count, family = 4 ∧ count = t.ipv4Count ∨ family = 6 ∧ count = t.ipv6Count →
      (∀ index < count, ∃ target, t.targetAtFamily family index = some target ∧ t.Member target ∧
        target.point.1.family = family) ∧
      (∀ target, t.Member target → target.point.1.family = family →
        ∃! index, index < count ∧ t.targetAtFamily family index = some target) ∧
      ∀ index ≥ count, t.targetAtFamily family index = none := by
  refine ⟨?_, ?_, member_iff h, t.contains_iff, t.valid.containsMulticast_iff, (t.ncard_members 4).symm,
    (t.ncard_members 6).symm, ?_⟩
  · refine t.valid.ordered.imp_of_mem fun {a b} ha _ hab => ?_
    rcases hab with hlt | ⟨hg, hlt⟩
    · exact Or.inl hlt
    · exact Or.inr ⟨hg, lt_of_le_of_lt (t.valid.wellFormed a ha).1 hlt⟩
  · refine t.valid.ordered.imp fun hab => Set.disjoint_left.2 fun x hx => hab.disjoint hx
  intro family count hcount
  have hfamily : t.familyCount family = count := by
    rcases hcount with ⟨rfl, rfl⟩ | ⟨rfl, rfl⟩
    · rfl
    · rfl
  subst hfamily
  refine ⟨fun index hindex => ?_, fun target hmember hf => ?_, fun index hindex => ?_⟩
  · obtain ⟨target, htarget⟩ := t.targetAtFamily_total family hindex
    exact ⟨target, htarget, t.member_of_targetAtFamily htarget⟩
  · subst hf
    obtain ⟨index, hindex⟩ := t.exists_targetAtFamily hmember
    refine ⟨index, ⟨(t.targetAtFamily_isSome _ index).1 (by rw [hindex]; rfl), hindex⟩, ?_⟩
    rintro j ⟨-, hj⟩
    exact t.targetAtFamily_inj hj hindex
  · rw [← Option.not_isSome_iff_eq_none, t.targetAtFamily_isSome]
    exact not_lt.2 hindex

/-- A network and a range that overlap, without four addresses in the middle. -/
theorem normalize_exact_overlapping : ∃ t,
    TargetSet.normalize
      [.cidr ⟨⟨.v4 0x0a000003#32, none⟩, 29⟩, .range ⟨⟨.v4 0x0a000006#32, none⟩, ⟨.v4 0x0a000009#32, none⟩⟩]
      [.range ⟨⟨.v4 0x0a000002#32, none⟩, ⟨.v4 0x0a000005#32, none⟩⟩] = .ok t ∧ t.intervals.length = 2 ∧
    t.ipv4Count = {target : ScanTarget | t.Member target ∧ target.point.1.family = 4}.ncard ∧ t.ipv4Count = 6 := by
  obtain ⟨t, ht, hlength, hcount⟩ : ∃ t, TargetSet.normalize
      [.cidr ⟨⟨.v4 0x0a000003#32, none⟩, 29⟩, .range ⟨⟨.v4 0x0a000006#32, none⟩, ⟨.v4 0x0a000009#32, none⟩⟩]
      [.range ⟨⟨.v4 0x0a000002#32, none⟩, ⟨.v4 0x0a000005#32, none⟩⟩] = .ok t ∧ t.intervals.length = 2 ∧
      t.ipv4Count = 6 := ⟨_, rfl, by decide, by decide⟩
  exact ⟨t, ht, hlength, (normalize_exact _ _ t ht).2.2.2.2.2.1, hcount⟩

/-! ### Zones

The zone rule for one address looks at the four bits of a multicast address's scope, the one for intervals only at
addresses whose four flag bits are zero.
-/

/-- Node- and link-local multicast addresses with a flag. -/
def IpAddress.flaggedLocal (a : IpAddress) : Bool :=
  requiresScope a &&
    match a with
    | .v4 _ => false
    | .v6 value => value.extractLsb' 120 8 == 0xff#8 && value.extractLsb' 112 8 &&& 0xf0#8 != 0#8

private theorem validateScope_iff {e : TargetEndpoint} :
    validateScope e.address e.scope = .ok () ↔ requiresScope e.address = e.scope.isSome := by
  obtain ⟨a | a, scope⟩ := e
  · cases scope <;> simp [validateScope, requiresScope]
  · cases hrequired : requiresScope (.v6 a) <;> cases scope <;> simp [validateScope, hrequired]

/-- The rule for intervals asks for a zone. -/
private def zoned (family n : Nat) : Bool :=
  family ≠ 4 && scopedRanges.any fun r => decide (n ≥ r.1) && decide (n ≤ r.2)

private theorem zoned_iff {n : Nat} : zoned 6 n = true ↔
    n / 2 ^ 120 = 0xfe ∧ (0x80 ≤ n / 2 ^ 112 % 256 ∧ n / 2 ^ 112 % 256 ≤ 0xbf) ∨
      n / 2 ^ 120 = 0xff ∧ (n / 2 ^ 112 % 256 = 1 ∨ n / 2 ^ 112 % 256 = 2) := by
  simp only [zoned, scopedRanges, List.any_cons, List.any_nil, Bool.or_false, Bool.or_eq_true, Bool.and_eq_true,
    decide_eq_true_eq]
  omega

/-- The two rules differ for flagged addresses only. -/
private theorem zoned_eq (a : IpAddress) :
    zoned (addressNumeric a).1 (addressNumeric a).2 = (requiresScope a && !a.flaggedLocal) := by
  rcases a with value | value
  · rfl
  have hunicast : ∀ b : BitVec 8, b &&& 0xc0#8 = 0x80#8 ↔ 0x80 ≤ b.toNat ∧ b.toNat ≤ 0xbf := by decide
  have hmulticast : ∀ b : BitVec 8, (b &&& 0x0f#8 = 1#8 ∨ b &&& 0x0f#8 = 2#8) ∧ b &&& 0xf0#8 = 0#8 ↔
      b.toNat = 1 ∨ b.toNat = 2 := by decide
  have hsecond : (value.extractLsb' 112 8).toNat = value.toNat / 2 ^ 112 % 256 := by
    rw [BitVec.extractLsb'_toNat, Nat.shiftRight_eq_div_pow]
  have hfirst : ∀ k < 2 ^ 8, value.extractLsb' 120 8 = BitVec.ofNat 8 k ↔ value.toNat / 2 ^ 120 = k := by
    intro k hk
    have hlt : value.toNat / 2 ^ 120 < 2 ^ 8 := Nat.div_lt_of_lt_mul value.isLt
    rw [← BitVec.toNat_inj, BitVec.extractLsb'_toNat, Nat.shiftRight_eq_div_pow, Nat.mod_eq_of_lt hlt,
      BitVec.toNat_ofNat, Nat.mod_eq_of_lt hk]
  have hone : ¬ (value.toNat / 2 ^ 120 = 0xfe ∧ value.toNat / 2 ^ 120 = 0xff) := by omega
  have hzoned := zoned_iff (n := value.toNat)
  rw [← hsecond, ← hunicast, ← hmulticast] at hzoned
  rw [Bool.eq_iff_iff]
  refine hzoned.trans ?_
  simp only [requiresScope, IpAddress.flaggedLocal, Bool.and_eq_true, Bool.or_eq_true, Bool.not_eq_true',
    Bool.and_eq_false_iff, Bool.or_eq_false_iff, beq_iff_eq, beq_eq_false_iff_ne, bne_eq_false_iff_eq, ne_eq,
    hfirst 0xfe (by decide), hfirst 0xff (by decide)]
  tauto

/-- An interval lies in a zoned range or meets none; of a single address nothing else is asked. -/
private theorem validateIntervalScope_zoned {family start stop n : Nat} {scope : Option TargetScope}
    (hn : start ≤ n ∧ n ≤ stop) :
    (validateIntervalScope family start stop scope = .ok () → zoned family n = scope.isSome) ∧
      (start = stop → zoned family n = scope.isSome → validateIntervalScope family start stop scope = .ok ()) := by
  simp only [validateIntervalScope, zoned, scopedRanges, List.any_cons, List.any_nil, Bool.or_false]
  cases scope <;> grind

/-- A target that an accepted input names is an endpoint unless a flag hides that it needs a zone. -/
private theorem endpoint_iff {t : ScanTarget} (h : inputInterval input = .ok r) (hnames : input.Names t) :
    (∃ e, TargetEndpoint.new t.address t.scope = .ok e) ↔ ¬ (t.address.flaggedLocal = true ∧ t.scope = none) := by
  have hnew : (∃ e, TargetEndpoint.new t.address t.scope = .ok e) ↔ requiresScope t.address = t.scope.isSome := by
    rw [← validateScope_iff (e := ⟨t.address, t.scope⟩), TargetEndpoint.new]
    split <;> simp_all
  have hflagged : t.address.flaggedLocal = true → requiresScope t.address = true :=
    fun h => (Bool.and_eq_true_iff.1 h).1
  rw [hnew]
  obtain ⟨-, hpoints, ⟨e, rfl, hscope⟩ | hscope⟩ := inputInterval_spec h
  · cases hnames
    rw [validateScope_iff] at hscope
    grind
  obtain ⟨hgroup, hbounds⟩ := (hpoints t).2 hnames
  have hzone := (validateIntervalScope_zoned hbounds).1 hscope
  rw [hgroup] at hzone
  replace hzone : (requiresScope t.address && !t.address.flaggedLocal) = t.scope.isSome :=
    (zoned_eq t.address).symm.trans hzone
  cases hs : t.scope <;> grind

/-- One address is accepted with the same zones, and gives the same interval, as an address, as a range and as a
network, and every target of a normalized set is an endpoint, but for multicast addresses with a flag. -/
theorem zones_agree_iff (e : TargetEndpoint) :
    ((inputInterval (.address e)).toOption = (inputInterval (.range ⟨e, e⟩)).toOption ∧
        (inputInterval (.range ⟨e, e⟩)).toOption =
          (inputInterval (.cidr ⟨e, addressWidth (addressNumeric e.address).1⟩)).toOption ↔
      e.address.flaggedLocal = false) ∧
    ∀ includes excludes t, TargetSet.normalize includes excludes = .ok t →
      ((∀ family index target, t.targetAtFamily family index = some target →
          ∃ e, TargetEndpoint.new target.address target.scope = .ok e) ↔
        ∀ e, t.contains e = true → ¬ (e.address.flaggedLocal = true ∧ e.scope = none)) := by
  constructor
  · obtain ⟨a, scope⟩ := e
    obtain ⟨hstart, hstop⟩ := cidrBounds_eq (addressNumeric_lt a) (addressWidth (addressNumeric a).1)
    have hboth := @validateIntervalScope_zoned (addressNumeric a).1 _ _ _ scope
      ⟨le_refl (addressNumeric a).2, le_refl _⟩
    have hscope := validateScope_iff (e := ⟨a, scope⟩)
    have hflagged : a.flaggedLocal = true → requiresScope a = true := fun h => (Bool.and_eq_true_iff.1 h).1
    rw [zoned_eq] at hboth
    simp only [Nat.sub_self, pow_zero, Nat.div_one, Nat.mul_one, Nat.add_zero] at hstart hstop
    simp only [inputInterval, rangeInterval, cidrInterval, hstart, hstop]
    cases h1 : validateScope a scope <;>
      cases h2 : validateIntervalScope (addressNumeric a).1 (addressNumeric a).2 (addressNumeric a).2 scope <;>
      simp_all <;> grind [Except.toOption]
  intro includes excludes t h
  obtain ⟨merged, -, -, hmerged, -⟩ := build_stages (normalize_ok h)
  have hendpoint : ∀ target, t.Member target → ((∃ e, TargetEndpoint.new target.address target.scope = .ok e) ↔
      ¬ (target.address.flaggedLocal = true ∧ target.scope = none)) := by
    intro target hmember
    obtain ⟨input, hinput, hnames⟩ := ((member_iff h target).1 hmember).1
    obtain ⟨r, hr⟩ := (mergeInputs_spec hmerged).2.2.2 input hinput
    exact endpoint_iff hr hnames
  constructor
  · intro haccepted e he
    have hmember := (t.contains_iff e).1 he
    obtain ⟨index, hindex⟩ := t.exists_targetAtFamily hmember
    exact (hendpoint _ hmember).1 (haccepted _ _ _ hindex)
  intro hclean family index target hindex
  have hmember := (t.member_of_targetAtFamily hindex).1
  exact (hendpoint target hmember).2 (hclean ⟨target.address, target.scope⟩ ((t.contains_iff _).2 hmember))

/-- A transient link-local group is refused as an address without a zone, but accepted as a range and scanned. -/
theorem zones_disagree :
    inputInterval (.address ⟨.v6 0xff120000000000000000000000000001#128, none⟩) = .error .missingIpv6Scope ∧
    ∃ t, TargetSet.normalize [.range ⟨⟨.v6 0xff120000000000000000000000000001#128, none⟩,
        ⟨.v6 0xff120000000000000000000000000001#128, none⟩⟩] [] = .ok t ∧
      t.targetAtFamily 6 0 = some ⟨.v6 0xff120000000000000000000000000001#128, none⟩ ∧
      TargetEndpoint.new (.v6 0xff120000000000000000000000000001#128) none = .error .missingIpv6Scope :=
  ⟨by decide, _, rfl, by decide, by decide⟩

end NodeNet.Engine
