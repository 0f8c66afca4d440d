import Mathlib.Data.List.Sort
import Mathlib.Data.Set.Basic
import NodeNet.Engine.Types

/-!
# Address intervals

Inputs become intervals of addresses of one family and zone, `mergeInputs` joins those that touch and `subtract`
removes the excluded ones.  Intervals are read as sets of points (`RawInterval.points`): the merged list is ordered
and spans the union of its inputs (`mergeInputs_spec`), and the subtraction of two ordered lists is ordered and
spans exactly the difference (`subtract_spec`).
-/

namespace NodeNet.Engine

open List

/-! ### Inputs -/

structure TargetEndpoint where
  address : IpAddress
  scope : Option TargetScope
deriving DecidableEq

structure TargetCidr where
  network : TargetEndpoint
  prefixLength : Nat
deriving DecidableEq

structure TargetIntervalInput where
  first : TargetEndpoint
  last : TargetEndpoint
deriving DecidableEq

inductive TargetInput where
  | address (endpoint : TargetEndpoint)
  | cidr (cidr : TargetCidr)
  | range (range : TargetIntervalInput)
deriving DecidableEq

structure GroupKey where
  family : Nat
  scope : Option TargetScope
deriving DecidableEq

def GroupKey.key (g : GroupKey) : List Nat := [g.family, scopeKey g.scope]

structure RawInterval where
  group : GroupKey
  start : Nat
  stop : Nat
deriving DecidableEq

/-- The fields of an interval in the order in which intervals are sorted. -/
def RawInterval.key (r : RawInterval) : List Nat := [r.group.family, scopeKey r.group.scope, r.start, r.stop]

def RawInterval.count (r : RawInterval) : Option Nat := checkedAdd u128Max (r.stop - r.start) 1

def maxTargetIncludeIntervals : Nat := 65536
def maxTargetExcludeIntervals : Nat := 65536
def maxNormalizedTargetIntervals : Nat := 65536

def addressNumeric : IpAddress → Nat × Nat
  | .v4 value => (4, value.toNat)
  | .v6 value => (6, value.toNat)

def numericAddress (family value : Nat) : Option IpAddress :=
  if family = 4 then if value ≤ u32Max then some (.v4 (BitVec.ofNat 32 value)) else none
  else if family = 6 then some (.v6 (BitVec.ofNat 128 value))
  else none

/-- Link-local unicast and node- or link-local multicast addresses need a zone. -/
def requiresScope : IpAddress → Bool
  | .v4 _ => false
  | .v6 value =>
    let first := value.extractLsb' 120 8
    let second := value.extractLsb' 112 8
    let linkLocalUnicast := first == 0xfe#8 && second &&& 0xc0#8 == 0x80#8
    let localMulticast := first == 0xff#8 && (second &&& 0x0f#8 == 1#8 || second &&& 0x0f#8 == 2#8)
    linkLocalUnicast || localMulticast

variable (address : IpAddress)

def validateScope (scope : Option TargetScope) : Except TargetError Unit :=
  match address, requiresScope address, scope with
  | .v6 _, true, none => .error .missingIpv6Scope
  | .v4 _, _, some _ => .error .unexpectedScope
  | .v6 _, false, some _ => .error .unexpectedScope
  | _, _, _ => .ok ()

def TargetEndpoint.new (scope : Option TargetScope) : Except TargetError TargetEndpoint :=
  match validateScope address scope with
  | .error e => .error e
  | .ok () => .ok ⟨address, scope⟩

/-- The zoned IPv6 ranges: `fe80::/10`, `ff01::/16` and `ff02::/16`. -/
def scopedRanges : List (Nat × Nat) :=
  [(0xfe800000000000000000000000000000, 0xfebfffffffffffffffffffffffffffff),
   (0xff010000000000000000000000000000, 0xff01ffffffffffffffffffffffffffff),
   (0xff020000000000000000000000000000, 0xff02ffffffffffffffffffffffffffff)]

def validateIntervalScope (family start stop : Nat) (scope : Option TargetScope) : Except TargetError Unit :=
  if family = 4 then
    if scope.isSome then .error .unexpectedScope else .ok ()
  else
    let containing := scopedRanges.any fun r => decide (start ≥ r.1) && decide (stop ≤ r.2)
    let overlapping := scopedRanges.any fun r => decide (start ≤ r.2) && decide (stop ≥ r.1)
    if overlapping && !containing then .error .cidrCrossesScopeBoundary
    else if containing && scope.isNone then .error .missingIpv6Scope
    else if !containing && scope.isSome then .error .unexpectedScope
    else .ok ()

def rangeInterval (value : TargetIntervalInput) : Except TargetError RawInterval :=
  let (startFamily, start) := addressNumeric value.first.address
  let (endFamily, stop) := addressNumeric value.last.address
  if startFamily ≠ endFamily then .error .addressFamilyMismatch
  else if value.first.scope ≠ value.last.scope then .error .scopeMismatch
  else if start > stop then .error .reversedRange
  else
    match validateIntervalScope startFamily start stop value.first.scope with
    | .error e => .error e
    | .ok () => .ok ⟨⟨startFamily, value.first.scope⟩, start, stop⟩

def addressWidth (family : Nat) : Nat := if family = 4 then 32 else 128

/-- The first and the last address of a network, as 128-bit words. -/
def cidrBounds (family address prefixLength : Nat) : BitVec 128 × BitVec 128 :=
  let hostBits := addressWidth family - prefixLength
  let mask : BitVec 128 := if hostBits = 128 then 0 else BitVec.allOnes 128 <<< hostBits
  let familyMask : BitVec 128 := if family = 4 then BitVec.ofNat 128 u32Max else BitVec.allOnes 128
  let start := BitVec.ofNat 128 address &&& mask &&& familyMask
  (start, start ||| (~~~mask &&& familyMask))

def cidrInterval (value : TargetCidr) : Except TargetError RawInterval :=
  let (family, address) := addressNumeric value.network.address
  if value.prefixLength > addressWidth family then .error .invalidPrefixLength
  else
    let bounds := cidrBounds family address value.prefixLength
    match validateIntervalScope family bounds.1.toNat bounds.2.toNat value.network.scope with
    | .error e => .error e
    | .ok () => .ok ⟨⟨family, value.network.scope⟩, bounds.1.toNat, bounds.2.toNat⟩

def inputInterval : TargetInput → Except TargetError RawInterval
  | .address value =>
    match validateScope value.address value.scope with
    | .error e => .error e
    | .ok () =>
      let (family, numeric) := addressNumeric value.address
      .ok ⟨⟨family, value.scope⟩, numeric, numeric⟩
  | .range value => rangeInterval value
  | .cidr value => cidrInterval value

/-! ### Merging and subtraction -/

/-- Joins sorted intervals that touch; the accumulator holds the merged ones, last first. -/
def mergeSorted : List RawInterval → List RawInterval → List RawInterval
  | merged, [] => merged.reverse
  | [], interval :: rest => mergeSorted [interval] rest
  | last :: merged, interval :: rest =>
    if last.group = interval.group ∧ interval.start ≤ saturatingAdd u128Max last.stop 1 then
      mergeSorted ({ last with stop := max last.stop interval.stop } :: merged) rest
    else mergeSorted (interval :: last :: merged) rest

def mergeInputs (inputs : List TargetInput) : Except TargetError (List RawInterval) :=
  match inputs.mapM inputInterval with
  | .error e => .error e
  | .ok intervals => .ok (mergeSorted [] (intervals.insertionSort fun a b => a.key ≤ b.key))

def pushOutput (output : List RawInterval) (value : RawInterval) : Except TargetError (List RawInterval) :=
  if output.length = maxNormalizedTargetIntervals then .error .tooManyNormalizedIntervals
  else .ok (value :: output)

/-- The parts of `incl` from `cursor` on that no exclusion covers. -/
def subtractOne (incl : RawInterval) : List RawInterval → Nat → List RawInterval →
    Except TargetError (List RawInterval)
  | [], cursor, output =>
    if cursor ≤ incl.stop then pushOutput output ⟨incl.group, cursor, incl.stop⟩ else .ok output
  | exclusion :: rest, cursor, output =>
    if exclusion.group ≠ incl.group ∨ exclusion.start > incl.stop then
      if cursor ≤ incl.stop then pushOutput output ⟨incl.group, cursor, incl.stop⟩ else .ok output
    else
      match (if exclusion.start > cursor then
          pushOutput output ⟨incl.group, cursor, exclusion.start - 1⟩ else .ok output) with
      | .error e => .error e
      | .ok output =>
        if exclusion.stop ≥ incl.stop then .ok output
        else subtractOne incl rest (max cursor (exclusion.stop + 1)) output

def subtractAll : List RawInterval → List RawInterval → List RawInterval → Except TargetError (List RawInterval)
  | [], _, output => .ok output.reverse
  | incl :: includes, excludes, output =>
    -- exclusions that end before this interval are behind every later one too
    let excludes := excludes.dropWhile fun exclusion =>
      decide (exclusion.group.key < incl.group.key) ||
        (decide (exclusion.group = incl.group) && decide (exclusion.stop < incl.start))
    match subtractOne incl excludes incl.start output with
    | .error e => .error e
    | .ok output => subtractAll includes excludes output

def subtract (includes excludes : List RawInterval) : Except TargetError (List RawInterval) :=
  subtractAll includes excludes []

/-! ### Well-formed intervals -/

def RawInterval.WellFormed (r : RawInterval) : Prop :=
  r.start ≤ r.stop ∧ (r.group.family = 4 ∧ r.stop ≤ u32Max ∨ r.group.family = 6 ∧ r.stop ≤ u128Max)

private theorem addressNumeric_bound : (addressNumeric address).1 = 4 ∧ (addressNumeric address).2 ≤ u32Max ∨
      (addressNumeric address).1 = 6 ∧ (addressNumeric address).2 ≤ u128Max := by
  rcases address with a | a
  · exact Or.inl ⟨rfl, Nat.le_pred_of_lt a.isLt⟩
  · exact Or.inr ⟨rfl, Nat.le_pred_of_lt a.isLt⟩

private theorem cidrBounds_le (family address prefixLength : Nat) :
    (cidrBounds family address prefixLength).1.toNat ≤ (cidrBounds family address prefixLength).2.toNat := by
  simp only [cidrBounds, BitVec.toNat_or]
  exact Nat.left_le_or

variable {input : TargetInput} {r : RawInterval}

/-! ### Points -/

/-- The addresses of an interval, as pairs of a family and zone and a number. -/
def RawInterval.points (r : RawInterval) : Set (GroupKey × Nat) :=
  {x | r.group = x.1 ∧ r.start ≤ x.2 ∧ x.2 ≤ r.stop}

def spanned (l : List RawInterval) : Set (GroupKey × Nat) := {x | ∃ r ∈ l, x ∈ r.points}

@[simp] theorem spanned_nil : spanned [] = ∅ := by
  ext x
  simp [spanned]

@[simp] theorem spanned_cons (r : RawInterval) (l : List RawInterval) :
    spanned (r :: l) = r.points ∪ spanned l := by
  ext x
  simp [spanned]

@[simp] theorem spanned_append (l m : List RawInterval) : spanned (l ++ m) = spanned l ∪ spanned m := by
  ext x
  simp [spanned, or_and_right, exists_or]

theorem GroupKey.key_inj {g h : GroupKey} (hkey : g.key = h.key) : g = h := by
  obtain ⟨f, s⟩ := g
  obtain ⟨f', s'⟩ := h
  simp only [GroupKey.key, List.cons.injEq, and_true] at hkey
  rw [hkey.1, scopeKey_inj hkey.2]

/-- One interval lies before another in the order of families, zones and addresses, and the two do not overlap. -/
def RawInterval.Before (r s : RawInterval) : Prop :=
  r.group.key < s.group.key ∨ r.group = s.group ∧ r.stop < s.start

/-- One interval does not start behind another. -/
def RawInterval.NotAfter (r s : RawInterval) : Prop :=
  r.group.key < s.group.key ∨ r.group = s.group ∧ r.start ≤ s.start

variable {s : RawInterval}

theorem RawInterval.Before.trans {t : RawInterval} (hs : s.start ≤ s.stop) (hrs : r.Before s) (hst : s.Before t) :
    r.Before t := by
  rcases hrs with hrs | ⟨hg, hrs⟩ <;> rcases hst with hst | ⟨hg', hst⟩
  · exact Or.inl (lt_trans hrs hst)
  · exact Or.inl (hg' ▸ hrs)
  · exact Or.inl (hg ▸ hst)
  · exact Or.inr ⟨hg.trans hg', by omega⟩

theorem RawInterval.Before.disjoint (h : r.Before s) {x : GroupKey × Nat} (hr : x ∈ r.points) : x ∉ s.points := by
  intro hs
  rcases h with h | ⟨-, h⟩
  · rw [hr.1, hs.1] at h
    exact lt_irrefl _ h
  have := hr.2.2
  have := hs.2.1
  omega

/-- An interval in sorted order starts behind the one before it or belongs to a later group. -/
private theorem notAfter_of_key (h : r.key ≤ s.key) : r.NotAfter s := by
  have hkey : ¬ s.key < r.key := not_lt.2 h
  simp only [RawInterval.key, cons_lt_cons_iff] at hkey
  simp only [RawInterval.NotAfter, GroupKey.key, cons_lt_cons_iff]
  rcases Nat.lt_trichotomy r.group.family s.group.family with hf | hf | hf
  · exact Or.inl (Or.inl hf)
  · rcases Nat.lt_trichotomy (scopeKey r.group.scope) (scopeKey s.group.scope) with hz | hz | hz
    · exact Or.inl (Or.inr ⟨hf, Or.inl hz⟩)
    · refine Or.inr ⟨GroupKey.key_inj (by simp [GroupKey.key, hf, hz]), ?_⟩
      by_contra hlt
      exact hkey (Or.inr ⟨hf.symm, Or.inr ⟨hz.symm, Or.inl (not_le.1 hlt)⟩⟩)
    · exact absurd (Or.inr ⟨hf.symm, Or.inl hz⟩) hkey
  · exact absurd (Or.inl hf) hkey

/-! ### What an input names -/

/-- The family, zone and number of a target. -/
def ScanTarget.point (t : ScanTarget) : GroupKey × Nat :=
  (⟨(addressNumeric t.address).1, t.scope⟩, (addressNumeric t.address).2)

/-- The targets an input stands for: one endpoint, the addresses between two endpoints, or those that share the
leading bits of a network. -/
def TargetInput.Names : TargetInput → ScanTarget → Prop
  | .address e, t => t = ⟨e.address, e.scope⟩
  | .range r, t => t.point.1 = ⟨(addressNumeric r.first.address).1, r.first.scope⟩ ∧
      (addressNumeric r.first.address).2 ≤ t.point.2 ∧ t.point.2 ≤ (addressNumeric r.last.address).2
  | .cidr c, t => t.point.1 = ⟨(addressNumeric c.network.address).1, c.network.scope⟩ ∧
      t.point.2 / 2 ^ (addressWidth t.point.1.family - c.prefixLength) =
        (addressNumeric c.network.address).2 / 2 ^ (addressWidth t.point.1.family - c.prefixLength)

theorem addressNumeric_lt : (addressNumeric address).2 < 2 ^ addressWidth (addressNumeric address).1 := by
  rcases address with a | a
  · exact a.isLt
  · exact a.isLt

theorem addressNumeric_inj {a b : IpAddress} (h : addressNumeric a = addressNumeric b) : a = b := by
  rcases a with a | a <;> rcases b with b | b <;> simp only [addressNumeric, Prod.mk.injEq] at h
  · rw [BitVec.eq_of_toNat_eq h.2]
  · exact absurd h.1 (by decide)
  · exact absurd h.1 (by decide)
  · rw [BitVec.eq_of_toNat_eq h.2]

theorem ScanTarget.point_inj {s t : ScanTarget} (h : s.point = t.point) : s = t := by
  obtain ⟨a, z⟩ := s
  obtain ⟨b, y⟩ := t
  simp only [ScanTarget.point, Prod.mk.injEq, GroupKey.mk.injEq] at h
  rw [addressNumeric_inj (Prod.ext h.1.1 h.2), h.1.2]

private theorem familyMask_testBit (family i : Nat) :
    (if family = 4 then BitVec.ofNat 128 u32Max else BitVec.allOnes 128 : BitVec 128).getLsbD i =
      decide (i < addressWidth family) := by
  unfold addressWidth
  split
  · rw [BitVec.getLsbD_ofNat, show u32Max = 2 ^ 32 - 1 from rfl, Nat.testBit_two_pow_sub_one]
    by_cases h : i < 32
    · simp [h]; omega
    · simp [h]
  · rw [BitVec.getLsbD_allOnes]

private theorem cidrBounds_lt (family address prefixLength : Nat) :
    (cidrBounds family address prefixLength).2.toNat < 2 ^ addressWidth family := by
  refine Nat.lt_pow_two_of_testBit _ fun i hi => ?_
  simp only [cidrBounds, BitVec.testBit_toNat, BitVec.getLsbD_or, BitVec.getLsbD_and, familyMask_testBit,
    not_lt.2 hi, decide_false, Bool.and_false, Bool.or_false]

private theorem networkMask (hostBits : Nat) :
    (if hostBits = 128 then 0 else BitVec.allOnes 128 <<< hostBits : BitVec 128) =
      BitVec.allOnes 128 <<< hostBits := by
  split
  · next h => subst h; decide
  · rfl

/-- The addresses of a network: those that share its leading bits. -/
theorem cidrBounds_eq {family address : Nat} (haddress : address < 2 ^ addressWidth family)
    (prefixLength : Nat) :
    (cidrBounds family address prefixLength).1.toNat =
        address / 2 ^ (addressWidth family - prefixLength) * 2 ^ (addressWidth family - prefixLength) ∧
      (cidrBounds family address prefixLength).2.toNat =
        address / 2 ^ (addressWidth family - prefixLength) * 2 ^ (addressWidth family - prefixLength) +
          (2 ^ (addressWidth family - prefixLength) - 1) := by
  obtain ⟨h, hh⟩ : ∃ h, addressWidth family - prefixLength = h := ⟨_, rfl⟩
  have hwidth : addressWidth family ≤ 128 := by unfold addressWidth; split <;> omega
  have hstart : (cidrBounds family address prefixLength).1.toNat = address / 2 ^ h * 2 ^ h := by
    apply Nat.eq_of_testBit_eq
    intro i
    simp only [cidrBounds, hh, networkMask, BitVec.testBit_toNat, BitVec.getLsbD_and, familyMask_testBit,
      BitVec.getLsbD_ofNat, BitVec.getLsbD_shiftLeft, BitVec.getLsbD_allOnes, Nat.testBit_mul_two_pow,
      Nat.testBit_div_two_pow]
    by_cases hi : h ≤ i
    · have hback : i - h + h = i := by omega
      by_cases hw : i < addressWidth family
      · have h128 : i < 128 := by omega
        have h128' : i - h < 128 := by omega
        simp [hi, hw, h128, h128', hback]
      have hzero : address.testBit i = false :=
        Nat.testBit_lt_two_pow (lt_of_lt_of_le haddress (Nat.pow_le_pow_right (by decide) (not_lt.1 hw)))
      simp [hw, hback, hzero]
    · simp [hi]
  have hhost : (~~~(BitVec.allOnes 128 <<< h) &&&
      (if family = 4 then BitVec.ofNat 128 u32Max else BitVec.allOnes 128) : BitVec 128).toNat = 2 ^ h - 1 := by
    apply Nat.eq_of_testBit_eq
    intro i
    simp only [BitVec.testBit_toNat, BitVec.getLsbD_and, BitVec.getLsbD_not, familyMask_testBit,
      BitVec.getLsbD_shiftLeft, BitVec.getLsbD_allOnes, Nat.testBit_two_pow_sub_one]
    by_cases hi : i < h
    · have h1 : i < addressWidth family := by omega
      have h2 : i < 128 := by omega
      simp [hi, h1, h2]
    by_cases h2 : i < 128
    · have h3 : i - h < 128 := by omega
      simp [hi, h2, h3]
    · simp [hi, h2]
  rw [hh]
  refine ⟨hstart, ?_⟩
  have hend : (cidrBounds family address prefixLength).2.toNat =
      (cidrBounds family address prefixLength).1.toNat ||| (2 ^ h - 1) := by
    rw [← hhost]
    simp only [cidrBounds, hh, networkMask, BitVec.toNat_or]
  rw [hend, hstart, Nat.mul_comm, ← Nat.two_pow_add_eq_or_of_lt (by have := Nat.two_pow_pos h; omega)]

private theorem between_multiples {value quotient bits : Nat} :
    quotient * 2 ^ bits ≤ value ∧ value ≤ quotient * 2 ^ bits + (2 ^ bits - 1) ↔ value / 2 ^ bits = quotient := by
  have hpos := Nat.two_pow_pos bits
  have hnext : (quotient + 1) * 2 ^ bits = quotient * 2 ^ bits + 2 ^ bits := Nat.succ_mul ..
  constructor
  · rintro ⟨h1, h2⟩
    have hlt : value / 2 ^ bits < quotient + 1 := (Nat.div_lt_iff_lt_mul hpos).2 (by omega)
    have hle : quotient ≤ value / 2 ^ bits := (Nat.le_div_iff_mul_le hpos).2 h1
    omega
  · rintro rfl
    exact ⟨Nat.div_mul_le_self _ _, by have := Nat.lt_div_mul_add hpos (a := value); omega⟩

/-- The interval of an input is well-formed and holds exactly the targets that the input names, and one of the two
zone rules accepts it. -/
theorem inputInterval_spec (h : inputInterval input = .ok r) :
    r.WellFormed ∧ (∀ t : ScanTarget, t.point ∈ r.points ↔ input.Names t) ∧
      ((∃ e, input = .address e ∧ validateScope e.address e.scope = .ok ()) ∨
        validateIntervalScope r.group.family r.start r.stop r.group.scope = .ok ()) := by
  rcases input with value | value | value
  · simp only [inputInterval] at h
    split at h
    · cases h
    next hscope =>
    cases h
    refine ⟨⟨le_refl _, addressNumeric_bound value.address⟩, fun t => ⟨?_, ?_⟩, Or.inl ⟨value, rfl, hscope⟩⟩
    · rintro ⟨hg, h1, h2⟩
      exact ScanTarget.point_inj (Prod.ext hg.symm (le_antisymm h2 h1))
    · rintro rfl
      exact ⟨rfl, le_refl _, le_refl _⟩
  · simp only [inputInterval, cidrInterval] at h
    split at h
    · cases h
    split at h
    · cases h
    next hscope =>
    cases h
    refine ⟨⟨cidrBounds_le _ _ _, ?_⟩, fun t => ?_, Or.inr hscope⟩
    · rcases addressNumeric_bound value.network.address with ⟨h4, _⟩ | ⟨h6, _⟩
      · refine Or.inl ⟨h4, ?_⟩
        show (cidrBounds _ _ _).2.toNat ≤ _
        rw [h4]
        exact Nat.le_pred_of_lt (cidrBounds_lt ..)
      · exact Or.inr ⟨h6, Nat.le_pred_of_lt (BitVec.isLt _)⟩
    obtain ⟨hstart, hstop⟩ := cidrBounds_eq (addressNumeric_lt value.network.address) value.prefixLength
    simp only [RawInterval.points, TargetInput.Names, Set.mem_ofPred_eq, hstart, hstop]
    constructor
    · rintro ⟨hg, hbounds⟩
      exact ⟨hg.symm, by rw [← hg]; exact between_multiples.1 hbounds⟩
    rintro ⟨hg, hquotient⟩
    rw [hg] at hquotient
    exact ⟨hg.symm, between_multiples.2 hquotient⟩
  simp only [inputInterval, rangeInterval, ite_error_eq_ok] at h
  obtain ⟨hfamily, -, hle, h⟩ := h
  split at h
  · cases h
  next hscope =>
  cases h
  refine ⟨⟨not_lt.1 hle, ?_⟩, fun t => and_congr_left fun _ => eq_comm, Or.inr hscope⟩
  rw [not_not] at hfamily
  show (addressNumeric _).1 = 4 ∧ _ ∨ (addressNumeric _).1 = 6 ∧ _
  rw [hfamily]
  exact addressNumeric_bound value.last.address

/-! ### Merging -/

/-- Merging keeps the order and the addresses.  The accumulator holds the merged intervals, last first. -/
private theorem mergeSorted_spec {merged rest : List RawInterval} (hm : ∀ r ∈ merged, r.WellFormed)
    (hr : ∀ r ∈ rest, r.WellFormed) (hordered : merged.Pairwise fun a b => b.Before a)
    (hsorted : rest.Pairwise RawInterval.NotAfter)
    (hlast : ∀ last ∈ merged.head?, ∀ r ∈ rest, last.NotAfter r) :
    (∀ r ∈ mergeSorted merged rest, r.WellFormed) ∧ (mergeSorted merged rest).Pairwise RawInterval.Before ∧
      spanned (mergeSorted merged rest) = spanned merged ∪ spanned rest := by
  induction rest generalizing merged with
  | nil =>
    unfold mergeSorted
    refine ⟨fun r hr => hm r (mem_reverse.1 hr), pairwise_reverse.2 hordered, ?_⟩
    ext x
    simp [spanned]
  | cons interval rest ih =>
    obtain ⟨hint, hr⟩ := forall_mem_cons.1 hr
    obtain ⟨hfirst, hsorted⟩ := pairwise_cons.1 hsorted
    cases merged with
    | nil =>
      unfold mergeSorted
      have hone := ih (forall_mem_singleton.2 hint) hr (pairwise_singleton _ _) hsorted
        (by rintro last ⟨⟩; exact hfirst)
      simpa using hone
    | cons last merged =>
      obtain ⟨hlastWf, hm⟩ := forall_mem_cons.1 hm
      obtain ⟨hbefore, hmerged⟩ := pairwise_cons.1 hordered
      obtain ⟨hnotAfter, hlast⟩ := forall_mem_cons.1 (hlast last rfl)
      unfold mergeSorted
      split
      · next hc =>
        -- the interval touches the last one, which grows to cover both
        have hstart : last.start ≤ interval.start := by
          rcases hnotAfter with hlt | ⟨-, hle⟩
          · rw [hc.1] at hlt
            exact absurd hlt (lt_irrefl _)
          · exact hle
        have hgrown : ({ last with stop := max last.stop interval.stop } : RawInterval).WellFormed := by
          refine ⟨le_trans hlastWf.1 (le_max_left _ _), ?_⟩
          have hfamily : last.group.family = interval.group.family := by rw [hc.1]
          rcases hlastWf.2 with h | h <;> rcases hint.2 with h' | h' <;> simp only [Nat.max_le] <;> omega
        have hspan : ({ last with stop := max last.stop interval.stop } : RawInterval).points =
            last.points ∪ interval.points := by
          have htouch : interval.start ≤ last.stop + 1 := le_trans hc.2 (by unfold saturatingAdd; omega)
          have hle := hint.1
          ext ⟨group, value⟩
          simp only [RawInterval.points, Set.mem_ofPred_eq, Set.mem_union, ← hc.1, ← and_or_left]
          refine and_congr_right fun _ => ?_
          omega
        obtain ⟨hwf, hpair, hset⟩ := ih (forall_mem_cons.2 ⟨hgrown, hm⟩) hr (pairwise_cons.2 ⟨hbefore, hmerged⟩)
          hsorted (by rintro grown ⟨⟩; exact hlast)
        refine ⟨hwf, hpair, ?_⟩
        rw [hset, spanned_cons, spanned_cons, spanned_cons, hspan]
        ac_rfl
      next hc =>
      -- a gap: the last interval lies before the new one
      have hlastBefore : last.Before interval := by
        refine hnotAfter.imp_right fun hnext => ⟨hnext.1, ?_⟩
        have hgap : ¬ interval.start ≤ saturatingAdd u128Max last.stop 1 := fun htouch => hc ⟨hnext.1, htouch⟩
        have hmax : u32Max ≤ u128Max := by decide
        have hwf := hint.1
        have hfamily := hint.2
        unfold saturatingAdd at hgap
        omega
      obtain ⟨hwf, hpair, hset⟩ := ih (forall_mem_cons.2 ⟨hint, forall_mem_cons.2 ⟨hlastWf, hm⟩⟩) hr
        (pairwise_cons.2 ⟨forall_mem_cons.2 ⟨hlastBefore, fun r h => (hbefore r h).trans hlastWf.1 hlastBefore⟩,
          hordered⟩) hsorted (by rintro interval ⟨⟩; exact hfirst)
      refine ⟨hwf, hpair, ?_⟩
      rw [hset, spanned_cons, spanned_cons, spanned_cons]
      ac_rfl

variable {inputs : List TargetInput} {rs : List RawInterval}

private theorem mapM_spec (h : inputs.mapM inputInterval = .ok rs) :
    (∀ r ∈ rs, ∃ input ∈ inputs, inputInterval input = .ok r) ∧
      ∀ input ∈ inputs, ∃ r ∈ rs, inputInterval input = .ok r := by
  induction inputs generalizing rs with
  | nil =>
    rw [mapM_nil] at h
    cases h
    simp
  | cons a inputs ih =>
    rw [mapM_cons] at h
    cases ha : inputInterval a with
    | error e => rw [ha] at h; cases h
    | ok first =>
      cases hs : inputs.mapM inputInterval with
      | error e => rw [ha, hs] at h; cases h
      | ok others =>
        rw [ha, hs] at h
        cases h
        obtain ⟨hfrom, hto⟩ := ih hs
        refine ⟨forall_mem_cons.2 ⟨⟨a, mem_cons_self .., ha⟩, fun r hr => ?_⟩,
          forall_mem_cons.2 ⟨⟨first, mem_cons_self .., ha⟩, fun input hinput => ?_⟩⟩
        · exact (hfrom r hr).imp fun _ h => ⟨mem_cons_of_mem _ h.1, h.2⟩
        · exact (hto input hinput).imp fun _ h => ⟨mem_cons_of_mem _ h.1, h.2⟩

/-- The merged inputs are ordered and hold exactly the targets that the inputs name, and every input is accepted.
-/
theorem mergeInputs_spec (h : mergeInputs inputs = .ok rs) :
    (∀ r ∈ rs, r.WellFormed) ∧ rs.Pairwise RawInterval.Before ∧
      (∀ target : ScanTarget, target.point ∈ spanned rs ↔ ∃ input ∈ inputs, input.Names target) ∧
      ∀ input ∈ inputs, ∃ r, inputInterval input = .ok r := by
  simp only [mergeInputs] at h
  split at h
  · cases h
  next intervals hmap =>
  cases h
  obtain ⟨hfrom, hto⟩ := mapM_spec hmap
  have hwf : ∀ r ∈ intervals.insertionSort (fun a b => a.key ≤ b.key), r.WellFormed := by
    intro r hr
    obtain ⟨input, -, hinput⟩ := hfrom r ((mem_insertionSort _).1 hr)
    exact (inputInterval_spec hinput).1
  have hsorted : (intervals.insertionSort fun a b => a.key ≤ b.key).Pairwise RawInterval.NotAfter :=
    (pairwise_insertionSort _ intervals).imp notAfter_of_key
  obtain ⟨hwf', hpair, hset⟩ := mergeSorted_spec (forall_mem_nil _) hwf List.Pairwise.nil hsorted (by simp)
  refine ⟨hwf', hpair, fun target => ?_, fun input hmem => (hto input hmem).imp fun _ h => h.2⟩
  rw [hset, spanned_nil, Set.empty_union]
  constructor
  · rintro ⟨r, hr, hx⟩
    obtain ⟨input, hmem, hinput⟩ := hfrom r ((mem_insertionSort _).1 hr)
    exact ⟨input, hmem, ((inputInterval_spec hinput).2.1 target).1 hx⟩
  rintro ⟨input, hmem, hnames⟩
  obtain ⟨r, hr, hinput⟩ := hto input hmem
  exact ⟨r, (mem_insertionSort _).2 hr, ((inputInterval_spec hinput).2.1 target).2 hnames⟩

/-! ### Subtraction -/

variable {output output' : List RawInterval}

private theorem pushOutput_ok {value : RawInterval} (h : pushOutput output value = .ok output') :
    output' = value :: output := by
  simp only [pushOutput] at h
  split at h
  · cases h
  · cases h
    rfl

/-- The part of an interval from `cursor` on. -/
private def tailOf (incl : RawInterval) (cursor : Nat) : RawInterval := ⟨incl.group, cursor, incl.stop⟩

private structure Parts (incl : RawInterval) (cursor : Nat) (parts : List RawInterval) : Prop where
  ordered : parts.Pairwise RawInterval.Before
  inside : ∀ p ∈ parts, p.group = incl.group ∧ cursor ≤ p.start ∧ p.start ≤ p.stop ∧ p.stop ≤ incl.stop

variable {cursor : Nat} {incl : RawInterval}

private theorem mem_tailOf {x : GroupKey × Nat} :
    x ∈ (tailOf incl cursor).points ↔ incl.group = x.1 ∧ cursor ≤ x.2 ∧ x.2 ≤ incl.stop := Iff.rfl

private theorem tail_parts
    (h : (if cursor ≤ incl.stop then pushOutput output (tailOf incl cursor) else .ok output) = .ok output') :
    ∃ parts, output' = parts.reverse ++ output ∧ Parts incl cursor parts ∧
      spanned parts = (tailOf incl cursor).points := by
  split at h
  · next hc =>
    refine ⟨[tailOf incl cursor], pushOutput_ok h, ⟨pairwise_singleton _ _, ?_⟩, by simp⟩
    exact forall_mem_singleton.2 ⟨rfl, le_refl _, hc, le_refl _⟩
  next hc =>
  cases h
  refine ⟨[], rfl, ⟨List.Pairwise.nil, by simp⟩, ?_⟩
  ext x
  simp only [spanned_nil, Set.mem_empty_iff_false, false_iff, mem_tailOf]
  omega

/-- The part of an interval between `cursor` and an exclusion. -/
private def front (incl : RawInterval) (cursor : Nat) (e : RawInterval) : List RawInterval :=
  if e.start > cursor then [⟨incl.group, cursor, e.start - 1⟩] else []

variable {e : RawInterval}

private theorem mem_front {x : GroupKey × Nat} :
    x ∈ spanned (front incl cursor e) ↔ incl.group = x.1 ∧ cursor ≤ x.2 ∧ x.2 < e.start := by
  unfold front
  split
  · next hc =>
    simp only [spanned_cons, spanned_nil, Set.union_empty, RawInterval.points, Set.mem_ofPred_eq]
    refine and_congr_right fun _ => and_congr_right fun _ => ?_
    omega
  next hc =>
  simp only [spanned_nil, Set.mem_empty_iff_false, false_iff]
  omega

private theorem front_parts (h : e.start ≤ incl.stop) :
    Parts incl cursor (front incl cursor e) ∧ ∀ p ∈ front incl cursor e, p.stop < e.start := by
  unfold front
  split
  · next hc =>
    rw [forall_mem_singleton]
    exact ⟨⟨pairwise_singleton _ _, forall_mem_singleton.2 ⟨rfl, le_refl _, Nat.le_sub_one_of_lt hc,
      (Nat.sub_le ..).trans h⟩⟩, Nat.sub_one_lt_of_lt hc⟩
  · exact ⟨⟨List.Pairwise.nil, by simp⟩, by simp⟩

private theorem Parts.append {parts : List RawInterval} (hstart : e.start ≤ incl.stop) (hle : e.start ≤ e.stop)
    (h : Parts incl (max cursor (e.stop + 1)) parts) : Parts incl cursor (front incl cursor e ++ parts) := by
  obtain ⟨hfront, hbound⟩ := @front_parts cursor incl e hstart
  refine ⟨pairwise_append.2 ⟨hfront.ordered, h.ordered, ?_⟩, ?_⟩
  · intro p hp q hq
    have h1 := hbound p hp
    have h2 := (h.inside q hq).2.1
    exact Or.inr ⟨(hfront.inside p hp).1.trans (h.inside q hq).1.symm, by omega⟩
  intro p hp
  rcases mem_append.1 hp with hp | hp
  · exact hfront.inside p hp
  · obtain ⟨hg, hcursor, hrest⟩ := h.inside p hp
    exact ⟨hg, by omega, hrest⟩

/-- An exclusion of the same group leaves the addresses before it and, among those behind it, what the later
exclusions leave. -/
private theorem tail_sdiff {rest : List RawInterval} (hg : e.group = incl.group) (hstart : e.start ≤ incl.stop)
    (hle : e.start ≤ e.stop) (hfirst : ∀ r ∈ rest, e.Before r) :
    (tailOf incl cursor).points \ spanned (e :: rest) =
      spanned (front incl cursor e) ∪ ((tailOf incl (max cursor (e.stop + 1))).points \ spanned rest) := by
  ext x
  simp only [spanned_cons, Set.mem_sdiff, Set.mem_union, mem_front, mem_tailOf, not_or]
  constructor
  · rintro ⟨⟨hx, h1, h2⟩, hnot, hrest⟩
    by_cases hlt : x.2 < e.start
    · exact Or.inl ⟨hx, h1, hlt⟩
    have hbehind : e.stop < x.2 := by
      by_contra hge
      exact hnot ⟨hg.trans hx, not_lt.1 hlt, not_lt.1 hge⟩
    exact Or.inr ⟨⟨hx, by omega, h2⟩, hrest⟩
  rintro (⟨hx, h1, h2⟩ | ⟨⟨hx, h1, h2⟩, hrest⟩)
  · refine ⟨⟨hx, h1, by omega⟩, fun he => ?_, ?_⟩
    · have := he.2.1
      omega
    rintro ⟨r, hr, hxr⟩
    rcases hfirst r hr with hlt | ⟨-, hlt⟩
    · rw [hg, hx, ← hxr.1] at hlt
      exact lt_irrefl _ hlt
    · have := hxr.2.1
      omega
  · exact ⟨⟨hx, by omega, h2⟩, fun he => by have := he.2.2; omega, hrest⟩

variable {excludes : List RawInterval}

private theorem subtractOne_spec (hwf : ∀ e ∈ excludes, e.start ≤ e.stop)
    (hordered : excludes.Pairwise RawInterval.Before) (hgroup : ∀ e ∈ excludes, ¬ e.group.key < incl.group.key)
    (h : subtractOne incl excludes cursor output = .ok output') :
    ∃ parts, output' = parts.reverse ++ output ∧ Parts incl cursor parts ∧
      spanned parts = (tailOf incl cursor).points \ spanned excludes := by
  induction excludes generalizing cursor output with
  | nil =>
    obtain ⟨parts, hout, hparts, hset⟩ := tail_parts h
    exact ⟨parts, hout, hparts, by simp [hset]⟩
  | cons e rest ih =>
    obtain ⟨hfirst, hrest⟩ := pairwise_cons.1 hordered
    have hle := hwf e (mem_cons_self ..)
    unfold subtractOne at h
    split at h
    · next hout =>
      -- this exclusion and all later ones lie behind the interval
      obtain ⟨parts, hpush, hparts, hset⟩ := tail_parts h
      have he : (tailOf incl cursor).Before e := by
        by_cases hg : e.group = incl.group
        · exact Or.inr ⟨hg.symm, hout.resolve_left (not_not.2 hg)⟩
        · have hne : incl.group.key ≠ e.group.key := fun hk => hg (GroupKey.key_inj hk).symm
          exact Or.inl (lt_of_le_of_ne (not_lt.1 (hgroup e (mem_cons_self ..))) hne)
      have hbehind : ∀ r ∈ e :: rest, (tailOf incl cursor).Before r :=
        forall_mem_cons.2 ⟨he, fun r hr => he.trans hle (hfirst r hr)⟩
      refine ⟨parts, hpush, hparts, ?_⟩
      rw [hset]
      ext x
      simp only [Set.mem_sdiff, iff_self_and]
      rintro hx ⟨r, hr, hxr⟩
      exact (hbehind r hr).disjoint hx hxr
    next hin =>
    obtain ⟨hg, hstart⟩ : e.group = incl.group ∧ e.start ≤ incl.stop := by
      rw [not_or, not_not, not_lt] at hin
      exact hin
    split at h
    · cases h
    next mid hmid =>
    have hfront : mid = (front incl cursor e).reverse ++ output := by
      unfold front
      split at hmid
      · next hc => simpa [hc] using pushOutput_ok hmid
      · next hc => cases hmid; simp [hc]
    subst hfront
    split at h
    · next hlast =>
      -- nothing of the interval is left behind this exclusion
      cases h
      refine ⟨front incl cursor e, rfl, (front_parts hstart).1, ?_⟩
      rw [tail_sdiff hg hstart hle hfirst]
      ext x
      simp only [Set.mem_union, Set.mem_sdiff, mem_tailOf, iff_self_or]
      omega
    obtain ⟨parts, hout, hparts, hset⟩ := ih (forall_mem_cons.1 hwf).2 hrest (forall_mem_cons.1 hgroup).2 h
    refine ⟨front incl cursor e ++ parts, by simp [hout], hparts.append hstart hle, ?_⟩
    rw [spanned_append, hset, tail_sdiff hg hstart hle hfirst]

/-- Exclusions that end before an interval touch neither it nor a later one. -/
private theorem dropWhile_spec (hordered : excludes.Pairwise RawInterval.Before) {kept : List RawInterval}
    (hkept : excludes.dropWhile (fun exclusion => decide (exclusion.group.key < incl.group.key) ||
      (decide (exclusion.group = incl.group) && decide (exclusion.stop < incl.start))) = kept) :
    (∀ e ∈ kept, e ∈ excludes) ∧ kept.Pairwise RawInterval.Before ∧ (∀ e ∈ kept, ¬ e.group.key < incl.group.key) ∧
      ∀ r : RawInterval, incl.NotAfter r → ∀ x ∈ r.points, x ∈ spanned excludes ↔ x ∈ spanned kept := by
  induction excludes with
  | nil =>
    cases hkept
    simp
  | cons e rest ih =>
    obtain ⟨hfirst, hrest⟩ := pairwise_cons.1 hordered
    rw [dropWhile_cons] at hkept
    split at hkept
    · next hskip =>
      obtain ⟨hmem, hpair, hgroup, hspan⟩ := ih hrest hkept
      refine ⟨fun r hr => mem_cons_of_mem _ (hmem r hr), hpair, hgroup, fun r hr x hx => ?_⟩
      rw [spanned_cons, Set.mem_union, ← hspan r hr x hx, or_iff_right]
      intro hxe
      have hkey : e.group.key = r.group.key := by rw [hxe.1, hx.1]
      simp only [Bool.or_eq_true, Bool.and_eq_true, decide_eq_true_eq] at hskip
      rcases hskip with hlt | ⟨hg, hlt⟩
      · rcases hr with hr | ⟨hr, -⟩
        · exact lt_asymm hlt (hkey ▸ hr)
        · rw [hkey, hr] at hlt
          exact lt_irrefl _ hlt
      rcases hr with hr | ⟨-, hr⟩
      · rw [← hg, hkey] at hr
        exact lt_irrefl _ hr
      have h1 := hxe.2.2
      have h2 := hx.2.1
      omega
    next hstay =>
    subst hkept
    simp only [Bool.or_eq_true, Bool.and_eq_true, decide_eq_true_eq, not_or] at hstay
    refine ⟨fun r hr => hr, hordered, fun r hr => ?_, fun r _ x _ => Iff.rfl⟩
    rcases mem_cons.1 hr with rfl | hr
    · exact hstay.1
    rcases hfirst r hr with hlt | ⟨hg, -⟩
    · exact fun h => hstay.1 (lt_trans hlt h)
    · exact hg ▸ hstay.1

private theorem subtractAll_spec {includes : List RawInterval} (hincl : ∀ r ∈ includes, r.start ≤ r.stop)
    (hexcl : ∀ r ∈ excludes, r.start ≤ r.stop) (hordered : includes.Pairwise RawInterval.Before)
    (hexclOrdered : excludes.Pairwise RawInterval.Before) (h : subtractAll includes excludes output = .ok rs) :
    ∃ parts, rs = output.reverse ++ parts ∧ parts.Pairwise RawInterval.Before ∧
      (∀ p ∈ parts, p.start ≤ p.stop ∧ ∃ incl ∈ includes, p.group = incl.group ∧ incl.start ≤ p.start ∧
        p.stop ≤ incl.stop) ∧ spanned parts = spanned includes \ spanned excludes := by
  induction includes generalizing excludes output with
  | nil =>
    cases h
    exact ⟨[], by simp, List.Pairwise.nil, by simp, by simp⟩
  | cons incl includes ih =>
    obtain ⟨hfirst, hrest⟩ := pairwise_cons.1 hordered
    have hle := hincl incl (mem_cons_self ..)
    simp only [subtractAll] at h
    obtain ⟨kept, hkept⟩ :
      ∃ kept, excludes.dropWhile (fun exclusion => decide (exclusion.group.key < incl.group.key) ||
      (decide (exclusion.group = incl.group) && decide (exclusion.stop < incl.start))) = kept := ⟨_, rfl⟩
    obtain ⟨hmem, hpair, hgroup, hspan⟩ := dropWhile_spec hexclOrdered hkept
    rw [hkept] at h
    split at h
    · cases h
    next mid hone =>
    have hkeptWf : ∀ e ∈ kept, e.start ≤ e.stop := fun e he => hexcl e (hmem e he)
    obtain ⟨parts, hmid, hparts, hset⟩ := subtractOne_spec hkeptWf hpair hgroup hone
    obtain ⟨later, hrs, hlater, hinside, hlaterSet⟩ := ih (forall_mem_cons.1 hincl).2 hkeptWf hrest hpair h
    refine ⟨parts ++ later, by simp [hrs, hmid], pairwise_append.2 ⟨hparts.ordered, hlater, ?_⟩, ?_, ?_⟩
    · -- a part of this interval lies before every part of a later one
      intro p hp q hq
      obtain ⟨hpg, -, -, hpstop⟩ := hparts.inside p hp
      obtain ⟨-, i, hi, hqg, hqstart, -⟩ := hinside q hq
      rcases hfirst i hi with hlt | ⟨hg, hlt⟩
      · exact Or.inl (by rw [hpg, hqg]; exact hlt)
      · exact Or.inr ⟨by rw [hpg, hqg, hg], by omega⟩
    · intro p hp
      rcases mem_append.1 hp with hp | hp
      · obtain ⟨hpg, hstart, hple, hstop⟩ := hparts.inside p hp
        exact ⟨hple, incl, mem_cons_self .., hpg, hstart, hstop⟩
      · obtain ⟨hple, i, hi, hbounds⟩ := hinside p hp
        exact ⟨hple, i, mem_cons_of_mem _ hi, hbounds⟩
    have hself : ∀ x ∈ incl.points, x ∈ spanned excludes ↔ x ∈ spanned kept := hspan incl (Or.inr ⟨rfl, le_refl _⟩)
    have hothers : ∀ x ∈ spanned includes, x ∈ spanned excludes ↔ x ∈ spanned kept := by
      rintro x ⟨r, hr, hx⟩
      refine hspan r ?_ x hx
      rcases hfirst r hr with hlt | ⟨hg, hlt⟩
      · exact Or.inl hlt
      · exact Or.inr ⟨hg, by omega⟩
    have htail : (tailOf incl incl.start).points = incl.points := rfl
    rw [spanned_append, hset, hlaterSet, spanned_cons, htail, Set.union_sdiff_distrib]
    exact congrArg₂ (· ∪ ·) (Set.ext fun x => and_congr_right fun hx => not_congr (hself x hx).symm)
      (Set.ext fun x => and_congr_right fun hx => not_congr (hothers x hx).symm)

/-- Subtracting ordered intervals leaves ordered intervals that span the difference. -/
theorem subtract_spec {includes : List RawInterval} (hincl : ∀ r ∈ includes, r.WellFormed)
    (hexcl : ∀ r ∈ excludes, r.WellFormed) (hordered : includes.Pairwise RawInterval.Before)
    (hexclOrdered : excludes.Pairwise RawInterval.Before) (h : subtract includes excludes = .ok rs) :
    (∀ r ∈ rs, r.WellFormed) ∧ rs.Pairwise RawInterval.Before ∧
    spanned rs = spanned includes \ spanned excludes := by
  obtain ⟨parts, hrs, hpair, hinside, hset⟩ := subtractAll_spec (fun r hr => (hincl r hr).1)
    (fun r hr => (hexcl r hr).1) hordered hexclOrdered h
  rw [reverse_nil, nil_append] at hrs
  subst hrs
  refine ⟨fun p hp => ?_, hpair, hset⟩
  obtain ⟨hle, incl, hmem, hg, -, hstop⟩ := hinside p hp
  refine ⟨hle, ?_⟩
  rw [hg]
  exact (hincl incl hmem).2.imp (fun h => ⟨h.1, le_trans hstop h.2⟩) (fun h => ⟨h.1, le_trans hstop h.2⟩)

end NodeNet.Engine
