import NodeNet.Engine.Permutation
import NodeNet.Engine.Plan

/-!
# Enumeration of a plan

The scheduler walks the ordinals `0, 1, …` of a plan through a seeded permutation and decodes each number.  Every
combination of an attempt, a definition, a compatible target and a port of the definition is met by exactly one
ordinal (`enumeration_exact`).  The decoding is also written with every multiplication, addition and subtraction
checked against the width of its machine integer (`permuteChecked`, `logicalProbeAtChecked`); no check ever fails.
-/

namespace NodeNet.Engine

/-! ### Compatible targets -/

/-- The family of probes can reach the address. -/
def ProbeFamily.Compatible (family : ProbeFamily) (target : ScanTarget) : Prop :=
  target.point.1.family = 4 ∧ family.supportsIpv4 = true ∨ target.point.1.family = 6 ∧ family.supportsIpv6 = true

variable {family : ProbeFamily} {target : ScanTarget} {targets : TargetSet}

/-- The IPv4 targets come first: an index below their count decodes to an IPv4 address, any other to an IPv6 one.
-/
private theorem compatibleTargetAt_iff {index : Nat} :
    compatibleTargetAt targets family index = some target ↔
      (family.supportsIpv4 = true ∧ index < targets.ipv4Count ∧ targets.targetAtFamily 4 index = some target) ∨
        (family.supportsIpv6 = true ∧ (if family.supportsIpv4 then targets.ipv4Count else 0) ≤ index ∧
          targets.targetAtFamily 6 (index - if family.supportsIpv4 then targets.ipv4Count else 0) =
            some target) := by
  unfold compatibleTargetAt
  cases family.supportsIpv4
  · simp
  · by_cases hlt : index < targets.ipv4Count
    · simp [hlt, Nat.not_le_of_lt hlt]
    · simp [hlt, Nat.le_of_not_lt hlt]

theorem of_compatibleTargetAt {index : Nat} (h : compatibleTargetAt targets family index = some target) :
    targets.Member target ∧ family.Compatible target := by
  rcases compatibleTargetAt_iff.1 h with ⟨h4, -, h⟩ | ⟨h6, -, h⟩ <;>
    obtain ⟨hmember, hfamily⟩ := targets.member_of_targetAtFamily h
  · exact ⟨hmember, Or.inl ⟨hfamily, h4⟩⟩
  · exact ⟨hmember, Or.inr ⟨hfamily, h6⟩⟩

theorem compatibleTargetAt_inj {i j : Nat} (hi : compatibleTargetAt targets family i = some target)
    (hj : compatibleTargetAt targets family j = some target) : i = j := by
  -- a target has one address family
  have mixed : ∀ {k l : Nat}, targets.targetAtFamily 4 k = some target → targets.targetAtFamily 6 l = some target →
      False := by
    intro k l hk hl
    have h4 := (targets.member_of_targetAtFamily hk).2
    have h6 := (targets.member_of_targetAtFamily hl).2
    omega
  rcases compatibleTargetAt_iff.1 hi with ⟨-, -, hi⟩ | ⟨-, hle, hi⟩ <;>
    rcases compatibleTargetAt_iff.1 hj with ⟨-, -, hj⟩ | ⟨-, hle', hj⟩
  · exact targets.targetAtFamily_inj hi hj
  · exact (mixed hi hj).elim
  · exact (mixed hj hi).elim
  · have := targets.targetAtFamily_inj hi hj
    omega

theorem exists_compatibleTargetAt (hmember : targets.Member target) (hcompatible : family.Compatible target) :
    ∃ index, index < compatibleTargetCount targets family ∧
      compatibleTargetAt targets family index = some target := by
  obtain ⟨index, hindex⟩ := targets.exists_targetAtFamily hmember
  have hlt := (targets.targetAtFamily_isSome _ index).1 (by rw [hindex]; rfl)
  simp only [compatibleTargetAt_iff, compatibleTargetCount]
  rcases hcompatible with ⟨hf, h4⟩ | ⟨hf, h6⟩ <;> rw [hf] at hindex hlt
  · have hlt' : index < targets.ipv4Count := hlt
    refine ⟨index, ?_, Or.inl ⟨h4, hlt', hindex⟩⟩
    rw [h4]
    cases family.supportsIpv6 <;> simp only <;> omega
  · have hlt' : index < targets.ipv6Count := hlt
    refine ⟨(if family.supportsIpv4 then targets.ipv4Count else 0) + index, ?_,
      Or.inr ⟨h6, Nat.le_add_right .., ?_⟩⟩
    · cases family.supportsIpv4 <;> simpa [h6] using hlt'
    · rwa [Nat.add_sub_cancel_left]

/-! ### Combinations -/

variable (d : ProbeDefinition)

/-- The port of a combination: one of the definition's ports, or none if its family has no ports. -/
def ProbeDefinition.Offers (port : Option ProbePort) : Prop :=
  if d.family.usesPorts then ∃ p ∈ d.ports, port = some p else port = none

theorem ProbeDefinition.offers_portAt (place : Nat) : d.Offers (d.portAt place) := by
  unfold ProbeDefinition.Offers ProbeDefinition.portAt
  split
  · next h =>
    have hindex := Nat.mod_lt place d.portFactor_pos
    simp only [ProbeDefinition.portFactor, h, ↓reduceIte] at hindex ⊢
    exact ⟨_, List.getElem_mem hindex, List.getElem?_eq_getElem hindex⟩
  · rfl

/-- Places with the same port agree modulo the number of ports. -/
theorem ProbeDefinition.mod_of_portAt {place place' : Nat} (h : d.portAt place = d.portAt place') :
    place % d.portFactor = place' % d.portFactor := by
  unfold ProbeDefinition.portAt at h
  have hindex := Nat.mod_lt place d.portFactor_pos
  have hindex' := Nat.mod_lt place' d.portFactor_pos
  split at h
  · next hports =>
    simp only [ProbeDefinition.portFactor, hports, ↓reduceIte] at hindex hindex' h ⊢
    exact (List.getElem?_inj hindex d.ports_nodup).1 h
  · next hports => simp [ProbeDefinition.portFactor, hports, Nat.mod_one]

theorem ProbeDefinition.exists_portAt {port : Option ProbePort} (h : d.Offers port) :
    ∃ offset, offset < d.portFactor ∧ ∀ k, d.portAt (k * d.portFactor + offset) = port := by
  unfold ProbeDefinition.Offers at h
  split at h
  · next hports =>
    obtain ⟨p, hp, rfl⟩ := h
    obtain ⟨offset, hlt, hget⟩ := List.getElem_of_mem hp
    have hfactor : d.portFactor = d.ports.length := by simp [ProbeDefinition.portFactor, hports]
    refine ⟨offset, by omega, fun k => ?_⟩
    rw [ProbeDefinition.portAt, if_pos hports, Nat.mul_add_mod_of_lt (by omega), List.getElem?_eq_getElem hlt,
      hget]
  next hports =>
  subst h
  exact ⟨0, d.portFactor_pos, fun k => by simp [ProbeDefinition.portAt, hports]⟩

namespace ScanPlan

/-- A decoded probe is a combination of the plan. -/
theorem combination_of_logicalProbeAt (plan : ScanPlan) {logicalId : Nat} {probe : LogicalProbe}
    (h : plan.logicalProbeAt logicalId = .ok probe) :
    1 ≤ probe.attempt ∧ probe.attempt ≤ plan.attempts ∧ ∃ d ∈ plan.dimensions,
      probe.family = d.definition.family ∧ plan.targets.Member probe.target ∧
      probe.family.Compatible probe.target ∧ d.definition.Offers probe.port := by
  obtain ⟨hlt, d, place, hfound, -, hattempt, htarget, hfamily, hport⟩ := plan.logicalProbeAt_iff.1 h
  obtain ⟨hmember, hcompatible⟩ := of_compatibleTargetAt htarget
  have hattempts := (attempt_lt plan.valid hlt).2
  refine ⟨by rw [hattempt]; exact Nat.succ_pos _, by rw [hattempt]; exact hattempts, d,
    (plan.valid.consecutive.of_locate (Nat.zero_le _) hfound).1, hfamily, hmember, ?_, ?_⟩
  · rw [hfamily]
    exact hcompatible
  · rw [hport]
    exact d.definition.offers_portAt place

/-- Two numbers with the same combination are equal. -/
theorem logicalProbeAt_inj (plan : ScanPlan) {i j : Nat} {p q : LogicalProbe} (hi : plan.logicalProbeAt i = .ok p)
    (hj : plan.logicalProbeAt j = .ok q) (hattempt : p.attempt = q.attempt) (htarget : p.target = q.target)
    (hfamily : p.family = q.family) (hport : p.port = q.port) : i = j := by
  obtain ⟨-, d, place, hfound, -, ha, ht, hf, hp⟩ := plan.logicalProbeAt_iff.1 hi
  obtain ⟨-, d', place', hfound', -, ha', ht', hf', hp'⟩ := plan.logicalProbeAt_iff.1 hj
  have hblocks := plan.valid.consecutive
  have hmem := (hblocks.of_locate (Nat.zero_le _) hfound).1
  have hmem' := (hblocks.of_locate (Nat.zero_le _) hfound').1
  -- the families are distinct, so the dimension is the same
  have hd : d = d' := List.inj_on_of_nodup_map plan.valid.families hmem hmem' (by rw [← hf, ← hf', hfamily])
  subst hd
  have hquotient : place / d.definition.portFactor = place' / d.definition.portFactor :=
    compatibleTargetAt_inj (htarget ▸ ht) ht'
  have hremainder : place % d.definition.portFactor = place' % d.definition.portFactor :=
    d.definition.mod_of_portAt (by rw [← hp, ← hp', hport])
  have hplace : place = place' := by
    rw [← Nat.div_add_mod place d.definition.portFactor, ← Nat.div_add_mod place' d.definition.portFactor,
      hquotient, hremainder]
  subst hplace
  have hwithin := hblocks.locate_inj (List.Nodup.of_map _ plan.valid.families) (Nat.zero_le _)
    (Nat.zero_le _) hfound hfound'
  have hround : i / plan.probesPerAttempt = j / plan.probesPerAttempt := by omega
  rw [← Nat.div_add_mod i plan.probesPerAttempt, ← Nat.div_add_mod j plan.probesPerAttempt, hround, hwithin]

/-- Every combination of the plan has a number. -/
theorem exists_logicalProbeAt (plan : ScanPlan) {attempt : Nat} {d : PlanDimension} {target : ScanTarget}
    {port : Option ProbePort} (hpos : 1 ≤ attempt) (hattempt : attempt ≤ plan.attempts) (hd : d ∈ plan.dimensions)
    (hmember : plan.targets.Member target) (hcompatible : d.definition.family.Compatible target)
    (hport : d.definition.Offers port) :
    ∃ id, plan.logicalProbeAt id = .ok ⟨id, attempt, target, d.definition.family, port⟩ := by
  obtain ⟨index, hindex, htarget⟩ := exists_compatibleTargetAt hmember hcompatible
  obtain ⟨offset, hoffset, hportAt⟩ := d.definition.exists_portAt hport
  have hfactor := d.definition.portFactor_pos
  have hplace : index * d.definition.portFactor + offset < d.size := by
    rw [PlanDimension.size, plan.valid.compatible d hd]
    calc index * d.definition.portFactor + offset < (index + 1) * d.definition.portFactor := by
          rw [Nat.succ_mul]; omega
      _ ≤ compatibleTargetCount plan.targets d.definition.family * d.definition.portFactor :=
          Nat.mul_le_mul_right _ hindex
  obtain ⟨within, -, hwithin, hfound⟩ := plan.valid.consecutive.exists_locate hd hplace
  have hppa : 0 < plan.probesPerAttempt := by omega
  refine ⟨(attempt - 1) * plan.probesPerAttempt + within, plan.logicalProbeAt_iff.2 ⟨?_, d, _, ?_,
    rfl, ?_, ?_, rfl, (hportAt index).symm⟩⟩
  · rw [plan.valid.count, Nat.mul_comm plan.probesPerAttempt]
    calc (attempt - 1) * plan.probesPerAttempt + within < (attempt - 1 + 1) * plan.probesPerAttempt := by
          rw [Nat.succ_mul]; omega
      _ ≤ plan.attempts * plan.probesPerAttempt := Nat.mul_le_mul_right _ (by omega)
  · rw [Nat.mul_add_mod_of_lt hwithin]
    exact hfound
  · rw [Nat.mul_comm, Nat.mul_add_div hppa, Nat.div_eq_of_lt hwithin]
    simp only
    omega
  · rw [Nat.mul_comm index, Nat.mul_add_div hfactor, Nat.div_eq_of_lt hoffset, Nat.add_zero]
    exact htarget

end ScanPlan

/-! ### Machine arithmetic

The same functions with the widths of the source: `none` stands for an overflow of an unchecked operation. -/

/-- The product and the sum are formed in 128 bits. -/
def SeededPermutation.permuteChecked (p : SeededPermutation) (ordinal : Nat) : Option (Option Nat) :=
  if ordinal ≥ p.length then some none
  else if p.length = 1 then some (some 0)
  else
    (checkedMul u128Max p.multiplier ordinal).bind fun product =>
      (checkedAdd u128Max product p.offset).map fun value => some (value % p.length)

def compatibleTargetAtChecked (targets : TargetSet) (family : ProbeFamily) (index : Nat) :
    Option (Option ScanTarget) :=
  if family.supportsIpv4 then
    if index < targets.ipv4Count then some (targets.targetAtFamily 4 index)
    else if family.supportsIpv6 then
      (checkedSub index targets.ipv4Count).map fun rest => targets.targetAtFamily 6 rest
    else some none
  else if family.supportsIpv6 then some (targets.targetAtFamily 6 index)
  else some none

def RawPlan.logicalProbeAtChecked (plan : RawPlan) (logicalId : Nat) : Option (Except PlanError LogicalProbe) :=
  if logicalId ≥ plan.logicalProbeCount then some (.error .logicalProbeIndexOutOfRange)
  else
    let attemptIndex := logicalId / plan.probesPerAttempt
    let withinAttempt := logicalId % plan.probesPerAttempt
    let dimensionIndex := partitionPoint (fun d : PlanDimension => decide (d.dimensionEnd ≤ withinAttempt))
      plan.dimensions
    match plan.dimensions[dimensionIndex]? with
    | none => some (.error .logicalProbeIndexOutOfRange)
    | some dimension =>
      let previousEnd := if dimensionIndex = 0 then 0 else
        (plan.dimensions[dimensionIndex - 1]?.map PlanDimension.dimensionEnd).getD 0
      (checkedSub withinAttempt previousEnd).bind fun index =>
        let portFactor := dimension.definition.portFactor
        let port :=
          if dimension.definition.family.usesPorts then dimension.definition.ports[index % portFactor]? else none
        (compatibleTargetAtChecked plan.targets dimension.definition.family (index / portFactor)).bind
          fun target =>
          match target with
          | none => some (.error .logicalProbeIndexOutOfRange)
          | some target =>
            (checkedAdd u64Max attemptIndex 1).map fun attempt =>
              if attempt ≤ u32Max then .ok ⟨logicalId, attempt, target, dimension.definition.family, port⟩
              else .error .logicalProbeIndexOutOfRange

/-- A factor and an ordinal of 64 bits and an offset below the length fit 128 bits. -/
theorem SeededPermutation.permuteChecked_eq {p : SeededPermutation} (hlength : p.length ≤ u64Max)
    (hmultiplier : p.multiplier < p.length) (hoffset : p.offset < p.length) (ordinal : Nat) :
    p.permuteChecked ordinal = some (p.permute ordinal) := by
  unfold permuteChecked permute
  split
  · rfl
  next hlt =>
  split
  · rfl
  have hproduct : p.multiplier * ordinal ≤ (u64Max - 1) * u64Max :=
    Nat.mul_le_mul (by omega) (by omega)
  have hbound : (u64Max - 1) * u64Max + u64Max ≤ u128Max := by decide
  simp [checkedMul, checkedAdd, if_pos (show p.multiplier * ordinal ≤ u128Max by omega),
    if_pos (show p.multiplier * ordinal + p.offset ≤ u128Max by omega)]

theorem compatibleTargetAtChecked_eq (targets : TargetSet) (family : ProbeFamily) (index : Nat) :
    compatibleTargetAtChecked targets family index = some (compatibleTargetAt targets family index) := by
  unfold compatibleTargetAtChecked compatibleTargetAt
  split
  · split
    · rfl
    next hge =>
    split
    · simp [checkedSub, if_pos (not_lt.1 hge)]
    · rfl
  · split <;> rfl

theorem ScanPlan.logicalProbeAtChecked_eq (plan : ScanPlan) (logicalId : Nat) :
    plan.logicalProbeAtChecked logicalId = some (plan.logicalProbeAt logicalId) := by
  by_cases hge : logicalId ≥ plan.logicalProbeCount
  · simp [RawPlan.logicalProbeAtChecked, RawPlan.logicalProbeAt, hge]
  have hattempt : logicalId / plan.probesPerAttempt + 1 ≤ u64Max := by
    have h := (attempt_lt plan.valid (not_le.1 hge)).2
    exact le_trans (le_trans h plan.valid.attempts_le) (by decide)
  have hprevious := previous_le PlanDimension.dimensionEnd plan.dimensions (logicalId % plan.probesPerAttempt)
  simp only [RawPlan.logicalProbeAtChecked, RawPlan.logicalProbeAt, hge, ↓reduceIte]
  generalize partitionPoint (fun d : PlanDimension => decide (d.dimensionEnd ≤ logicalId % plan.probesPerAttempt))
    plan.dimensions = position at *
  cases plan.dimensions[position]? with
  | none => rfl
  | some d =>
    simp only [checkedSub, hprevious, ↓reduceIte, Option.bind_some, compatibleTargetAtChecked_eq]
    cases compatibleTargetAt plan.targets d.definition.family _ with
    | none => rfl
    | some target =>
      simp [checkedAdd, hattempt]

/-! ### Every combination once -/

theorem new_plan_spec {definitions : List ProbeDefinition} {attempts : UInt32} {plan : ScanPlan}
    (h : ScanPlan.new targets definitions attempts = .ok plan) :
    plan.targets = targets ∧ plan.dimensions.map PlanDimension.definition = definitions ∧
      plan.attempts = attempts.toNat := by
  unfold ScanPlan.new at h
  split at h
  · cases h
  next hbuild =>
  cases h
  exact (build_plan_spec hbuild).2

/-- The ordinals of a plan decode, without an overflow, to the combinations of its attempts, definitions,
compatible targets and ports, and each combination is met by exactly one ordinal. -/
theorem enumeration_exact (targets : TargetSet) (definitions : List ProbeDefinition) (attempts : UInt32)
    (plan : ScanPlan) (seed : SchedulingSeed) (permutation : SeededPermutation)
    (hplan : ScanPlan.new targets definitions attempts = .ok plan)
    (hpermutation : SeededPermutation.new plan.logicalProbeCount seed = .ok permutation) :
    (∀ ordinal < plan.logicalProbeCount, ∃ id probe, permutation.permute ordinal = some id ∧
      plan.logicalProbeAt id = .ok probe ∧ permutation.permuteChecked ordinal = some (some id) ∧
      plan.logicalProbeAtChecked id = some (.ok probe) ∧ 1 ≤ probe.attempt ∧ probe.attempt ≤ attempts.toNat ∧
      ∃ definition ∈ definitions, probe.family = definition.family ∧ targets.Member probe.target ∧
        definition.family.Compatible probe.target ∧ definition.Offers probe.port) ∧
    ∀ attempt target port, ∀ definition ∈ definitions, 1 ≤ attempt → attempt ≤ attempts.toNat →
      targets.Member target → definition.family.Compatible target → definition.Offers port →
      ∃! ordinal, ordinal < plan.logicalProbeCount ∧ ∃ id probe, permutation.permute ordinal = some id ∧
        plan.logicalProbeAt id = .ok probe ∧ probe.attempt = attempt ∧ probe.family = definition.family ∧
        probe.target = target ∧ probe.port = port := by
  obtain ⟨htargets, hdefinitions, hattempts⟩ := new_plan_spec hplan
  obtain ⟨hlength, hmultiplier, hoffset⟩ := SeededPermutation.new_bounds hpermutation
  subst htargets
  refine ⟨fun ordinal hordinal => ?_, ?_⟩
  · obtain ⟨id, hid, hlt⟩ := permutation.permute_total (hlength ▸ hordinal)
    obtain ⟨probe, hprobe, -, -⟩ := plan.logicalProbeAt_total (hlength ▸ hlt)
    obtain ⟨hpos, hle, d, hd, hfamily, hmember, hcompatible, hport⟩ := plan.combination_of_logicalProbeAt hprobe
    refine ⟨id, probe, hid, hprobe, ?_, ?_, hpos, hattempts ▸ hle, d.definition,
      hdefinitions ▸ List.mem_map_of_mem hd, hfamily, hmember, hfamily ▸ hcompatible, hport⟩
    · rw [SeededPermutation.permuteChecked_eq (hlength ▸ plan.valid.count_le) (hlength ▸ hmultiplier)
        (hlength ▸ hoffset), hid]
    · rw [plan.logicalProbeAtChecked_eq, hprobe]
  intro attempt target port definition hdefinition hpos hle hmember hcompatible hport
  obtain ⟨d, hd, rfl⟩ := List.mem_map.1 (hdefinitions ▸ hdefinition)
  obtain ⟨id, hid⟩ := plan.exists_logicalProbeAt hpos (hattempts ▸ hle) hd hmember hcompatible hport
  -- the permutation reaches the number of the combination
  have hlt := (plan.logicalProbeAt_iff.1 hid).1
  obtain ⟨ordinal, -, hordinal⟩ := SeededPermutation.mem_unissued.1
    (permutation.unissued_zero_perm.mem_iff.2 (List.mem_range.2 (hlength ▸ hlt)))
  refine ⟨ordinal, ⟨hlength ▸ (SeededPermutation.permute_lt hordinal).1, id, _, hordinal, hid, rfl,
    rfl, rfl, rfl⟩, ?_⟩
  rintro ordinal' ⟨-, id', probe, hordinal', hid', rfl, hfamily, rfl, rfl⟩
  have hsame : id' = id := plan.logicalProbeAt_inj hid' hid rfl rfl hfamily rfl
  subst hsame
  exact SeededPermutation.permute_inj hordinal' hordinal

/-- Two attempts at two ports of four addresses. -/
theorem enumeration_exact_twoPorts : ∃ targets definition plan permutation,
    TargetSet.normalize [.cidr ⟨⟨.v4 0x0a000000#32, none⟩, 30⟩] [] = .ok targets ∧
    ProbeDefinition.new .tcpSyn [⟨80, by decide⟩, ⟨22, by decide⟩] = .ok definition ∧
    ScanPlan.new targets [definition] 2 = .ok plan ∧
    SeededPermutation.new plan.logicalProbeCount (.explicit 7) = .ok permutation ∧ plan.logicalProbeCount = 16 ∧
    ∀ ordinal < 16, ∃ id probe, permutation.permuteChecked ordinal = some (some id) ∧
      plan.logicalProbeAtChecked id = some (.ok probe) := by
  obtain ⟨targets, definition, plan, permutation, htargets, hdefinition, hplan, hpermutation, hcount⟩ :
      ∃ targets definition plan permutation,
        TargetSet.normalize [.cidr ⟨⟨.v4 0x0a000000#32, none⟩, 30⟩] [] = .ok targets ∧
        ProbeDefinition.new .tcpSyn [⟨80, by decide⟩, ⟨22, by decide⟩] = .ok definition ∧
        ScanPlan.new targets [definition] 2 = .ok plan ∧
        SeededPermutation.new plan.logicalProbeCount (.explicit 7) = .ok permutation ∧
        plan.logicalProbeCount = 16 := ⟨_, _, _, _, rfl, rfl, rfl, rfl, rfl⟩
  refine ⟨targets, definition, plan, permutation, htargets, hdefinition, hplan, hpermutation, hcount, ?_⟩
  intro ordinal hordinal
  obtain ⟨id, probe, -, -, hid, hprobe, -⟩ :=
    (enumeration_exact targets [definition] 2 plan (.explicit 7) permutation hplan hpermutation).1 ordinal
      (hcount ▸ hordinal)
  exact ⟨id, probe, hid, hprobe⟩

end NodeNet.Engine
