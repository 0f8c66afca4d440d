import NodeNet.Engine.Target
import NodeNet.Engine.UdpProgramme

/-!
# Scan plans

A plan is the product of attempts, probe definitions, compatible targets and ports, numbered without being
materialised.  A `ScanPlan` carries what its numbering relies on (`RawPlan.Valid`), so every logical id below the
count decodes to a probe (`ScanPlan.logicalProbeAt_total`).
-/

namespace NodeNet.Engine

open List

/-- One probe family and its destination ports.  Ports belong to the families that use them and occur once, and a
UDP programme belongs to UDP only. -/
structure ProbeDefinition where
  family : ProbeFamily
  ports : List ProbePort
  udpProgramme : Option UdpProbeProgramme
  ports_iff : family.usesPorts = true ↔ ports ≠ []
  ports_nodup : ports.Nodup
  programme_udp : udpProgramme.isSome = true → family = .udp
deriving DecidableEq

private theorem insertionSort_ne_nil {ports : List ProbePort} :
    ports.insertionSort (fun a b => a.get ≤ b.get) ≠ [] ↔ ports ≠ [] := by
  rw [← length_pos_iff, ← length_pos_iff, length_insertionSort]

private theorem nodup_of_sorted {ports : List ProbePort} (h : ports.Pairwise fun a b => a.get ≤ b.get)
    (hne : (ports.zip ports.tail).any (fun pair => pair.1 == pair.2) = false) : ports.Nodup := by
  induction ports with
  | nil => exact nodup_nil
  | cons a ports ih =>
    obtain ⟨hfirst, hrest⟩ := pairwise_cons.1 h
    cases ports with
    | nil => exact nodup_singleton a
    | cons b ports =>
      simp only [tail_cons, zip_cons_cons, any_cons, Bool.or_eq_false_iff, beq_eq_false_iff_ne] at hne
      refine nodup_cons.2 ⟨fun hmem => ?_, ih hrest hne.2⟩
      -- a later copy of the first port would lie between it and its neighbour
      have hab := hfirst b (mem_cons_self ..)
      rcases mem_cons.1 hmem with heq | hmem
      · exact hne.1 heq
      · have hba := (pairwise_cons.1 hrest).1 a hmem
        exact hne.1 (ProbePort.get_inj (le_antisymm hab hba))

def ProbeDefinition.new (family : ProbeFamily) (ports : List ProbePort) : Except PlanError ProbeDefinition :=
  if ports.length > maxPortsPerProbeFamily then .error .tooManyPorts
  else if h₁ : family.usesPorts = true ∧ ports = [] then .error .portsRequired
  else if h₂ : family.usesPorts = false ∧ ports ≠ [] then .error .portsNotAllowed
  else
    let sorted := ports.insertionSort fun a b => a.get ≤ b.get
    if h₃ : (sorted.zip sorted.tail).any (fun pair => pair.1 == pair.2) then .error .duplicatePort
    else .ok {
      family := family
      ports := sorted
      udpProgramme := if family = .udp then some UdpProbeProgramme.single else none
      ports_iff := by rw [insertionSort_ne_nil]; cases hf : family.usesPorts <;> simp_all
      ports_nodup := nodup_of_sorted (pairwise_insertionSort _ ports) (Bool.not_eq_true _ ▸ h₃)
      programme_udp := by intro h; by_contra hne; simp [hne] at h }

def ProbeDefinition.udp (ports : List ProbePort) (programme : UdpProbeProgramme) :
    Except PlanError ProbeDefinition :=
  match h : ProbeDefinition.new .udp ports with
  | .error e => .error e
  | .ok value => .ok { value with
      udpProgramme := some programme
      programme_udp := by
        intro _
        simp only [ProbeDefinition.new] at h
        repeat' split at h
        all_goals first | cases h; done | (cases h; rfl) }

def ProbeDefinition.portFactor (d : ProbeDefinition) : Nat := if d.family.usesPorts then d.ports.length else 1

theorem ProbeDefinition.portFactor_pos (d : ProbeDefinition) : 0 < d.portFactor := by
  unfold portFactor
  split
  · next h => exact length_pos_iff.2 (d.ports_iff.1 h)
  · exact Nat.one_pos

structure PlanDimension where
  definition : ProbeDefinition
  compatibleTargets : Nat
  dimensionEnd : Nat

def compatibleTargetCount (targets : TargetSet) (family : ProbeFamily) : Nat :=
  match family.supportsIpv4, family.supportsIpv6 with
  | true, true => targets.ipv4Count + targets.ipv6Count
  | true, false => targets.ipv4Count
  | false, true => targets.ipv6Count
  | false, false => 0

def compatibleTargetAt (targets : TargetSet) (family : ProbeFamily) (index : Nat) : Option ScanTarget :=
  if family.supportsIpv4 then
    if index < targets.ipv4Count then targets.targetAtFamily 4 index
    else if family.supportsIpv6 then targets.targetAtFamily 6 (index - targets.ipv4Count)
    else none
  else if family.supportsIpv6 then targets.targetAtFamily 6 index
  else none

variable {targets : TargetSet}

theorem compatibleTargetAt_total {family : ProbeFamily} {index : Nat}
    (h : index < compatibleTargetCount targets family) :
    ∃ target, compatibleTargetAt targets family index = some target := by
  unfold compatibleTargetCount at h
  unfold compatibleTargetAt
  cases h4 : family.supportsIpv4 <;> cases h6 : family.supportsIpv6 <;> simp only [h4, h6] at h
  · omega
  · simpa using targets.targetAtFamily_total 6 h
  · simpa [h] using targets.targetAtFamily_total 4 h
  by_cases hlt : index < targets.ipv4Count
  · simpa [hlt] using targets.targetAtFamily_total 4 hlt
  · have hrest : index - targets.ipv4Count < targets.ipv6Count := by omega
    simpa [hlt] using targets.targetAtFamily_total 6 hrest

structure RawPlan where
  targets : TargetSet
  dimensions : List PlanDimension
  attempts : Nat
  probesPerAttempt : Nat
  logicalProbeCount : Nat

/-- Adds the definitions one after the other, `probes` being the count of the dimensions before them. -/
def buildDimensions (targets : TargetSet) : List ProbeFamily → Nat → List ProbeDefinition →
    Except PlanError (List PlanDimension × Nat)
  | _, probes, [] => .ok ([], probes)
  | seen, probes, definition :: rest =>
    if definition.family ∈ seen then .error .duplicateProbeFamily
    else if compatibleTargetCount targets definition.family = 0 then .error .noCompatibleTargets
    else
      match checkedMul u64Max (compatibleTargetCount targets definition.family) definition.portFactor with
      | none => .error .logicalProbeCountOverflow
      | some count =>
        match checkedAdd u64Max probes count with
        | none => .error .logicalProbeCountOverflow
        | some total =>
          match buildDimensions targets (definition.family :: seen) total rest with
          | .error e => .error e
          | .ok (dimensions, probes) =>
            .ok (⟨definition, compatibleTargetCount targets definition.family, total⟩ :: dimensions, probes)

def RawPlan.build (targets : TargetSet) (definitions : List ProbeDefinition) (attempts : UInt32) :
    Except PlanError RawPlan :=
  if definitions.isEmpty then .error .noProbes
  else if definitions.length > maxProbeDefinitions then .error .tooManyProbeDefinitions
  else if attempts = 0 then .error .invalidAttempts
  else
    match buildDimensions targets [] 0 definitions with
    | .error e => .error e
    | .ok (dimensions, probesPerAttempt) =>
      match checkedMul u64Max probesPerAttempt attempts.toNat with
      | none => .error .logicalProbeCountOverflow
      | some count => .ok ⟨targets, dimensions, attempts.toNat, probesPerAttempt, count⟩

def RawPlan.logicalProbeAt (plan : RawPlan) (logicalId : Nat) : Except PlanError LogicalProbe :=
  if logicalId ≥ plan.logicalProbeCount then .error .logicalProbeIndexOutOfRange
  else
    let attemptIndex := logicalId / plan.probesPerAttempt
    let withinAttempt := logicalId % plan.probesPerAttempt
    let dimensionIndex := partitionPoint (fun d : PlanDimension => decide (d.dimensionEnd ≤ withinAttempt))
      plan.dimensions
    match plan.dimensions[dimensionIndex]? with
    | none => .error .logicalProbeIndexOutOfRange
    | some dimension =>
      let previousEnd := if dimensionIndex = 0 then 0 else
        (plan.dimensions[dimensionIndex - 1]?.map PlanDimension.dimensionEnd).getD 0
      let index := withinAttempt - previousEnd
      let portFactor := dimension.definition.portFactor
      let port := if dimension.definition.family.usesPorts then
        dimension.definition.ports[index % portFactor]? else none
      match compatibleTargetAt plan.targets dimension.definition.family (index / portFactor) with
      | none => .error .logicalProbeIndexOutOfRange
      | some target =>
        if attemptIndex + 1 ≤ u32Max then
          .ok ⟨logicalId, attemptIndex + 1, target, dimension.definition.family, port⟩
        else .error .logicalProbeIndexOutOfRange

def RawPlan.udpProgrammeFor (plan : RawPlan) (probe : LogicalProbe) : Option UdpProbeProgramme :=
  (plan.dimensions.find? fun d => decide (d.definition.family = probe.family)).bind fun d =>
    d.definition.udpProgramme

/-! ### Valid plans -/

def PlanDimension.size (d : PlanDimension) : Nat := d.compatibleTargets * d.definition.portFactor

structure RawPlan.Valid (plan : RawPlan) : Prop where
  consecutive : Consecutive PlanDimension.size PlanDimension.dimensionEnd 0 plan.dimensions plan.probesPerAttempt
  compatible : ∀ d ∈ plan.dimensions, d.compatibleTargets = compatibleTargetCount plan.targets d.definition.family
  families : (plan.dimensions.map fun d => d.definition.family).Nodup
  count : plan.logicalProbeCount = plan.probesPerAttempt * plan.attempts
  count_le : plan.logicalProbeCount ≤ u64Max
  attempts_le : plan.attempts ≤ u32Max

variable {definitions : List ProbeDefinition}

private theorem buildDimensions_spec {seen : List ProbeFamily} {n total : Nat} {dimensions : List PlanDimension}
    (h : buildDimensions targets seen n definitions = .ok (dimensions, total)) :
    dimensions.map PlanDimension.definition = definitions ∧
      Consecutive PlanDimension.size PlanDimension.dimensionEnd n dimensions total ∧
      (∀ d ∈ dimensions, d.compatibleTargets = compatibleTargetCount targets d.definition.family) ∧
      (dimensions.map fun d => d.definition.family).Nodup ∧ ∀ d ∈ dimensions, d.definition.family ∉ seen := by
  induction definitions generalizing seen n dimensions with
  | nil =>
    cases h
    exact ⟨rfl, rfl, by simp, nodup_nil, by simp⟩
  | cons definition rest ih =>
    simp only [buildDimensions] at h
    split at h
    · cases h
    next hseen =>
    split at h
    · cases h
    split at h
    · cases h
    next count hcount =>
    split at h
    · cases h
    next sum hsum =>
    split at h
    · cases h
    next dims probes hrest =>
    simp only [checkedMul, checkedAdd, Option.ite_none_right_eq_some, Option.some.injEq] at hcount hsum
    cases h
    obtain ⟨hdefs, hblocks, hcompatible, hnodup, hfresh⟩ := ih hrest
    refine ⟨by simp [hdefs], ⟨?_, hblocks⟩, ?_, ?_, ?_⟩
    · simp only [PlanDimension.size]
      omega
    · intro d hd
      rcases mem_cons.1 hd with rfl | hd
      · rfl
      · exact hcompatible d hd
    · refine nodup_cons.2 ⟨fun hmem => ?_, hnodup⟩
      obtain ⟨d, hd, hfamily⟩ := mem_map.1 hmem
      exact hfresh d hd (hfamily ▸ mem_cons_self ..)
    intro d hd
    rcases mem_cons.1 hd with rfl | hd
    · exact hseen
    · exact fun hmem => hfresh d hd (mem_cons_of_mem _ hmem)

variable {plan : RawPlan}

/-- What a built plan consists of. -/
theorem build_plan_spec {attempts : UInt32} (h : RawPlan.build targets definitions attempts = .ok plan) :
    plan.Valid ∧ plan.targets = targets ∧ plan.dimensions.map PlanDimension.definition = definitions ∧
      plan.attempts = attempts.toNat := by
  simp only [RawPlan.build] at h
  iterate 4
    split at h
    · cases h
  next dimensions probes hdims =>
  split at h
  · cases h
  next count hcount =>
  simp only [checkedMul, Option.ite_none_right_eq_some, Option.some.injEq] at hcount
  cases h
  obtain ⟨hdefs, hblocks, hcompatible, hnodup, -⟩ := buildDimensions_spec hdims
  exact ⟨⟨hblocks, hcompatible, hnodup, hcount.2.symm, hcount.2 ▸ hcount.1,
    Nat.le_sub_one_of_lt attempts.toNat_lt⟩, rfl, hdefs, rfl⟩

theorem RawPlan.build_valid {attempts : UInt32} (h : RawPlan.build targets definitions attempts = .ok plan) :
    plan.Valid :=
  (build_plan_spec h).1

/-- A checked product of attempts, definitions, targets and ports. -/
structure ScanPlan extends RawPlan where
  valid : toRawPlan.Valid

def ScanPlan.new (targets : TargetSet) (definitions : List ProbeDefinition) (attempts : UInt32) :
    Except PlanError ScanPlan :=
  match h : RawPlan.build targets definitions attempts with
  | .error e => .error e
  | .ok plan => .ok ⟨plan, RawPlan.build_valid h⟩

/-! ### Decoding -/

def ProbeDefinition.portAt (d : ProbeDefinition) (place : Nat) : Option ProbePort :=
  if d.family.usesPorts then d.ports[place % d.portFactor]? else none

variable {logicalId : Nat}

private theorem logicalProbeAt_eq (plan : RawPlan) (h : logicalId < plan.logicalProbeCount) :
    plan.logicalProbeAt logicalId =
      match locate PlanDimension.dimensionEnd plan.dimensions 0 (logicalId % plan.probesPerAttempt) with
      | none => .error .logicalProbeIndexOutOfRange
      | some (d, place) =>
        match compatibleTargetAt plan.targets d.definition.family (place / d.definition.portFactor) with
        | none => .error .logicalProbeIndexOutOfRange
        | some target =>
          if logicalId / plan.probesPerAttempt + 1 ≤ u32Max then
            .ok ⟨logicalId, logicalId / plan.probesPerAttempt + 1, target, d.definition.family,
              d.definition.portAt place⟩
          else .error .logicalProbeIndexOutOfRange := by
  simp only [RawPlan.logicalProbeAt, ge_iff_le, not_le.2 h, ↓reduceIte, locate]
  cases plan.dimensions[partitionPoint (fun d : PlanDimension =>
      decide (d.dimensionEnd ≤ logicalId % plan.probesPerAttempt)) plan.dimensions]? with
  | none => rfl
  | some d => rfl

theorem attempt_lt (h : plan.Valid) (hlt : logicalId < plan.logicalProbeCount) :
    0 < plan.probesPerAttempt ∧ logicalId / plan.probesPerAttempt < plan.attempts := by
  have hcount := h.count
  have hpos : 0 < plan.probesPerAttempt := by
    rcases Nat.eq_zero_or_pos plan.probesPerAttempt with hz | hz
    · rw [hcount, hz, Nat.zero_mul] at hlt; omega
    · exact hz
  refine ⟨hpos, ?_⟩
  rw [Nat.div_lt_iff_lt_mul hpos, Nat.mul_comm]
  omega

variable {probe : LogicalProbe}

/-- The numbers of a valid plan decode to the combinations of an attempt, a dimension and a place in it. -/
theorem ScanPlan.logicalProbeAt_iff (plan : ScanPlan) :
    plan.logicalProbeAt logicalId = .ok probe ↔ logicalId < plan.logicalProbeCount ∧ ∃ d place,
      locate PlanDimension.dimensionEnd plan.dimensions 0 (logicalId % plan.probesPerAttempt) = some (d, place) ∧
      probe.logicalId = logicalId ∧ probe.attempt = logicalId / plan.probesPerAttempt + 1 ∧
      compatibleTargetAt plan.targets d.definition.family (place / d.definition.portFactor) = some probe.target ∧
      probe.family = d.definition.family ∧ probe.port = d.definition.portAt place := by
  by_cases hlt : logicalId < plan.logicalProbeCount
  · have hattempt : logicalId / plan.probesPerAttempt + 1 ≤ u32Max :=
      le_trans (attempt_lt plan.valid hlt).2 plan.valid.attempts_le
    obtain ⟨id, attempt, target, family, port⟩ := probe
    simp only [logicalProbeAt_eq plan.toRawPlan hlt, hlt, true_and]
    cases locate PlanDimension.dimensionEnd plan.dimensions 0 (logicalId % plan.probesPerAttempt) with
    | none => simp
    | some found =>
      obtain ⟨d, place⟩ := found
      cases htarget : compatibleTargetAt plan.targets d.definition.family (place / d.definition.portFactor) with
      | none => simp [htarget]
      | some target' =>
        simp only [htarget, hattempt, ↓reduceIte, Except.ok.injEq, LogicalProbe.mk.injEq, Option.some.injEq,
          Prod.mk.injEq]
        constructor
        · rintro ⟨rfl, rfl, rfl, rfl, rfl⟩
          exact ⟨d, place, ⟨rfl, rfl⟩, rfl, rfl, htarget, rfl, rfl⟩
        rintro ⟨d', place', ⟨rfl, rfl⟩, rfl, rfl, htarget', rfl, rfl⟩
        rw [htarget, Option.some.injEq] at htarget'
        exact ⟨rfl, rfl, htarget', rfl, rfl⟩
  constructor
  · intro h
    simp [RawPlan.logicalProbeAt, not_lt.1 hlt] at h
  · exact fun h => absurd h.1 hlt

private theorem of_locate_dimension (h : plan.Valid) {within place : Nat} {d : PlanDimension}
    (hfound : locate PlanDimension.dimensionEnd plan.dimensions 0 within = some (d, place)) : d ∈ plan.dimensions ∧
      place / d.definition.portFactor < compatibleTargetCount plan.targets d.definition.family := by
  obtain ⟨hmem, hplace, -⟩ := h.consecutive.of_locate (Nat.zero_le _) hfound
  refine ⟨hmem, ?_⟩
  rw [← h.compatible d hmem]
  exact (Nat.div_lt_iff_lt_mul d.definition.portFactor_pos).2 hplace

/-- Every number below the count decodes to a probe with that number, and the probe has a port if its family uses
ports. -/
theorem ScanPlan.logicalProbeAt_total (plan : ScanPlan) (h : logicalId < plan.logicalProbeCount) :
    ∃ probe, plan.logicalProbeAt logicalId = .ok probe ∧ probe.logicalId = logicalId ∧
      (probe.family.usesPorts = true → probe.port.isSome = true) := by
  have hwithin := Nat.mod_lt logicalId (attempt_lt plan.valid h).1
  obtain ⟨⟨d, place⟩, hfound⟩ := Option.isSome_iff_exists.1
    ((plan.valid.consecutive.locate_isSome (Nat.zero_le _)).2 hwithin)
  obtain ⟨target, htarget⟩ := compatibleTargetAt_total (of_locate_dimension plan.valid hfound).2
  refine ⟨⟨logicalId, logicalId / plan.probesPerAttempt + 1, target, d.definition.family,
    d.definition.portAt place⟩,
    plan.logicalProbeAt_iff.2 ⟨h, d, place, hfound, rfl, rfl, htarget, rfl, rfl⟩, rfl, fun hports => ?_⟩
  have hports' : d.definition.family.usesPorts = true := hports
  have hindex := Nat.mod_lt place d.definition.portFactor_pos
  simp only [ProbeDefinition.portAt, hports', ↓reduceIte]
  simpa [ProbeDefinition.portFactor, hports'] using hindex

theorem ScanPlan.logicalProbeAt_ok (plan : ScanPlan) (h : plan.logicalProbeAt logicalId = .ok probe) :
    logicalId < plan.logicalProbeCount ∧ probe.logicalId = logicalId ∧
      (probe.family.usesPorts = true → probe.port.isSome = true) := by
  have hlt : logicalId < plan.logicalProbeCount := by
    by_contra hge
    simp [RawPlan.logicalProbeAt, not_lt.1 hge] at h
  obtain ⟨probe', hprobe, hid, hport⟩ := plan.logicalProbeAt_total hlt
  rw [hprobe] at h
  cases h
  exact ⟨hlt, hid, hport⟩

theorem RawPlan.udpProgrammeFor_udp {programme : UdpProbeProgramme}
    (h : plan.udpProgrammeFor probe = some programme) : probe.family = .udp := by
  obtain ⟨d, hd, hprogramme⟩ := Option.bind_eq_some_iff.1 h
  have hfamily := find?_some hd
  rw [decide_eq_true_iff] at hfamily
  rw [← hfamily]
  exact d.definition.programme_udp (by rw [hprogramme]; rfl)

end NodeNet.Engine
