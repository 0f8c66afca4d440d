import NodeNet.Engine.Session

/-!
# Programmes

The methods that move a logical UDP programme and its physical requests: scheduling and emitting variants,
timeouts, evidence, settlement and abort.
-/

namespace NodeNet.Engine

/-! ### Counters -/

/-- The value of a counter; a missing key counts zero. -/
def tally {κ : Type} [LinearOrder κ] (counts : OrdMap κ Nat) (key : κ) : Nat := (counts.get? key).getD 0

def increment {κ : Type} [LinearOrder κ] (counts : OrdMap κ Nat) (key : κ) : OrdMap κ Nat :=
  counts.insert key (tally counts key + 1)

/-- A counter that reaches zero is removed; a missing or zero counter cannot be decremented. -/
def decrement {κ : Type} [LinearOrder κ] (counts : OrdMap κ Nat) (key : κ) : Option (OrdMap κ Nat) :=
  match counts.get? key with
  | none => none
  | some 0 => none
  | some (n + 1) => some (if n = 0 then counts.erase key else counts.insert key n)

/-! ### Classification of evidence -/

def serviceRank (service : Option UdpServiceEvidence) : Nat := (service.map fun s => s.confidence.rank).getD 0

def variantOrder (variant : UdpProbeVariant) : Nat × Nat :=
  ((variant.catalogueProbeId.map fun id => id.value.toNat).getD u16Max, variant.requestIndex)

/-- Lexicographic comparison of variant orders. -/
def variantPrecedes (a b : UdpProbeVariant) : Bool :=
  decide ((variantOrder a).1 < (variantOrder b).1) ||
    decide ((variantOrder a).1 = (variantOrder b).1) && decide ((variantOrder a).2 < (variantOrder b).2)

def isUdpObservation : EvidenceKind → Bool
  | .udpReply | .icmpPortUnreachable | .icmpOtherError | .explicitUnreachable => true
  | _ => false

def classifyUdpIcmp (detail : Option IcmpEvidence) (legacyKind : EvidenceKind) :
    Option (Nat × NetworkState × UdpResponseKind) :=
  match detail with
  | none =>
    match legacyKind with
    | .icmpPortUnreachable => some (3, .closed, .icmpv4TargetPortUnreachable)
    | .icmpOtherError | .explicitUnreachable => some (2, .filtered, .otherIcmpv4)
    | _ => none
  | some detail =>
    match detail.family, detail.messageType, detail.code with
    | 4, 3, 3 =>
      if detail.emitterIsTarget then some (3, .closed, .icmpv4TargetPortUnreachable)
      else some (2, .filtered, .otherIcmpv4)
    | 6, 1, 4 =>
      if detail.emitterIsTarget then some (3, .closed, .icmpv6TargetPortUnreachable)
      else some (2, .filtered, .otherIcmpv6)
    | 4, 3, 0 | 4, 3, 1 | 4, 3, 2 | 4, 3, 9 | 4, 3, 10 | 4, 3, 13 | 4, 11, 0 | 4, 11, 1 =>
      some (2, .filtered, .otherIcmpv4)
    | 6, 1, 0 | 6, 1, 1 | 6, 1, 2 | 6, 1, 3 | 6, 1, 5 | 6, 1, 6 => some (2, .filtered, .otherIcmpv6)
    | 6, 4, 1 => some (2, .filtered, .icmpv6ParameterProblem)
    | 6, 4, 0 => some (4, .open, .icmpv6ParameterProblem)
    | _, _, _ => none

def classifyUdpEvidence (variant : UdpProbeVariant) (event : EvidenceEvent) (sentAt : Option Nat) (now : Nat) :
    Option ProgrammeBest :=
  let verdict :=
    match event.kind with
    | .udpReply => some (4, NetworkState.open, UdpResponseKind.directUdp)
    | .icmpPortUnreachable | .icmpOtherError | .explicitUnreachable => classifyUdpIcmp event.icmp event.kind
    | _ => none
  verdict.map fun (rank, state, responseKind) => {
    rank := rank
    state := state
    strength := some event.strength
    reason := .evidence event.kind
    responseKind := responseKind
    variant := variant
    rtt := sentAt.bind fun sent => MonotonicTime.elapsedSince now sent
    service := event.udpService }

def validNeighborEvidence (setup : ProbeFamily) (kind : EvidenceKind) : Bool :=
  kind == .neighborResolved || setup == .arp && kind == .arpReply || setup == .ndp &&
    kind == .neighborAdvertisement

/-- The candidate replaces the prior best observation. -/
def ProgrammeBest.supersedes (candidate prior : ProgrammeBest) : Bool :=
  decide (candidate.rank > prior.rank) ||
    candidate.rank == prior.rank &&
      (decide (serviceRank candidate.service > serviceRank prior.service) ||
        serviceRank candidate.service == serviceRank prior.service &&
          variantPrecedes candidate.variant prior.variant)

variable (logical : ProgrammeLogical)

/-- One more observation: it may contradict the best one, and it may replace it. -/
def ProgrammeLogical.observe (candidate : ProgrammeBest) : ProgrammeLogical :=
  { logical with
    contradictions := match logical.best with
      | some prior => if prior.state ≠ candidate.state then saturatingAdd u16Max logical.contradictions 1
        else logical.contradictions
      | none => logical.contradictions
    best := match logical.best with
      | some prior => if candidate.supersedes prior then some candidate else some prior
      | none => some candidate }

/-! ### Reading the state -/

/-- The most variants of one programme that may be under way together. -/
def UdpProbeStrategy.maximumConcurrent : UdpProbeStrategy → Nat
  | .adaptive => 1
  | .exhaustive => maxConcurrentUdpVariants

namespace ScanScheduler

variable (s : ScanScheduler)

def outstandingPhysical : Nat := s.active.size + s.physical.size

def totalCorrelationEntries : Nat := s.active.size + s.physical.size + s.grace.size + s.programmeGrace.size

def setProgramme (id : Nat) (logical : ProgrammeLogical) : ScanScheduler :=
  { s with programmes := s.programmes.insert id logical }

def setPhysical (wireId : Nat) (physical : ProgrammePhysical) : ScanScheduler :=
  { s with physical := s.physical.insert wireId physical }

def timeoutFor (priorTransmissions : Nat) : Except EngineError Nat :=
  match s.rtt.timeout s.config.timingMode s.config.initialTimeout s.config.minimumTimeout
    s.config.maximumTimeout with
  | .error e => .error (.config e)
  | .ok base => .ok (min (saturatingMul u64Max base (2 ^ min priorTransmissions 31)) s.config.maximumTimeout)

/-- Nothing more will be sent for the programme and nothing is awaited. -/
def readyToSettle : Bool :=
  (logical.stopUnsent || logical.nextVariant == logical.variantCount) && logical.active == 0 && logical.grace == 0

/-- The pacing state of a target goes with its last programme. -/
def pruneAdaptiveTargetState (target : ScanTarget) : ScanScheduler :=
  if s.programmes.values.any fun logical => logical.probe.target == target then s
  else { s with
    adaptiveIcmpSeen := s.adaptiveIcmpSeen.erase target
    adaptiveNotBefore := s.adaptiveNotBefore.erase target }

end ScanScheduler

variable {τ ρ σ : Type}

def lift {α : Type} (x : Except EngineError α) : Method τ ρ σ α :=
  match x with
  | .ok a => pure a
  | .error e => fail e

variable (logicalId : Nat)

/-- The programme under a logical id; it must be there. -/
def programme : Method τ ρ σ ProgrammeLogical := do
  let s ← scheduler
  ensure (s.programmes.get? logicalId) .reservationInvariant

/-- The physical request under a wire id; it must be there. -/
def physicalAt (wireId : Nat) : Method τ ρ σ ProgrammePhysical := do
  let s ← scheduler
  ensure (s.physical.get? wireId) .reservationInvariant

def reviseProgramme (f : ProgrammeLogical → ProgrammeLogical) : Method τ ρ σ Unit := do
  let logical ← programme logicalId
  update fun s => s.setProgramme logicalId (f logical)

def revisePhysical (wireId : Nat) (f : ProgrammePhysical → ProgrammePhysical) : Method τ ρ σ Unit := do
  let physical ← physicalAt wireId
  update fun s => s.setPhysical wireId (f physical)

def diagnose (f : DiagnosticCounters → DiagnosticCounters) : Method τ ρ σ Unit :=
  update fun s => { s with diagnostics := f s.diagnostics }

def countForged : Method τ ρ σ Unit :=
  diagnose fun d => { d with forgedOrUnrelated := saturatingAdd u64Max d.forgedOrUnrelated 1 }

def countLate : Method τ ρ σ Unit := diagnose fun d =>
    { d with lateResponses := saturatingAdd u64Max d.lateResponses 1 }

/-- Takes the counters of a target and a prefix down by one. -/
def decrementCounters (target : ScanTarget) (prefixKey : PrefixKey) : Method τ ρ σ Unit := do
  let s ← scheduler
  let perTarget ← ensure (decrement s.perTarget target) .reservationInvariant
  update fun s => { s with perTarget := perTarget }
  let perPrefix ← ensure (decrement s.perPrefix prefixKey) .reservationInvariant
  update fun s => { s with perPrefix := perPrefix }

def programmeStrategy : Method τ ρ σ UdpProbeStrategy := do
  let logical ← programme logicalId
  let s ← scheduler
  let p ← ensure (s.plan.udpProgrammeFor logical.probe) .reservationInvariant
  pure p.strategy

def updateProgrammeBest (candidate : ProgrammeBest) : Method τ ρ σ Unit :=
  reviseProgramme logicalId fun logical => logical.observe candidate

variable (now : Nat)

def tryTake : Method τ ρ σ Bool := do
  let s ← scheduler
  let bucket ← ensure s.bucket .invalidLifecycle
  let (taken, bucket) ← lift (bucket.tryTake now)
  update fun s => { s with bucket := some bucket }
  pure taken

def remaining : Method τ ρ σ Nat := do
  let r ← report
  pure (maxTransitionsPerDrive - r.transitions)

/-! ### Settlement -/

section Settlement

variable [ResultSink σ]

/-- The result of a programme that is settled on its best observation, or on silence. -/
def ProgrammeLogical.settlement : ScanResult where
  probe := logical.probe
  outcome := .network ((logical.best.map ProgrammeBest.state).getD .openOrFiltered)
  evidenceStrength := logical.best.bind ProgrammeBest.strength
  attempt := logical.probe.attempt
  transmissions := logical.transmissions
  rtt := logical.best.bind ProgrammeBest.rtt
  terminalAt := now
  routeGeneration := logical.context.generation
  terminalReason := (logical.best.map ProgrammeBest.reason).getD .timeout
  udp := some {
    terminalProbeId := logical.best.bind fun best => best.variant.catalogueProbeId
    variantsAttempted := logical.attempted
    responseKind := (logical.best.map ProgrammeBest.responseKind).getD .silence
    contradictions := logical.contradictions
    service := logical.best.bind ProgrammeBest.service }

/-- The metadata bytes that a settled programme uses. -/
def ProgrammeLogical.metadataBytes : Nat :=
  ((logical.best.bind ProgrammeBest.service).map fun service => service.metadata.length).getD 0

def settleProgramme (logicalId now : Nat) : Method τ ρ σ Unit := do
  reach (.settleProgramme logicalId)
  let logical ← programme logicalId
  update fun s => { s with programmes := s.programmes.erase logicalId }
  commitReservedWithBytes (logical.settlement now) logical.metadataBytes logical.reservationBytes
  update fun s => s.pruneAdaptiveTargetState logical.probe.target
  charge 1 0 1

def settleReadyProgrammes : Method τ ρ σ Unit := do
  let s ← scheduler
  let budget ← remaining
  forM ((s.programmes.keysWhere fun _ logical => ScanScheduler.readyToSettle logical).take budget) fun id =>
    settleProgramme id now

def ProgrammeLogical.aborted (outcome : ProbeOutcome) (reason : TerminalReason) : ScanResult where
  probe := logical.probe
  outcome := outcome
  evidenceStrength := none
  attempt := logical.probe.attempt
  transmissions := logical.transmissions
  rtt := none
  terminalAt := now
  routeGeneration := logical.context.generation
  terminalReason := reason
  udp := some ⟨none, logical.attempted, .silence, logical.contradictions, none⟩

/-- Forgets the grace entries and the queue places of a programme. -/
def ScanScheduler.forgetProgramme (s : ScanScheduler) (logicalId : Nat) : ScanScheduler :=
  { s with
    programmeGrace := s.programmeGrace.retain fun _ grace => grace.logicalId != logicalId
    programmeReady := s.programmeReady.filter fun id => id != logicalId }

def abortProgramme (logicalId now : Nat) (outcome : ProbeOutcome) (reason : TerminalReason) :
    Method τ ρ σ Unit := do
  reach (.abortProgramme logicalId)
  let logical ← programme logicalId
  update fun s => { s with programmes := s.programmes.erase logicalId }
  let s ← scheduler
  forM (s.physical.keysWhere fun _ physical => physical.logicalId == logicalId) fun id => do
    let _ ← physicalAt id
    update fun s => { s with physical := s.physical.erase id }
    decrementCounters logical.probe.target logical.context.prefixKey
  update fun s => s.forgetProgramme logicalId
  commitReservedWithBytes (logical.aborted now outcome reason) 0 logical.reservationBytes
  charge 1 0 1

/-- A programme for which nothing more is sent or awaited; `normalizeDecisive` also clears the contradictions. -/
def ProgrammeLogical.finish (normalizeDecisive : Bool) : ProgrammeLogical :=
  { logical with
    active := 0
    grace := 0
    stopUnsent := true
    contradictions := if normalizeDecisive then 0 else logical.contradictions }

/-- Drops every request of a programme, sent or awaited. -/
def finishProgrammeCorrelations (normalizeDecisive : Bool) : Method τ ρ σ Unit := do
  let logical ← programme logicalId
  let s ← scheduler
  forM (s.physical.keysWhere fun _ physical => physical.logicalId == logicalId) fun id => do
    update fun s => { s with physical := s.physical.erase id }
    decrementCounters logical.probe.target logical.context.prefixKey
  update fun s => s.forgetProgramme logicalId
  reviseProgramme logicalId fun logical => logical.finish normalizeDecisive

/-- Forgets one expired grace entry. -/
def expireProgrammeGrace [ProbeTransport τ] (wireId : Nat) : Method τ ρ σ Unit := do
  let s ← scheduler
  let grace ← ensure (s.programmeGrace.get? wireId) .reservationInvariant
  update fun s => { s with programmeGrace := s.programmeGrace.erase wireId }
  retire wireId
  let logical ← programme grace.logicalId
  let left ← ensure (checkedSub logical.grace 1) .reservationInvariant
  update fun s => s.setProgramme grace.logicalId { logical with grace := left }
  charge 1 0 0

def pruneProgrammeGrace [ProbeTransport τ] : Method τ ρ σ Unit := do
  let s ← scheduler
  let budget ← remaining
  forM ((s.programmeGrace.keysWhere fun _ grace => decide (now ≥ grace.expires)).take budget) expireProgrammeGrace
  settleReadyProgrammes now

end Settlement

/-! ### Timeouts -/

/-- A request leaves the wire; its correlation is kept for the late grace. -/
def retirePhysical (wireId now : Nat) : Method τ ρ σ Unit := do
  let physical ← physicalAt wireId
  update fun s => { s with physical := s.physical.erase wireId }
  let s ← scheduler
  let expires ← ensure (MonotonicTime.checkedAdd now s.config.lateGrace) .deadlineOverflow
  let logical ← programme physical.logicalId
  let left ← ensure (checkedSub logical.active 1) .reservationInvariant
  update fun s => s.setProgramme physical.logicalId { logical with active := left, grace := logical.grace + 1 }
  decrementCounters logical.probe.target logical.context.prefixKey
  update fun s => { s with
    programmeGrace := s.programmeGrace.insert wireId
      ⟨physical.logicalId, expires, physical.variant, physical.lastSentAt⟩
    programmeReady :=
      if !logical.stopUnsent && decide (logical.nextVariant < logical.variantCount) &&
          !s.programmeReady.contains physical.logicalId then
        s.programmeReady ++ [physical.logicalId]
      else s.programmeReady }
  charge 1 0 0

/-- Silence after ICMP evidence paces an adaptive target. -/
def paceTarget (logicalId now : Nat) : Method τ ρ σ Unit := do
  let strategy ← programmeStrategy logicalId
  if strategy = .adaptive then do
    let logical ← programme logicalId
    let s ← scheduler
    if s.adaptiveIcmpSeen.contains logical.probe.target then do
      let deadline ← ensure (MonotonicTime.checkedAdd now s.config.initialTimeout) .deadlineOverflow
      update fun s => { s with adaptiveNotBefore := s.adaptiveNotBefore.insert logical.probe.target deadline }
      diagnose fun d => { d with udpIcmpPacing := saturatingAdd u64Max d.udpIcmpPacing 1 }
    else pure ()
  else pure ()

/-- What the last timeout of a request means for its programme: a failed neighbor setup stops it. -/
def noteSilence (logicalId now : Nat) (purpose : EmissionPurpose) : Method τ ρ σ Unit :=
  match purpose with
  | .neighborSetup _ => reviseProgramme logicalId fun logical => { logical with stopUnsent := true }
  | _ => paceTarget logicalId now

def timeoutProgrammeOne (wireId now : Nat) : Method τ ρ σ Unit := do
  let physical ← physicalAt wireId
  match physical.stage with
  | .waiting purpose _ => do
    let s ← scheduler
    if physical.transmissions - 1 < s.config.maxRetransmissions then do
      revisePhysical wireId fun physical => { physical with stage := .pending purpose }
      charge 1 0 0
    else do
      noteSilence physical.logicalId now purpose
      retirePhysical wireId now
  | _ => pure ()

/-! ### Scheduling -/

/-- The first of the remaining variants that the service hint allows, and its index. -/
def selectVariant (family : Option Nat) : List UdpProbeVariant → Nat → Option (Nat × UdpProbeVariant)
  | [], _ => none
  | candidate :: rest, index =>
    if family.all fun value => candidate.serviceFamily == some value then some (index, candidate)
    else selectVariant family rest (index + 1)

/-- A pacing deadline of the target has not passed yet. -/
def ScanScheduler.paced (s : ScanScheduler) (target : ScanTarget) (now : Nat) : Bool :=
  match s.adaptiveNotBefore.get? target with
  | some deadline => decide (now < deadline)
  | none => false

def ScanScheduler.congested (s : ScanScheduler) (logical : ProgrammeLogical) (maximumConcurrent : Nat) : Bool :=
  decide (logical.active ≥ maximumConcurrent) || (!logical.neighborReady && decide (logical.active > 0)) ||
    decide (tally s.perTarget logical.probe.target ≥ s.config.maxPerTarget) ||
    decide (tally s.perPrefix logical.context.prefixKey ≥ s.config.maxPerPrefix)

/-- Gives the selected variant a wire id.  Answers whether the programme takes another turn. -/
def placeVariant (logicalId selectedIndex : Nat) (variant : UdpProbeVariant) (maximumConcurrent : Nat)
    (purpose : EmissionPurpose) : Method τ ρ σ Bool := do
  let s ← scheduler
  let nextWireId ← ensure (checkedAdd u64Max s.nextWireId 1) .stateCapacityExceeded
  update fun s => { s with nextWireId := nextWireId }
  update fun s' => s'.setPhysical s.nextWireId ⟨logicalId, variant, .pending purpose, 0, none⟩
  if s.physical.contains s.nextWireId then fail .reservationInvariant
  else do
    let tracked ← programme logicalId
    let tracked := { tracked with nextVariant := selectedIndex + 1, active := tracked.active + 1 }
    update fun s => s.setProgramme logicalId tracked
    update fun s => { s with
      perTarget := increment s.perTarget tracked.probe.target
      perPrefix := increment s.perPrefix tracked.context.prefixKey }
    if tracked.neighborReady && decide (tracked.nextVariant < tracked.variantCount) &&
        decide (tracked.active < maximumConcurrent) then do
      update fun s => { s with programmeReady := s.programmeReady ++ [logicalId] }
      charge 1 0 0
      pure true
    else do
      charge 1 0 0
      pure false

/-- Schedules the selected variant, as a neighbor setup first if the neighbor is not known yet. -/
def scheduleVariant (logical : ProgrammeLogical) (selectedIndex : Nat) (variant : UdpProbeVariant)
    (maximumConcurrent : Nat) : Method τ ρ σ Bool :=
  if logical.neighborReady then placeVariant logicalId selectedIndex variant maximumConcurrent .probe
  else do
    let setup ← ensure logical.context.neighborSetup .invalidContext
    placeVariant logicalId selectedIndex variant maximumConcurrent (.neighborSetup setup)

/-- One turn of a programme taken from the ready queue.  Answers whether it takes another turn. -/
def scheduleTurn (now logicalId : Nat) : Method τ ρ σ Bool := do
  let s ← scheduler
  match s.programmes.get? logicalId with
  | none => pure false
  | some logical =>
    if logical.stopUnsent || decide (logical.nextVariant ≥ logical.variantCount) then pure false
    else do
      let p ← ensure (s.plan.udpProgrammeFor logical.probe) .reservationInvariant
      if p.strategy = .adaptive ∧ s.paced logical.probe.target now = true then do
        update fun s => { s with programmeReady := s.programmeReady ++ [logicalId] }
        pure false
      else if s.congested logical p.strategy.maximumConcurrent then do
        update fun s => { s with programmeReady := s.programmeReady ++ [logicalId] }
        pure false
      else do
        let port ← expect logical.probe.port "UDP probes have ports"
        match selectVariant logical.softServiceFamily
            ((p.eligible logical.probe.target.address port).drop logical.nextVariant) logical.nextVariant with
        | none => do
          reviseProgramme logicalId fun tracked => { tracked with nextVariant := logical.variantCount }
          pure false
        | some (selectedIndex, variant) =>
          scheduleVariant logicalId logical selectedIndex variant p.strategy.maximumConcurrent

/-- Another request fits the outstanding and the correlation limits. -/
def ScanScheduler.laneFree (s : ScanScheduler) : Bool :=
  decide (s.outstandingPhysical < s.config.maxOutstanding) &&
    decide (s.totalCorrelationEntries < s.config.maxGraceEntries)

/-- Every round uses up a turn, or makes a transition and keeps its turn, so `turns` plus the transitions left in
the budget bound the rounds. -/
def scheduleLoop (now : Nat) : Nat → Nat → Method τ ρ σ Unit
  | 0, _ => pure ()
  | fuel + 1, turns => do
    let s ← scheduler
    let budget ← remaining
    if turns > 0 ∧ s.laneFree = true ∧ budget > 0 then
      match s.programmeReady with
      | [] => pure ()
      | logicalId :: rest => do
        update fun s => { s with programmeReady := rest }
        let again ← scheduleTurn now logicalId
        scheduleLoop now fuel (turns - 1 + if again then 1 else 0)
    else pure ()

def scheduleProgrammeVariants : Method τ ρ σ Unit := do
  let s ← scheduler
  let budget ← remaining
  scheduleLoop now (s.programmeReady.length + budget) s.programmeReady.length

end NodeNet.Engine
