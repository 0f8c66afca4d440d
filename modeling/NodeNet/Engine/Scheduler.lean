import NodeNet.Engine.Programme

/-!
# The scheduler

The methods of the scan scheduler that move plain probes, admit candidates and stop a session, and its public
operations.  `perform` runs one public operation on a session.
-/

namespace NodeNet.Engine

/-! ### Classification -/

variable (probe : LogicalProbe)

def terminalState (kind : EvidenceKind) : Option NetworkState :=
  match probe.family with
  | .tcpSyn =>
    match kind with
    | .tcpSynAcknowledgment => some .open
    | .tcpReset => some .closed
    | .icmpPortUnreachable | .icmpOtherError | .explicitUnreachable => some .filtered
    | _ => none
  | .udp =>
    match kind with
    | .udpReply => some .open
    | .icmpPortUnreachable => some .closed
    | .icmpOtherError | .explicitUnreachable => some .filtered
    | _ => none
  | .arp =>
    match kind with
    | .arpReply => some .up
    | .icmpOtherError | .explicitUnreachable => some .unreachable
    | _ => none
  | .ndp =>
    match kind with
    | .neighborAdvertisement => some .up
    | .icmpOtherError | .explicitUnreachable => some .unreachable
    | _ => none
  | .icmpv4Echo | .icmpv6Echo =>
    match kind with
    | .echoReply => some .up
    | .icmpPortUnreachable | .icmpOtherError | .explicitUnreachable => some .unreachable
    | _ => none

def classifyTerminal (event : EvidenceEvent) : Except EngineError PendingTerminal :=
  match terminalState probe event.kind with
  | none => .error .invalidEvidence
  | some state => .ok ⟨.network state, some event.strength, none, .evidence event.kind⟩

def timeoutTerminal (policy : DiscoverySilencePolicy) : PendingTerminal :=
  let state := match probe.family with
    | .tcpSyn => NetworkState.filtered
    | .udp => .openOrFiltered
    | .arp | .ndp | .icmpv4Echo | .icmpv6Echo =>
      match policy with
      | .unknown => .unknown
      | .downByPolicy => .downByPolicy
  ⟨.network state, none, none, .timeout⟩

def validNeighborSetup (setup : Option ProbeFamily) : Bool :=
  match probe.target.address, setup with
  | _, none => true
  | .v4 _, some .arp => true
  | .v6 _, some .ndp => true
  | _, some _ => false

/-! ### Reading the state -/

namespace ScanScheduler

variable (s : ScanScheduler)

def isTerminal : Bool := s.lifecycle == .completed || s.lifecycle == .failed || s.lifecycle == .closed

def deadlineReached (now : Nat) : Bool :=
  match s.sessionDeadline with
  | some deadline => decide (now ≥ deadline)
  | none => false

def canScheduleProgrammeVariant (now : Nat) : Bool :=
  if s.outstandingPhysical ≥ s.config.maxOutstanding ∨ s.totalCorrelationEntries ≥ s.config.maxGraceEntries then
    false
  else s.programmeReady.any fun logicalId =>
    match s.programmes.get? logicalId with
    | none => false
    | some logical =>
      let maximumConcurrent :=
        if (s.plan.udpProgrammeFor logical.probe).any fun p => p.strategy == .adaptive then 1
        else maxConcurrentUdpVariants
      !logical.stopUnsent && decide (logical.nextVariant < logical.variantCount) &&
        decide (logical.active < maximumConcurrent) &&
        (match s.adaptiveNotBefore.get? logical.probe.target with
          | none => true
          | some deadline => decide (now ≥ deadline)) &&
        (logical.neighborReady || logical.active == 0) &&
        decide (tally s.perTarget logical.probe.target < s.config.maxPerTarget) &&
        decide (tally s.perPrefix logical.context.prefixKey < s.config.maxPerPrefix)

def setActive (id : Nat) (active : ActiveProbe) : ScanScheduler :=
  { s with active := s.active.insert id active }

def hasRoom : Bool :=
  decide (s.outstandingPhysical < s.config.maxOutstanding) &&
    decide (s.active.size + s.programmes.size < s.config.maxOutstanding) &&
    decide (s.totalCorrelationEntries < s.config.maxGraceEntries)

end ScanScheduler

variable {τ ρ σ : Type}

/-- The plain probe under an id; it must be there. -/
def activeAt (id : Nat) : Method τ ρ σ ActiveProbe := do
  let s ← scheduler
  ensure (s.active.get? id) .reservationInvariant

def reviseActive (id : Nat) (f : ActiveProbe → ActiveProbe) : Method τ ρ σ Unit := do
  let active ← activeAt id
  update fun s => s.setActive id (f active)

/-- Rejects a clock that moved backwards. -/
def observeNow (now : Nat) : Method τ ρ σ Unit := do
  let s ← scheduler
  if s.lastNow.any fun last => decide (now < last) then fail .clockRegressed
  else update fun s => { s with lastNow := some now }

def pruneGrace (now : Nat) : Method τ ρ σ Unit :=
  update fun s => { s with grace := s.grace.retain fun _ expires => decide (now < expires) }

def completeIfFinished : Method τ ρ σ Unit :=
  whenever (fun s => s.lifecycle == .running && s.cursor == s.plan.logicalProbeCount && s.deferred.isEmpty &&
      s.active.size == 0 && s.programmes.size == 0 && s.physical.size == 0)
    (update fun s => { s with lifecycle := .completed })

/-! ### Terminal results -/

section Sink

variable [ResultSink σ]

def ActiveProbe.result (active : ActiveProbe) (now : Nat) (terminal : PendingTerminal) : ScanResult where
  probe := active.probe
  outcome := terminal.outcome
  evidenceStrength := terminal.strength
  attempt := active.probe.attempt
  transmissions := active.totalTransmissions
  rtt := terminal.rtt
  terminalAt := now
  routeGeneration := active.context.generation
  terminalReason := terminal.reason
  udp := none

/-- Commits the result of a plain probe.  `charged` tells whether the caller counts the transition. -/
def terminalize (id now : Nat) (terminal : PendingTerminal) (charged : Bool) : Method τ ρ σ Unit := do
  let active ← activeAt id
  let s ← scheduler
  if s.grace.contains id || tally s.perTarget active.probe.target == 0 ||
      tally s.perPrefix active.context.prefixKey == 0 then
    fail .reservationInvariant
  else do
    let expires ← ensure (MonotonicTime.checkedAdd now s.config.lateGrace) .deadlineOverflow
    commitReserved (active.result now terminal)
    let _ ← activeAt id
    update fun s => { s with active := s.active.erase id }
    decrementCounters active.probe.target active.context.prefixKey
    update fun s => { s with grace := s.grace.insert id expires }
    if charged then charge 1 0 1 else pure ()

def timeoutOne (id now : Nat) : Method τ ρ σ Unit := do
  let active ← activeAt id
  match active.stage with
  | .waiting purpose _ => do
    let s ← scheduler
    if active.stageTransmissions - 1 < s.config.maxRetransmissions then do
      reviseActive id fun active => { active with stage := .pending purpose }
      charge 1 0 0
    else terminalize id now (timeoutTerminal active.probe s.config.discoverySilence) true
  | _ => pure ()

def processTimeouts (now : Nat) : Method τ ρ σ Unit := do
  let s ← scheduler
  let budget ← remaining
  forM ((s.physical.keysWhere fun _ physical =>
      match physical.stage with
      | .waiting _ deadline => decide (now ≥ deadline)
      | _ => false).take budget) fun id => timeoutProgrammeOne id now
  let s ← scheduler
  let budget ← remaining
  forUntil (fun id => do
      let left ← remaining
      if left = 0 then pure false
      else do
        timeoutOne id now
        pure true)
    ((s.active.keysWhere fun _ active =>
      match active.stage with
      | .waiting _ deadline => decide (now ≥ deadline)
      | _ => false).take budget)

/-! ### Stopping -/

def initiateStop (stop : StopState) : Method τ ρ σ Unit := do
  reach (.stop stop)
  update fun s => { s with
    cursor := s.plan.logicalProbeCount
    deferred := []
    invalidatingGeneration := none
    lifecycle := .cancelling
    stop := some stop }

/-- Settles a programme that has an observation, and aborts one that has none. -/
def drainProgramme (id now : Nat) (outcome : ProbeOutcome) (reason : TerminalReason) : Method τ ρ σ Unit := do
  let s ← scheduler
  if (s.programmes.get? id).any fun logical => logical.best.isSome then do
    finishProgrammeCorrelations id false
    settleProgramme id now
  else abortProgramme id now outcome reason

def settleStop (now : Nat) : Method τ ρ σ Unit := do
  let s ← scheduler
  let stop ← ensure s.stop .reservationInvariant
  let budget ← remaining
  forM (s.active.keys.take budget) fun id => terminalize id now ⟨stop.outcome, none, none, stop.reason⟩ true
  let s ← scheduler
  let budget ← remaining
  forM (s.programmes.keys.take budget) fun id => drainProgramme id now stop.outcome stop.reason
  whenever (fun s => s.active.size == 0 && s.programmes.size == 0)
    (update fun s => { s with lifecycle := stop.finalLifecycle, stop := none })

def failTransport (now code : Nat) : Method τ ρ σ Unit := do
  initiateStop ⟨.transportFailed, .transportFailure code, .failed⟩
  settleStop now

def settleContextInvalidation (now : Nat) : Method τ ρ σ Unit := do
  let s ← scheduler
  let filter ← ensure s.invalidatingGeneration .reservationInvariant
  let budget ← remaining
  forM ((s.active.keysWhere fun _ active => filter.matches active.context.generation).take budget) fun id =>
    terminalize id now ⟨.contextInvalidated, none, none, .contextInvalidated⟩ true
  let s ← scheduler
  let budget ← remaining
  forM ((s.programmes.keysWhere fun _ logical => filter.matches logical.context.generation).take budget) fun id =>
    drainProgramme id now .contextInvalidated .contextInvalidated
  whenever (fun s => !(s.active.values.any fun active => filter.matches active.context.generation) &&
      !(s.programmes.values.any fun logical => filter.matches logical.context.generation))
    (update fun s => { s with invalidatingGeneration := none })

end Sink

/-! ### Emission -/

section Emission

variable [ProbeTransport τ] [ResultSink σ]

/-- What follows a request of a programme that was sent: it waits, and its programme counts it. -/
def trackPhysical (now wireId : Nat) (physical : ProgrammePhysical) (purpose : EmissionPurpose) :
    Method τ ρ σ Bool := do
  let s ← scheduler
  let timeout ← lift (s.timeoutFor physical.transmissions)
  let deadline ← ensure (MonotonicTime.checkedAdd now timeout) .deadlineOverflow
  revisePhysical wireId fun tracked => { tracked with
    transmissions := saturatingAdd u8Max tracked.transmissions 1
    stage := .waiting purpose deadline
    lastSentAt := if purpose = .probe then some now else tracked.lastSentAt }
  if purpose = .probe then do
    let logical ← programme physical.logicalId
    let transmissions ← ensure (checkedAdd u32Max logical.transmissions 1) .stateCapacityExceeded
    update fun s => s.setProgramme physical.logicalId { logical with
      transmissions := transmissions
      attempted := if physical.transmissions = 0 then saturatingAdd u16Max logical.attempted 1
        else logical.attempted }
    charge 1 1 0
    pure true
  else do
    charge 1 1 0
    pure true

/-- Sends one physical request.  Answers whether the queue goes on. -/
def emitPhysical (now wireId : Nat) : Method τ ρ σ Bool := do
  let taken ← tryTake now
  if !taken then pure false
  else do
    let physical ← physicalAt wireId
    match physical.stage with
    | .pending purpose => do
      let logical ← programme physical.logicalId
      reach (.emission wireId now)
      let answer ← emit {
        probeId := wireId
        probe := logical.probe
        routeGeneration := logical.context.generation
        purpose := purpose
        transmission := saturatingAdd u8Max physical.transmissions 1
        udpVariant := some physical.variant }
      match answer with
      | .error failure => do
        failTransport now failure.code
        pure false
      | .ok () => trackPhysical now wireId physical purpose
    | _ => pure true

def emitProgrammePending (now : Nat) : Method τ ρ σ Unit := do
  let s ← scheduler
  let budget ← remaining
  forUntil (emitPhysical now)
    ((s.physical.keysWhere fun _ physical =>
      match physical.stage with
      | .pending _ => true
      | _ => false).take budget)

def udpVariantOf (probe : LogicalProbe) : Method τ ρ σ (Option UdpProbeVariant) := do
  let s ← scheduler
  match s.plan.udpProgrammeFor probe with
  | none => pure none
  | some p => do
    let port ← expect probe.port "UDP probes have ports"
    pure (p.variantAtFor probe.target.address port 0)

/-- What follows a frame of a plain probe that was sent: a reset frame ends its probe, any other one waits. -/
def trackSent (now id : Nat) (active : ActiveProbe) (purpose : EmissionPurpose) (terminal : Option PendingTerminal)
    (before : MutableReport) : Method τ ρ σ Bool :=
  match terminal with
  | some terminal => do
    let s ← scheduler
    terminalize id now terminal true
    record (.reached (.cleanup id) s before)
    pure true
  | none => do
    let s ← scheduler
    let timeout ← lift (s.timeoutFor active.stageTransmissions)
    let deadline ← ensure (MonotonicTime.checkedAdd now timeout) .deadlineOverflow
    reviseActive id fun tracked => { tracked with
      stageTransmissions := saturatingAdd u8Max tracked.stageTransmissions 1
      lastProbeSentAt := if purpose = .probe then some now else tracked.lastProbeSentAt
      stage := .waiting purpose deadline }
    pure true

/-- Sends one frame of a plain probe; `terminal` is the result that a reset frame leads to.  Answers whether the
queue goes on. -/
def emitFrame (now id : Nat) (active : ActiveProbe) (purpose : EmissionPurpose)
    (terminal : Option PendingTerminal) : Method τ ρ σ Bool := do
  let taken ← tryTake now
  if !taken then pure false
  else do
    let variant ← udpVariantOf active.probe
    reviseActive id fun tracked => { tracked with
      totalTransmissions := if active.probe.family ≠ .udp ∨ purpose = .probe then
          saturatingAdd u32Max tracked.totalTransmissions 1
        else tracked.totalTransmissions }
    let answer ← emit {
      probeId := id
      probe := active.probe
      routeGeneration := active.context.generation
      purpose := purpose
      transmission := saturatingAdd u8Max active.stageTransmissions 1
      udpVariant := variant }
    match answer with
    | .error failure => do
      match terminal with
      | some terminal => do
        terminalize id now terminal true
        failTransport now failure.code
        pure false
      | none => do
        failTransport now failure.code
        pure false
    | .ok () => do
      let before ← report
      charge 1 1 0
      trackSent now id active purpose terminal before

def emitActive (now id : Nat) : Method τ ρ σ Bool := do
  let left ← remaining
  if left = 0 then pure false
  else do
    let s ← scheduler
    match s.active.get? id with
    | none => pure true
    | some active =>
      match active.stage with
      | .pending purpose => emitFrame now id active purpose none
      | .pendingCleanup terminal => emitFrame now id active .tcpResetCleanup (some terminal)
      | .waiting _ _ => pure true

def emitPending (now : Nat) : Method τ ρ σ Unit := do
  scheduleProgrammeVariants now
  emitProgrammePending now
  let s ← scheduler
  let budget ← remaining
  forUntil (emitActive now)
    ((s.active.keysWhere fun _ active =>
      match active.stage with
      | .waiting _ _ => false
      | _ => true).take budget)

end Emission

/-! ### Admission -/

section Admission

/-- The next deferred candidate, or the next one of the plan once the deferred ones were all looked at. -/
def nextCandidate (deferredRemaining : Nat) : Method τ ρ σ (Option LogicalProbe × Nat) := do
  let s ← scheduler
  if deferredRemaining > 0 then do
    update fun s => { s with deferred := s.deferred.tail }
    pure (s.deferred.head?, deferredRemaining - 1)
  else if s.cursor ≥ s.plan.logicalProbeCount then pure (none, deferredRemaining)
  else do
    let logicalId ← ensure (s.permutation.permute s.cursor) .reservationInvariant
    update fun s => { s with cursor := s.cursor + 1 }
    match s.plan.logicalProbeAt logicalId with
    | .ok probe => pure (some probe, deferredRemaining)
    | .error e => fail (.plan e)

def defer (probe : LogicalProbe) : Method τ ρ σ Unit := do
  let s ← scheduler
  if s.deferred.length = maxDeferredCandidates then fail .stateCapacityExceeded
  else update fun s => { s with deferred := s.deferred ++ [probe] }

def requeueFront (probe : LogicalProbe) : Method τ ρ σ Unit := do
  let s ← scheduler
  if s.deferred.length = maxDeferredCandidates then fail .stateCapacityExceeded
  else update fun s => { s with deferred := probe :: s.deferred }

/-- The number of eligible variants, the metadata reservation, and whether the probe needs a programme. -/
def udpShapeOf (probe : LogicalProbe) : Method τ ρ σ (Option (Nat × Nat × Bool)) := do
  let s ← scheduler
  match s.plan.udpProgrammeFor probe with
  | none => pure none
  | some p => do
    let port ← expect probe.port "UDP probes always have ports"
    pure (some (p.variantCountFor probe.target.address port,
      p.maximumMetadataBytesForPort probe.target.address port,
      p.requiresLogicalProgramme probe.target.address port))

variable [ContextResolver ρ] [ResultSink σ]

/-- Settles a new programme that has no variant, and queues any other one.  `s` and `before` are the scheduler and
the report before the programme was there. -/
def openProgramme (logicalId now variantCount : Nat) (s : ScanScheduler) (before : MutableReport) :
    Method τ ρ σ Bool :=
  if variantCount = 0 then do
    settleProgramme logicalId now
    update fun s => { s with contextWaiting := false }
    charge 1 0 0
    record (.reached (.emptyProgramme logicalId) s before)
    pure true
  else do
    update fun s => { s with programmeReady := s.programmeReady ++ [logicalId], contextWaiting := false }
    charge 1 0 0
    pure true

def admitProgramme (now : Nat) (probe : LogicalProbe) (context : ResolvedContext)
    (variantCount reservationBytes : Nat) : Method τ ρ σ Bool := do
  let reservation ← tryReserveWithBytes reservationBytes
  match reservation with
  | .error failure => fail (.sink failure)
  | .ok .saturated => do
    update fun s => { s with deferred := probe :: s.deferred, sinkBackpressured := true }
    charge 1 0 0
    pure false
  | .ok .reserved => do
    let s ← scheduler
    let before ← report
    update fun s => s.setProgramme probe.logicalId {
      probe := probe
      context := context
      variantCount := variantCount
      nextVariant := 0
      active := 0
      grace := 0
      attempted := 0
      transmissions := 0
      contradictions := 0
      best := none
      reservationBytes := reservationBytes
      neighborReady := context.neighborSetup.isNone
      stopUnsent := false
      softServiceFamily := none }
    if s.programmes.contains probe.logicalId then fail .reservationInvariant
    else openProgramme probe.logicalId now variantCount s before

def admitPlain (probe : LogicalProbe) (context : ResolvedContext) : Method τ ρ σ Bool := do
  let reservation ← tryReserve
  match reservation with
  | .error failure => do
    requeueFront probe
    fail (.sink failure)
  | .ok .saturated => do
    update fun s => { s with deferred := probe :: s.deferred, sinkBackpressured := true }
    charge 1 0 0
    pure false
  | .ok .reserved => do
    let s ← scheduler
    let purpose := (context.neighborSetup.map EmissionPurpose.neighborSetup).getD .probe
    update fun s => s.setActive probe.logicalId ⟨probe, context, .pending purpose, 0, 0, none⟩
    if s.active.contains probe.logicalId then fail .reservationInvariant
    else do
      update fun s => { s with
        perTarget := increment s.perTarget probe.target
        perPrefix := increment s.perPrefix context.prefixKey
        contextWaiting := false }
      charge 1 0 0
      pure true

/-- Admits a candidate whose context is known.  Answers whether admission goes on. -/
def admitReady (now : Nat) (probe : LogicalProbe) (context : ResolvedContext) : Method τ ρ σ Bool := do
  let s ← scheduler
  if !validNeighborSetup probe context.neighborSetup then do
    requeueFront probe
    fail .invalidContext
  else if tally s.perPrefix context.prefixKey ≥ s.config.maxPerPrefix then do
    defer probe
    charge 1 0 0
    pure true
  else do
    let shape ← udpShapeOf probe
    match shape with
    | some (variantCount, reservationBytes, true) => admitProgramme now probe context variantCount reservationBytes
    | _ => admitPlain probe context

/-- Looks at one candidate.  Answers whether admission goes on. -/
def admitOne (now : Nat) (probe : LogicalProbe) : Method τ ρ σ Bool := do
  let s ← scheduler
  if tally s.perTarget probe.target ≥ s.config.maxPerTarget then do
    defer probe
    charge 1 0 0
    pure true
  else do
    let resolution ← resolve probe
    match resolution with
    | .error failure => do
      requeueFront probe
      fail (.context failure)
    | .ok .pending => do
      update fun s => { s with deferred := probe :: s.deferred, contextWaiting := true }
      charge 1 0 0
      pure false
    | .ok (.invalidated _) => do
      update fun s => { s with deferred := probe :: s.deferred, contextWaiting := true }
      diagnose fun d => { d with contextInvalidations := saturatingAdd u64Max d.contextInvalidations 1 }
      charge 1 0 0
      pure false
    | .ok (.ready context) => admitReady now probe context

/-- The first argument is what is left of the candidates that one call may examine. -/
def admitLoop (now : Nat) : Nat → Nat → Method τ ρ σ Unit
  | 0, _ => pure ()
  | left + 1, deferredRemaining => do
    let s ← scheduler
    let budget ← remaining
    if s.hasRoom = true ∧ budget ≠ 0 then do
      let (candidate, deferredRemaining) ← nextCandidate deferredRemaining
      match candidate with
      | none => pure ()
      | some probe => do
        let again ← admitOne now probe
        if again then admitLoop now left deferredRemaining else pure ()
    else pure ()

def admitCandidates (now : Nat) : Method τ ρ σ Unit := do
  let s ← scheduler
  admitLoop now maxTransitionsPerDrive s.deferred.length

end Admission

/-! ### The two classifications of a UDP answer -/

/-- The event of a correlated ICMP error.  The source also passes the correlation's kind, which decides nothing. -/
def observedIcmp (probeId : Nat) (strength : EvidenceStrength) (family messageType code : Nat)
    (emitterIsTarget : Bool) : EvidenceEvent :=
  let kind : EvidenceKind :=
    if (family, messageType, code) ∈ [(4, 3, 3), (6, 1, 4)] then .icmpPortUnreachable
    else if family = 4 ∧ messageType = 3 ∧ code ∈ [0, 1, 2, 5, 6, 7, 9, 10, 13] ∨
        family = 6 ∧ messageType = 1 ∧ code ≤ 7 then .explicitUnreachable
    else .icmpOtherError
  ⟨probeId, kind, strength, some ⟨family, messageType, code, emitterIsTarget, strength⟩, none⟩

/-- Both paths take the event for the same network state, or both for no evidence. -/
def ClassifiedAlike (probe : LogicalProbe) (variant : UdpProbeVariant) (sentAt : Option Nat) (now : Nat)
    (event : EvidenceEvent) : Prop :=
  (classifyTerminal { probe with family := .udp } event).toOption.map PendingTerminal.outcome =
    (classifyUdpEvidence variant event sentAt now).map (ProbeOutcome.network ·.state)

private theorem outcome_of_observedIcmp (probe : LogicalProbe) (probeId : Nat) (strength : EvidenceStrength)
    (family messageType code : Nat) (emitterIsTarget : Bool) :
    (classifyTerminal { probe with family := .udp }
        (observedIcmp probeId strength family messageType code emitterIsTarget)).toOption.map
          PendingTerminal.outcome =
      some (.network (if (family, messageType, code) ∈ [(4, 3, 3), (6, 1, 4)] then .closed else .filtered)) := by
  unfold observedIcmp
  split_ifs <;> rfl

private theorem state_of_observedIcmp (variant : UdpProbeVariant) (sentAt : Option Nat) (now probeId : Nat)
    (strength : EvidenceStrength) (family messageType code : Nat) (emitterIsTarget : Bool) :
    (classifyUdpEvidence variant (observedIcmp probeId strength family messageType code emitterIsTarget)
        sentAt now).map (ProbeOutcome.network ·.state) =
      (classifyUdpIcmp (some ⟨family, messageType, code, emitterIsTarget, strength⟩) .icmpOtherError).map
        (ProbeOutcome.network ·.2.1) := by
  unfold observedIcmp
  split_ifs <;> exact Option.map_map ..

theorem classifiedAlike_iff (probe : LogicalProbe) (variant : UdpProbeVariant) (sentAt : Option Nat) (now : Nat)
    (reply : EvidenceEvent) (probeId : Nat) (strength : EvidenceStrength) (family messageType code : Nat)
    (emitterIsTarget : Bool) :
    ClassifiedAlike probe variant sentAt now { reply with kind := .udpReply } ∧
      (ClassifiedAlike probe variant sentAt now
          (observedIcmp probeId strength family messageType code emitterIsTarget) ↔
        (family, messageType, code) ∈ [(4, 3, 3), (6, 1, 4)] ∧ emitterIsTarget ∨
          (family, messageType, code) ∈ [(4, 3, 0), (4, 3, 1), (4, 3, 2), (4, 3, 9), (4, 3, 10),
            (4, 3, 13), (4, 11, 0),
            (4, 11, 1), (6, 1, 0), (6, 1, 1), (6, 1, 2), (6, 1, 3), (6, 1, 5), (6, 1, 6), (6, 4, 1)]) := by
  refine ⟨rfl, ?_⟩
  -- each row of the programme's table is one case, and the last case is every message outside it
  rw [ClassifiedAlike, outcome_of_observedIcmp, state_of_observedIcmp, eq_comm, classifyUdpIcmp]
  dsimp only
  split <;> cases emitterIsTarget <;> simp_all

/-- A router's port unreachable closes the port for a plain probe and only filters it for a programme. -/
theorem intermediate_port_unreachable :
    ¬ ClassifiedAlike ⟨1, 0, ⟨.v4 0x0a000002#32, none⟩, .udp, some ⟨53#16, by decide⟩⟩
      ⟨none, 0, 0, none, .anyPort⟩ none 0 (observedIcmp 1 .truncatedQuote 4 3 3 false) := by
  rw [ClassifiedAlike, outcome_of_observedIcmp, state_of_observedIcmp]
  decide

end NodeNet.Engine
