import NodeNet.Engine.Scheduler

/-!
# Public operations

Evidence handling, the drive, and the remaining public methods of the scheduler.  `perform` runs one of them on a
session; a `Run` is a sequence of operations from a new scheduler.
-/

namespace NodeNet.Engine

variable {τ ρ σ : Type}

/-! ### Evidence for programmes -/

section ProgrammeEvidence

variable [ResultSink σ]

/-- What an observation does to its programme: it stops an adaptive one, and decisive evidence finishes any other.
-/
def concludeEvidence (logicalId : Nat) (adaptiveStop decisive : Bool) : Method τ ρ σ Unit :=
  if adaptiveStop then reviseProgramme logicalId fun logical => { logical with stopUnsent := true }
  else if decisive then finishProgrammeCorrelations logicalId true
  else pure ()

/-- Evidence for a request that is kept for its grace only. -/
def handleGraceEvidence (now : Nat) (event : EvidenceEvent) (grace : ProgrammeGrace) : Method τ ρ σ Unit := do
  countLate
  if event.kind = .udpServiceHint then
    match event.udpService with
    | some service => do
      let strategy ← programmeStrategy grace.logicalId
      if strategy = .adaptive then
        reviseProgramme grace.logicalId fun logical => { logical with softServiceFamily := some service.family }
      else pure ()
    | none => countForged
  else
    match classifyUdpEvidence grace.variant event grace.lastSentAt now with
    | some best => do
      let strategy ← programmeStrategy grace.logicalId
      let adaptiveStop := strategy == .adaptive && decide (best.rank ≥ 3)
      let decisive := best.rank == 4
      updateProgrammeBest grace.logicalId best
      concludeEvidence grace.logicalId adaptiveStop decisive
      if adaptiveStop || decisive then do
        freshReport
        settleReadyProgrammes now
      else pure ()
    | none => if !isUdpObservation event.kind then countForged else pure ()

/-- Evidence that arrives when its request is already due. -/
def handleExpiredEvidence (now : Nat) (event : EvidenceEvent) : Method τ ρ σ Unit := do
  freshReport
  timeoutProgrammeOne event.probeId now
  countLate
  let s ← scheduler
  match s.programmeGrace.get? event.probeId with
  | none => pure ()
  | some grace =>
    match classifyUdpEvidence grace.variant event grace.lastSentAt now with
    | none => pure ()
    | some best => do
      let strategy ← programmeStrategy grace.logicalId
      let adaptiveStop := strategy == .adaptive && decide (best.rank ≥ 3)
      let decisive := best.rank == 4
      updateProgrammeBest grace.logicalId best
      concludeEvidence grace.logicalId adaptiveStop decisive
      if adaptiveStop || decisive then settleReadyProgrammes now else pure ()

/-- The neighbor of a programme is known: its request is sent as a probe now. -/
def handleSetupEvidence (event : EvidenceEvent) (physical : ProgrammePhysical) (setup : ProbeFamily) :
    Method τ ρ σ Unit :=
  if !validNeighborEvidence setup event.kind then countForged
  else do
    revisePhysical event.probeId fun physical => { physical with stage := .pending .probe, transmissions := 0 }
    reviseProgramme physical.logicalId fun logical => { logical with neighborReady := true }
    update fun s =>
      if s.programmeReady.contains physical.logicalId then s
      else { s with programmeReady := s.programmeReady ++ [physical.logicalId] }

/-- ICMP evidence is remembered for the target of an adaptive programme. -/
def noteIcmp (logicalId : Nat) : Method τ ρ σ Unit := do
  let logical ← programme logicalId
  update fun s => { s with
    adaptiveIcmpSeen := s.adaptiveIcmpSeen.insert logical.probe.target
      (saturatingAdd u16Max (tally s.adaptiveIcmpSeen logical.probe.target) 1) }

/-- Evidence for a request that is under way. -/
def handleActiveEvidence (now : Nat) (event : EvidenceEvent) (physical : ProgrammePhysical) : Method τ ρ σ Unit :=
  if event.kind = .udpServiceHint then
    match event.udpService with
    | none => countForged
    | some service => do
      let strategy ← programmeStrategy physical.logicalId
      (if strategy = .adaptive then
        reviseProgramme physical.logicalId fun logical => { logical with softServiceFamily := some service.family }
      else pure ())
      freshReport
      retirePhysical event.probeId now
      settleReadyProgrammes now
  else
    match classifyUdpEvidence physical.variant event physical.lastSentAt now with
    | none => if !isUdpObservation event.kind then countForged else pure ()
    | some best => do
      let strategy ← programmeStrategy physical.logicalId
      let adaptiveStop := strategy == .adaptive && decide (best.rank ≥ 3)
      let decisive := best.rank == 4
      (if strategy = .adaptive ∧ event.icmp.isSome = true then noteIcmp physical.logicalId else pure ())
      updateProgrammeBest physical.logicalId best
      freshReport
      retirePhysical event.probeId now
      concludeEvidence physical.logicalId adaptiveStop decisive
      settleReadyProgrammes now

def handleProgrammeEvidence (now : Nat) (event : EvidenceEvent) : Method τ ρ σ Unit := do
  let s ← scheduler
  match s.programmeGrace.get? event.probeId with
  | some grace => handleGraceEvidence now event grace
  | none => do
    let physical ← physicalAt event.probeId
    match physical.stage with
    | .waiting purpose deadline =>
      if now ≥ deadline then handleExpiredEvidence now event
      else
        match purpose with
        | .neighborSetup setup => handleSetupEvidence event physical setup
        | _ => handleActiveEvidence now event physical
    | _ => countForged

end ProgrammeEvidence

/-! ### Evidence -/

section Evidence

variable [ProbeTransport τ] [ResultSink σ]

/-- A classified answer ends its probe, through a reset frame if the session cleans up handshakes. -/
def concludeProbe (now : Nat) (event : EvidenceEvent) (active : ActiveProbe) (terminal : PendingTerminal) :
    Method τ ρ σ Unit := do
  let s ← scheduler
  if s.config.tcpResetCleanup = true ∧ active.probe.family = .tcpSyn ∧ event.kind = .tcpSynAcknowledgment then do
    reviseActive event.probeId fun active =>
      { active with stage := .pendingCleanup terminal, stageTransmissions := 0 }
    reach (.resetCleanup event.probeId now)
    freshReport
    emitPending now
  else terminalize event.probeId now terminal false

/-- Evidence for a plain probe whose probe frame is under way. -/
def handleProbeEvidence (now : Nat) (event : EvidenceEvent) (active : ActiveProbe) : Method τ ρ σ Unit :=
  match classifyTerminal active.probe event with
  | .error _ => countForged
  | .ok terminal => do
    let rtt := active.lastProbeSentAt.bind fun sent => MonotonicTime.elapsedSince now sent
    update fun s => { s with
      rtt := match rtt with
        | some sample => if active.stageTransmissions = 1 then s.rtt.observe sample else s.rtt
        | none => s.rtt }
    concludeProbe now event active { terminal with rtt := rtt }
    completeIfFinished

def handleWaitingEvidence (now : Nat) (event : EvidenceEvent) (active : ActiveProbe) (purpose : EmissionPurpose)
    (deadline : Nat) : Method τ ρ σ Unit :=
  if now ≥ deadline then do
    freshReport
    timeoutOne event.probeId now
    countLate
  else
    match purpose with
    | .neighborSetup setup =>
      if !validNeighborEvidence setup event.kind then countForged
      else reviseActive event.probeId fun active =>
        { active with stage := .pending .probe, stageTransmissions := 0 }
    | _ => handleProbeEvidence now event active

/-- Evidence once stop and invalidation are dealt with. -/
def handleCorrelatedEvidence (now : Nat) (event : EvidenceEvent) : Method τ ρ σ Unit := do
  let s ← scheduler
  if s.physical.contains event.probeId || s.programmeGrace.contains event.probeId then do
    reach (.programmeEvidence event.probeId now)
    handleProgrammeEvidence now event
    completeIfFinished
  else if s.grace.contains event.probeId then
    diagnose fun d => { d with
      duplicates := saturatingAdd u64Max d.duplicates 1
      lateResponses := saturatingAdd u64Max d.lateResponses 1 }
  else
    match s.active.get? event.probeId with
    | none => countForged
    | some active =>
      match active.stage with
      | .waiting purpose deadline => handleWaitingEvidence now event active purpose deadline
      | _ => countForged

/-- The probe of the event belongs to the generation that is being invalidated. -/
def ScanScheduler.eventInvalidated (s : ScanScheduler) (event : EvidenceEvent) : Bool :=
  match s.active.get? event.probeId, s.invalidatingGeneration with
  | some active, some filter => filter.matches active.context.generation
  | _, _ => false

/-- Goes on with a pending invalidation.  Answers whether the event is for a probe that it has not reached yet. -/
def settleInvalidatedEvent (now : Nat) (event : EvidenceEvent) : Method τ ρ σ Bool := do
  let s ← scheduler
  if s.invalidatingGeneration.isSome then do
    freshReport
    settleContextInvalidation now
    let s' ← scheduler
    pure (s.eventInvalidated event && s'.active.contains event.probeId)
  else pure false

def deadlineStop : StopState := ⟨.sessionDeadline, .sessionDeadline, .completed⟩

def handleEvidence (now : Nat) (event : EvidenceEvent) : Method τ ρ σ Unit := do
  observeNow now
  pruneGrace now
  freshReport
  pruneProgrammeGrace now
  whenever (fun s => s.deadlineReached now && !s.isTerminal && s.stop.isNone) do
    initiateStop deadlineStop
    freshReport
    settleStop now
  let s ← scheduler
  if s.stop.isSome then countLate
  else do
    let discarded ← settleInvalidatedEvent now event
    if discarded then countForged else handleCorrelatedEvidence now event

end Evidence

/-! ### Drive -/

def earlier (left right : Option Nat) : Option Nat :=
  match left, right with
  | some left, some right => some (if left ≤ right then left else right)
  | some value, none => some value
  | none, some value => some value
  | none, none => none

namespace ActiveStage

def waitingDeadline : ActiveStage → Option Nat
  | waiting _ deadline => some deadline
  | _ => none

def isPending : ActiveStage → Bool
  | pending _ => true
  | _ => false

def isPendingFrame : ActiveStage → Bool
  | waiting _ _ => false
  | _ => true

end ActiveStage

namespace ScanScheduler

/-- The wakeup without the token boundary. -/
def nextDeadline (s : ScanScheduler) (now : Nat) : Option Nat :=
  let start := if s.stop.isSome || s.invalidatingGeneration.isSome then some now else s.sessionDeadline
  let plain := s.active.values.foldl (fun next active => earlier next active.stage.waitingDeadline) start
  let waiting := s.physical.values.foldl (fun next physical => earlier next physical.stage.waitingDeadline) plain
  if s.lifecycle = .running then
    let grace := earlier waiting s.grace.values.min?
    let programmeGrace := earlier grace (s.programmeGrace.values.map ProgrammeGrace.expires).min?
    earlier programmeGrace (s.adaptiveNotBefore.values.filter fun value => decide (now < value)).min?
  else waiting

def hasPendingFrame (s : ScanScheduler) (now : Nat) : Bool :=
  s.active.values.any (fun active => active.stage.isPendingFrame) ||
    s.physical.values.any (fun physical => physical.stage.isPending) || s.canScheduleProgrammeVariant now

def canAdmit (s : ScanScheduler) : Bool :=
  !s.contextWaiting && !s.sinkBackpressured &&
    (decide (s.cursor < s.plan.logicalProbeCount) || !s.deferred.isEmpty)

def reportOf (s : ScanScheduler) (report : MutableReport) (nextWakeup : Option Nat) : DriveReport where
  lifecycle := s.lifecycle
  transitions := report.transitions
  emissions := report.emissions
  results := report.results
  outstanding := s.outstandingPhysical
  deferred := s.deferred.length
  grace := s.grace.size + s.programmeGrace.size
  sinkBackpressured := s.sinkBackpressured
  contextWaiting := s.contextWaiting
  nextWakeup := nextWakeup

end ScanScheduler

def nextReady (now : Nat) : Method τ ρ σ Nat := do
  let s ← scheduler
  let bucket ← ensure s.bucket .invalidLifecycle
  update fun s => { s with bucket := some (bucket.nextReady now).2 }
  lift (bucket.nextReady now).1

def makeReport (now : Nat) : Method τ ρ σ DriveReport := do
  let s ← scheduler
  let r ← report
  if s.isTerminal then pure (s.reportOf r none)
  else if s.lifecycle = .running ∧ (s.hasPendingFrame now || s.canAdmit) = true then do
    let tokenReady ← nextReady now
    pure (s.reportOf r (earlier (s.nextDeadline now) (some tokenReady)))
  else pure (s.reportOf r (s.nextDeadline now))

/-- A requested pause takes effect. -/
def enterPause : Method τ ρ σ Unit := do
  let before ← report
  let s ← scheduler
  update fun s => { s with lifecycle := .paused }
  charge 1 0 0
  record (.reached .pause s before)

section Drive

variable [ProbeTransport τ] [ContextResolver ρ] [ResultSink σ]

/-- The transmitting part of a drive. -/
def transmit (now : Nat) : Method τ ρ σ Unit := do
  emitPending now
  whenever (fun s => !s.contextWaiting) (admitCandidates now)
  emitPending now

def catchUp (now : Nat) : Method τ ρ σ Unit := do
  pruneProgrammeGrace now
  update fun s => { s with sinkBackpressured := false }
  whenever (fun s => s.lifecycle == .pausing) enterPause
  whenever (fun s => s.deadlineReached now && !s.isTerminal && s.stop.isNone) (initiateStop deadlineStop)
  whenever (fun s => s.stop.isSome) (settleStop now)
  whenever (fun s => s.stop.isNone && s.invalidatingGeneration.isSome) (settleContextInvalidation now)
  whenever (fun s => !s.isTerminal && s.stop.isNone && s.invalidatingGeneration.isNone) (processTimeouts now)

def advance (now : Nat) : Method τ ρ σ Unit := do
  catchUp now
  whenever (fun s => s.lifecycle == .running) (transmit now)
  completeIfFinished

def drive (now : Nat) : Method τ ρ σ DriveReport := do
  let s ← scheduler
  if s.lifecycle = .created ∨ s.lifecycle = .closed then fail .invalidLifecycle
  else do
    observeNow now
    pruneGrace now
    freshReport
    advance now
    makeReport now

end Drive

/-! ### Other operations -/

def start (now : Nat) : Method τ ρ σ Unit := do
  let s ← scheduler
  if s.lifecycle ≠ .created then fail .invalidLifecycle
  else do
    observeNow now
    let deadline ← ensure (MonotonicTime.checkedAdd now s.config.sessionDeadline) .deadlineOverflow
    update fun s => { s with sessionDeadline := some deadline }
    match TokenBucket.new s.config.ratePerSecond s.config.burst now with
    | .error e => fail (.config e)
    | .ok bucket => update fun s => { s with bucket := some bucket, lifecycle := .running }

def requestPause : Method τ ρ σ Unit := do
  let s ← scheduler
  if s.lifecycle ≠ .running then fail .invalidLifecycle
  else update fun s => { s with lifecycle := .pausing }

def resume : Method τ ρ σ Unit := do
  let s ← scheduler
  if s.lifecycle ≠ .paused then fail .invalidLifecycle
  else update fun s => { s with lifecycle := .running }

def contextRestored : Method τ ρ σ Unit :=
  whenever (fun s => s.invalidatingGeneration.isNone) (update fun s => { s with contextWaiting := false })

def recordDiagnostic (kind : DiagnosticKind) : Method τ ρ σ Unit :=
  diagnose fun d =>
    match kind with
    | .forgedOrUnrelated => { d with forgedOrUnrelated := saturatingAdd u64Max d.forgedOrUnrelated 1 }
    | .nonFirstFragment => { d with nonFirstFragment := saturatingAdd u64Max d.nonFirstFragment 1 }
    | .opaqueProtocol => { d with opaqueProtocol := saturatingAdd u64Max d.opaqueProtocol 1 }
    | .insufficientQuote => { d with insufficientQuote := saturatingAdd u64Max d.insufficientQuote 1 }

section Stopping

variable [ResultSink σ]

def invalidateContext (now : Nat) (generation : Option Nat) : Method τ ρ σ Unit := do
  observeNow now
  update fun s => { s with contextWaiting := true }
  diagnose fun d => { d with contextInvalidations := saturatingAdd u64Max d.contextInvalidations 1 }
  let s ← scheduler
  let filter := (generation.map GenerationFilter.exact).getD .all
  if s.invalidatingGeneration.any fun active => active != filter then fail .invalidContext
  else do
    update fun s => { s with invalidatingGeneration := some filter }
    freshReport
    settleContextInvalidation now

def cancel (now : Nat) : Method τ ρ σ Unit := do
  let s ← scheduler
  if s.lifecycle = .running ∨ s.lifecycle = .pausing ∨ s.lifecycle = .paused then do
    observeNow now
    initiateStop ⟨.cancelled, .cancelled, .completed⟩
    freshReport
    settleStop now
  else fail .invalidLifecycle

def transportFailed (now code : Nat) : Method τ ρ σ Unit := do
  let s ← scheduler
  if s.isTerminal || s.stop.isSome then pure ()
  else do
    observeNow now
    freshReport
    failTransport now code

def contextFailed (now : Nat) : Method τ ρ σ Unit := do
  let s ← scheduler
  if s.isTerminal || s.stop.isSome then pure ()
  else do
    observeNow now
    initiateStop ⟨.contextInvalidated, .contextInvalidated, .failed⟩
    freshReport
    settleStop now

/-- The bytes reserved for all programmes, unless the sum overflows. -/
def ScanScheduler.programmeBytes (s : ScanScheduler) : Option Nat :=
  s.programmes.values.foldl (fun total logical => total.bind fun n => checkedAdd u64Max n logical.reservationBytes)
    (some 0)

def close : Method τ ρ σ Unit := do
  let s ← scheduler
  if s.lifecycle = .closed then pure ()
  else do
    releaseReserved s.active.size
    let bytes ← ensure s.programmeBytes .stateCapacityExceeded
    releaseReservedWithBytes s.programmes.size bytes
    update fun s => { s with
      active := ∅
      grace := ∅
      programmes := ∅
      programmeReady := []
      physical := ∅
      programmeGrace := ∅
      deferred := []
      perTarget := ∅
      perPrefix := ∅
      stop := none
      invalidatingGeneration := none
      lifecycle := .closed }

end Stopping

/-! ### Runs -/

/-- The public operations that change a session; `now` is what the clock shows. -/
inductive Op where
  | start (now : Nat)
  | requestPause
  | resume
  | contextRestored
  | drive (now : Nat)
  | handleEvidence (now : Nat) (event : EvidenceEvent)
  | recordDiagnostic (kind : DiagnosticKind)
  | invalidateContext (now : Nat) (generation : Option Nat)
  | cancel (now : Nat)
  | transportFailed (now code : Nat)
  | contextFailed (now : Nat)
  | close
deriving DecidableEq

variable [ProbeTransport τ] [ContextResolver ρ] [ResultSink σ]

def Op.method : Op → Method τ ρ σ Unit
  | start now => Engine.start now
  | requestPause => Engine.requestPause
  | resume => Engine.resume
  | contextRestored => Engine.contextRestored
  | drive now => (fun _ => ()) <$> Engine.drive now
  | handleEvidence now event => Engine.handleEvidence now event
  | recordDiagnostic kind => Engine.recordDiagnostic kind
  | invalidateContext now generation => Engine.invalidateContext now generation
  | cancel now => Engine.cancel now
  | transportFailed now code => Engine.transportFailed now code
  | contextFailed now => Engine.contextFailed now
  | close => Engine.close

/-- The session that an operation leaves, whether it succeeds or fails. -/
def perform (op : Op) (w : Session τ ρ σ) : Session τ ρ σ :=
  match op.method w with
  | .ok _ w' => w'
  | .error _ w' => w'

def Succeeds (op : Op) (w : Session τ ρ σ) : Prop :=
  match op.method w with
  | .ok _ _ => True
  | .error _ _ => False

/-- A session around a scheduler that was just built. -/
structure Initial (w : Session τ ρ σ) : Prop where
  built : ∃ plan config permutation, ScanScheduler.new plan config permutation = .ok w.scheduler
  history : w.history = []

/-- A sequence of operations, each allowed by `C` in the session it starts from. -/
inductive Run (C : Session τ ρ σ → Op → Prop) : Session τ ρ σ → Session τ ρ σ → Prop where
  | refl (w : Session τ ρ σ) : Run C w w
  | step {w w' : Session τ ρ σ} (h : Run C w w') (op : Op) (allowed : C w' op) : Run C w (perform op w')

def Reachable (w : Session τ ρ σ) : Prop := ∃ w₀, Initial w₀ ∧ Run (fun _ _ => True) w₀ w

end NodeNet.Engine
