import NodeNet.Base.OrdMap
import NodeNet.Base.Program
import NodeNet.Engine.Permutation
import NodeNet.Engine.Plan
import NodeNet.Engine.Timing

/-!
# Scheduler state, collaborators and sessions

A `Session` is a scheduler together with the states of its three collaborators.  Its `history` lists, newest first,
every call made to a collaborator with the answer, and the `Point`s of the scheduler's own control flow that the
results refer to.  The history is never read by the scheduler.

The scheduler's methods are programs over sessions: a method that returns an error leaves the changes it made
before.
-/

namespace NodeNet.Engine

/-! ### Scheduler state -/

structure PendingTerminal where
  outcome : ProbeOutcome
  strength : Option EvidenceStrength
  rtt : Option Nat
  reason : TerminalReason
deriving DecidableEq

inductive ActiveStage where
  | pending (purpose : EmissionPurpose)
  | waiting (purpose : EmissionPurpose) (deadline : Nat)
  | pendingCleanup (terminal : PendingTerminal)
deriving DecidableEq

structure ActiveProbe where
  probe : LogicalProbe
  context : ResolvedContext
  stage : ActiveStage
  stageTransmissions : Nat
  totalTransmissions : Nat
  lastProbeSentAt : Option Nat
deriving DecidableEq

structure ProgrammePhysical where
  logicalId : Nat
  variant : UdpProbeVariant
  stage : ActiveStage
  transmissions : Nat
  lastSentAt : Option Nat
deriving DecidableEq

structure ProgrammeBest where
  rank : Nat
  state : NetworkState
  strength : Option EvidenceStrength
  reason : TerminalReason
  responseKind : UdpResponseKind
  variant : UdpProbeVariant
  rtt : Option Nat
  service : Option UdpServiceEvidence
deriving DecidableEq

structure ProgrammeLogical where
  probe : LogicalProbe
  context : ResolvedContext
  variantCount : Nat
  nextVariant : Nat
  active : Nat
  grace : Nat
  attempted : Nat
  transmissions : Nat
  contradictions : Nat
  best : Option ProgrammeBest
  reservationBytes : Nat
  neighborReady : Bool
  stopUnsent : Bool
  softServiceFamily : Option Nat
deriving DecidableEq

structure ProgrammeGrace where
  logicalId : Nat
  expires : Nat
  variant : UdpProbeVariant
  lastSentAt : Option Nat
deriving DecidableEq

structure StopState where
  outcome : ProbeOutcome
  reason : TerminalReason
  finalLifecycle : SessionLifecycle
deriving DecidableEq

inductive GenerationFilter where
  | all
  | exact (generation : Nat)
deriving DecidableEq

def GenerationFilter.matches : GenerationFilter → Nat → Bool
  | all, _ => true
  | exact expected, generation => generation == expected

structure ScanScheduler where
  plan : ScanPlan
  config : SchedulerConfig
  permutation : SeededPermutation
  lifecycle : SessionLifecycle
  sessionDeadline : Option Nat
  lastNow : Option Nat
  cursor : Nat
  active : OrdMap Nat ActiveProbe
  grace : OrdMap Nat Nat
  programmes : OrdMap Nat ProgrammeLogical
  programmeReady : List Nat
  physical : OrdMap Nat ProgrammePhysical
  programmeGrace : OrdMap Nat ProgrammeGrace
  nextWireId : Nat
  deferred : List LogicalProbe
  perTarget : OrdMap ScanTarget Nat
  perPrefix : OrdMap PrefixKey Nat
  adaptiveIcmpSeen : OrdMap ScanTarget Nat
  adaptiveNotBefore : OrdMap ScanTarget Nat
  bucket : Option TokenBucket
  rtt : RttEstimator
  diagnostics : DiagnosticCounters
  contextWaiting : Bool
  sinkBackpressured : Bool
  stop : Option StopState
  invalidatingGeneration : Option GenerationFilter

/-- The scheduler of a session that was not started yet. -/
def ScanScheduler.fresh (plan : ScanPlan) (config : SchedulerConfig) (permutation : SeededPermutation) :
    ScanScheduler where
  plan := plan
  config := config
  permutation := permutation
  lifecycle := .created
  sessionDeadline := none
  lastNow := none
  cursor := 0
  active := ∅
  grace := ∅
  programmes := ∅
  programmeReady := []
  physical := ∅
  programmeGrace := ∅
  nextWireId := plan.logicalProbeCount
  deferred := []
  perTarget := ∅
  perPrefix := ∅
  adaptiveIcmpSeen := ∅
  adaptiveNotBefore := ∅
  bucket := none
  rtt := {}
  diagnostics := {}
  contextWaiting := false
  sinkBackpressured := false
  stop := none
  invalidatingGeneration := none

def ScanScheduler.new (plan : ScanPlan) (config : SchedulerConfig) (permutation : SeededPermutation) :
    Except EngineError ScanScheduler :=
  match config.validate with
  | .error e => .error (.config e)
  | .ok config =>
    if permutation.length ≠ plan.logicalProbeCount then .error (.plan .logicalProbeIndexOutOfRange)
    else .ok (fresh plan config permutation)

structure MutableReport where
  transitions : Nat := 0
  emissions : Nat := 0
  results : Nat := 0
deriving DecidableEq

/-! ### Collaborators -/

class ProbeTransport (τ : Type) where
  emit : τ → ProbeEmission → Except TransportFailure Unit × τ
  retire : τ → Nat → τ := fun t _ => t

class ContextResolver (ρ : Type) where
  resolve : ρ → LogicalProbe → Except ContextFailure ContextResolution × ρ

class ResultSink (σ : Type) where
  tryReserve : σ → Except SinkFailure SinkReservation × σ
  tryReserveWithBytes : σ → Nat → Except SinkFailure SinkReservation × σ := fun s _ => tryReserve s
  commitReserved : σ → ScanResult → Except SinkFailure Unit × σ
  commitReservedWithBytes : σ → ScanResult → Nat → Nat → Except SinkFailure Unit × σ :=
    fun s r _ _ => commitReserved s r
  releaseReserved : σ → Nat → Except SinkFailure Unit × σ
  releaseReservedWithBytes : σ → Nat → Nat → Except SinkFailure Unit × σ := fun s n _ => releaseReserved s n

/-! ### Sessions -/

/-- Places of the control flow that the history marks. -/
inductive Point where
  | stop (stop : StopState)
  /-- A drive has turned a requested pause into a pause. -/
  | pause
  /-- Handshake evidence is about to run the emission queue for its reset frame. -/
  | resetCleanup (id now : Nat)
  /-- A reset frame was sent and its probe terminalized. -/
  | cleanup (id : Nat)
  /-- A programme without eligible variants was admitted and settled. -/
  | emptyProgramme (id : Nat)
  /-- A programme is about to be settled. -/
  | settleProgramme (id : Nat)
  /-- A programme is about to be aborted. -/
  | abortProgramme (id : Nat)
  /-- A frame of a programme is about to be sent. -/
  | emission (wireId now : Nat)
  /-- Evidence has passed to a request of a programme. -/
  | programmeEvidence (wireId now : Nat)

inductive Event where
  | resolve (probe : LogicalProbe) (answer : Except ContextFailure ContextResolution)
  | tryReserve (answer : Except SinkFailure SinkReservation)
  | tryReserveWithBytes (bytes : Nat) (answer : Except SinkFailure SinkReservation)
  | commitReserved (result : ScanResult) (answer : Except SinkFailure Unit)
  | commitReservedWithBytes (result : ScanResult) (actual reserved : Nat) (answer : Except SinkFailure Unit)
  | releaseReserved (count : Nat) (answer : Except SinkFailure Unit)
  | releaseReservedWithBytes (count bytes : Nat) (answer : Except SinkFailure Unit)
  | emit (emission : ProbeEmission) (answer : Except TransportFailure Unit)
  | retire (probeId : Nat)
  /-- A point of the control flow with the scheduler and the report as they were when it was entered. -/
  | reached (point : Point) (scheduler : ScanScheduler) (report : MutableReport)

/-- How a method ends early: an error value, or a failed `expect`. -/
inductive Fault where
  | error (error : EngineError)
  | panic (message : String)
deriving DecidableEq

structure Session (τ ρ σ : Type) where
  scheduler : ScanScheduler
  report : MutableReport
  history : List Event
  transport : τ
  resolver : ρ
  sink : σ

/-- What was added to the history since `w`, newest first. -/
def Session.added {τ ρ σ : Type} (w w' : Session τ ρ σ) : List Event :=
  w'.history.take (w'.history.length - w.history.length)

theorem Session.added_eq {τ ρ σ : Type} {w w' : Session τ ρ σ} {events : List Event}
    (h : w'.history = events ++ w.history) : w.added w' = events := by
  rw [Session.added, h, List.length_append, Nat.add_sub_cancel]
  exact List.take_left' rfl

abbrev Method (τ ρ σ : Type) := EStateM Fault (Session τ ρ σ)

variable {τ ρ σ α : Type}

def scheduler : Method τ ρ σ ScanScheduler := fun w => .ok w.scheduler w

def update (f : ScanScheduler → ScanScheduler) : Method τ ρ σ Unit :=
    fun w => .ok () { w with scheduler := f w.scheduler }

def report : Method τ ρ σ MutableReport := fun w => .ok w.report w

/-- A method that starts its own report. -/
def freshReport : Method τ ρ σ Unit := fun w => .ok () { w with report := {} }

def charge (transitions emissions results : Nat) : Method τ ρ σ Unit := fun w =>
  .ok () { w with report :=
    ⟨w.report.transitions + transitions, w.report.emissions + emissions, w.report.results + results⟩ }

def record (e : Event) : Method τ ρ σ Unit := fun w => .ok () { w with history := e :: w.history }

def reach (p : Point) : Method τ ρ σ Unit := fun w =>
  .ok () { w with history := .reached p w.scheduler w.report :: w.history }

def fail (e : EngineError) : Method τ ρ σ α := throw (.error e)

def ensure (o : Option α) (e : EngineError) : Method τ ρ σ α :=
  match o with
  | some a => pure a
  | none => fail e

def expect (o : Option α) (message : String) : Method τ ρ σ α :=
  match o with
  | some a => pure a
  | none => throw (.panic message)

/-- Runs `m` if the scheduler satisfies `p`. -/
def whenever (p : ScanScheduler → Bool) (m : Method τ ρ σ Unit) : Method τ ρ σ Unit := do
  let s ← scheduler
  if p s then m else pure ()

section Calls

variable [ProbeTransport τ] [ContextResolver ρ] [ResultSink σ]

def emit (emission : ProbeEmission) : Method τ ρ σ (Except TransportFailure Unit) := fun w =>
  let (answer, transport) := ProbeTransport.emit w.transport emission
  .ok answer { w with transport := transport, history := .emit emission answer :: w.history }

def retire (probeId : Nat) : Method τ ρ σ Unit := fun w =>
  .ok () { w with
    transport := ProbeTransport.retire w.transport probeId
    history := .retire probeId :: w.history }

def resolve (probe : LogicalProbe) : Method τ ρ σ (Except ContextFailure ContextResolution) := fun w =>
  let (answer, resolver) := ContextResolver.resolve w.resolver probe
  .ok answer { w with resolver := resolver, history := .resolve probe answer :: w.history }

def tryReserve : Method τ ρ σ (Except SinkFailure SinkReservation) := fun w =>
  let (answer, sink) := ResultSink.tryReserve w.sink
  .ok answer { w with sink := sink, history := .tryReserve answer :: w.history }

def tryReserveWithBytes (bytes : Nat) : Method τ ρ σ (Except SinkFailure SinkReservation) := fun w =>
  let (answer, sink) := ResultSink.tryReserveWithBytes w.sink bytes
  .ok answer { w with sink := sink, history := .tryReserveWithBytes bytes answer :: w.history }

/-- The answer of a sink as the outcome of a method. -/
def sinkOutcome (answer : Except SinkFailure Unit) (w : Session τ ρ σ) :
    EStateM.Result Fault (Session τ ρ σ) Unit :=
  match answer with
  | .ok () => .ok () w
  | .error failure => .error (.error (.sink failure)) w

def commitReserved (result : ScanResult) : Method τ ρ σ Unit := fun w =>
  let (answer, sink) := ResultSink.commitReserved w.sink result
  sinkOutcome answer { w with sink := sink, history := .commitReserved result answer :: w.history }

def commitReservedWithBytes (result : ScanResult) (actual reserved : Nat) : Method τ ρ σ Unit := fun w =>
  let (answer, sink) := ResultSink.commitReservedWithBytes w.sink result actual reserved
  sinkOutcome answer
    { w with sink := sink, history := .commitReservedWithBytes result actual reserved answer :: w.history }

def releaseReserved (count : Nat) : Method τ ρ σ Unit := fun w =>
  let (answer, sink) := ResultSink.releaseReserved w.sink count
  sinkOutcome answer { w with sink := sink, history := .releaseReserved count answer :: w.history }

def releaseReservedWithBytes (count bytes : Nat) : Method τ ρ σ Unit := fun w =>
  let (answer, sink) := ResultSink.releaseReservedWithBytes w.sink count bytes
  sinkOutcome answer { w with sink := sink, history := .releaseReservedWithBytes count bytes answer :: w.history }

end Calls

end NodeNet.Engine
