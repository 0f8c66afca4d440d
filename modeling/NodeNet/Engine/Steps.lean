import NodeNet.Engine.Rules

/-!
# The steps of a session

`Step` lists everything that the methods of the scheduler do to the scheduler and to the history, as transitions
between states in which no bookkeeping is half done.  Every method is a path of such steps, so an invariant of the
steps is an invariant of all operations.

While a candidate is being looked at it is neither queued nor admitted; the `hand` of a `Core` holds it.
-/

namespace NodeNet.Engine

/-! ### Reading the history -/

/-- How a step goes: the method goes on, it disposes of the session, it returns an error, or it returns an error
and loses a lane, so that the counters are no longer in line with what they count. -/
inductive Kind where
  | kept
  | disposed
  | failed (error : EngineError)
  | leaked
deriving DecidableEq

def Kind.error : Kind → Option EngineError
  | kept => none
  | disposed => none
  | failed error => some error
  | leaked => some .deadlineOverflow

namespace Event

/-- Whether a call went well, or the error that the method returns at once. -/
def kind : Event → Kind
  | resolve _ (.error failure) => .failed (.context failure)
  | resolve probe (.ok (.ready context)) =>
    if validNeighborSetup probe context.neighborSetup then .kept else .failed .invalidContext
  | tryReserve (.error failure) => .failed (.sink failure)
  | tryReserveWithBytes _ (.error failure) => .failed (.sink failure)
  | commitReserved _ (.error failure) => .failed (.sink failure)
  | commitReservedWithBytes _ _ _ (.error failure) => .failed (.sink failure)
  | releaseReserved _ (.error failure) => .failed (.sink failure)
  | releaseReservedWithBytes _ _ (.error failure) => .failed (.sink failure)
  | _ => .kept

/-- The logical id whose result the event commits. -/
def committedId : Event → Option Nat
  | commitReserved result (.ok _) => some result.probe.logicalId
  | commitReservedWithBytes result _ _ (.ok _) => some result.probe.logicalId
  | _ => none

def releases : Event → Bool
  | releaseReserved _ _ => true
  | releaseReservedWithBytes _ _ _ => true
  | _ => false

def stops : Event → Bool
  | reached (.stop _) _ _ => true
  | _ => false

def sinkFails : Event → Bool
  | tryReserve (.error _) => true
  | tryReserveWithBytes _ (.error _) => true
  | commitReserved _ (.error _) => true
  | commitReservedWithBytes _ _ _ (.error _) => true
  | releaseReserved _ (.error _) => true
  | releaseReservedWithBytes _ _ (.error _) => true
  | _ => false

/-- The event ends normal operation: a stop, a close, or a sink failure. -/
def disrupts (e : Event) : Bool := e.releases || e.stops || e.sinkFails

/-- The event by itself moves no probe and no reservation, and the method goes on. -/
def neutral : Event → Bool
  | resolve _ _ => false
  | tryReserve (.ok .saturated) => true
  | tryReserve _ => false
  | tryReserveWithBytes _ (.ok .saturated) => true
  | tryReserveWithBytes _ _ => false
  | commitReserved _ _ => false
  | commitReservedWithBytes _ _ _ _ => false
  | releaseReserved _ _ => false
  | releaseReservedWithBytes _ _ _ => false
  | emit _ _ => false
  | retire _ => true
  | reached (.stop _) _ _ => false
  | reached _ _ _ => true

end Event

/-- The logical ids committed so far, newest first. -/
def committed (history : List Event) : List Nat := history.filterMap Event.committedId

def Undisturbed (history : List Event) : Prop := ∀ e ∈ history, e.disrupts = false

instance (history : List Event) : Decidable (Undisturbed history) :=
  inferInstanceAs (Decidable (∀ e ∈ history, e.disrupts = false))

/-! ### Counting lanes -/

namespace ScanScheduler

variable (s : ScanScheduler)

def lanes (logicalId : Nat) : Nat := s.physical.count fun _ physical => physical.logicalId == logicalId

def graceLanes (logicalId : Nat) : Nat := s.programmeGrace.count fun _ grace => grace.logicalId == logicalId

/-- The scheduler without the requests of a programme. -/
def withoutLanes (logicalId : Nat) (programmeReady : List Nat) (perTarget : OrdMap ScanTarget Nat)
    (perPrefix : OrdMap PrefixKey Nat) : ScanScheduler :=
  { s with
    physical := s.physical.retain fun _ physical => physical.logicalId != logicalId
    programmeGrace := s.programmeGrace.retain fun _ grace => grace.logicalId != logicalId
    programmeReady := programmeReady
    perTarget := perTarget
    perPrefix := perPrefix }

def disposed : ScanScheduler :=
  { s with
    active := ∅
    grace := ∅
    programmes := ∅
    programmeReady := []
    physical := ∅
    programmeGrace := ∅
    deferred := []
    perTarget := ∅
    perPrefix := ∅
    stop := none
    invalidatingGeneration := none
    lifecycle := .closed }

def stopping (stop : StopState) : ScanScheduler :=
  { s with
    cursor := s.plan.logicalProbeCount
    deferred := []
    invalidatingGeneration := none
    lifecycle := .cancelling
    stop := some stop }

theorem laneFree_iff {s : ScanScheduler} :
    s.laneFree = true ↔ s.active.size + s.physical.size < s.config.maxOutstanding ∧
      s.active.size + s.physical.size + s.grace.size + s.programmeGrace.size < s.config.maxGraceEntries := by
  rw [laneFree, Bool.and_eq_true, decide_eq_true_iff, decide_eq_true_iff]
  exact Iff.rfl

theorem hasRoom_iff {s : ScanScheduler} :
    s.hasRoom = true ↔ s.active.size + s.physical.size < s.config.maxOutstanding ∧
      s.active.size + s.programmes.size < s.config.maxOutstanding ∧
      s.active.size + s.physical.size + s.grace.size + s.programmeGrace.size < s.config.maxGraceEntries := by
  rw [hasRoom, Bool.and_eq_true, Bool.and_eq_true, decide_eq_true_iff, decide_eq_true_iff, decide_eq_true_iff,
    and_assoc]
  exact Iff.rfl

end ScanScheduler

/-- The counter of `key` went down by `n`, and no other counter changed. -/
def Lowered {κ : Type} [LinearOrder κ] (counts counts' : OrdMap κ Nat) (key : κ) (n : Nat) : Prop :=
  ∀ k, tally counts' k + (if k = key then n else 0) = tally counts k

/-- A programme agrees with the plan: its variants are those that its port is eligible for. -/
structure ProgrammeLogical.Planned (plan : ScanPlan) (l : ProgrammeLogical) : Prop where
  shape : ∃ p port, plan.udpProgrammeFor l.probe = some p ∧ l.probe.port = some port ∧
    l.variantCount = p.variantCountFor l.probe.target.address port
  next : l.nextVariant ≤ l.variantCount

/-- Two records of one programme that differ in its progress only. -/
structure ProgrammeLogical.Revises (l' l : ProgrammeLogical) : Prop where
  probe : l'.probe = l.probe
  context : l'.context = l.context
  variantCount : l'.variantCount = l.variantCount
  next : l'.nextVariant ≤ l.variantCount

/-- The two records agree on what is reported: the frames that were counted, and the best observation. -/
structure ProgrammeLogical.Keeps (l' l : ProgrammeLogical) : Prop where
  transmissions : l'.transmissions = l.transmissions
  best : l'.best = l.best

/-! ### Lifecycles -/

/-- The session was not stopped and has not ended. -/
def SessionLifecycle.live : SessionLifecycle → Bool
  | created | running | pausing | paused => true
  | cancelling | completed | failed | closed => false

/-- What a stop ends in. -/
def SessionLifecycle.ended : SessionLifecycle → Bool
  | completed | failed => true
  | created | running | pausing | paused | cancelling | closed => false

/-- A stop ends a session without a network outcome for the probes that it gives up. -/
structure StopState.Proper (stop : StopState) : Prop where
  final : stop.finalLifecycle.ended = true
  outcome : ∀ state, stop.outcome ≠ .network state

/-! ### Invalidation -/

namespace ScanScheduler

def invalidates (s : ScanScheduler) (generation : Nat) : Bool :=
  s.invalidatingGeneration.any fun filter => filter.matches generation

/-- The logical id of the programme that a request under way or kept for its grace belongs to. -/
def programmeOf (s : ScanScheduler) (wireId : Nat) : Option Nat :=
  ((s.programmeGrace.get? wireId).map ProgrammeGrace.logicalId).or
    ((s.physical.get? wireId).map ProgrammePhysical.logicalId)

/-- The request belongs to a programme whose generation is being invalidated. -/
def requestInvalidated (s : ScanScheduler) (wireId : Nat) : Bool :=
  ((s.programmeOf wireId).bind fun id => s.programmes.get? id).any fun l => s.invalidates l.context.generation

end ScanScheduler

/-- Evidence gets past an unfinished invalidation: it starts the emission queue for a reset frame, or it is passed
on to a programme that is still to be invalidated. -/
def Event.breaches : Event → Bool
  | .reached (.resetCleanup _ _) s _ => s.invalidatingGeneration.isSome
  | .reached (.programmeEvidence wireId _) s _ => s.requestInvalidated wireId
  | _ => false

/-- Evidence has got past an unfinished invalidation. -/
def Breached (history : List Event) : Prop := ∃ e ∈ history, e.breaches = true

/-- Nothing keeps evidence and frames for the generation back: no stop is pending, and the generation is not being
invalidated. -/
def ScanScheduler.Clear (s : ScanScheduler) (history : List Event) (generation : Nat) : Prop :=
  s.stop = none ∧ (s.invalidates generation = false ∨ Breached history)

theorem ScanScheduler.Clear.mono {s s' : ScanScheduler} {history history' : List Event} {generation : Nat}
    (h : s.Clear history generation) (hstop : s'.stop = s.stop)
    (hinvalidating : s'.invalidatingGeneration = s.invalidatingGeneration) (hhistory : history ⊆ history') :
    s'.Clear history' generation := by
  refine ⟨hstop.trans h.1, h.2.imp (fun hcurrent => ?_) (fun ⟨e, he, hb⟩ => ⟨e, hhistory he, hb⟩)⟩
  rw [ScanScheduler.invalidates, hinvalidating]
  exact hcurrent

/-! ### Frames -/

/-- A plain probe once a frame is counted for it. -/
def ActiveProbe.counting (a : ActiveProbe) (purpose : EmissionPurpose) : ActiveProbe :=
  { a with
    totalTransmissions := if a.probe.family ≠ .udp ∨ purpose = .probe then
      saturatingAdd u32Max a.totalTransmissions 1 else a.totalTransmissions }

/-- The emission is the frame that the plain probe under `id` has pending. -/
structure ActiveProbe.Frame (a : ActiveProbe) (id : Nat) (e : ProbeEmission) : Prop where
  probeId : e.probeId = id
  probe : e.probe = a.probe
  generation : e.routeGeneration = a.context.generation
  pending : a.stage = .pending e.purpose ∨ ∃ terminal, a.stage = .pendingCleanup terminal ∧
    e.purpose = .tcpResetCleanup

/-- The emission is the frame that the request under `wireId` of the programme `l` has pending. -/
structure ProgrammePhysical.Frame (p : ProgrammePhysical) (wireId : Nat) (l : ProgrammeLogical)
    (e : ProbeEmission) : Prop where
  probeId : e.probeId = wireId
  probe : e.probe = l.probe
  generation : e.routeGeneration = l.context.generation
  pending : p.stage = .pending e.purpose

/-- A programme once a frame of a request is counted for it; `sent` is how often the request was sent before. -/
def ProgrammeLogical.counting (l : ProgrammeLogical) (sent : Nat) : ProgrammeLogical :=
  { l with
    transmissions := l.transmissions + 1
    attempted := if sent = 0 then saturatingAdd u16Max l.attempted 1 else l.attempted }

/-- A frame that is sent for the request under `wireId` at `now` can be counted: it has a deadline, and the counter
of its programme has room. -/
def ScanScheduler.countable (s : ScanScheduler) (wireId now : Nat) : Bool :=
  match s.physical.get? wireId with
  | none => false
  | some p =>
    match s.timeoutFor p.transmissions with
    | .error _ => false
    | .ok timeout => (MonotonicTime.checkedAdd now timeout).isSome &&
        (s.programmes.get? p.logicalId).any fun l => (checkedAdd u32Max l.transmissions 1).isSome

/-- The programme counts the emission: the transport took it, and it can be counted. -/
def ScanScheduler.counts (s : ScanScheduler) (wireId now : Nat) (answer : Except TransportFailure Unit) : Bool :=
  match answer with
  | .ok () => s.countable wireId now
  | .error _ => false

/-! ### Steps -/

structure Core where
  scheduler : ScanScheduler
  history : List Event
  hand : Option LogicalProbe := none

/-- A candidate is rejected by a call that fails, or by a context that does not fit it: the events before and
after. -/
inductive Rejects (p : LogicalProbe) : List Event → List Event → EngineError → Prop where
  | unresolved {h : List Event} {answer : Except ContextFailure ContextResolution} {e : EngineError}
      (kind : (Event.resolve p answer).kind = .failed e) : Rejects p h (.resolve p answer :: h) e
  | unreserved {h : List Event} {context : ResolvedContext} {failure : SinkFailure} :
      Rejects p (.resolve p (.ok (.ready context)) :: h)
        (.tryReserve (.error failure) :: .resolve p (.ok (.ready context)) :: h) (.sink failure)

/-- Everything that methods do.  A step that is not `kept` is the last one of its operation. -/
inductive Step : Kind → Core → Core → Prop where
  /-- Fields that no probe, lane or counter depends on. -/
  | quiet {s h} {k : Option LogicalProbe} (lastNow sessionDeadline : Option Nat)
      (programmeReady : List Nat) (bucket : Option TokenBucket) (rtt : RttEstimator)
        (diagnostics : DiagnosticCounters)
      (contextWaiting sinkBackpressured : Bool) :
      Step .kept ⟨s, h, k⟩ ⟨{ s with
        lastNow := lastNow
        sessionDeadline := sessionDeadline
        programmeReady := programmeReady
        bucket := bucket
        rtt := rtt
        diagnostics := diagnostics
        contextWaiting := contextWaiting
        sinkBackpressured := sinkBackpressured }, h, k⟩
  | invalidating {s h} {filter : GenerationFilter} (free : ∀ f, s.invalidatingGeneration = some f → f = filter) :
      Step .kept ⟨s, h, none⟩ ⟨{ s with invalidatingGeneration := some filter }, h, none⟩
  | invalidated {s h} (active : ∀ {id a}, s.active.get? id = some a → s.invalidates a.context.generation = false)
      (programmes : ∀ {id l}, s.programmes.get? id = some l → s.invalidates l.context.generation = false) :
      Step .kept ⟨s, h, none⟩ ⟨{ s with invalidatingGeneration := none }, h, none⟩
  | called {s h} {k : Option LogicalProbe} {e : Event} (neutral : e.neutral = true) :
      Step .kept ⟨s, h, k⟩ ⟨s, e :: h, k⟩
  | resolved {s h} {p : LogicalProbe} {answer : Except ContextFailure ContextResolution}
      (kind : (Event.resolve p answer).kind = .kept) :
      Step .kept ⟨s, h, some p⟩ ⟨s, .resolve p answer :: h, some p⟩
  | released {s h} {e : Event} (releases : e.releases = true) : Step e.kind ⟨s, h, none⟩ ⟨s, e :: h, none⟩
  | pruned {s h} (p : Nat → Nat → Bool) : Step .kept ⟨s, h, none⟩ ⟨{ s with grace := s.grace.retain p }, h, none⟩
  /-- The lifecycle moves between running and paused. -/
  | moved {s h} {lifecycle : SessionLifecycle} (live : s.lifecycle.live = true) (next : lifecycle.live = true) :
      Step .kept ⟨s, h, none⟩ ⟨{ s with lifecycle := lifecycle }, h, none⟩
  | completed {s h} (running : s.lifecycle = .running)
      (cursor : s.cursor = s.plan.logicalProbeCount) (deferred : s.deferred = []) (active : s.active.size = 0)
      (programmes : s.programmes.size = 0) :
      Step .kept ⟨s, h, none⟩ ⟨{ s with lifecycle := .completed }, h, none⟩
  | stopInitiated {s h} (stop : StopState) (r : MutableReport) (live : s.lifecycle.live = true)
      (proper : stop.Proper) : Step .kept ⟨s, h, none⟩ ⟨s.stopping stop, .reached (.stop stop) s r :: h, none⟩
  | stopped {s h} {stop : StopState} (pending : s.stop = some stop)
      (active : s.active.size = 0) (programmes : s.programmes.size = 0) :
      Step .kept ⟨s, h, none⟩ ⟨{ s with lifecycle := stop.finalLifecycle, stop := none }, h, none⟩
  | closed {s h} (released : ∃ e ∈ h, e.releases = true) : Step .disposed ⟨s, h, none⟩ ⟨s.disposed, h, none⟩
  -- Plain probes
  | terminalized {s h} {id expires : Nat} {a : ActiveProbe} {result : ScanResult}
      {perTarget : OrdMap ScanTarget Nat} {perPrefix : OrdMap PrefixKey Nat} (held : s.active.get? id = some a)
      (probe : result.probe = a.probe) (fresh : s.grace.get? id = none)
      (target : Lowered s.perTarget perTarget a.probe.target 1)
      (prefixes : Lowered s.perPrefix perPrefix a.context.prefixKey 1)
      (reports : ∃ now terminal, result = a.result now terminal ∧ ∀ state, terminal.outcome = .network state →
        terminal.reason = .timeout ∨ s.Clear h a.context.generation) :
      Step .kept ⟨s, h, none⟩ ⟨{ s with
        active := s.active.erase id
        perTarget := perTarget
        perPrefix := perPrefix
        grace := s.grace.insert id expires }, .commitReserved result (.ok ()) :: h, none⟩
  | commitRefused {s h} {id : Nat} {a : ActiveProbe} {result : ScanResult}
      {failure : SinkFailure} (held : s.active.get? id = some a) (probe : result.probe = a.probe) :
      Step (.failed (.sink failure)) ⟨s, h, none⟩ ⟨s, .commitReserved result (.error failure) :: h, none⟩
  | restaged {s h} {id : Nat} {a a' : ActiveProbe} (held : s.active.get? id = some a)
      (probe : a'.probe = a.probe) (context : a'.context = a.context)
      (transmissions : a'.totalTransmissions = a.totalTransmissions) :
      Step .kept ⟨s, h, none⟩ ⟨s.setActive id a', h, none⟩
  | sent {s h} {id : Nat} {a : ActiveProbe} {emission : ProbeEmission}
      {answer : Except TransportFailure Unit} (held : s.active.get? id = some a)
      (clear : s.Clear h a.context.generation) (frame : a.Frame id emission) :
      Step .kept ⟨s, h, none⟩ ⟨s.setActive id (a.counting emission.purpose), .emit emission answer :: h, none⟩
  -- Admission
  | taken {s h} {p : LogicalProbe} {rest : List LogicalProbe}
      (live : s.lifecycle.live = true) (queued : s.deferred = p :: rest) :
        Step .kept ⟨s, h, none⟩ ⟨{ s with deferred := rest }, h, some p⟩
  | issued {s h} {id : Nat} {p : LogicalProbe}
      (live : s.lifecycle.live = true) (room : s.deferred.length < maxTransitionsPerDrive)
      (permuted : s.permutation.permute s.cursor = some id) (decoded : s.plan.logicalProbeAt id = .ok p) :
      Step .kept ⟨s, h, none⟩ ⟨{ s with cursor := s.cursor + 1 }, h, some p⟩
  | deferred {s h} {p : LogicalProbe} :
      Step .kept ⟨s, h, some p⟩ ⟨{ s with deferred := s.deferred ++ [p] }, h, none⟩
  | requeued {s h} {p : LogicalProbe} : Step .kept ⟨s, h, some p⟩ ⟨{ s with deferred := p :: s.deferred }, h, none⟩
  | rejected {s : ScanScheduler} {h h' : List Event} {p : LogicalProbe} {e : EngineError}
    (rejects : Rejects p h h' e) :
      Step (.failed e) ⟨s, h, some p⟩ ⟨{ s with deferred := p :: s.deferred }, h', none⟩
  | lost {s h} {p : LogicalProbe} {context : ResolvedContext} {bytes : Nat} {failure : SinkFailure} :
      Step (.failed (.sink failure)) ⟨s, .resolve p (.ok (.ready context)) :: h, some p⟩
        ⟨s, .tryReserveWithBytes bytes (.error failure) :: .resolve p (.ok (.ready context)) :: h, none⟩
  | admitted {s h} {p : LogicalProbe} {a : ActiveProbe} (probe : a.probe = p)
      (fresh : s.active.get? p.logicalId = none) (room : s.hasRoom = true)
      (target : tally s.perTarget p.target < s.config.maxPerTarget)
      (prefixes : tally s.perPrefix a.context.prefixKey < s.config.maxPerPrefix)
      (resolution : h.head? = some (.resolve p (.ok (.ready a.context)))) (unsent : a.totalTransmissions = 0) :
      Step .kept ⟨s, h, some p⟩ ⟨{ s with
        active := s.active.insert p.logicalId a
        perTarget := increment s.perTarget p.target
        perPrefix := increment s.perPrefix a.context.prefixKey }, .tryReserve (.ok .reserved) :: h, none⟩
  | opened {s h} {p : LogicalProbe} {l : ProgrammeLogical} {bytes : Nat}
      (probe : l.probe = p) (planned : l.Planned s.plan) (active : l.active = 0) (grace : l.grace = 0)
      (fresh : s.programmes.get? p.logicalId = none) (room : s.hasRoom = true)
      (resolution : h.head? = some (.resolve p (.ok (.ready l.context)))) (unsent : l.transmissions = 0)
      (unobserved : l.best = none) :
      Step .kept ⟨s, h, some p⟩
        ⟨s.setProgramme p.logicalId l, .tryReserveWithBytes bytes (.ok .reserved) :: h, none⟩
  -- Programmes
  | scheduled {s h} {physical : ProgrammePhysical} {l l' : ProgrammeLogical}
      (held : s.programmes.get? physical.logicalId = some l) (revises : l'.Revises l)
        (active : l'.active = l.active + 1)
      (grace : l'.grace = l.grace) (room : s.laneFree = true)
      (target : tally s.perTarget l.probe.target < s.config.maxPerTarget)
      (prefixes : tally s.perPrefix l.context.prefixKey < s.config.maxPerPrefix) (keeps : l'.Keeps l) :
      Step .kept ⟨s, h, none⟩ ⟨{ s with
        nextWireId := s.nextWireId + 1
        physical := s.physical.insert s.nextWireId physical
        programmes := s.programmes.insert physical.logicalId l'
        perTarget := increment s.perTarget l.probe.target
        perPrefix := increment s.perPrefix l.context.prefixKey }, h, none⟩
  | retired {s h} {wireId : Nat} {physical : ProgrammePhysical} {g : ProgrammeGrace}
      {l l' : ProgrammeLogical} {perTarget : OrdMap ScanTarget Nat} {perPrefix : OrdMap PrefixKey Nat}
      (sent : s.physical.get? wireId = some physical) (held : s.programmes.get? physical.logicalId = some l)
      (names : g.logicalId = physical.logicalId) (revises : l'.Revises l) (active : l'.active + 1 = l.active)
      (grace : l'.grace = l.grace + 1) (target : Lowered s.perTarget perTarget l.probe.target 1)
      (prefixes : Lowered s.perPrefix perPrefix l.context.prefixKey 1) (keeps : l'.Keeps l) :
      Step .kept ⟨s, h, none⟩ ⟨{ s with
        physical := s.physical.erase wireId
        programmes := s.programmes.insert physical.logicalId l'
        perTarget := perTarget
        perPrefix := perPrefix
        programmeGrace := s.programmeGrace.insert wireId g }, h, none⟩
  /-- The grace of a request overflows the clock: its lane is lost, and the counters keep it. -/
  | leaked {s h} {wireId : Nat} {physical : ProgrammePhysical} (sent : s.physical.get? wireId = some physical) :
      Step .leaked ⟨s, h, none⟩ ⟨{ s with physical := s.physical.erase wireId }, h, none⟩
  | resent {s h} {wireId : Nat} {physical physical' : ProgrammePhysical}
      (sent : s.physical.get? wireId = some physical) (names : physical'.logicalId = physical.logicalId) :
      Step .kept ⟨s, h, none⟩ ⟨s.setPhysical wireId physical', h, none⟩
  | revised {s h} {id : Nat} {l l' : ProgrammeLogical}
      (held : s.programmes.get? id = some l) (revises : l'.Revises l) (active : l'.active = l.active)
      (grace : l'.grace = l.grace) (keeps : l'.Keeps l) : Step .kept ⟨s, h, none⟩ ⟨s.setProgramme id l', h, none⟩
  | observed {s h} {id : Nat} {l : ProgrammeLogical} {candidate : ProgrammeBest}
      (held : s.programmes.get? id = some l) (revises : (l.observe candidate).Revises l)
      (clear : s.Clear h l.context.generation) :
      Step .kept ⟨s, h, none⟩ ⟨s.setProgramme id (l.observe candidate), h, none⟩
  /-- A frame of a programme is handed to the transport, and the programme counts it. -/
  | tallied {s h} {wireId now : Nat} {p : ProgrammePhysical} {l : ProgrammeLogical}
      {emission : ProbeEmission} {answer : Except TransportFailure Unit} {r : MutableReport}
      (request : s.physical.get? wireId = some p) (held : s.programmes.get? p.logicalId = some l)
      (revises : (l.counting p.transmissions).Revises l) (clear : s.Clear h l.context.generation)
      (frame : p.Frame wireId l emission) (purpose : emission.purpose = .probe)
      (counts : s.counts wireId now answer = true) :
      Step .kept ⟨s, h, none⟩ ⟨s.setProgramme p.logicalId (l.counting p.transmissions),
        .emit emission answer :: .reached (.emission wireId now) s r :: h, none⟩
  | untallied {s h} {wireId now : Nat} {p : ProgrammePhysical} {l : ProgrammeLogical}
      {emission : ProbeEmission} {answer : Except TransportFailure Unit} {r : MutableReport}
      (request : s.physical.get? wireId = some p) (held : s.programmes.get? p.logicalId = some l)
      (clear : s.Clear h l.context.generation) (frame : p.Frame wireId l emission)
      (counts : emission.purpose = .probe → s.counts wireId now answer = false) :
      Step .kept ⟨s, h, none⟩ ⟨s, .emit emission answer :: .reached (.emission wireId now) s r :: h, none⟩
  | expired {s h} {wireId : Nat} {g : ProgrammeGrace} {l l' : ProgrammeLogical}
      (kept : s.programmeGrace.get? wireId = some g) (held : s.programmes.get? g.logicalId = some l)
      (revises : l'.Revises l) (active : l'.active = l.active) (grace : l'.grace + 1 = l.grace)
        (keeps : l'.Keeps l) :
      Step .kept ⟨s, h, none⟩ ⟨{ s with
        programmeGrace := s.programmeGrace.erase wireId
        programmes := s.programmes.insert g.logicalId l' }, .retire wireId :: h, none⟩
  | finished {s h} {id : Nat} {l l' : ProgrammeLogical} {programmeReady : List Nat}
      {perTarget : OrdMap ScanTarget Nat} {perPrefix : OrdMap PrefixKey Nat} (held : s.programmes.get? id = some l)
      (revises : l'.Revises l) (active : l'.active = 0) (grace : l'.grace = 0)
      (target : Lowered s.perTarget perTarget l.probe.target (s.lanes id))
      (prefixes : Lowered s.perPrefix perPrefix l.context.prefixKey (s.lanes id)) (keeps : l'.Keeps l) :
      Step .kept ⟨s, h, none⟩ ⟨(s.withoutLanes id programmeReady perTarget perPrefix).setProgramme id l', h, none⟩
  | settled {s h} {id actual : Nat} {l : ProgrammeLogical} {result : ScanResult} {r : MutableReport}
      (held : s.programmes.get? id = some l) (active : l.active = 0) (grace : l.grace = 0)
      (probe : result.probe = l.probe) (reports : ∃ now, result = l.settlement now) :
      Step .kept ⟨s, h, none⟩
        ⟨ScanScheduler.pruneAdaptiveTargetState { s with programmes := s.programmes.erase id } l.probe.target,
          .commitReservedWithBytes result actual l.reservationBytes (.ok ()) :: .reached
            (.settleProgramme id) s r :: h,
          none⟩
  | settleRefused {s h} {id actual : Nat} {l : ProgrammeLogical} {result : ScanResult}
      {failure : SinkFailure} {r : MutableReport} (held : s.programmes.get? id = some l) (active : l.active = 0)
      (grace : l.grace = 0) (probe : result.probe = l.probe) :
      Step (.failed (.sink failure)) ⟨s, h, none⟩ ⟨{ s with programmes := s.programmes.erase id },
        .commitReservedWithBytes result actual l.reservationBytes (.error failure) ::
          .reached (.settleProgramme id) s r :: h, none⟩
  | aborted {s h} {id : Nat} {l : ProgrammeLogical} {result : ScanResult}
      {answer : Except SinkFailure Unit} {r : MutableReport} {programmeReady : List Nat}
      {perTarget : OrdMap ScanTarget Nat} {perPrefix : OrdMap PrefixKey Nat} (held : s.programmes.get? id = some l)
      (probe : result.probe = l.probe) (target : Lowered s.perTarget perTarget l.probe.target (s.lanes id))
      (prefixes : Lowered s.perPrefix perPrefix l.context.prefixKey (s.lanes id))
      (reports : ∃ now outcome reason, result = l.aborted now outcome reason ∧ ∀ state, outcome ≠ .network state) :
      Step (Event.commitReservedWithBytes result 0 l.reservationBytes answer).kind ⟨s, h, none⟩
        ⟨{ s.withoutLanes id programmeReady perTarget perPrefix with programmes := s.programmes.erase id },
          .commitReservedWithBytes result 0 l.reservationBytes answer :: .reached (.abortProgramme id) s r :: h,
            none⟩
  -- Pacing
  | icmpNoted {s h} {id n : Nat} {l : ProgrammeLogical} (held : s.programmes.get? id = some l) :
      Step .kept ⟨s, h, none⟩ ⟨{ s with adaptiveIcmpSeen := s.adaptiveIcmpSeen.insert l.probe.target n }, h, none⟩
  | paced {s h} {id deadline : Nat} {l : ProgrammeLogical} (held : s.programmes.get? id = some l) :
      Step .kept ⟨s, h, none⟩
        ⟨{ s with adaptiveNotBefore := s.adaptiveNotBefore.insert l.probe.target deadline }, h, none⟩

theorem Event.kind_cases (e : Event) : e.kind = .kept ∨ ∃ error, e.kind = .failed error := by
  unfold Event.kind
  split
  · exact Or.inr ⟨_, rfl⟩
  · split
    · exact Or.inl rfl
    · exact Or.inr ⟨_, rfl⟩
  all_goals first | exact Or.inl rfl | exact Or.inr ⟨_, rfl⟩

theorem Event.kind_ne_leaked (e : Event) : e.kind ≠ .leaked := by
  rcases e.kind_cases with h | ⟨_, h⟩ <;> simp [h]

theorem Event.kind_ne_disposed (e : Event) : e.kind ≠ .disposed := by
  rcases e.kind_cases with h | ⟨_, h⟩ <;> simp [h]

@[elab_as_elim]
theorem Event.neutral_elim {P : Event → Prop} {e : Event} (h : e.neutral = true)
    (saturated : P (.tryReserve (.ok .saturated)))
    (sized : ∀ bytes, P (.tryReserveWithBytes bytes (.ok .saturated)))
    (retired : ∀ id, P (.retire id))
    (marked : ∀ point s r, (∀ stop, point ≠ .stop stop) → P (.reached point s r)) : P e := by
  cases e with
  | tryReserve answer =>
    match answer, h with
    | .ok .saturated, _ => exact saturated
  | tryReserveWithBytes bytes answer =>
    match answer, h with
    | .ok .saturated, _ => exact sized bytes
  | retire id => exact retired id
  | reached point s r => exact marked point s r (by rintro stop rfl; cases h)
  | _ => cases h

@[elab_as_elim]
theorem Event.releases_elim {P : Event → Prop} {e : Event} (h : e.releases = true)
    (plain : ∀ count answer, P (.releaseReserved count answer))
    (sized : ∀ count bytes answer, P (.releaseReservedWithBytes count bytes answer)) : P e := by
  cases e with
  | releaseReserved count answer => exact plain count answer
  | releaseReservedWithBytes count bytes answer => exact sized count bytes answer
  | _ => cases h

section Added

variable {P : Event → Prop} {e e' : Event} {h h' : List Event}

theorem adds_none (hh : h' = h) : ∃ added, h' = added ++ h ∧ ∀ e ∈ added, P e := ⟨[], hh, List.forall_mem_nil _⟩

theorem adds_one (he : P e) (hh : h' = e :: h) : ∃ added, h' = added ++ h ∧ ∀ e ∈ added, P e :=
  ⟨[e], hh, List.forall_mem_singleton.2 he⟩

theorem adds_two (he : P e) (he' : P e') (hh : h' = e :: e' :: h) : ∃ added, h' = added ++ h ∧ ∀ e ∈ added, P e :=
  ⟨[e, e'], hh, List.forall_mem_cons.2 ⟨he, List.forall_mem_singleton.2 he'⟩⟩

end Added

variable {κ : Kind} {c c' : Core}

/-- A step adds to the history, and of what it adds only the newest event may fail, with the error of the step. -/
theorem Step.events (h : Step κ c c') :
    ∃ added, c'.history = added ++ c.history ∧
      ∀ e ∈ added, e.kind ≠ .kept → κ = e.kind ∧ added.head? = some e := by
  have many : ∀ (e : Event) (rest h : List Event), (∀ m ∈ rest, m.kind = .kept) → (e.kind ≠ .kept → κ = e.kind) →
      ∃ added, e :: (rest ++ h) = added ++ h ∧ ∀ e ∈ added, e.kind ≠ .kept → κ = e.kind ∧
        added.head? = some e := by
    refine fun e rest h hrest he => ⟨e :: rest, rfl, fun e' he' hk => ?_⟩
    rcases List.mem_cons.1 he' with rfl | he'
    · exact ⟨he hk, rfl⟩
    · exact absurd (hrest e' he') hk
  have one := fun (e : Event) (h : List Event) => many e [] h (List.forall_mem_nil _)
  have two := fun (e m : Event) (h : List Event) (hm : m.kind = .kept) =>
    many e [m] h (List.forall_mem_singleton.2 hm)
  cases h with
  | called neutral =>
    refine one _ _ fun hk => absurd ?_ hk
    exact Event.neutral_elim neutral rfl (fun _ => rfl) (fun _ => rfl) fun _ _ _ _ => rfl
  | resolved kind => exact one _ _ fun hk => absurd kind hk
  | sent | stopInitiated | terminalized | admitted | opened | expired => exact one _ _ fun hk => absurd rfl hk
  | tallied | untallied | settled => exact two _ _ _ rfl fun hk => absurd rfl hk
  | released | commitRefused | lost => exact one _ _ fun _ => rfl
  | rejected rejects =>
    cases rejects with
    | unresolved kind => exact one _ _ fun _ => kind.symm
    | unreserved => exact one _ _ fun _ => rfl
  | settleRefused | aborted => exact two _ _ _ rfl fun _ => rfl
  | _ => exact ⟨[], rfl, fun _ h => by cases h⟩

theorem Step.history_subset (h : Step κ c c') : c.history ⊆ c'.history := by
  obtain ⟨added, hadded, -⟩ := h.events
  rw [hadded]
  exact List.subset_append_right ..

theorem Step.of_leaked (h : Step κ c c') (hκ : κ = .leaked) :
    ∃ s h wireId physical, s.physical.get? wireId = some physical ∧ c = ⟨s, h, none⟩ ∧
      c' = ⟨{ s with physical := s.physical.erase wireId }, h, none⟩ := by
  cases h with
  | released | aborted => exact absurd hκ (Event.kind_ne_leaked _)
  | leaked sent => exact ⟨_, _, _, _, sent, rfl, rfl⟩
  | _ => cases hκ

theorem Step.of_disposed (h : Step κ c c') (hκ : κ = .disposed) :
    ∃ s h, (∃ e ∈ h, e.releases = true) ∧ c = ⟨s, h, none⟩ ∧ c' = ⟨s.disposed, h, none⟩ := by
  cases h with
  | released | aborted => exact absurd hκ (Event.kind_ne_disposed _)
  | closed released => exact ⟨_, _, released, rfl, rfl⟩
  | _ => cases hκ

end NodeNet.Engine
