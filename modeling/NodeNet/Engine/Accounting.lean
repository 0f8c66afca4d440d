import NodeNet.Engine.Scripted

/-!
# Accounting

Where every logical id is, what the counters count, and that the checks of the bookkeeping never fail.
-/

namespace NodeNet.Engine

open OrdMap

variable {τ ρ σ : Type} [ProbeTransport τ] [ContextResolver ρ] [ResultSink σ] {w w' : Session τ ρ σ}

/-! ### Logical ids -/

/-- The ids that are still to come, queued, admitted or committed. -/
def ScanScheduler.ids (s : ScanScheduler) (history : List Event) : List Nat :=
  s.permutation.unissued s.cursor ++ s.deferred.map LogicalProbe.logicalId ++ s.active.keys ++ s.programmes.keys ++
    committed history

theorem Ledger.committed_nodup {c : Core} (h : Ledger c) : (committed c.history).Nodup := by
  rw [List.nodup_iff_count_le_one]
  intro id
  have hunique := h.unique id
  unfold Core.holders at hunique
  omega

theorem Ledger.ids_perm {c : Core} (h : Ledger c) (hhand : c.hand = none) (hu : Undisturbed c.history) :
    (c.scheduler.ids c.history).Perm (List.range c.scheduler.plan.logicalProbeCount) := by
  rw [List.perm_iff_count]
  intro id
  have hcomplete := h.complete hu id
  rw [List.nodup_range.count]
  simp only [Core.holders, hhand, Option.toList_none, List.map_nil, List.count_nil] at hcomplete
  simp only [ScanScheduler.ids, List.count_append, List.mem_range]
  omega

/-- Once a session has ended, nothing but the committed ids is left. -/
theorem Inv.ids_of_ended {c : Core} (hi : Inv c) (hended : c.scheduler.lifecycle.ended = true) :
    c.scheduler.ids c.history = committed c.history := by
  obtain ⟨hcursor, hdeferred, -⟩ := hi.disposal.drained (SessionLifecycle.not_live_of_ended hended)
    (SessionLifecycle.alive_of_ended hended)
  obtain ⟨hactive, hprogrammes⟩ := hi.disposal.rest hended
  rw [ScanScheduler.ids, hcursor, ← hi.setup.length, SeededPermutation.unissued_length, hdeferred,
    keys_of_size_eq_zero hactive, keys_of_size_eq_zero hprogrammes]
  rfl

/-- As long as nothing has disrupted the session, every logical id is still to come, queued, admitted or committed,
and only once; when the session is completed all of them are committed. -/
theorem logical_ids_partition (h : Reachable w) (hu : Undisturbed w.history) :
    (w.scheduler.ids w.history).Perm (List.range w.scheduler.plan.logicalProbeCount) ∧
      (committed w.history).Nodup ∧
      (w.scheduler.lifecycle = .completed →
        (committed w.history).Perm (List.range w.scheduler.plan.logicalProbeCount)) := by
  have hledger : Ledger (w.core none) := h.inv.ledger
  have hperm := hledger.ids_perm rfl hu
  refine ⟨hperm, hledger.committed_nodup, fun hc => ?_⟩
  have hids : w.scheduler.ids w.history = committed w.history :=
    h.inv.ids_of_ended (by rw [Session.core_scheduler, hc]; rfl)
  exact hids ▸ hperm

/-- A scan of two TCP ports of one host. -/
def twoPorts : ScanInputs :=
    { onePort with definitions := [ProbeDefinition.new .tcpSyn [⟨22, by decide⟩, webPort]] }

def twoPortsSession : ScriptedSession := twoPorts.session.get (by decide +kernel)

theorem twoPorts_initial : Initial twoPortsSession := ScanInputs.initial _

/-- The same scan after its probes timed out. -/
def twoPortsDone : ScriptedSession := twoPortsSession.after [.start 0, .drive 1, .drive 2000000, .drive 8000000]

theorem logical_ids_partition_twoPorts :
    twoPortsDone.scheduler.plan.logicalProbeCount = 2 ∧ twoPortsDone.scheduler.lifecycle = .completed ∧
      (committed twoPortsDone.history).Perm (List.range twoPortsDone.scheduler.plan.logicalProbeCount) := by
  have hcompleted : twoPortsDone.scheduler.lifecycle = .completed := by decide +kernel
  have hundisturbed : Undisturbed twoPortsDone.history := by decide +kernel
  have hreachable : Reachable twoPortsDone := twoPorts_initial.reachable_after _
  exact ⟨by decide +kernel, hcompleted, (logical_ids_partition hreachable hundisturbed).2.2 hcompleted⟩

/-- Whatever the plan is and whatever the collaborators answer: the queue of deferred candidates is within what one
drive may examine.  A drive that gets to its admission leaves it so, and the queue refuses no candidate. -/
theorem queue_never_full (h : Reachable w) (now : Nat) :
    w.scheduler.deferred.length ≤ maxTransitionsPerDrive ∧ maxTransitionsPerDrive < maxDeferredCandidates ∧
      ∀ w₁ w₂, prepare now w = .ok () w₁ → w₁.scheduler.lifecycle = .running → emitPending now w₁ = .ok () w₂ →
        Ends (admitCandidates now) w₂ (fun _ w₃ => w₃.scheduler.deferred.length ≤ maxTransitionsPerDrive)
          (fun fault w₃ => w₃.scheduler.deferred.length ≤ maxTransitionsPerDrive ∧
            fault ≠ .error .stateCapacityExceeded) := by
  refine ⟨h.inv.ledger.queue, by decide, fun w₁ w₂ hcaught hrunning hemitted => ?_⟩
  have hwalk : Roams (prepare now) w fun _ w' => w'.scheduler.lifecycle = .running → w'.Open := by
    refine Walks.bind h.inv observeNow_walks fun _ w1 hi1 _ => ?_
    refine Walks.bind hi1 pruneGrace_walks fun _ w2 hi2 _ => ?_
    rw [walks_freshReport]
    exact catchUp_walks hi2
  obtain ⟨-, hi₁, hopen₁⟩ := Ends.of_ok (hwalk.inv h.inv) hcaught
  have hemit : Roams (emitPending now) w₁ fun _ w' => w'.scheduler.lifecycle ≠ .closed ∧ w'.Open :=
    (emitPending_walks hi₁ (hopen₁ hrunning)).alive hi₁ (by simp [hrunning])
  obtain ⟨-, hi₂, halive₂, hopen₂⟩ := Ends.of_ok (hemit.inv hi₁) hemitted
  have hblames : Blames (admitCandidates now : Method τ ρ σ Unit) := by
    unfold admitCandidates
    exact Blames.bind (fun _ => trivial) fun s => admitLoop_blames _ _
  refine (Ends.and ((admitCandidates_walks hi₂ halive₂ hopen₂).inv hi₂) (hblames w₂)).mono ?_ ?_
  · exact fun _ w₃ hw₃ => hw₃.1.2.1.ledger.queue
  rintro fault w₃ ⟨hstops, hfull⟩
  have hi₃ : w₃.Inv := hstops.invariant hi₂ fun _ _ _ _ hi hs => hs.inv hi
  refine ⟨hi₃.ledger.queue, fun hfault => ?_⟩
  -- the queue would be full, and it is not even half full
  have hbound : w₃.scheduler.deferred.length ≤ maxTransitionsPerDrive := hi₃.ledger.queue
  rw [hfull hfault] at hbound
  exact absurd hbound (by decide)

/-- The two ports with one probe at a time for a host. -/
def crowdedPorts : ScanInputs := { twoPorts with config := { SchedulerConfig.sample with maxPerTarget := 1 } }

def crowdedPortsSession : ScriptedSession := crowdedPorts.session.get (by decide +kernel)

/-- While one probe is under way, the other one is put off. -/
def crowdedPortsWaiting : ScriptedSession := crowdedPortsSession.after [.start 0, .drive 1]

/-- The next drive gets to its admission with the same queue. -/
def crowdedPortsSent : ScriptedSession := endState (emitPending 2) (endState (prepare 2) crowdedPortsWaiting)

theorem queue_never_full_crowdedPorts : crowdedPortsWaiting.scheduler.deferred.length ≤ maxTransitionsPerDrive ∧
    ∃ w₂ : ScriptedSession, w₂ = crowdedPortsSent ∧ w₂.scheduler.deferred.length = 1 ∧
      Ends (admitCandidates 2) w₂ (fun _ w₃ => w₃.scheduler.deferred.length ≤ maxTransitionsPerDrive)
        (fun fault w₃ => w₃.scheduler.deferred.length ≤ maxTransitionsPerDrive ∧
          fault ≠ .error .stateCapacityExceeded) := by
  have hreachable : Reachable crowdedPortsWaiting := ScanInputs.reachable _ _
  obtain ⟨hbound, -, hadmission⟩ := queue_never_full hreachable 2
  have hprepared := eq_ok_endState (prepare 2) crowdedPortsWaiting (by decide +kernel)
  have hsent := eq_ok_endState (emitPending 2) (endState (prepare 2) crowdedPortsWaiting) (by decide +kernel)
  have hqueue : crowdedPortsSent.scheduler.deferred.length = 1 := by decide +kernel
  -- the session is a variable from here on, so that nothing evaluates its admission
  obtain ⟨w₂, hw₂⟩ : ∃ w₂, w₂ = crowdedPortsSent := ⟨_, rfl⟩
  rw [← crowdedPortsSent, ← hw₂] at hsent
  rw [← hw₂] at hqueue
  exact ⟨hbound, w₂, hw₂, hqueue, hadmission _ w₂ hprepared (by decide +kernel) hsent⟩

/-! ### Counters -/

def ScanScheduler.targetLoad (s : ScanScheduler) (target : ScanTarget) : Nat :=
  s.active.count (fun _ a => a.probe.target == target) +
    s.physical.count fun _ p => (s.programmes.get? p.logicalId).any fun l => l.probe.target == target

/-- The plain probes and the requests under way whose context has the prefix. -/
def ScanScheduler.prefixLoad (s : ScanScheduler) (key : PrefixKey) : Nat :=
  s.active.count (fun _ a => a.context.prefixKey == key) +
    s.physical.count fun _ p => (s.programmes.get? p.logicalId).any fun l => l.context.prefixKey == key

/-- Every counter is exact and every limit is kept. -/
structure ScanScheduler.Exact (s : ScanScheduler) : Prop where
  targets : ∀ t, tally s.perTarget t = s.targetLoad t
  prefixes : ∀ k, tally s.perPrefix k = s.prefixLoad k
  active : ∀ {id l}, s.programmes.get? id = some l → l.active = s.lanes id
  grace : ∀ {id l}, s.programmes.get? id = some l → l.grace = s.graceLanes id
  wire : ∀ {id p}, s.physical.get? id = some p → s.programmes.contains p.logicalId = true
  kept : ∀ {id g}, s.programmeGrace.get? id = some g → s.programmes.contains g.logicalId = true
  perTarget : ∀ t, tally s.perTarget t ≤ s.config.maxPerTarget
  perPrefix : ∀ k, tally s.perPrefix k ≤ s.config.maxPerPrefix
  outstanding : s.active.size + s.physical.size ≤ s.config.maxOutstanding
  work : s.active.size + s.programmes.size ≤ s.config.maxOutstanding
  correlation : s.active.size + s.physical.size + s.grace.size + s.programmeGrace.size ≤ s.config.maxGraceEntries

/-- Counters agree with what they count. -/
structure Agrees (s : ScanScheduler) : Prop where
  lanes : Lanes (· = ·) s
  targets : targetMeter.Balanced (· = ·) s
  prefixes : prefixMeter.Balanced (· = ·) s

theorem Step.agrees {κ : Kind} {c c' : Core} (h : Step κ c c') (hκ : κ ≠ .leaked) (hi : Inv c)
    (ha : Agrees c.scheduler) : Agrees c'.scheduler where
  lanes := h.lanes Comparison.eq hκ hi.lanes ha.lanes
  targets := h.balanced Comparison.eq hκ hi.lanes ha.targets
  prefixes := h.balanced Comparison.eq hκ hi.lanes ha.prefixes

private theorem Meter.load_eq {κ : Type} [LinearOrder κ] [DecidableEq κ] (m : Meter κ)
    (s : ScanScheduler) (k : κ) : m.load s k = s.active.count (fun _ a => m.key a.probe a.context == k) +
      s.physical.count fun _ p => (s.programmes.get? p.logicalId).any fun l => m.key l.probe l.context == k := by
  refine congrArg₂ (· + ·) (count_congr fun _ a _ => ?_) (count_congr fun _ p _ => ?_)
  · rw [Bool.eq_iff_iff]; simp
  unfold Meter.keyOf
  cases s.programmes.get? p.logicalId with
  | none => simp
  | some l => rw [Bool.eq_iff_iff]; simp

theorem Agrees.exact {s : ScanScheduler} (h : Agrees s) (hl : Limits s) : s.Exact where
  targets t := (h.targets t).symm.trans (targetMeter.load_eq s t)
  prefixes k := (h.prefixes k).symm.trans (prefixMeter.load_eq s k)
  active hl := (h.lanes.active hl).symm
  grace hl := (h.lanes.grace hl).symm
  wire hp := by
    obtain ⟨-, -, l, hl⟩ := h.lanes.wire hp
    simp [contains, hl]
  kept hg := by
    obtain ⟨-, l, hl⟩ := h.lanes.kept hg
    simp [contains, hl]
  perTarget := hl.target
  perPrefix := hl.prefixes
  outstanding := hl.outstanding
  work := hl.work
  correlation := hl.correlation

/-- Along operations that succeed no lane is lost. -/
theorem Agrees.perform {op : Op} (hi : w.Inv) (ha : Agrees w.scheduler) (hop : Succeeds op w) :
    Agrees (Engine.perform op w).scheduler := by
  rcases perform_cases op hi with ⟨-, hpath⟩ | ⟨fault, hm, -⟩
  · refine (hpath.invariant (I := fun c => Inv c ∧ Agrees c.scheduler) ⟨hi, ha⟩ ?_).2
    rintro κ c c' hκ ⟨hi, ha⟩ hs
    exact ⟨hs.inv hi, hs.agrees (by rintro rfl; cases hκ) hi ha⟩
  · simp only [Succeeds, hm] at hop

omit [ProbeTransport τ] [ContextResolver ρ] [ResultSink σ] in
theorem Initial.agrees (h : Initial w) : Agrees w.scheduler := by
  obtain ⟨plan, config, permutation, -, -, hscheduler⟩ := h.fresh
  rw [hscheduler]
  exact ⟨Lanes.empty rfl rfl rfl, fun _ => rfl, fun _ => rfl⟩

/-- In a run without errors every counter is exact, and so the limits are kept. -/
theorem counters_exact {w₀ : Session τ ρ σ} (h₀ : Initial w₀) (h : Run (fun w op => Succeeds op w) w₀ w) :
    w.scheduler.Exact := by
  have hagrees : w.Inv ∧ Agrees w.scheduler := by
    refine h.invariant (I := fun w => w.Inv ∧ Agrees w.scheduler) ⟨h₀.inv, h₀.agrees⟩ ?_
    rintro w op hop ⟨hi, ha⟩
    exact ⟨hi.perform op, ha.perform hi hop⟩
  exact hagrees.2.exact hagrees.1.limits

theorem counters_exact_twoPorts :
    Run (fun w op => Succeeds op w) twoPortsSession twoPortsDone ∧ twoPortsDone.scheduler.Exact := by
  have hrun : Run (fun w op => Succeeds op w) twoPortsSession twoPortsDone :=
    (Run.refl twoPortsSession).after (by decide +kernel)
  exact ⟨hrun, counters_exact twoPorts_initial hrun⟩

/-! ### Faults -/

/-- No operation ever finds its bookkeeping broken, and none panics. -/
theorem no_reservation_fault (h : Reachable w) (op : Op) {fault : Fault} (hm : op.method w = .error fault w') :
    fault ≠ .error .reservationInvariant ∧ ∀ message, fault ≠ .panic message := by
  rcases perform_cases op h.inv with ⟨hop, -⟩ | ⟨fault', hm', e, rfl, he, -⟩
  · simp only [Succeeds, hm] at hop
  rw [hm] at hm'
  cases hm'
  exact ⟨fun h => he (Fault.error.inj h), fun _ h => by cases h⟩

/-- A scan of two TCP ports and a UDP port of a host, the last of which the resolver fails to resolve at the second
attempt. -/
def mixedPorts : ScanInputs :=
  { twoPorts with
    definitions := twoPorts.definitions ++ oneProgramme
    resolver := ⟨[.ok (some none), .ok (some none), .ok none], .error ⟨7⟩⟩ }

def mixedPortsSession : ScriptedSession := mixedPorts.session.get (by decide +kernel)

/-- A plain probe and two requests of a programme are under way. -/
def mixedPortsWaiting : ScriptedSession := mixedPortsSession.after [.start 0, .drive 1, .contextRestored]

theorem no_reservation_fault_mixedPorts : mixedPortsWaiting.scheduler.active.size = 1 ∧
    mixedPortsWaiting.scheduler.programmes.size = 1 ∧ mixedPortsWaiting.scheduler.physical.size = 2 ∧
      ∃ fault w', (Op.drive 2).method mixedPortsWaiting = .error fault w' ∧ fault ≠ .error .reservationInvariant ∧
        ∀ message, fault ≠ .panic message := by
  have hreachable : Reachable mixedPortsWaiting := ScanInputs.reachable _ _
  have hfails : ¬ Succeeds (.drive 2) mixedPortsWaiting := by decide +kernel
  obtain ⟨fault, w', hm⟩ := exists_error_of_not_succeeds hfails
  exact ⟨by decide +kernel, by decide +kernel, by decide +kernel, fault, w', hm,
    no_reservation_fault hreachable (.drive 2) hm⟩

end NodeNet.Engine
